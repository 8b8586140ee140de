import Mathlib.Data.List.Basic
import RdmnetBroker.Logs.Rotation

/-! # Log files when operations fail

A call of `OpenLogFile` tries each copy at most once, so what goes wrong in it is a
choice for each operation. A copy that fails leaves anything in its target: the
macOS rotation truncates the target before it copies.
-/

namespace RdmnetBroker

open Library.Slots

set_option autoImplicit false

/-- What goes wrong in one call. A copy fails with an error and with what is in its
target then; a file that cannot be created is there, or not, and an existing one is kept. -/
structure Faults where
  copyFile : Path → Path → Option (ErrorCode × Option Bytes)
  createDirectory : Path → Option ErrorCode
  createFile : Path → Option Bool
  openFile : Path → Bool

def Faults.none : Faults := ⟨fun _ _ => .none, fun _ => .none, fun _ => .none, fun _ => false⟩

def Faults.disk (faults : Faults) (errorMessage : BitVec 32 → Bytes) (strerror : Bytes) :
    Disk LogDirectory :=
  { LogDirectory.disk errorMessage strerror with
    copyFile := fun source target d =>
      match faults.copyFile source target with
      | some (error, left) => (some error, { d with files := Function.update d.files target left })
      | .none => (LogDirectory.disk errorMessage strerror).copyFile source target d
    createDirectory := fun path d =>
      match faults.createDirectory path with
      | some error => (some error, d)
      | .none => (LogDirectory.disk errorMessage strerror).createDirectory path d
    createFile := fun path d =>
      match faults.createFile path with
      | some false => (false, d)
      | some true => (false, ((LogDirectory.disk errorMessage strerror).createFile path d).2)
      | .none => (LogDirectory.disk errorMessage strerror).createFile path d
    openFile := fun path d =>
      if faults.openFile path then (false, d)
      else (LogDirectory.disk errorMessage strerror).openFile path d }

theorem Faults.none_disk (errorMessage : BitVec 32 → Bytes) (strerror : Bytes) :
    Faults.none.disk errorMessage strerror = LogDirectory.disk errorMessage strerror := rfl

/-- The failure of the copy from the log `i` to the next. -/
def Faults.copyAt (faults : Faults) (log : Path) (i : Nat) : Option (ErrorCode × Option Bytes) :=
  faults.copyFile (logSlot log i) (logSlot log (i + 1))

/-- The first log that is missing, below the bound. -/
abbrev FirstMissing (log : Path) (files : Path → Option Bytes) (bound g : Nat) : Prop :=
  IsFirstFree (fun i => (files (logSlot log i)).isSome) bound g

/-- The files after a rotation that copies the logs below `g`, until a copy fails. -/
def rotated (faults : Faults) (log : Path) (g : Nat) (files : Path → Option Bytes) :
    Option ErrorCode × (Path → Option Bytes) :=
  shiftUntil (logSlot log) (faults.copyAt log) g files

section Copies

variable (faults : Faults) (errorMessage : BitVec 32 → Bytes) (strerror : Bytes) (log : Path)

theorem copyChain_faulty {g : Nat} (d : LogDirectory) (copies : List LogCopy)
    (hExists : ∀ i < g, (d.files (logSlot log i)).isSome) :
    ∃ copies', copyChain (faults.disk errorMessage strerror) log g ⟨d, copies⟩ =
      ((rotated faults log g d.files).1,
        ⟨{ d with files := (rotated faults log g d.files).2 }, copies'⟩) := by
  induction g generalizing d copies with
  | zero => exact ⟨copies, rfl⟩
  | succ g ih =>
    cases hFault : faults.copyAt log g with
    | some x =>
      have hCopy : faults.copyFile (logSlot log g) (logSlot log (g + 1)) = some x := hFault
      rw [rotated, shiftUntil_fault hFault]
      simp only [copyChain, Disk.copy, Faults.disk, hCopy]
      exact ⟨_, rfl⟩
    | none =>
      have hCopy : faults.copyFile (logSlot log g) (logSlot log (g + 1)) = .none := hFault
      obtain ⟨content, hContent⟩ := Option.isSome_iff_exists.mp (hExists g (Nat.lt_succ_self g))
      rw [rotated, shiftUntil_next hFault]
      simp only [copyChain, Disk.copy, Faults.disk, LogDirectory.disk, hCopy, hContent]
      refine ih _ _ fun i hi => ?_
      have hNe : logSlot log i ≠ logSlot log (g + 1) := fun h => by
        have := logSlot_injective log h
        omega
      change (Function.update d.files _ _ (logSlot log i)).isSome = true
      rw [Function.update_of_ne hNe]
      exact hExists i (Nat.lt_succ_of_lt hi)

theorem Windows.rotateLogs_faulty {bound g : Nat} (hBound : 1 ≤ bound) {d : LogDirectory}
    (hMissing : FirstMissing log d.files bound g) :
    ∃ copies, Windows.rotateLogs bound (faults.disk errorMessage strerror) log ⟨d, []⟩ =
      ((rotated faults log g d.files).1.elim 0 Subtype.val,
        ⟨{ d with files := (rotated faults log g d.files).2 }, copies⟩) := by
  obtain ⟨g', hFree, hRotate⟩ := Windows.rotateLogs_eq
    (faults.disk errorMessage strerror) log hBound ⟨d, []⟩
  cases hMissing.unique hFree
  obtain ⟨copies, hCopies⟩ := copyChain_faulty faults errorMessage strerror log d [] hMissing.below
  rw [hCopies] at hRotate
  exact ⟨copies, hRotate⟩

theorem Mac.rotateLogs_faulty {bound g : Nat} {d : LogDirectory}
    (hMissing : FirstMissing log d.files bound g) :
    ∃ copies, Mac.rotateLogs bound (faults.disk errorMessage strerror) log ⟨d, []⟩ =
      ((rotated faults log g d.files).1.isNone,
        ⟨{ d with files := (rotated faults log g d.files).2 }, copies⟩) := by
  obtain ⟨g', hFree, hRotate⟩ := Mac.rotateLogs_eq
    (faults.disk errorMessage strerror) log bound ⟨d, []⟩
  cases hMissing.unique hFree
  obtain ⟨copies, hCopies⟩ := copyChain_faulty faults errorMessage strerror log d [] hMissing.below
  rw [hCopies] at hRotate
  exact ⟨copies, hRotate⟩

end Copies

namespace Windows

variable (faults : Faults) (errorMessage : BitVec 32 → Bytes) (strerror : Bytes)

theorem createDirectories_files (path : Path) (dirs : List String) (d : LogDirectory) :
    (createDirectories (faults.disk errorMessage strerror) path dirs d).2.files = d.files := by
  induction dirs generalizing path d with
  | nil => rfl
  | cons dir dirs ih =>
    have hCreate : ((faults.disk errorMessage strerror).createDirectory (path ++ ("\\" ++ dir)) d).2.files =
        d.files := by
      simp only [Faults.disk, LogDirectory.disk]
      split
      · rfl
      · split <;> rfl
    rw [createDirectories]
    split
    · rename_i d' hResult
      rw [hResult] at hCreate
      rw [ih, hCreate]
    · rename_i error d' hResult
      rw [hResult] at hCreate
      split
      · rw [ih, hCreate]
      · exact hCreate

/-- No directory fails to be created, but for being there already. -/
def CanCreate : Path → List String → Prop
  | _, [] => True
  | path, dir :: dirs => (∀ error, faults.createDirectory (path ++ ("\\" ++ dir)) = some error →
      error = errorAlreadyExists) ∧ CanCreate (path ++ ("\\" ++ dir)) dirs

theorem createDirectories_eq_none_iff (path : Path) (dirs : List String) (d : LogDirectory) :
    (createDirectories (faults.disk errorMessage strerror) path dirs d).1 = none ↔
      CanCreate faults path dirs := by
  induction dirs generalizing path d with
  | nil => exact iff_of_true rfl trivial
  | cons dir dirs ih =>
    rw [createDirectories, CanCreate]
    cases hFault : faults.createDirectory (path ++ ("\\" ++ dir)) with
    | some error =>
      have hCreate : (faults.disk errorMessage strerror).createDirectory (path ++ ("\\" ++ dir)) d =
          (some error, d) := by
        simp only [Faults.disk, hFault]
      rw [hCreate]
      by_cases hError : error = errorAlreadyExists
      · simp only [if_pos hError]
        rw [ih, and_iff_right]
        intro error' hEq
        cases hEq
        exact hError
      · simp only [if_neg hError]
        exact iff_of_false (Option.some_ne_none error) fun h => hError (h.1 error rfl)
    | none =>
      have hCreate : (faults.disk errorMessage strerror).createDirectory (path ++ ("\\" ++ dir)) d =
          (LogDirectory.disk errorMessage strerror).createDirectory (path ++ ("\\" ++ dir)) d := by
        simp only [Faults.disk, hFault]
      rw [hCreate, and_iff_right (by intro error hEq; cases hEq)]
      by_cases hDir : d.directories (path ++ ("\\" ++ dir)) = true
      · simp only [LogDirectory.disk, if_pos hDir, if_true]
        exact ih _ _
      · simp only [LogDirectory.disk, if_neg hDir]
        exact ih _ _

theorem canCreate_of_none {faults : Faults} (h : ∀ path, faults.createDirectory path = none) (path : Path)
    (dirs : List String) : CanCreate faults path dirs := by
  induction dirs generalizing path with
  | nil => trivial
  | cons dir dirs ih =>
    refine ⟨fun error hError => ?_, ih _⟩
    rw [h] at hError
    cases hError

end Windows

/-- What a rotation that reports `ok` makes of the old files, when `g` is the first log that
is missing. The bound is that of the rotation. -/
structure LosesNothing (slot : Nat → Path) (bound g : Nat) (fault : Nat → Option (ErrorCode × Option Bytes))
    (ok : Prop) (old new : Path → Option Bytes) : Prop where
  failed : ∀ k x, FirstFault fault g k x → ¬ ok ∧ (∀ j ≤ k, new (slot j) = old (slot j)) ∧
    ∀ j, k < j → j < g → new (slot (j + 1)) = old (slot j)
  succeeded : (∀ k < g, fault k = none) → ok ∧ ∀ j < g, new (slot (j + 1)) = old (slot j)
  above : ∀ j, g < j → new (slot j) = old (slot j)
  kept : ∀ j < g, ∃ i ≤ g, new (slot i) = old (slot j)
  dropped : ∀ j, j ≠ bound → old (slot j) ≠ none → ∃ i, new (slot i) = old (slot j)
  beyond : ∀ j, bound < j → new (slot j) = old (slot j)

section Rotated

variable {faults : Faults} {log : Path} {g : Nat} {files : Path → Option Bytes}

theorem rotated_of_none (h : ∀ k < g, faults.copyAt log k = none) :
    rotated faults log g files = (none, shiftUp (logSlot log) g files) :=
  shiftUntil_of_none h

theorem rotated_of_fault (files : Path → Option Bytes) {k : Nat} {x : ErrorCode × Option Bytes}
    (h : FirstFault (faults.copyAt log) g k x) : (rotated faults log g files).1 = some x.1 ∧
      StoppedAt (logSlot log) g k x.2 files (rotated faults log g files).2 :=
  shiftUntil_stoppedAt (logSlot_injective log) h

theorem logSlot_ne {i j : Nat} (h : i ≠ j) : logSlot log i ≠ logSlot log j :=
  fun hEq => h (logSlot_injective log hEq)

/-- Every log is where it was, or at the next number. -/
theorem rotated_kept (faults : Faults) (files : Path → Option Bytes) {j : Nat} (hj : j < g) :
    (rotated faults log g files).2 (logSlot log j) = files (logSlot log j) ∨
      (rotated faults log g files).2 (logSlot log (j + 1)) = files (logSlot log j) := by
  rcases none_or_firstFault (faults.copyAt log) g with hNone | ⟨k, x, hFirst⟩
  · right
    rw [rotated_of_none hNone]
    exact shiftUp_succ (logSlot_injective log) hj
  · have hStopped := (rotated_of_fault files hFirst).2
    rcases Nat.lt_or_ge k j with hLow | hHigh
    · exact .inr (hStopped.moved j hLow hj)
    · left
      apply hStopped.other
      intro i hi _
      exact logSlot_ne (by omega)

theorem rotated_above {j : Nat} (hj : g < j) :
    (rotated faults log g files).2 (logSlot log j) = files (logSlot log j) := by
  apply shiftUntil_of_ne
  intro i hi
  exact logSlot_ne (by omega)

theorem rotated_losesNothing {bound : Nat} (hMissing : FirstMissing log files bound g) {ok : Prop}
    (hOk : ok ↔ (rotated faults log g files).1 = none) :
    LosesNothing (logSlot log) bound g (faults.copyAt log) ok files (rotated faults log g files).2 := by
  have hKept : ∀ j < g, ∃ i ≤ g, (rotated faults log g files).2 (logSlot log i) = files (logSlot log j) := by
    intro j hj
    rcases rotated_kept faults files hj with hSame | hNext
    · exact ⟨j, Nat.le_of_lt hj, hSame⟩
    · exact ⟨j + 1, hj, hNext⟩
  constructor
  · intro k x hFirst
    obtain ⟨hError, hStopped⟩ := rotated_of_fault files hFirst
    refine ⟨?_, fun j hj => ?_, hStopped.moved⟩
    · rw [hOk, hError]
      exact Option.some_ne_none _
    · apply hStopped.other
      intro i hi _
      exact logSlot_ne (by omega)
  · intro hNone
    rw [hOk, rotated_of_none hNone]
    exact ⟨rfl, fun j hj => shiftUp_succ (logSlot_injective log) hj⟩
  · exact fun j hj => rotated_above hj
  · exact hKept
  · intro j hBound hContent
    rcases Nat.lt_trichotomy j g with hLt | rfl | hGt
    · obtain ⟨i, -, hi⟩ := hKept j hLt
      exact ⟨i, hi⟩
    · have hFree := hMissing.free (Nat.lt_of_le_of_ne hMissing.le_bound hBound)
      exact absurd (Option.isSome_iff_ne_none.mpr hContent) hFree
    · exact ⟨j, rotated_above hGt⟩
  · intro j hj
    exact rotated_above (Nat.lt_of_le_of_lt hMissing.le_bound hj)

end Rotated

/-- At whichever copy a rotation stops, on either platform. -/
theorem rotation_loses_nothing (bound : Nat) (hBound : 1 ≤ bound) (faults : Faults)
    (errorMessage : BitVec 32 → Bytes) (strerror : Bytes) (log : Path) (d : LogDirectory) (g : Nat)
    (hMissing : FirstMissing log d.files bound g) :
    (LosesNothing (logSlot log) bound g (faults.copyAt log)
      ((Windows.rotateLogs bound (faults.disk errorMessage strerror) log ⟨d, []⟩).1 = 0) d.files
      (Windows.rotateLogs bound (faults.disk errorMessage strerror) log ⟨d, []⟩).2.disk.files) ∧
    LosesNothing (logSlot log) bound g (faults.copyAt log)
      ((Mac.rotateLogs bound (faults.disk errorMessage strerror) log ⟨d, []⟩).1 = true) d.files
      (Mac.rotateLogs bound (faults.disk errorMessage strerror) log ⟨d, []⟩).2.disk.files := by
  obtain ⟨_, hWindows⟩ := Windows.rotateLogs_faulty faults errorMessage strerror log hBound hMissing
  obtain ⟨_, hMac⟩ := Mac.rotateLogs_faulty faults errorMessage strerror log hMissing
  rw [hWindows, hMac]
  constructor
  · apply rotated_losesNothing hMissing
    cases (rotated faults log g d.files).1 with
    | none => exact iff_of_true rfl rfl
    | some error => exact iff_of_false error.property (Option.some_ne_none error)
  · exact rotated_losesNothing hMissing Option.isNone_iff_eq_none

/-- The log and its backups below `n`, each with its own path for its content. -/
def numberedLogs (log : Path) (n : Nat) : LogDirectory where
  files path := if path ∈ (List.range n).map (logSlot log) then some (bytes path) else none
  directories _ := true

theorem numberedLogs_files (log : Path) (n i : Nat) : (numberedLogs log n).files (logSlot log i) =
    if i < n then some (bytes (logSlot log i)) else none := by
  have hMem : logSlot log i ∈ (List.range n).map (logSlot log) ↔ i < n := by
    rw [List.mem_map_of_injective (logSlot_injective log), List.mem_range]
  simp only [numberedLogs, hMem]

theorem numberedLogs_firstMissing (log : Path) {n bound : Nat} (h : n ≤ bound) :
    FirstMissing log (numberedLogs log n).files bound n where
  le_bound := h
  below i hi := by
    rw [numberedLogs_files, if_pos hi]
    rfl
  free _ := by
    rw [numberedLogs_files, if_neg (Nat.lt_irrefl n)]
    exact Bool.false_ne_true

def errorDiskFull : ErrorCode := ⟨112, by decide⟩

/-- Only the copy of the log `k` fails, for want of space, and leaves no target. -/
def Faults.ofCopy (log : Path) (k : Nat) : Faults :=
  { Faults.none with
    copyFile := fun source _ => if source = logSlot log k then some (errorDiskFull, .none) else .none }

theorem Faults.ofCopy_copyAt (log : Path) (k j : Nat) : (Faults.ofCopy log k).copyAt log j =
    if j = k then some (errorDiskFull, .none) else .none := by
  have hSlot : logSlot log j = logSlot log k ↔ j = k := (logSlot_injective log).eq_iff
  simp only [Faults.ofCopy, Faults.copyAt, hSlot]

theorem Faults.ofCopy_firstFault (log : Path) {k g : Nat} (h : k < g) :
    FirstFault ((Faults.ofCopy log k).copyAt log) g k (errorDiskFull, .none) where
  lt := h
  fault_eq := by rw [Faults.ofCopy_copyAt, if_pos rfl]
  above j hj _ := by rw [Faults.ofCopy_copyAt, if_neg (Nat.ne_of_gt hj)]

/-- Of three logs, the second cannot be copied over the third. -/
theorem rotation_loses_nothing_disk_full :
    (Windows.rotateLogs 5 ((Faults.ofCopy "broker.log" 1).disk (fun _ => []) []) "broker.log"
      ⟨numberedLogs "broker.log" 3, []⟩).1 ≠ 0 ∧
    ∀ j < 3, ∃ i ≤ 3, (Windows.rotateLogs 5 ((Faults.ofCopy "broker.log" 1).disk (fun _ => []) [])
      "broker.log" ⟨numberedLogs "broker.log" 3, []⟩).2.disk.files (logSlot "broker.log" i) =
        (numberedLogs "broker.log" 3).files (logSlot "broker.log" j) := by
  have hRotation := (rotation_loses_nothing 5 (by decide) (Faults.ofCopy "broker.log" 1) (fun _ => []) []
    "broker.log" (numberedLogs "broker.log" 3) 3 (numberedLogs_firstMissing "broker.log" (by decide))).1
  exact ⟨(hRotation.failed 1 _ (Faults.ofCopy_firstFault "broker.log" (by decide))).1, hRotation.kept⟩

end RdmnetBroker
