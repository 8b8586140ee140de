import RdmnetBroker.Library.Runs
import RdmnetBroker.Logs.Faults

/-! # Opening the log after a rotation

`OpenLogFile` rotates the logs first and then opens the log for writing, whether or
not the rotation succeeded. A copy that fails leaves the latest log in its place, where
the opening truncates it; and an opening that fails leaves the logs rotated.
-/

namespace RdmnetBroker

open Library Library.Slots

set_option autoImplicit false

section Disk

variable (faults : Faults) (errorMessage : BitVec 32 → Bytes) (strerror : Bytes)

theorem write_files_of_ne {log path : Path} (h : path ≠ log) (content : Bytes) (d : LogDirectory) :
    ((faults.disk errorMessage strerror).write log content d).files path = d.files path :=
  Function.update_of_ne h _ _

theorem openFile_of_fault {log : Path} (h : faults.openFile log = true) (d : LogDirectory) :
    (faults.disk errorMessage strerror).openFile log d = (false, d) := by
  simp only [Faults.disk, h, if_true]

theorem openFile_of_none {log : Path} (h : faults.openFile log = false) (d : LogDirectory) :
    (faults.disk errorMessage strerror).openFile log d =
      (true, { d with files := Function.update d.files log (some []) }) := by
  simp only [Faults.disk, h, Bool.false_eq_true, if_false, LogDirectory.disk]

end Disk

namespace Windows

/-- The call gets as far as the rotation. -/
structure Rotates (faults : Faults) (os : OsInterface) : Prop where
  logFile_eq : os.logFile = false
  programDataPath_ne : os.programDataPath ≠ ""
  canCreate : CanCreate faults os.programDataPath kRelativeLogFilePath

variable {faults : Faults} {errorMessage : BitVec 32 → Bytes} {strerror : Bytes} {bound g : Nat}
  {version : Bytes} {time : LogTimestamp} {os : OsInterface} {d : LogDirectory}

theorem openLogFile_of_not_rotates (h : ¬ Rotates faults os) :
    (openLogFile bound (faults.disk errorMessage strerror) version time os d).1 = false ∧
    (openLogFile bound (faults.disk errorMessage strerror) version time os d).2.2.files = d.files := by
  unfold openLogFile
  split
  · exact ⟨rfl, rfl⟩
  · rename_i hLogFile
    split
    · exact ⟨rfl, rfl⟩
    · rename_i hPath
      have hFiles := createDirectories_files faults errorMessage strerror os.programDataPath
        kRelativeLogFilePath d
      split
      · rename_i error d' hCreate
        rw [hCreate] at hFiles
        exact ⟨rfl, hFiles⟩
      · rename_i d' hCreate
        refine absurd ⟨Bool.eq_false_iff.mpr hLogFile, hPath, ?_⟩ h
        rw [← createDirectories_eq_none_iff faults errorMessage strerror _ _ d, hCreate]

/-- The log is opened, and truncated, whatever the rotation reports. -/
theorem openLogFile_of_rotates (hBound : 1 ≤ bound) (h : Rotates faults os)
    (hMissing : FirstMissing os.logFilePath d.files bound g) :
    (openLogFile bound (faults.disk errorMessage strerror) version time os d).1 =
        !faults.openFile os.logFilePath ∧
    (faults.openFile os.logFilePath = true →
      (openLogFile bound (faults.disk errorMessage strerror) version time os d).2.2.files =
        (rotated faults os.logFilePath g d.files).2) ∧
    ∀ path ≠ os.logFilePath,
      (openLogFile bound (faults.disk errorMessage strerror) version time os d).2.2.files path =
        (rotated faults os.logFilePath g d.files).2 path := by
  have hFiles := createDirectories_files faults errorMessage strerror os.programDataPath
    kRelativeLogFilePath d
  have hCreated := (createDirectories_eq_none_iff faults errorMessage strerror os.programDataPath
    kRelativeLogFilePath d).mpr h.canCreate
  unfold openLogFile
  rw [if_neg (by rw [h.logFile_eq]; decide), if_neg h.programDataPath_ne]
  split
  · rename_i error d' hCreate
    rw [hCreate] at hCreated
    cases hCreated
  · rename_i d' hCreate
    rw [hCreate] at hFiles
    rw [← hFiles] at hMissing ⊢
    obtain ⟨copies, hRotate⟩ :=
      rotateLogs_faulty faults errorMessage strerror os.logFilePath hBound hMissing
    rw [hRotate]
    cases hOpen : faults.openFile os.logFilePath with
    | true =>
      simp only [openFile_of_fault faults errorMessage strerror hOpen]
      exact ⟨rfl, fun _ => trivial, fun _ _ => trivial⟩
    | false =>
      simp only [openFile_of_none faults errorMessage strerror hOpen]
      refine ⟨rfl, fun hFault => absurd hFault Bool.false_ne_true, fun path hPath => ?_⟩
      split
      · rw [write_files_of_ne faults errorMessage strerror hPath,
          write_files_of_ne faults errorMessage strerror hPath]
        exact Function.update_of_ne hPath _ _
      · rw [write_files_of_ne faults errorMessage strerror hPath]
        exact Function.update_of_ne hPath _ _

end Windows

namespace Mac

variable {faults : Faults} {errorMessage : BitVec 32 → Bytes} {strerror : Bytes} {bound g : Nat}
  {version : Bytes} {time : LogTimestamp} {d : LogDirectory}

/-- The log is created if it is not there; only that decides on success. -/
theorem openLogFile_faulty (hMissing : FirstMissing kLogFilePath d.files bound g) :
    (openLogFile bound (faults.disk errorMessage strerror) version time d).1 =
        (faults.createFile kLogFilePath).isNone ∧
    (∀ created, faults.createFile kLogFilePath = some created →
      (openLogFile bound (faults.disk errorMessage strerror) version time d).2.2.files =
        if created then
          Function.update (rotated faults kLogFilePath g d.files).2 kLogFilePath
            (some (((rotated faults kLogFilePath g d.files).2 kLogFilePath).getD []))
        else (rotated faults kLogFilePath g d.files).2) ∧
    ∀ path ≠ kLogFilePath,
      (openLogFile bound (faults.disk errorMessage strerror) version time d).2.2.files path =
        (rotated faults kLogFilePath g d.files).2 path := by
  obtain ⟨copies, hRotate⟩ := rotateLogs_faulty faults errorMessage strerror kLogFilePath hMissing
  unfold openLogFile
  rw [hRotate]
  cases hCreate : faults.createFile kLogFilePath with
  | some created =>
    cases created with
    | false =>
      simp only [Faults.disk, hCreate]
      refine ⟨rfl, ?_, fun _ _ => trivial⟩
      rintro created hCreated
      cases hCreated
      rfl
    | true =>
      simp only [Faults.disk, LogDirectory.disk, hCreate]
      refine ⟨rfl, ?_, fun path hPath => Function.update_of_ne hPath _ _⟩
      rintro created hCreated
      cases hCreated
      rfl
  | none =>
    have hCreated (d : LogDirectory) : (faults.disk errorMessage strerror).createFile kLogFilePath d =
        (true, ⟨Function.update d.files kLogFilePath (some ((d.files kLogFilePath).getD [])),
          d.directories⟩) := by
      simp only [Faults.disk, LogDirectory.disk, hCreate]
    simp only [hCreated]
    cases hOpen : faults.openFile kLogFilePath with
    | true =>
      simp only [openFile_of_fault faults errorMessage strerror hOpen]
      refine ⟨rfl, ?_, fun path hPath => Function.update_of_ne hPath _ _⟩
      intro created hFault
      cases hFault
    | false =>
      simp only [openFile_of_none faults errorMessage strerror hOpen]
      refine ⟨rfl, ?_, fun path hPath => ?_⟩
      · intro created hFault
        cases hFault
      split
      · rw [write_files_of_ne faults errorMessage strerror hPath]
        exact (Function.update_of_ne hPath _ _).trans (Function.update_of_ne hPath _ _)
      · rw [write_files_of_ne faults errorMessage strerror hPath,
          write_files_of_ne faults errorMessage strerror hPath]
        exact (Function.update_of_ne hPath _ _).trans (Function.update_of_ne hPath _ _)

end Mac

/-- The content of every log below `g` is in some backup. -/
def LogsSaved (slot : Nat → Path) (g : Nat) (old new : Path → Option Bytes) : Prop :=
  ∀ j < g, ∃ i, 1 ≤ i ∧ new (slot i) = old (slot j)

/-- No copy of a log below `g` fails; or the content of the latest log is also that of a
file which the rotation does not drop, or what the copy that fails leaves in its target. -/
def LatestSaved (slot : Nat → Path) (g : Nat) (fault : Nat → Option (ErrorCode × Option Bytes))
    (old : Path → Option Bytes) : Prop :=
  (∀ k < g, fault k = none) ∨ (∃ i, 1 ≤ i ∧ i ≠ g ∧ old (slot i) = old (slot 0)) ∨
    ∃ k x, FirstFault fault g k x ∧ x.2 = old (slot 0)

section Saved

variable {faults : Faults} {log : Path} {g : Nat} {files : Path → Option Bytes}

theorem rotated_backup_kept {j : Nat} (hj : 1 ≤ j) (hGap : j ≠ g) :
    ∃ i, 1 ≤ i ∧ (rotated faults log g files).2 (logSlot log i) = files (logSlot log j) := by
  rcases Nat.lt_or_ge j g with hLt | hGe
  · rcases rotated_kept faults files hLt with hSame | hNext
    · exact ⟨j, hj, hSame⟩
    · exact ⟨j + 1, Nat.le_add_left 1 j, hNext⟩
  · exact ⟨j, hj, rotated_above (by omega)⟩

/-- After a copy has failed, the latest log is in a backup by coincidence only. -/
theorem latestSaved_of_stopped {k i : Nat} {x : ErrorCode × Option Bytes}
    (hFirst : FirstFault (faults.copyAt log) g k x) (hi : 1 ≤ i)
    (hSaved : (rotated faults log g files).2 (logSlot log i) = files (logSlot log 0)) :
    LatestSaved (logSlot log) g (faults.copyAt log) files := by
  have hStopped := (rotated_of_fault files hFirst).2
  have hk := hFirst.lt
  rcases Nat.lt_trichotomy i (k + 1) with hLow | rfl | hHigh
  · have hSame : (rotated faults log g files).2 (logSlot log i) = files (logSlot log i) := by
      apply hStopped.other
      intro j hj _
      exact logSlot_ne (by omega)
    exact .inr (.inl ⟨i, hi, by omega, hSame.symm.trans hSaved⟩)
  · exact .inr (.inr ⟨k, x, hFirst, hStopped.target.symm.trans hSaved⟩)
  · rcases Nat.lt_or_ge g i with hAbove | hMoved
    · exact .inr (.inl ⟨i, hi, by omega, (rotated_above hAbove).symm.trans hSaved⟩)
    · obtain ⟨j, rfl⟩ := Nat.exists_eq_add_of_le' hi
      have hNext := hStopped.moved j (by omega) (by omega)
      exact .inr (.inl ⟨j, by omega, by omega, hNext.symm.trans hSaved⟩)

theorem rotated_saved_iff : LogsSaved (logSlot log) g files (rotated faults log g files).2 ↔
    LatestSaved (logSlot log) g (faults.copyAt log) files := by
  constructor
  · intro hSaved
    rcases none_or_firstFault (faults.copyAt log) g with hNone | ⟨k, x, hFirst⟩
    · exact .inl hNone
    · obtain ⟨i, hi, hLatest⟩ := hSaved 0 (Nat.lt_of_le_of_lt (Nat.zero_le k) hFirst.lt)
      exact latestSaved_of_stopped hFirst hi hLatest
  · intro hLatest j hj
    cases j with
    | succ j => exact rotated_backup_kept (by omega) (by omega)
    | zero =>
      rcases hLatest with hNone | ⟨i, hi, hGap, hSame⟩ | ⟨k, x, hFirst, hLeft⟩
      · refine ⟨1, Nat.le_refl 1, ?_⟩
        rw [rotated_of_none hNone]
        exact shiftUp_succ (logSlot_injective log) hj
      · rw [← hSame]
        exact rotated_backup_kept hi hGap
      · refine ⟨k + 1, by omega, ?_⟩
        rw [(rotated_of_fault files hFirst).2.target, hLeft]

theorem saved_congr {new new' : Path → Option Bytes} (h : ∀ path ≠ log, new path = new' path) :
    LogsSaved (logSlot log) g files new ↔ LogsSaved (logSlot log) g files new' := by
  have hSlot : ∀ i, 1 ≤ i → new (logSlot log i) = new' (logSlot log i) := by
    intro i hi
    apply h
    rw [← logSlot_zero log]
    exact logSlot_ne (by omega)
  constructor
  · intro hSaved j hj
    obtain ⟨i, hi, hNew⟩ := hSaved j hj
    exact ⟨i, hi, (hSlot i hi).symm.trans hNew⟩
  · intro hSaved j hj
    obtain ⟨i, hi, hNew⟩ := hSaved j hj
    exact ⟨i, hi, (hSlot i hi).trans hNew⟩

end Saved

section Opened

variable {faults : Faults} {errorMessage : BitVec 32 → Bytes} {strerror : Bytes} {bound g : Nat}
  {version : Bytes} {time : LogTimestamp} {d : LogDirectory}

theorem Windows.saved_iff {os : OsInterface} (hBound : 1 ≤ bound)
    (hOpened : (openLogFile bound (faults.disk errorMessage strerror) version time os d).1 = true)
    (hMissing : FirstMissing os.logFilePath d.files bound g) :
    LogsSaved (logSlot os.logFilePath) g d.files
        (openLogFile bound (faults.disk errorMessage strerror) version time os d).2.2.files ↔
      LatestSaved (logSlot os.logFilePath) g (faults.copyAt os.logFilePath) d.files := by
  by_cases hRotates : Rotates faults os
  · rw [saved_congr (openLogFile_of_rotates hBound hRotates hMissing).2.2, rotated_saved_iff]
  · rw [(openLogFile_of_not_rotates hRotates).1] at hOpened
    cases hOpened

theorem Mac.saved_iff (hMissing : FirstMissing kLogFilePath d.files bound g) :
    LogsSaved (logSlot kLogFilePath) g d.files
        (openLogFile bound (faults.disk errorMessage strerror) version time d).2.2.files ↔
      LatestSaved (logSlot kLogFilePath) g (faults.copyAt kLogFilePath) d.files := by
  rw [saved_congr (openLogFile_faulty hMissing).2.2, rotated_saved_iff]

end Opened

/-- A call that opens the log keeps the logs exactly when the rotation has saved the latest. -/
theorem opening_keeps_logs_iff (bound : Nat) (hBound : 1 ≤ bound) (faults : Faults)
    (errorMessage : BitVec 32 → Bytes) (strerror : Bytes) (version : Bytes) (time : LogTimestamp)
    (d : LogDirectory) :
    (∀ os g, FirstMissing os.logFilePath d.files bound g →
      (Windows.openLogFile bound (faults.disk errorMessage strerror) version time os d).1 = true →
      (LogsSaved (logSlot os.logFilePath) g d.files
          (Windows.openLogFile bound (faults.disk errorMessage strerror) version time os d).2.2.files ↔
        LatestSaved (logSlot os.logFilePath) g (faults.copyAt os.logFilePath) d.files)) ∧
    ∀ g, FirstMissing Mac.kLogFilePath d.files bound g →
      (Mac.openLogFile bound (faults.disk errorMessage strerror) version time d).1 = true →
      (LogsSaved (logSlot Mac.kLogFilePath) g d.files
          (Mac.openLogFile bound (faults.disk errorMessage strerror) version time d).2.2.files ↔
        LatestSaved (logSlot Mac.kLogFilePath) g (faults.copyAt Mac.kLogFilePath) d.files) :=
  ⟨fun _ _ hMissing hOpened => Windows.saved_iff hBound hOpened hMissing,
    fun _ hMissing _ => Mac.saved_iff hMissing⟩

def kMaxLogRotationFiles : Nat := 5

theorem one_le_kMaxLogRotationFiles : 1 ≤ kMaxLogRotationFiles := by decide

def sampleTime : LogTimestamp := ⟨2023, 4, 1, 12, 30, 0⟩

/-- A first call in a new process. -/
def Windows.sampleOpen (faults : Faults) (d : LogDirectory) : Bool × OsInterface × LogDirectory :=
  openLogFile kMaxLogRotationFiles (faults.disk (fun _ => []) []) (bytes "2.0.0") sampleTime
    (osInterface (some "C:\\ProgramData")) d

def Windows.sampleLog : Path := logFilePath "C:\\ProgramData"

def Mac.sampleOpen (faults : Faults) (d : LogDirectory) : Bool × Bool × LogDirectory :=
  openLogFile kMaxLogRotationFiles (faults.disk (fun _ => []) []) (bytes "2.0.0") sampleTime d

theorem Windows.rotates_of_none {faults : Faults} (h : ∀ path, faults.createDirectory path = none)
    {programDataPath : Path} (hPath : programDataPath ≠ "") :
    Rotates faults (osInterface (some programDataPath)) :=
  ⟨rfl, hPath, canCreate_of_none h _ _⟩

theorem Windows.sampleOpen_opened {faults : Faults} (hDirectory : ∀ path, faults.createDirectory path = none)
    (hOpen : ∀ path, faults.openFile path = false) {d : LogDirectory} {g : Nat}
    (hMissing : FirstMissing sampleLog d.files kMaxLogRotationFiles g) :
    (sampleOpen faults d).1 = true := by
  have hRotates := rotates_of_none hDirectory (show "C:\\ProgramData" ≠ "" by decide)
  rw [sampleOpen, (openLogFile_of_rotates one_le_kMaxLogRotationFiles hRotates hMissing).1, hOpen]
  rfl

theorem opening_keeps_logs_two : (Windows.sampleOpen .none (numberedLogs Windows.sampleLog 2)).1 = true ∧
    LogsSaved (logSlot Windows.sampleLog) 2 (numberedLogs Windows.sampleLog 2).files
      (Windows.sampleOpen .none (numberedLogs Windows.sampleLog 2)).2.2.files := by
  have hMissing : FirstMissing Windows.sampleLog (numberedLogs Windows.sampleLog 2).files
      kMaxLogRotationFiles 2 := numberedLogs_firstMissing _ (by decide)
  have hOpened : (Windows.sampleOpen .none (numberedLogs Windows.sampleLog 2)).1 = true :=
    Windows.sampleOpen_opened (fun _ => rfl) (fun _ => rfl) hMissing
  have hKeeps := (opening_keeps_logs_iff kMaxLogRotationFiles one_le_kMaxLogRotationFiles .none (fun _ => [])
    [] (bytes "2.0.0") sampleTime (numberedLogs Windows.sampleLog 2)).1
      (Windows.osInterface (some "C:\\ProgramData")) 2 hMissing hOpened
  exact ⟨hOpened, hKeeps.mpr (.inl fun _ _ => rfl)⟩

theorem not_latestSaved_ofCopy (log : Path) : ¬ LatestSaved (logSlot log) 1
    ((Faults.ofCopy log 0).copyAt log) (numberedLogs log 1).files := by
  have hLog : (numberedLogs log 1).files (logSlot log 0) = some (bytes log) := by
    rw [numberedLogs_files, if_pos Nat.zero_lt_one, logSlot_zero]
  rintro (hNone | ⟨i, hi, -, hSame⟩ | ⟨k, x, hFirst, hLeft⟩)
  · have hFault := hNone 0 Nat.zero_lt_one
    rw [Faults.ofCopy_copyAt, if_pos rfl] at hFault
    cases hFault
  · rw [hLog, numberedLogs_files, if_neg (by omega)] at hSame
    cases hSame
  · have hFault := hFirst.fault_eq
    rw [Nat.lt_one_iff.mp hFirst.lt, Faults.ofCopy_copyAt, if_pos rfl] at hFault
    cases hFault
    rw [hLog] at hLeft
    cases hLeft

/-- There is one log, and no space for its backup: it is opened, and its content is gone. -/
theorem opening_loses_latest :
    ((Windows.sampleOpen (.ofCopy Windows.sampleLog 0) (numberedLogs Windows.sampleLog 1)).1 = true ∧
      ¬ LogsSaved (logSlot Windows.sampleLog) 1 (numberedLogs Windows.sampleLog 1).files
        (Windows.sampleOpen (.ofCopy Windows.sampleLog 0) (numberedLogs Windows.sampleLog 1)).2.2.files) ∧
    (Mac.sampleOpen (.ofCopy Mac.kLogFilePath 0) (numberedLogs Mac.kLogFilePath 1)).1 = true ∧
      ¬ LogsSaved (logSlot Mac.kLogFilePath) 1 (numberedLogs Mac.kLogFilePath 1).files
        (Mac.sampleOpen (.ofCopy Mac.kLogFilePath 0) (numberedLogs Mac.kLogFilePath 1)).2.2.files := by
  have hWindows : FirstMissing Windows.sampleLog (numberedLogs Windows.sampleLog 1).files
      kMaxLogRotationFiles 1 := numberedLogs_firstMissing _ (by decide)
  have hMac : FirstMissing Mac.kLogFilePath (numberedLogs Mac.kLogFilePath 1).files
      kMaxLogRotationFiles 1 := numberedLogs_firstMissing _ (by decide)
  have hOpened : (Windows.sampleOpen (.ofCopy Windows.sampleLog 0)
      (numberedLogs Windows.sampleLog 1)).1 = true :=
    Windows.sampleOpen_opened (fun _ => rfl) (fun _ => rfl) hWindows
  refine ⟨⟨hOpened, fun hSaved => ?_⟩, (Mac.openLogFile_faulty hMac).1, fun hSaved => ?_⟩
  · apply not_latestSaved_ofCopy
    exact (Windows.saved_iff one_le_kMaxLogRotationFiles hOpened hWindows).mp hSaved
  · apply not_latestSaved_ofCopy
    exact (Mac.saved_iff hMac).mp hSaved

section Failed

variable {faults : Faults} {log : Path} {g : Nat} {files : Path → Option Bytes}

theorem rotated_log : (rotated faults log g files).2 log = files log := by
  apply shiftUntil_of_ne
  intro i _
  rw [← logSlot_zero log]
  exact logSlot_ne (by omega)

/-- Whatever else is done to the log itself, the backups tell whether it was rotated. -/
theorem rotated_eq_self_of_ne (h : ∀ path ≠ log, (rotated faults log g files).2 path = files path) :
    (rotated faults log g files).2 = files := by
  funext path
  by_cases hPath : path = log
  · rw [hPath, rotated_log]
  · exact h path hPath

end Failed

/-- The copies of the rotation, as far as they are made, leave the logs as they were. -/
def RotationKeeps (bound : Nat) (log : Path) (faults : Faults) (files : Path → Option Bytes) : Prop :=
  ∀ g, FirstMissing log files bound g → CopiesKeep (logSlot log) (faults.copyAt log) g files

theorem rotationKeeps_iff {bound g : Nat} {log : Path} {faults : Faults} {files : Path → Option Bytes}
    (hMissing : FirstMissing log files bound g) :
    RotationKeeps bound log faults files ↔ (rotated faults log g files).2 = files := by
  rw [rotated, shiftUntil_eq_self_iff (logSlot_injective log)]
  constructor
  · intro hKeeps
    exact hKeeps g hMissing
  · intro hKeep g' hMissing'
    rw [hMissing'.unique hMissing]
    exact hKeep

namespace Windows

/-- A call of `OpenLogFile`, on the interface of any process. -/
structure Opening where
  faults : Faults
  version : Bytes
  time : LogTimestamp
  os : OsInterface

def Opening.run (bound : Nat) (errorMessage : BitVec 32 → Bytes) (strerror : Bytes) (o : Opening)
    (d : LogDirectory) : Bool × OsInterface × LogDirectory :=
  openLogFile bound (o.faults.disk errorMessage strerror) o.version o.time o.os d

/-- Calls of `OpenLogFile` that all fail. -/
def failedOpenings (bound : Nat) (errorMessage : BitVec 32 → Bytes) (strerror : Bytes)
    (d₀ : LogDirectory) : System LogDirectory Opening where
  initial d := d = d₀
  next d o d' := (o.run bound errorMessage strerror d).1 = false ∧
    (o.run bound errorMessage strerror d).2.2 = d'

/-- The call does not get as far as the rotation, or that leaves the logs as they were. -/
def LeavesLogs (bound : Nat) (d : LogDirectory) (o : Opening) : Prop :=
  Rotates o.faults o.os → RotationKeeps bound o.os.logFilePath o.faults d.files

variable {bound : Nat} {errorMessage : BitVec 32 → Bytes} {strerror : Bytes} {d₀ d d' : LogDirectory}
  {o : Opening}

theorem failed_files_iff (hBound : 1 ≤ bound)
    (h : (failedOpenings bound errorMessage strerror d₀).next d o d') :
    d'.files = d.files ↔ LeavesLogs bound d o := by
  obtain ⟨hFailed, rfl⟩ := h
  rw [Opening.run] at hFailed ⊢
  by_cases hRotates : Rotates o.faults o.os
  · obtain ⟨g, hMissing⟩ := exists_isFirstFree (fun i => (d.files (logSlot o.os.logFilePath i)).isSome) bound
    rw [(openLogFile_of_rotates hBound hRotates hMissing).1, Bool.not_eq_false'] at hFailed
    rw [(openLogFile_of_rotates hBound hRotates hMissing).2.1 hFailed, ← rotationKeeps_iff hMissing]
    exact ⟨fun hKeeps _ => hKeeps, fun hLeaves => hLeaves hRotates⟩
  · rw [(openLogFile_of_not_rotates hRotates).2]
    exact iff_of_true rfl fun hRotates' => absurd hRotates' hRotates

end Windows

namespace Mac

/-- A call of `OpenLogFile` on a new interface. -/
structure Opening where
  faults : Faults
  version : Bytes
  time : LogTimestamp

def Opening.run (bound : Nat) (errorMessage : BitVec 32 → Bytes) (strerror : Bytes) (o : Opening)
    (d : LogDirectory) : Bool × Bool × LogDirectory :=
  openLogFile bound (o.faults.disk errorMessage strerror) o.version o.time d

def failedOpenings (bound : Nat) (errorMessage : BitVec 32 → Bytes) (strerror : Bytes)
    (d₀ : LogDirectory) : System LogDirectory Opening where
  initial d := d = d₀
  next d o d' := (o.run bound errorMessage strerror d).1 = false ∧
    (o.run bound errorMessage strerror d).2.2 = d'

/-- The rotation leaves the logs as they were, and no log is left by a creation that fails. -/
def LeavesLogs (bound : Nat) (d : LogDirectory) (o : Opening) : Prop :=
  RotationKeeps bound kLogFilePath o.faults d.files ∧
    (o.faults.createFile kLogFilePath = some true → d.files kLogFilePath ≠ none)

variable {bound : Nat} {errorMessage : BitVec 32 → Bytes} {strerror : Bytes} {d₀ d d' : LogDirectory}
  {o : Opening}

theorem failed_files_iff (h : (failedOpenings bound errorMessage strerror d₀).next d o d') :
    d'.files = d.files ↔ LeavesLogs bound d o := by
  obtain ⟨hFailed, rfl⟩ := h
  rw [Opening.run] at hFailed ⊢
  obtain ⟨g, hMissing⟩ := exists_isFirstFree (fun i => (d.files (logSlot kLogFilePath i)).isSome) bound
  rw [(openLogFile_faulty hMissing).1] at hFailed
  obtain ⟨created, hCreate⟩ : ∃ created, o.faults.createFile kLogFilePath = some created := by
    cases hFault : o.faults.createFile kLogFilePath with
    | some created => exact ⟨created, rfl⟩
    | none =>
      rw [hFault] at hFailed
      cases hFailed
  rw [(openLogFile_faulty hMissing).2.1 created hCreate, LeavesLogs, rotationKeeps_iff hMissing, hCreate]
  cases created with
  | false =>
    rw [if_neg Bool.false_ne_true, and_iff_left]
    intro h
    cases h
  | true =>
    rw [if_pos rfl, rotated_log]
    constructor
    · intro hSame
      refine ⟨rotated_eq_self_of_ne fun path hPath => ?_, fun _ => ?_⟩
      · have hFile := congrFun hSame path
        rw [Function.update_of_ne hPath] at hFile
        exact hFile
      · have hLog := congrFun hSame kLogFilePath
        rw [Function.update_self] at hLog
        rw [← hLog]
        exact Option.some_ne_none _
    · rintro ⟨hSame, hLog⟩
      obtain ⟨content, hContent⟩ := Option.ne_none_iff_exists'.mp (hLog rfl)
      rw [hSame, hContent, Option.getD_some, ← hContent, Function.update_eq_self]

end Mac

/-- Calls that fail keep the logs as long as each of them leaves the logs alone, and the
next keeps them exactly if it does. -/
theorem failed_openings_keep_logs (bound : Nat) (hBound : 1 ≤ bound) (errorMessage : BitVec 32 → Bytes)
    (strerror : Bytes) (d₀ : LogDirectory) :
    (∀ openings d, ((Windows.failedOpenings bound errorMessage strerror d₀).guard
        (Windows.LeavesLogs bound)).Run openings d → d.files = d₀.files ∧
      ∀ o d', (Windows.failedOpenings bound errorMessage strerror d₀).next d o d' →
        (d'.files = d₀.files ↔ Windows.LeavesLogs bound d o)) ∧
    ∀ openings d, ((Mac.failedOpenings bound errorMessage strerror d₀).guard
        (Mac.LeavesLogs bound)).Run openings d → d.files = d₀.files ∧
      ∀ o d', (Mac.failedOpenings bound errorMessage strerror d₀).next d o d' →
        (d'.files = d₀.files ↔ Mac.LeavesLogs bound d o) := by
  constructor
  · intro openings d hRun
    exact hRun.guard_eq_iff LogDirectory.files (fun d hInitial => by rw [hInitial])
      fun d o d' hNext => Windows.failed_files_iff hBound hNext
  · intro openings d hRun
    exact hRun.guard_eq_iff LogDirectory.files (fun d hInitial => by rw [hInitial])
      fun d o d' hNext => Mac.failed_files_iff hNext

theorem rotationKeeps_ofCopy (log : Path) {n bound : Nat} (h : n + 1 ≤ bound) {faults : Faults}
    (hCopy : faults.copyFile = (Faults.ofCopy log n).copyFile) :
    RotationKeeps bound log faults (numberedLogs log (n + 1)).files := by
  have hCopyAt : faults.copyAt log = (Faults.ofCopy log n).copyAt log := by
    funext k
    rw [Faults.copyAt, hCopy]
    rfl
  intro g hMissing j hj hAbove
  rw [hMissing.unique (numberedLogs_firstMissing log h)] at hj hAbove
  have hLast : j = n := by
    rcases Nat.lt_or_eq_of_le (Nat.le_of_lt_succ hj) with hLt | hEq
    · have hFault := hAbove n hLt (Nat.lt_succ_self n)
      rw [hCopyAt, Faults.ofCopy_copyAt, if_pos rfl] at hFault
      cases hFault
    · exact hEq
  rw [hLast, hCopyAt, Faults.ofCopy_copyAt, if_pos rfl, numberedLogs_files, if_neg (Nat.lt_irrefl _)]
  rfl

section Instances

variable (errorMessage : BitVec 32 → Bytes) (strerror : Bytes) {bound : Nat} {d₀ d : LogDirectory}
  {o : Windows.Opening}

theorem Windows.Opening.run_failed (hBound : 1 ≤ bound) (hRotates : Rotates o.faults o.os)
    (hOpen : o.faults.openFile o.os.logFilePath = true) :
    (o.run bound errorMessage strerror d).1 = false := by
  obtain ⟨g, hMissing⟩ := exists_isFirstFree (fun i => (d.files (logSlot o.os.logFilePath i)).isSome) bound
  rw [Opening.run, (openLogFile_of_rotates hBound hRotates hMissing).1, hOpen]
  rfl

/-- When all logs are there and every copy succeeds, each call that fails drops the highest. -/
theorem Windows.failedOpenings_push (hBound : 1 ≤ bound) (hRotates : Rotates o.faults o.os)
    (hOpen : o.faults.openFile o.os.logFilePath = true)
    (hCopies : ∀ k, o.faults.copyAt o.os.logFilePath k = none)
    (hFull : ∀ i ≤ bound, (d₀.files (logSlot o.os.logFilePath i)).isSome) (n : Nat) :
    ∃ d, (failedOpenings bound errorMessage strerror d₀).Run (List.replicate n o) d ∧
      ∀ i ≤ bound, d.files (logSlot o.os.logFilePath i) = d₀.files (logSlot o.os.logFilePath (i - n)) := by
  induction n with
  | zero => exact ⟨d₀, .start rfl, fun _ _ => rfl⟩
  | succ n ih =>
    obtain ⟨d, hRun, hSlots⟩ := ih
    have hMissing : FirstMissing o.os.logFilePath d.files bound bound := by
      refine ⟨Nat.le_refl bound, fun i hi => ?_, fun h => absurd h (Nat.lt_irrefl bound)⟩
      rw [hSlots i (Nat.le_of_lt hi)]
      exact hFull _ (by omega)
    have hFiles : (o.run bound errorMessage strerror d).2.2.files =
        shiftUp (logSlot o.os.logFilePath) bound d.files := by
      rw [Opening.run, (openLogFile_of_rotates hBound hRotates hMissing).2.1 hOpen,
        rotated_of_none fun k _ => hCopies k]
    refine ⟨_, .step hRun ⟨Opening.run_failed _ _ hBound hRotates hOpen, rfl⟩, fun i hi => ?_⟩
    rw [hFiles]
    cases i with
    | zero =>
      rw [shiftUp_of_ne fun i _ => logSlot_ne (by omega), hSlots 0 hi, Nat.zero_sub, Nat.zero_sub]
    | succ i =>
      rw [shiftUp_succ (logSlot_injective _) hi, hSlots i (Nat.le_of_lt hi), Nat.add_sub_add_right]

end Instances

/-- Another instance has the log open, so that it cannot be opened for writing. -/
def Windows.secondInstance (faults : Faults) : Windows.Opening :=
  ⟨{ faults with openFile := fun _ => true }, bytes "2.0.0", sampleTime,
    osInterface (some "C:\\ProgramData")⟩

theorem Windows.secondInstance_rotates (faults : Faults) (h : ∀ path, faults.createDirectory path = none) :
    Rotates (secondInstance faults).faults (secondInstance faults).os := by
  apply rotates_of_none
  · exact h
  · decide

/-- The highest of three logs cannot be copied, and the rotation stops there. -/
theorem failed_openings_keep_logs_three : ∃ d,
    ((Windows.failedOpenings kMaxLogRotationFiles (fun _ => []) [] (numberedLogs Windows.sampleLog 3)).guard
      (Windows.LeavesLogs kMaxLogRotationFiles)).Run
        [Windows.secondInstance (.ofCopy Windows.sampleLog 2)] d ∧
    d.files = (numberedLogs Windows.sampleLog 3).files := by
  have hRotates := Windows.secondInstance_rotates (.ofCopy Windows.sampleLog 2) fun _ => rfl
  have hLeaves : Windows.LeavesLogs kMaxLogRotationFiles (numberedLogs Windows.sampleLog 3)
      (Windows.secondInstance (.ofCopy Windows.sampleLog 2)) :=
    fun _ => rotationKeeps_ofCopy Windows.sampleLog (by decide) rfl
  have hRun := System.Run.step (S := (Windows.failedOpenings kMaxLogRotationFiles (fun _ => []) []
      (numberedLogs Windows.sampleLog 3)).guard (Windows.LeavesLogs kMaxLogRotationFiles)) (.start rfl)
    ⟨hLeaves, Windows.Opening.run_failed _ _ one_le_kMaxLogRotationFiles hRotates rfl, rfl⟩
  exact ⟨_, hRun, ((failed_openings_keep_logs kMaxLogRotationFiles one_le_kMaxLogRotationFiles (fun _ => [])
    [] (numberedLogs Windows.sampleLog 3)).1 _ _ hRun).1⟩

/-- Five calls beside a running service, with all backups there: of the six logs only the
latest is left, in six copies. -/
theorem failed_openings_lose_logs : ∃ d,
    (Windows.failedOpenings kMaxLogRotationFiles (fun _ => []) [] (numberedLogs Windows.sampleLog 6)).Run
      (List.replicate 5 (Windows.secondInstance .none)) d ∧
    (∀ i ≤ 5, d.files (logSlot Windows.sampleLog i) = some (bytes Windows.sampleLog)) ∧
    d.files ≠ (numberedLogs Windows.sampleLog 6).files := by
  have hRotates := Windows.secondInstance_rotates .none fun _ => rfl
  have hFull : ∀ i ≤ kMaxLogRotationFiles,
      ((numberedLogs Windows.sampleLog 6).files (logSlot Windows.sampleLog i)).isSome := by
    intro i hi
    have hLt : i < 6 := Nat.lt_succ_of_le hi
    rw [numberedLogs_files, if_pos hLt]
    rfl
  obtain ⟨d, hRun, hSlots⟩ := Windows.failedOpenings_push (fun _ => []) [] one_le_kMaxLogRotationFiles
    hRotates rfl (fun _ => rfl) hFull 5
  have hLatest : ∀ i ≤ 5, d.files (logSlot Windows.sampleLog i) = some (bytes Windows.sampleLog) := by
    intro i hi
    refine (hSlots i hi).trans ?_
    rw [Nat.sub_eq_zero_of_le hi, logSlot_zero]
    rfl
  refine ⟨d, hRun, hLatest, fun hSame => ?_⟩
  have hHighest := hLatest 5 (Nat.le_refl 5)
  rw [hSame, numberedLogs_files, if_pos (by decide)] at hHighest
  revert hHighest
  decide

end RdmnetBroker
