import RdmnetBroker.Library.Slots
import RdmnetBroker.Logs.Model

/-! # What a rotation copies

Both implementations count the log and its backups up to the first that is
missing, and copy each of these to the next number, the highest first, until a
copy fails.
-/

namespace RdmnetBroker

open Library.Slots

set_option autoImplicit false

universe u

variable {σ : Type u}

/-- The log itself, then its backups. -/
def logSlot (log : Path) (i : Nat) : Path := Mac.logBackupFilePath log i

theorem logSlot_zero (log : Path) : logSlot log 0 = log := rfl

theorem logSlot_succ (log : Path) (i : Nat) :
    logSlot log (i + 1) = Windows.logBackupFileName log (i + 1) := by
  have hNumber : ((i + 1 : Nat) : Int) ≠ 0 := by omega
  rw [logSlot, Mac.logBackupFilePath, if_neg hNumber]
  rfl

theorem repr_injective : Function.Injective Nat.repr := by
  intro i j h
  have hDigits : Nat.toDigits 10 i = Nat.toDigits 10 j := by
    rw [← Nat.toList_repr, ← Nat.toList_repr, h]
  rw [← @Nat.ofDigitChars_ten_toDigits i, hDigits, Nat.ofDigitChars_ten_toDigits]

theorem logSlot_eq_append (log : Path) (i : Nat) :
    logSlot log (i + 1) = log ++ ("." ++ Nat.repr (i + 1)) := by
  rw [logSlot_succ, ← String.append_assoc]
  rfl

theorem logSlot_injective (log : Path) : Function.Injective (logSlot log) := by
  have hLog (i : Nat) : logSlot log (i + 1) ≠ log := by
    intro h
    have hLength := congrArg String.length h
    rw [logSlot_eq_append, String.length_append, String.length_append] at hLength
    have hDot : ".".length = 1 := rfl
    omega
  intro i j h
  cases i with
  | zero =>
    cases j with
    | zero => rfl
    | succ j => exact absurd h.symm (hLog j)
  | succ i =>
    cases j with
    | zero => exact absurd h (hLog i)
    | succ j =>
      rw [logSlot_eq_append, logSlot_eq_append, String.append_right_inj, String.append_right_inj] at h
      exact repr_injective h

def copyChain (D : Disk σ) (log : Path) : Nat → Rotating σ → Option ErrorCode × Rotating σ
  | 0, s => (none, s)
  | m + 1, s =>
    match D.copy (logSlot log m) (logSlot log (m + 1)) s with
    | (some error, s) => (some error, s)
    | (none, s) => copyChain D log m s

theorem probe_isFirstFree (occupied : Nat → Prop) (fileExists : Int → Bool) {bound r : Nat}
    (hBound : r ≤ bound) (hBelow : ∀ i < r, occupied i)
    (hExists : ∀ i, r ≤ i → (fileExists i = true ↔ occupied i)) :
    ∃ m : Nat, probe bound fileExists r = m ∧ IsFirstFree occupied bound m := by
  induction hLeft : bound - r generalizing r with
  | zero =>
    have hr : r = bound := by omega
    subst hr
    refine ⟨r, ?_, Nat.le_refl r, hBelow, fun h => absurd h (Nat.lt_irrefl r)⟩
    rw [probe, if_neg (Int.lt_irrefl _)]
  | succ k ih =>
    have hLt : r < bound := by omega
    rw [probe, if_pos (Int.ofNat_lt.mpr hLt)]
    cases hFile : fileExists r with
    | false =>
      refine ⟨r, if_neg Bool.false_ne_true, hBound, hBelow, fun _ hOccupied => ?_⟩
      rw [(hExists r (Nat.le_refl r)).mpr hOccupied] at hFile
      cases hFile
    | true =>
      rw [if_pos rfl, ← Int.natCast_succ]
      refine ih hLt (fun i hi => ?_) (fun i hi => hExists i (Nat.le_of_succ_le hi)) (by omega)
      rcases Nat.lt_succ_iff_lt_or_eq.mp hi with hLower | rfl
      · exact hBelow i hLower
      · exact (hExists i (Nat.le_refl i)).mp hFile

namespace Windows

theorem copyLoop_eq (D : Disk σ) (log : Path) (m : Nat) (s : Rotating σ) :
    copyLoop D log m s = ((copyChain D log m s).1.elim 0 Subtype.val, (copyChain D log m s).2) := by
  induction m generalizing s with
  | zero =>
    rw [copyLoop, if_neg (by decide)]
    rfl
  | succ m ih =>
    have hNumber : ((m + 1 : Nat) : Int) - 1 = m := by omega
    have hSource : (if (m : Int) = 0 then log else logBackupFileName log m) = logSlot log m := rfl
    rw [copyLoop, if_pos (by omega), hNumber]
    simp only [hSource, copyChain]
    rw [← logSlot_succ]
    cases hCopy : D.copy (logSlot log m) (logSlot log (m + 1)) s with
    | mk error t =>
      cases error with
      | none => exact ih t
      | some error => rfl

theorem rotateLogs_eq (D : Disk σ) (log : Path) {bound : Nat} (hBound : 1 ≤ bound) (s : Rotating σ) :
    ∃ m, IsFirstFree (fun i => D.fileExists (logSlot log i) s.disk = true) bound m ∧
      rotateLogs bound D log s = ((copyChain D log m s).1.elim 0 Subtype.val, (copyChain D log m s).2) := by
  unfold rotateLogs
  cases hLog : D.fileExists log s.disk with
  | false =>
    refine ⟨0, ⟨Nat.zero_le _, nofun, fun _ h => ?_⟩, rfl⟩
    rw [logSlot_zero, hLog] at h
    cases h
  | true =>
    have hBelow : ∀ i < 1, D.fileExists (logSlot log i) s.disk = true := by
      intro i hi
      rw [Nat.lt_one_iff.mp hi, logSlot_zero, hLog]
    have hExists : ∀ i : Nat, 1 ≤ i → (D.fileExists (logBackupFileName log i) s.disk = true ↔
        D.fileExists (logSlot log i) s.disk = true) := by
      intro i hi
      obtain ⟨j, rfl⟩ := Nat.exists_eq_add_of_le' hi
      rw [logSlot_succ]
      rfl
    obtain ⟨m, hProbe, hFree⟩ := probe_isFirstFree (fun i => D.fileExists (logSlot log i) s.disk = true)
      (fun r => D.fileExists (logBackupFileName log r) s.disk) hBound hBelow hExists
    refine ⟨m, hFree, ?_⟩
    rw [if_pos rfl, ← copyLoop_eq, ← hProbe]
    rfl

end Windows

namespace Mac

theorem copyLoop_eq (D : Disk σ) (log : Path) (m : Nat) (s : Rotating σ) :
    copyLoop D log m s = ((copyChain D log m s).1.isNone, (copyChain D log m s).2) := by
  induction m generalizing s with
  | zero =>
    rw [copyLoop, if_neg (by decide)]
    rfl
  | succ m ih =>
    have hNumber : ((m + 1 : Nat) : Int) - 1 = m := by omega
    rw [copyLoop, hNumber, if_pos (by omega), copyChain]
    change (match D.copy (logSlot log m) (logSlot log (m + 1)) s with
      | (some _, s) => (false, s)
      | (none, s) => copyLoop D log m s) = _
    cases hCopy : D.copy (logSlot log m) (logSlot log (m + 1)) s with
    | mk error t =>
      cases error with
      | none => exact ih t
      | some error => rfl

theorem rotateLogs_eq (D : Disk σ) (log : Path) (bound : Nat) (s : Rotating σ) :
    ∃ m, IsFirstFree (fun i => D.fileExists (logSlot log i) s.disk = true) bound m ∧
      rotateLogs bound D log s = ((copyChain D log m s).1.isNone, (copyChain D log m s).2) := by
  obtain ⟨m, hProbe, hFree⟩ := probe_isFirstFree (fun i => D.fileExists (logSlot log i) s.disk = true)
    (fun r => D.fileExists (logBackupFilePath log r) s.disk) (Nat.zero_le bound) nofun
    fun i _ => Iff.rfl
  refine ⟨m, hFree, ?_⟩
  rw [← copyLoop_eq, ← hProbe]
  rfl

end Mac

/-- The same copies, the same files, and success on both sides or on none. -/
theorem rotateLogs_alike (bound : Nat) (hBound : 1 ≤ bound) (D : Disk σ) (log : Path) (s : Rotating σ) :
    (Windows.rotateLogs bound D log s).2 = (Mac.rotateLogs bound D log s).2 ∧
      ((Windows.rotateLogs bound D log s).1 = 0 ↔ (Mac.rotateLogs bound D log s).1 = true) := by
  obtain ⟨m, hFree, hWindows⟩ := Windows.rotateLogs_eq D log hBound s
  obtain ⟨m', hFree', hMac⟩ := Mac.rotateLogs_eq D log bound s
  cases hFree.unique hFree'
  rw [hWindows, hMac]
  refine ⟨rfl, ?_⟩
  cases (copyChain D log m s).1 with
  | none => exact iff_of_true rfl rfl
  | some error => exact iff_of_false error.property nofun

/-- Two of the files that may be there, a gap between them, and no copy of the backup. -/
def gappedLogs : Disk (List Path) where
  fileExists path files := path ∈ files
  copyFile source target files :=
    if source ∈ files ∧ source = "broker.log" then (none, target :: files)
    else (some errorFileNotFound, files)
  createDirectory _ files := (none, files)
  createFile _ files := (true, files)
  openFile _ files := (true, files)
  write _ _ files := files
  errorMessage _ := []
  strerror _ := []

theorem rotateLogs_alike_gappedLogs : 1 ≤ 5 ∧
    (Windows.rotateLogs 5 gappedLogs "broker.log" ⟨["broker.log", "broker.log.1", "broker.log.3"], []⟩).2 =
      (Mac.rotateLogs 5 gappedLogs "broker.log" ⟨["broker.log", "broker.log.1", "broker.log.3"], []⟩).2 :=
  ⟨by decide, (rotateLogs_alike 5 (by decide) gappedLogs "broker.log"
    ⟨["broker.log", "broker.log.1", "broker.log.3"], []⟩).1⟩

end RdmnetBroker
