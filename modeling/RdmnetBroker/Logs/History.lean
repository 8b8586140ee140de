import RdmnetBroker.Logs.Faults

/-! # The logs of the service over its starts

Every start rotates the logs and begins a new one, so that the directory holds
the log of the latest start and as many of the ones before it as there are backups.
-/

namespace RdmnetBroker

open Library.Slots

set_option autoImplicit false

section Disk

variable (errorMessage : BitVec 32 → Bytes) (strerror : Bytes) (log : Path) (d : LogDirectory)

theorem write_openFile_disk (files : Path → Option Bytes) (directories : Path → Bool) (content : Bytes) :
    (LogDirectory.disk errorMessage strerror).write log content
        ⟨Function.update files log (some []), directories⟩ =
      ⟨Function.update files log (some content), directories⟩ := by
  simp only [LogDirectory.disk, Function.update_self, Option.map_some, List.nil_append,
    Function.update_idem]

theorem createFile_disk :
    (LogDirectory.disk errorMessage strerror).createFile log d =
      (true, ⟨Function.update d.files log (some ((d.files log).getD [])), d.directories⟩) := rfl

theorem openFile_createFile_disk (files : Path → Option Bytes) (directories : Path → Bool)
    (content : Bytes) :
    (LogDirectory.disk errorMessage strerror).openFile log
        ⟨Function.update files log (some content), directories⟩ =
      (true, ⟨Function.update files log (some []), directories⟩) := by
  simp only [LogDirectory.disk, Function.update_idem]

theorem write_write_disk (first second : Bytes) :
    (LogDirectory.disk errorMessage strerror).write log second
        ((LogDirectory.disk errorMessage strerror).write log first d) =
      (LogDirectory.disk errorMessage strerror).write log (first ++ second) d := by
  simp only [LogDirectory.disk, Function.update_self, Function.update_idem, Option.map_map]
  congr 2
  exact Option.map_congr fun content _ => List.append_assoc content first second

/-- A log that is open holds what was written to it, line by line. -/
theorem foldl_write_disk {content : Bytes} (hLog : d.files log = some content) (texts : List Bytes) :
    (texts.foldl (fun d text =>
      (LogDirectory.disk errorMessage strerror).write log (text ++ bytes "\n") d) d).files =
      Function.update d.files log (some (content ++ texts.flatMap (· ++ bytes "\n"))) := by
  induction texts generalizing d content with
  | nil => rw [List.foldl_nil, List.flatMap_nil, List.append_nil, ← hLog, Function.update_eq_self]
  | cons text texts ih =>
    have hWrite : ((LogDirectory.disk errorMessage strerror).write log (text ++ bytes "\n") d).files =
        Function.update d.files log (some (content ++ (text ++ bytes "\n"))) := by
      simp only [LogDirectory.disk, hLog, Option.map_some]
    rw [List.foldl_cons, ih _ (by rw [hWrite, Function.update_self]), hWrite, Function.update_idem,
      List.flatMap_cons, List.append_assoc]

end Disk

namespace Windows

variable (errorMessage : BitVec 32 → Bytes) (strerror : Bytes) {d : LogDirectory}

def completeLog (start : ServiceStart) : Bytes :=
  (initialMessage start.version start.time).take 100 ++
    start.messages.flatMap (· ++ bytes "\n")

theorem createDirectories_disk (path : Path) (dirs : List String) :
    ∃ directories, createDirectories (LogDirectory.disk errorMessage strerror) path dirs d =
      (none, ⟨d.files, directories⟩) := by
  have hCreate := createDirectories_eq_none_iff .none errorMessage strerror path dirs d
  have hFiles := createDirectories_files .none errorMessage strerror path dirs d
  rw [Faults.none_disk] at hCreate hFiles
  refine ⟨(createDirectories (LogDirectory.disk errorMessage strerror) path dirs d).2.directories, ?_⟩
  rw [← hFiles]
  exact Prod.ext (hCreate.mpr (canCreate_of_none (fun _ => rfl) path dirs)) rfl

theorem rotateLogs_disk {bound m : Nat} (hBound : 1 ≤ bound) (log : Path)
    (hFree : IsFirstFree (fun i => (d.files (logSlot log i)).isSome) bound m) :
    ∃ copies, rotateLogs bound (LogDirectory.disk errorMessage strerror) log ⟨d, []⟩ =
      (0, ⟨{ d with files := shiftUp (logSlot log) m d.files }, copies⟩) := by
  obtain ⟨copies, hRotate⟩ := rotateLogs_faulty .none errorMessage strerror log hBound hFree
  rw [Faults.none_disk, rotated_of_none fun _ _ => rfl] at hRotate
  exact ⟨copies, hRotate⟩

/-- `OpenLogFile` makes every backup that is due, and the log begins anew. -/
theorem openLogFile_disk {bound m : Nat} (hBound : 1 ≤ bound) {programDataPath : Path}
    (hPath : programDataPath ≠ "") (version : Bytes) (time : LogTimestamp)
    (hFree : IsFirstFree (fun i => (d.files (logSlot (logFilePath programDataPath) i)).isSome) bound m) :
    ∃ directories, openLogFile bound (LogDirectory.disk errorMessage strerror) version time
        (osInterface (some programDataPath)) d =
      (true, ⟨programDataPath, logFilePath programDataPath, true⟩,
        ⟨Function.update (shiftUp (logSlot (logFilePath programDataPath)) m d.files)
          (logFilePath programDataPath) (some ((initialMessage version time).take 100)), directories⟩) := by
  obtain ⟨directories, hCreate⟩ :=
    createDirectories_disk errorMessage strerror (d := d) programDataPath kRelativeLogFilePath
  obtain ⟨copies, hRotate⟩ := rotateLogs_disk errorMessage strerror (d := ⟨d.files, directories⟩) hBound
    (logFilePath programDataPath) hFree
  refine ⟨directories, ?_⟩
  simp only [openLogFile, osInterface, if_neg hPath, hCreate, hRotate]
  rw [← write_openFile_disk errorMessage strerror (logFilePath programDataPath)]
  rfl

theorem serviceStart_disk {bound m : Nat} (hBound : 1 ≤ bound) {programDataPath : Path}
    (hPath : programDataPath ≠ "") (start : ServiceStart)
    (hFree : IsFirstFree (fun i => (d.files (logSlot (logFilePath programDataPath) i)).isSome) bound m) :
    (serviceStart bound (LogDirectory.disk errorMessage strerror) programDataPath d start).files =
      Function.update (shiftUp (logSlot (logFilePath programDataPath)) m d.files)
        (logFilePath programDataPath) (some (completeLog start)) := by
  obtain ⟨directories, hOpen⟩ :=
    openLogFile_disk errorMessage strerror hBound hPath start.version start.time hFree
  have hHandle : handleLogMessage (LogDirectory.disk errorMessage strerror)
      ⟨programDataPath, logFilePath programDataPath, true⟩ =
      fun d text => (LogDirectory.disk errorMessage strerror).write (logFilePath programDataPath)
        (text ++ bytes "\n") d := by
    funext d text
    exact write_write_disk errorMessage strerror _ d text (bytes "\n")
  rw [serviceStart, hOpen]
  simp only [hHandle]
  rw [foldl_write_disk errorMessage strerror _ _ (Function.update_self _ _ _), Function.update_idem]
  rfl

theorem serviceStart_holds {bound : Nat} (hBound : 1 ≤ bound) {programDataPath : Path}
    (hPath : programDataPath ≠ "") (start : ServiceStart) {logs : List Bytes}
    (h : Holds (logSlot (logFilePath programDataPath)) bound logs d.files) :
    Holds (logSlot (logFilePath programDataPath)) bound (completeLog start :: logs)
      (serviceStart bound (LogDirectory.disk errorMessage strerror) programDataPath d start).files := by
  rw [serviceStart_disk errorMessage strerror hBound hPath start h.isFirstFree]
  exact h.push (logSlot_injective _) (completeLog start)

end Windows

namespace Mac

variable (errorMessage : BitVec 32 → Bytes) (strerror : Bytes) {d : LogDirectory}

def completeLog (start : ServiceStart) : Bytes :=
  initialMessage start.version start.time ++ start.messages.flatMap (· ++ bytes "\n")

theorem rotateLogs_disk {bound m : Nat} (log : Path)
    (hFree : IsFirstFree (fun i => (d.files (logSlot log i)).isSome) bound m) :
    ∃ copies, rotateLogs bound (LogDirectory.disk errorMessage strerror) log ⟨d, []⟩ =
      (true, ⟨{ d with files := shiftUp (logSlot log) m d.files }, copies⟩) := by
  obtain ⟨copies, hRotate⟩ := rotateLogs_faulty .none errorMessage strerror log hFree
  rw [Faults.none_disk, rotated_of_none fun _ _ => rfl] at hRotate
  exact ⟨copies, hRotate⟩

theorem openLogFile_disk {bound m : Nat} (version : Bytes) (time : LogTimestamp)
    (hFree : IsFirstFree (fun i => (d.files (logSlot kLogFilePath i)).isSome) bound m) :
    openLogFile bound (LogDirectory.disk errorMessage strerror) version time d =
      (true, true, ⟨Function.update (shiftUp (logSlot kLogFilePath) m d.files) kLogFilePath
        (some (initialMessage version time)), d.directories⟩) := by
  obtain ⟨copies, hRotate⟩ := rotateLogs_disk errorMessage strerror kLogFilePath hFree
  simp only [openLogFile, hRotate, createFile_disk, openFile_createFile_disk, write_openFile_disk, if_true]

theorem serviceStart_disk {bound m : Nat} (start : ServiceStart)
    (hFree : IsFirstFree (fun i => (d.files (logSlot kLogFilePath i)).isSome) bound m) :
    (serviceStart bound (LogDirectory.disk errorMessage strerror) d start).files =
      Function.update (shiftUp (logSlot kLogFilePath) m d.files) kLogFilePath
        (some (completeLog start)) := by
  have hHandle : handleLogMessage (LogDirectory.disk errorMessage strerror) true =
      fun d text => (LogDirectory.disk errorMessage strerror).write kLogFilePath
        (text ++ bytes "\n") d := rfl
  have hLog : Function.update (shiftUp (logSlot kLogFilePath) m d.files) kLogFilePath
      (some (initialMessage start.version start.time)) kLogFilePath =
      some (initialMessage start.version start.time) := Function.update_self _ _ _
  rw [serviceStart, openLogFile_disk errorMessage strerror _ _ hFree]
  simp only [hHandle]
  rw [foldl_write_disk errorMessage strerror _ _ hLog, Function.update_idem]
  rfl

theorem serviceStart_holds {bound : Nat} (start : ServiceStart) {logs : List Bytes}
    (h : Holds (logSlot kLogFilePath) bound logs d.files) :
    Holds (logSlot kLogFilePath) bound (completeLog start :: logs)
      (serviceStart bound (LogDirectory.disk errorMessage strerror) d start).files := by
  rw [serviceStart_disk errorMessage strerror start h.isFirstFree]
  exact h.push (logSlot_injective _) (completeLog start)

end Mac

/-- The log of the latest start, and each backup that is due, with nothing else beside them. -/
structure LogHistory (bound : Nat) (log : Path) (logs : List Bytes) (files : Path → Option Bytes) :
    Prop where
  latest : files log = logs.getLast?
  backup : ∀ i, 1 ≤ i → i ≤ min (logs.length - 1) bound →
    files (log ++ "." ++ toString i) = logs[logs.length - 1 - i]?
  other : ∀ path, files path ≠ none →
    path = log ∨ ∃ i, 1 ≤ i ∧ i ≤ min (logs.length - 1) bound ∧ path = log ++ "." ++ toString i

theorem logSlot_of_pos (log : Path) {i : Nat} (hi : 1 ≤ i) : logSlot log i = log ++ "." ++ toString i := by
  obtain ⟨j, rfl⟩ := Nat.exists_eq_add_of_le' hi
  exact logSlot_succ log j

theorem LogHistory.of_holds {bound : Nat} {log : Path} {logs : List Bytes} {files : Path → Option Bytes}
    (h : Holds (logSlot log) bound logs.reverse files) : LogHistory bound log logs files where
  latest := by
    rw [← logSlot_zero log, h.slot_eq 0 (Nat.zero_le bound), ← List.head?_eq_getElem?, List.head?_reverse]
  backup i hi hDue := by
    rw [← logSlot_of_pos log hi, h.slot_eq i (by omega), List.getElem?_reverse (by omega)]
  other path hPath := by
    by_cases hSlot : ∃ i ≤ bound, path = logSlot log i
    · obtain ⟨i, hi, rfl⟩ := hSlot
      rw [h.slot_eq i hi] at hPath
      have hLength : i < logs.reverse.length := List.getElem?_eq_none_iff.not.mp hPath |> Nat.not_le.mp
      rw [List.length_reverse] at hLength
      cases i with
      | zero => exact .inl rfl
      | succ i => exact .inr ⟨i + 1, by omega, by omega, logSlot_of_pos log (by omega)⟩
    · exact absurd (h.other path fun i hi hEq => hSlot ⟨i, hi, hEq⟩) hPath

theorem logHistory_of_starts (bound : Nat) (hBound : 1 ≤ bound) (programDataPath : Path)
    (hPath : programDataPath ≠ "") (errorMessage : BitVec 32 → Bytes) (strerror : Bytes)
    (directories : Path → Bool) (starts : List ServiceStart) :
    LogHistory bound (Windows.logFilePath programDataPath) (starts.map Windows.completeLog)
      (starts.foldl (Windows.serviceStart bound (LogDirectory.disk errorMessage strerror) programDataPath)
        ⟨fun _ => none, directories⟩).files ∧
    LogHistory bound Mac.kLogFilePath (starts.map Mac.completeLog)
      (starts.foldl (Mac.serviceStart bound (LogDirectory.disk errorMessage strerror))
        ⟨fun _ => none, directories⟩).files := by
  have hWindows := Holds.nil.foldl LogDirectory.files
    (Windows.serviceStart bound (LogDirectory.disk errorMessage strerror) programDataPath)
    Windows.completeLog (t := ⟨fun _ => none, directories⟩)
    (fun _ start _ => Windows.serviceStart_holds errorMessage strerror hBound hPath start) starts
  have hMac := Holds.nil.foldl LogDirectory.files
    (Mac.serviceStart bound (LogDirectory.disk errorMessage strerror)) Mac.completeLog
    (t := ⟨fun _ => none, directories⟩)
    (fun _ start _ => Mac.serviceStart_holds errorMessage strerror start) starts
  rw [List.append_nil] at hWindows hMac
  exact ⟨.of_holds hWindows, .of_holds hMac⟩

def sampleStart (message : String) : ServiceStart :=
  ⟨bytes "2.0.0", ⟨2023, 4, 1, 12, 30, 0⟩, [bytes message]⟩

theorem logHistory_of_two_starts :
    1 ≤ 5 ∧ "C:\\ProgramData" ≠ "" ∧
    LogHistory 5 (Windows.logFilePath "C:\\ProgramData")
      ([sampleStart "first", sampleStart "second"].map Windows.completeLog)
      ([sampleStart "first", sampleStart "second"].foldl
        (Windows.serviceStart 5 (LogDirectory.disk (fun _ => []) []) "C:\\ProgramData")
        ⟨fun _ => none, fun _ => false⟩).files :=
  ⟨by decide, by decide, (logHistory_of_starts 5 (by decide) "C:\\ProgramData" (by decide) (fun _ => []) []
    (fun _ => false) [sampleStart "first", sampleStart "second"]).1⟩

end RdmnetBroker
