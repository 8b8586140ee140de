import Mathlib.Logic.Function.Basic
import RdmnetBroker.Json

/-! # The log files

`OpenLogFile`, `RotateLogs` and `HandleLogMessage` of the Windows and of the
macOS interface to the operating system. The calls that they make are the fields
of `Disk`, over any state, so that each of them may fail in any way. A rotation
also records the copies that it attempts. What is printed to the console is left out.
-/

namespace RdmnetBroker

set_option autoImplicit false

universe u

abbrev Path := String

/-- An error of the operating system: any code but that of success. -/
abbrev ErrorCode := { code : BitVec 32 // code ≠ 0 }

def errorFileNotFound : ErrorCode := ⟨2, by decide⟩

def errorAlreadyExists : ErrorCode := ⟨183, by decide⟩

structure Disk (σ : Type u) where
  fileExists : Path → σ → Bool
  copyFile : Path → Path → σ → Option ErrorCode × σ
  createDirectory : Path → σ → Option ErrorCode × σ
  /-- Opens without truncation, creating the file if needed, and closes it again. -/
  createFile : Path → σ → Bool × σ
  /-- Opens for writing, with truncation. -/
  openFile : Path → σ → Bool × σ
  write : Path → Bytes → σ → σ
  errorMessage : BitVec 32 → Bytes
  strerror : σ → Bytes

structure LogCopy where
  source : Path
  target : Path
  ok : Bool
  deriving DecidableEq, Repr

structure Rotating (σ : Type u) where
  disk : σ
  copies : List LogCopy

def Disk.copy {σ : Type u} (D : Disk σ) (source target : Path) (s : Rotating σ) :
    Option ErrorCode × Rotating σ :=
  let (error, disk) := D.copyFile source target s.disk
  (error, ⟨disk, s.copies ++ [⟨source, target, error.isNone⟩]⟩)

/-- `for (; rotate_number < kMaxLogRotationFiles; ++rotate_number)`, left at the first number
whose file does not exist. -/
def probe (kMaxLogRotationFiles : Int) (fileExists : Int → Bool) (rotateNumber : Int) : Int :=
  if rotateNumber < kMaxLogRotationFiles then
    if fileExists rotateNumber then probe kMaxLogRotationFiles fileExists (rotateNumber + 1)
    else rotateNumber
  else rotateNumber
termination_by (kMaxLogRotationFiles - rotateNumber).toNat

/-- The fields of `etcpal::LogTimestamp` that the logs show. -/
structure LogTimestamp where
  year : Nat
  month : Nat
  day : Nat
  hour : Nat
  minute : Nat
  second : Nat
  deriving DecidableEq, Repr

def zeroPadded (width n : Nat) : String :=
  String.ofList (List.replicate (width - (toString n).length) '0') ++ toString n

def initialMessage (version : Bytes) (time : LogTimestamp) : Bytes :=
  bytes "Starting RDMnet Broker Service version " ++ version ++
    bytes (" on " ++ zeroPadded 4 time.year ++ "-" ++ zeroPadded 2 time.month ++ "-" ++
      zeroPadded 2 time.day ++ " at " ++ zeroPadded 2 time.hour ++ ":" ++ zeroPadded 2 time.minute ++
      ":" ++ zeroPadded 2 time.second ++ "...\n")

def rotateWarning (reason : Bytes) : Bytes :=
  bytes "WARNING: rotating log files failed with error: \"" ++ reason ++ bytes "\"\n"

/-- What a run of the service brings to its log. -/
structure ServiceStart where
  version : Bytes
  time : LogTimestamp
  messages : List Bytes

/-- The files by path, and the directories that exist. -/
structure LogDirectory where
  files : Path → Option Bytes
  directories : Path → Bool

/-- A disk whose operations succeed; the error texts are arbitrary. -/
def LogDirectory.disk (errorMessage : BitVec 32 → Bytes) (strerror : Bytes) : Disk LogDirectory where
  fileExists path d := (d.files path).isSome
  copyFile source target d :=
    match d.files source with
    | none => (some errorFileNotFound, d)
    | some content => (none, { d with files := Function.update d.files target (some content) })
  createDirectory path d :=
    if d.directories path then (some errorAlreadyExists, d)
    else (none, { d with directories := Function.update d.directories path true })
  createFile path d :=
    (true, { d with files := Function.update d.files path (some ((d.files path).getD [])) })
  openFile path d := (true, { d with files := Function.update d.files path (some []) })
  write path content d :=
    { d with files := Function.update d.files path ((d.files path).map (· ++ content)) }
  errorMessage := errorMessage
  strerror _ := strerror

variable {σ : Type u}

namespace Windows

def kRelativeLogFilePath : List String := ["ETC", "RDMnetBroker", "Logs"]

def kLogFileName : String := "broker.log"

/-- The members of `WindowsBrokerOsInterface`; of `log_file_`, whether it is open. -/
structure OsInterface where
  programDataPath : Path
  logFilePath : Path
  logFile : Bool

def intermediateDirs (path : Path) (dirs : List String) : Path :=
  dirs.foldl (fun path dir => path ++ ("\\" ++ dir)) path

def logFilePath (programDataPath : Path) : Path :=
  intermediateDirs programDataPath kRelativeLogFilePath ++ ("\\" ++ kLogFileName)

/-- The constructor, with the location of `ProgramData` if it is known. -/
def osInterface : Option Path → OsInterface
  | some programDataPath => ⟨programDataPath, logFilePath programDataPath, false⟩
  | none => ⟨"", "", false⟩

def logBackupFileName (log : Path) (rotateNumber : Int) : Path := log ++ "." ++ toString rotateNumber

/-- `while (rotate_number-- > 0)`. -/
def copyLoop (D : Disk σ) (log : Path) (rotateNumber : Int) (s : Rotating σ) :
    BitVec 32 × Rotating σ :=
  if rotateNumber > 0 then
    let rotateNumber := rotateNumber - 1
    let source := if rotateNumber = 0 then log else logBackupFileName log rotateNumber
    match D.copy source (logBackupFileName log (rotateNumber + 1)) s with
    | (some error, s) => (error.val, s)
    | (none, s) => copyLoop D log rotateNumber s
  else (0, s)
termination_by rotateNumber.toNat

def rotateLogs (kMaxLogRotationFiles : Int) (D : Disk σ) (log : Path) (s : Rotating σ) :
    BitVec 32 × Rotating σ :=
  if D.fileExists log s.disk then
    let rotateNumber :=
      probe kMaxLogRotationFiles (fun r => D.fileExists (logBackupFileName log r) s.disk) 1
    copyLoop D log rotateNumber s
  else (0, s)

/-- A directory that exists already is no error. -/
def createDirectories (D : Disk σ) : Path → List String → σ → Option ErrorCode × σ
  | _, [], s => (none, s)
  | path, dir :: dirs, s =>
    match D.createDirectory (path ++ ("\\" ++ dir)) s with
    | (none, s) => createDirectories D (path ++ ("\\" ++ dir)) dirs s
    | (some error, s) =>
      if error = errorAlreadyExists then createDirectories D (path ++ ("\\" ++ dir)) dirs s
      else (some error, s)

def openLogFile (kMaxLogRotationFiles : Int) (D : Disk σ) (version : Bytes) (time : LogTimestamp)
    (os : OsInterface) (s : σ) : Bool × OsInterface × σ :=
  if os.logFile then (false, os, s)
  else if os.programDataPath = "" then (false, os, s)
  else
    match createDirectories D os.programDataPath kRelativeLogFilePath s with
    | (some _, s) => (false, os, s)
    | (none, s) =>
      let (rotateResult, t) := rotateLogs kMaxLogRotationFiles D os.logFilePath ⟨s, []⟩
      match D.openFile os.logFilePath t.disk with
      | (false, s) => (false, os, s)
      | (true, s) =>
        let s := D.write os.logFilePath ((initialMessage version time).take 100) s
        let s :=
          if rotateResult ≠ 0 then
            D.write os.logFilePath (rotateWarning (D.errorMessage rotateResult)) s
          else s
        (true, { os with logFile := true }, s)

def handleLogMessage (D : Disk σ) (os : OsInterface) (s : σ) (humanReadable : Bytes) : σ :=
  if os.logFile then
    D.write os.logFilePath (bytes "\n") (D.write os.logFilePath humanReadable s)
  else s

def serviceStart (kMaxLogRotationFiles : Int) (D : Disk σ) (programDataPath : Path) (s : σ)
    (start : ServiceStart) : σ :=
  let (_, os, s) :=
    openLogFile kMaxLogRotationFiles D start.version start.time (osInterface (some programDataPath)) s
  start.messages.foldl (handleLogMessage D os) s

end Windows

namespace Mac

def kLogFilePath : Path := "/usr/local/var/log/RDMnetBroker/broker.log"

def logBackupFilePath (log : Path) (rotateNumber : Int) : Path :=
  if rotateNumber = 0 then log else log ++ "." ++ toString rotateNumber

/-- `while (--rotate_number >= 0)`. -/
def copyLoop (D : Disk σ) (log : Path) (rotateNumber : Int) (s : Rotating σ) : Bool × Rotating σ :=
  let rotateNumber' := rotateNumber - 1
  if rotateNumber' ≥ 0 then
    match D.copy (logBackupFilePath log rotateNumber') (logBackupFilePath log (rotateNumber' + 1)) s with
    | (some _, s) => (false, s)
    | (none, s) => copyLoop D log rotateNumber' s
  else (true, s)
termination_by rotateNumber.toNat

def rotateLogs (kMaxLogRotationFiles : Int) (D : Disk σ) (log : Path) (s : Rotating σ) :
    Bool × Rotating σ :=
  let rotateNumber :=
    probe kMaxLogRotationFiles (fun r => D.fileExists (logBackupFilePath log r) s.disk) 0
  copyLoop D log rotateNumber s

/-- On a new interface, whose stream is not open; the result also tells whether it is
then. A stream that does not open is not looked at. -/
def openLogFile (kMaxLogRotationFiles : Int) (D : Disk σ) (version : Bytes) (time : LogTimestamp)
    (s : σ) : Bool × Bool × σ :=
  let (rotated, t) := rotateLogs kMaxLogRotationFiles D kLogFilePath ⟨s, []⟩
  match D.createFile kLogFilePath t.disk with
  | (false, s) => (false, false, s)
  | (true, s) =>
    match D.openFile kLogFilePath s with
    | (false, s) => (true, false, s)
    | (true, s) =>
      let s := D.write kLogFilePath (initialMessage version time) s
      let s := if rotated then s else D.write kLogFilePath (rotateWarning (D.strerror s)) s
      (true, true, s)

def handleLogMessage (D : Disk σ) (logStream : Bool) (s : σ) (humanReadable : Bytes) : σ :=
  if logStream then D.write kLogFilePath (humanReadable ++ bytes "\n") s else s

def serviceStart (kMaxLogRotationFiles : Int) (D : Disk σ) (s : σ) (start : ServiceStart) : σ :=
  let (_, logStream, s) := openLogFile kMaxLogRotationFiles D start.version start.time s
  start.messages.foldl (handleLogMessage D logStream) s

end Mac

end RdmnetBroker
