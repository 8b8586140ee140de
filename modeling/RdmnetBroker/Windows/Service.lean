import RdmnetBroker.Shell.Steps

/-! # The Windows service

`wmain` calls `Init`; the service thread then creates the thread that watches
the configuration directory and calls `Run`. The change handle is the one of
`FindFirstChangeNotification`: a write signals it, it stays signalled until
`FindNextChangeNotification`, and a write after a satisfied wait is recorded
and signals it again from there. The calls of the thread that watches the
network are among the restart requests of the shell's model.
-/

namespace RdmnetBroker

open Library

set_option autoImplicit false

inductive WatcherPc
  | notCreated
  | findFirst
  | stopCheck
  | wait
  | requestRestart
  | findNext
  | exited
  deriving DecidableEq, Repr

/-- The handle is created, and the last satisfied wait was followed by
`FindNextChangeNotification`. -/
def WatcherPc.armed : WatcherPc → Bool
  | .stopCheck | .wait | .exited => true
  | _ => false

def WatcherPc.rearming : WatcherPc → Bool
  | .requestRestart | .findNext => true
  | _ => false

/-- The shell, the watcher, its change handle, and whether the file was written after
it was last read. -/
structure Service where
  shell : Shell
  watcher : WatcherPc
  signalled : Bool
  recorded : Bool
  stopConfigChangeDetection : Bool
  stale : Bool

inductive ServiceEvent
  | shell (e : Event)
  | createWatcher
  | findFirst
  | stopCheck (stop : Bool)
  | waitForSingleObject (satisfied : Bool)
  | requestRestart
  | findNext
  | stopDetection

inductive ServiceAct
  | shell (a : Act)
  | createWatcher
  | watcher
  | stopDetection

namespace Service

def noteWrite (s : Service) : Service :=
  { s with
    signalled := s.signalled || s.watcher.armed
    recorded := s.recorded || s.watcher.rearming }

def observe (s : Service) (e : Event) (shell : Shell) : Service :=
  match e with
  | .writeConf _ => { s with shell := shell, stale := true }.noteWrite
  | .confFileRead _ _ => { s with shell := shell, stale := false }
  | _ => { s with shell := shell }

/-- `Run` is called after the watcher is created, and `Deinit` after it is joined. -/
def shellEnabled (s : Service) : Act → Bool
  | .main _ _ =>
    match s.shell.pc with
    | .initReturned => s.watcher != .notCreated
    | .runReturned _ => s.watcher == .exited
    | _ => true
  | _ => true

def stepShell (L : Libraries) (s : Service) (a : Act) : Option (ServiceEvent × Service) :=
  if s.shellEnabled a then (s.shell.step L a).map fun r => (.shell r.1, s.observe r.1 r.2)
  else none

/-- One step of the watcher: `InitConfigChangeDetectionHandle`, then the loop around
`ProcessConfigChanges`, whose calls all succeed. -/
def stepWatcher (s : Service) : Option (ServiceEvent × Service) :=
  match s.watcher with
  | .notCreated => none
  | .findFirst =>
    some (.findFirst, { s with watcher := .stopCheck, signalled := false, recorded := false })
  | .stopCheck =>
    if s.stopConfigChangeDetection then some (.stopCheck true, { s with watcher := .exited })
    else some (.stopCheck false, { s with watcher := .wait })
  | .wait =>
    if s.signalled then some (.waitForSingleObject true, { s with watcher := .requestRestart })
    else some (.waitForSingleObject false, { s with watcher := .stopCheck })
  | .requestRestart =>
    some (.requestRestart, { s with shell := s.shell.requestRestart 0, watcher := .findNext })
  | .findNext =>
    some (.findNext, { s with watcher := .stopCheck, signalled := s.recorded, recorded := false })
  | .exited => none

def step (L : Libraries) (s : Service) : ServiceAct → Option (ServiceEvent × Service)
  | .shell a => s.stepShell L a
  | .createWatcher =>
    if s.watcher = .notCreated ∧ s.shell.pc = .initReturned ∧ s.shell.readyToRun = true then
      some (.createWatcher, { s with watcher := .findFirst })
    else none
  | .watcher => s.stepWatcher
  | .stopDetection =>
    match s.shell.pc with
    | .runReturned _ => some (.stopDetection, { s with stopConfigChangeDetection := true })
    | _ => none

inductive Step (L : Libraries) (s : Service) : ServiceEvent → Service → Prop
  | shell (a : Act) (e : Event) (t : Shell) : s.shellEnabled a = true → s.shell.step L a = some (e, t) →
      Step L s (.shell e) (s.observe e t)
  | createWatcher : s.watcher = .notCreated → s.shell.pc = .initReturned → s.shell.readyToRun = true →
      Step L s .createWatcher { s with watcher := .findFirst }
  | findFirst : s.watcher = .findFirst →
      Step L s .findFirst { s with watcher := .stopCheck, signalled := false, recorded := false }
  | stopCheckStop : s.watcher = .stopCheck → s.stopConfigChangeDetection = true →
      Step L s (.stopCheck true) { s with watcher := .exited }
  | stopCheckGo : s.watcher = .stopCheck → s.stopConfigChangeDetection = false →
      Step L s (.stopCheck false) { s with watcher := .wait }
  | waitSatisfied : s.watcher = .wait → s.signalled = true →
      Step L s (.waitForSingleObject true) { s with watcher := .requestRestart }
  | waitTimeout : s.watcher = .wait → s.signalled = false →
      Step L s (.waitForSingleObject false) { s with watcher := .stopCheck }
  | requestRestart : s.watcher = .requestRestart →
      Step L s .requestRestart { s with shell := s.shell.requestRestart 0, watcher := .findNext }
  | findNext : s.watcher = .findNext →
      Step L s .findNext { s with watcher := .stopCheck, signalled := s.recorded, recorded := false }
  | stopDetection (ok : Bool) : s.shell.pc = .runReturned ok →
      Step L s .stopDetection { s with stopConfigChangeDetection := true }

variable {L : Libraries} {s s' : Service} {e : ServiceEvent}

@[simp] theorem observe_shell (s : Service) (e : Event) (t : Shell) : (s.observe e t).shell = t := by
  cases e <;> rfl

theorem step_of_stepWatcher (h : s.stepWatcher = some (e, s')) : Step L s e s' := by
  unfold stepWatcher at h
  split at h
  case h_1 => cases h
  case h_2 hPc =>
    cases h
    exact .findFirst hPc
  case h_3 hPc =>
    split at h <;> cases h
    · exact .stopCheckStop hPc ‹_›
    · exact .stopCheckGo hPc (Bool.eq_false_iff.mpr ‹_›)
  case h_4 hPc =>
    split at h <;> cases h
    · exact .waitSatisfied hPc ‹_›
    · exact .waitTimeout hPc (Bool.eq_false_iff.mpr ‹_›)
  case h_5 hPc =>
    cases h
    exact .requestRestart hPc
  case h_6 hPc =>
    cases h
    exact .findNext hPc
  case h_7 => cases h

theorem step_cases {a : ServiceAct} (h : s.step L a = some (e, s')) : Step L s e s' := by
  cases a with
  | shell a =>
    simp only [step, stepShell] at h
    split at h
    · rename_i hEnabled
      obtain ⟨⟨e, t⟩, hShell, hResult⟩ := Option.map_eq_some_iff.mp h
      cases hResult
      exact .shell a e t hEnabled hShell
    · cases h
  | createWatcher =>
    simp only [step] at h
    split at h
    · rename_i hCreate
      cases h
      exact .createWatcher hCreate.1 hCreate.2.1 hCreate.2.2
    · cases h
  | watcher => exact step_of_stepWatcher h
  | stopDetection =>
    simp only [step] at h
    split at h
    · rename_i ok hPc
      cases h
      exact .stopDetection ok hPc
    · cases h

end Service

def brokerService (L : Libraries) (defaultCid : Uuid) : System Service ServiceEvent where
  initial s := s.shell.Constructed defaultCid ∧ s.watcher = .notCreated ∧ s.signalled = false ∧
    s.recorded = false ∧ s.stopConfigChangeDetection = false ∧ s.stale = false
  next s e s' := ∃ a, s.step L a = some (e, s')

def ServiceEvent.shellEvent? : ServiceEvent → Option Event
  | .shell e => some e
  | .requestRestart => some (.requestRestart 0)
  | _ => none

def shellTrace (tr : List ServiceEvent) : List Event := tr.filterMap ServiceEvent.shellEvent?

theorem run_shell {L : Libraries} {defaultCid : Uuid} {tr : List ServiceEvent} {s : Service}
    (h : (brokerService L defaultCid).Run tr s) :
    (brokerShell L defaultCid).Run (shellTrace tr) s.shell := by
  refine System.Run.project (S := brokerShell L defaultCid) (T := brokerService L defaultCid)
    Service.shell ServiceEvent.shellEvent? (fun _ h0 => h0.1) ?_ h
  rintro t d t' ⟨a, hStep⟩
  cases Service.step_cases hStep with
  | shell a e u _ hShell => exact .inl ⟨e, rfl, a, by simpa using hShell⟩
  | requestRestart => exact .inl ⟨_, rfl, .requestRestart 0, rfl⟩
  | _ => exact .inr ⟨rfl, rfl⟩

end RdmnetBroker
