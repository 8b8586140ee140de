import RdmnetBroker.Windows.Service

/-! # The threads of the Windows service

`ServiceThread` with the two threads that it creates, joins and outlives, and with
every outcome of the calls they make. `NotifyAddrChange` reports one change: the
event is set by the first change of the address table after the call, and a change
that comes before the next call is not reported. `Deinit` of the shell, which `wmain`
calls when the dispatcher has returned, comes after everything here.
-/

namespace RdmnetBroker

open Library

set_option autoImplicit false

def kNetworkChangeCooldownMs : BitVec 32 := 5000

inductive WaitResult
  | signalled | timeout | failed
  deriving DecidableEq, Repr

inductive AddrPc
  | notCreated
  | createEvent
  | notifyFirst
  | stopCheck
  | wait
  | requestRestart
  | resetEvent
  | notifyNext
  | cancel
  | close
  | exited
  deriving DecidableEq, Repr

/-- The event of the `OVERLAPPED` structure. -/
inductive EventHandle
  | none
  | opened (signalled : Bool)
  | closed
  deriving DecidableEq, Repr

def EventHandle.set : EventHandle → EventHandle
  | .opened _ => .opened true
  | handle => handle

def EventHandle.isOpened : EventHandle → Bool
  | .opened _ => true
  | _ => false

inductive AddrEvent
  | wsaCreateEvent (ok : Bool)
  | notifyFirst (ok : Bool)
  | stopCheck (stop : Bool)
  | waitForSingleObject (result : WaitResult)
  | requestRestart
  | resetEvent
  | notifyNext (ok : Bool)
  | cancelIpChangeNotify
  | wsaCloseEvent
  deriving DecidableEq, Repr

/-- `pending` says that a `NotifyAddrChange` waits for a change; `messages` is what this
thread passed to the logger. -/
structure AddrWatcher where
  pc : AddrPc
  event : EventHandle
  pending : Bool
  messages : List LogMessage

namespace AddrWatcher

def log (w : AddrWatcher) (priority : LogPriority) (format : String) (args : List LogArg) : AddrWatcher :=
  { w with messages := w.messages ++ [⟨priority, format, args⟩] }

/-- `GetNextAddrChange`, which continues at `next` when it returns true and at `fail` otherwise. -/
def getNextAddrChange (w : AddrWatcher) (ok : Bool) (reason : Bytes) (next fail : AddrPc) : AddrWatcher :=
  if ok then { w with pending := true, pc := next }
  else
    { w.log .err "ERROR: Failed to set up the next address table change notification (%s)." [.str reason] with
      pc := fail }

/-- One step of the thread. `ok` is the outcome of the call that it makes, if that can fail. -/
def step (w : AddrWatcher) (stop ok : Bool) (reason : Bytes) (status : Int) :
    Option (AddrEvent × AddrWatcher) :=
  match w.pc with
  | .notCreated => none
  | .createEvent =>
    if ok then some (.wsaCreateEvent true, { w with event := .opened false, pc := .notifyFirst })
    else some (.wsaCreateEvent false,
      { w.log .err "ERROR: Failed to set up address table change detection (%s)." [.str reason] with
        pc := .exited })
  | .notifyFirst => some (.notifyFirst ok, w.getNextAddrChange ok reason .stopCheck .exited)
  | .stopCheck =>
    if stop then some (.stopCheck true, { w with pc := .cancel })
    else some (.stopCheck false, { w with pc := .wait })
  | .wait =>
    if !ok then
      some (.waitForSingleObject .failed,
        { w.log .warning ("WARNING: Failed to wait for the next address table change notification " ++
            "(GetLastError: '%s', status: %d).") [.str reason, .int status] with
          pc := .cancel })
    else if w.event = .opened true then
      some (.waitForSingleObject .signalled,
        { w.log .info "A network change was detected - requesting broker restart." [] with
          pc := .requestRestart })
    else some (.waitForSingleObject .timeout, { w with pc := .stopCheck })
  | .requestRestart => some (.requestRestart, { w with pc := .resetEvent })
  | .resetEvent => some (.resetEvent, { w with event := .opened false, pc := .notifyNext })
  | .notifyNext => some (.notifyNext ok, w.getNextAddrChange ok reason .stopCheck .cancel)
  | .cancel => some (.cancelIpChangeNotify, { w with pending := false, pc := .close })
  | .close => some (.wsaCloseEvent, { w with event := .closed, pc := .exited })
  | .exited => none

def addrChanged (w : AddrWatcher) : AddrWatcher :=
  if w.pending then { w with event := w.event.set, pending := false } else w

/-- The transitions of the thread. -/
inductive Step (stop : Bool) (w : AddrWatcher) : AddrEvent → AddrWatcher → Prop
  | createEvent : w.pc = .createEvent →
      Step stop w (.wsaCreateEvent true) { w with event := .opened false, pc := .notifyFirst }
  | createEventFailed (m : LogMessage) : w.pc = .createEvent → m.priority = .err →
      Step stop w (.wsaCreateEvent false) { w with messages := w.messages ++ [m], pc := .exited }
  | notifyFirst : w.pc = .notifyFirst →
      Step stop w (.notifyFirst true) { w with pending := true, pc := .stopCheck }
  | notifyFirstFailed (m : LogMessage) : w.pc = .notifyFirst → m.priority = .err →
      Step stop w (.notifyFirst false) { w with messages := w.messages ++ [m], pc := .exited }
  | stopSeen : w.pc = .stopCheck → stop = true → Step stop w (.stopCheck true) { w with pc := .cancel }
  | stopNotSeen : w.pc = .stopCheck → stop = false → Step stop w (.stopCheck false) { w with pc := .wait }
  | waitFailed (m : LogMessage) : w.pc = .wait → m.priority = .warning →
      Step stop w (.waitForSingleObject .failed) { w with messages := w.messages ++ [m], pc := .cancel }
  | waitSignalled (m : LogMessage) : w.pc = .wait → w.event = .opened true →
      Step stop w (.waitForSingleObject .signalled)
        { w with messages := w.messages ++ [m], pc := .requestRestart }
  | waitTimeout : w.pc = .wait → w.event ≠ .opened true →
      Step stop w (.waitForSingleObject .timeout) { w with pc := .stopCheck }
  | requestRestart : w.pc = .requestRestart → Step stop w .requestRestart { w with pc := .resetEvent }
  | resetEvent : w.pc = .resetEvent →
      Step stop w .resetEvent { w with event := .opened false, pc := .notifyNext }
  | notifyNext : w.pc = .notifyNext →
      Step stop w (.notifyNext true) { w with pending := true, pc := .stopCheck }
  | notifyNextFailed (m : LogMessage) : w.pc = .notifyNext → m.priority = .err →
      Step stop w (.notifyNext false) { w with messages := w.messages ++ [m], pc := .cancel }
  | cancel : w.pc = .cancel → Step stop w .cancelIpChangeNotify { w with pending := false, pc := .close }
  | close : w.pc = .close → Step stop w .wsaCloseEvent { w with event := .closed, pc := .exited }

theorem step_cases {w w' : AddrWatcher} {stop ok : Bool} {reason : Bytes} {status : Int} {e : AddrEvent}
    (h : w.step stop ok reason status = some (e, w')) : Step stop w e w' := by
  unfold step at h
  split at h
  case h_1 => cases h
  case h_2 hPc =>
    split at h <;> cases h
    · exact .createEvent hPc
    · exact .createEventFailed _ hPc rfl
  case h_3 hPc =>
    cases ok <;> cases h
    · exact .notifyFirstFailed _ hPc rfl
    · exact .notifyFirst hPc
  case h_4 hPc =>
    split at h <;> cases h
    · exact .stopSeen hPc ‹_›
    · exact .stopNotSeen hPc (Bool.eq_false_iff.mpr ‹_›)
  case h_5 hPc =>
    split at h
    · cases h
      exact .waitFailed _ hPc rfl
    · split at h <;> cases h
      · exact .waitSignalled _ hPc ‹_›
      · exact .waitTimeout hPc ‹_›
  case h_6 hPc =>
    cases h
    exact .requestRestart hPc
  case h_7 hPc =>
    cases h
    exact .resetEvent hPc
  case h_8 hPc =>
    cases ok <;> cases h
    · exact .notifyNextFailed _ hPc rfl
    · exact .notifyNext hPc
  case h_9 hPc =>
    cases h
    exact .cancel hPc
  case h_10 hPc =>
    cases h
    exact .close hPc
  case h_11 => cases h

end AddrWatcher

inductive ConfigPc
  | notCreated
  | findFirst
  | stopCheck
  | wait
  | requestRestart
  | findNext
  | exited
  deriving DecidableEq, Repr

inductive ChangeHandle
  | none
  | invalid
  | opened (signalled recorded : Bool)
  deriving DecidableEq, Repr

/-- The handle after `FindNextChangeNotification`. -/
def ChangeHandle.next : ChangeHandle → ChangeHandle
  | .opened _ recorded => .opened recorded false
  | handle => handle

inductive ConfigEvent
  | findFirst (ok : Bool)
  | stopCheck (stop : Bool)
  | invalidHandle
  | waitForSingleObject (result : WaitResult)
  | requestRestart
  | findNext (ok : Bool)
  deriving DecidableEq, Repr

/-- The thread gives up. -/
def ConfigEvent.failed : ConfigEvent → Bool
  | .invalidHandle | .waitForSingleObject .failed | .findNext false => true
  | _ => false

structure ConfigWatcher where
  pc : ConfigPc
  handle : ChangeHandle
  messages : List LogMessage

namespace ConfigWatcher

def log (w : ConfigWatcher) (priority : LogPriority) (format : String) (args : List LogArg) :
    ConfigWatcher :=
  { w with messages := w.messages ++ [⟨priority, format, args⟩] }

/-- `ProcessConfigChanges` up to the wait. -/
def processConfigChanges (w : ConfigWatcher) (ok : Bool) (reason : Bytes) : ConfigEvent × ConfigWatcher :=
  match w.handle with
  | .opened signalled _ =>
    if !ok then
      (.waitForSingleObject .failed,
        { w.log .warning "WARNING: Failed to wait for the next broker config change notification (%s)."
            [.str reason] with
          pc := .exited })
    else if signalled then
      (.waitForSingleObject .signalled,
        { w.log .info "The broker configuration file has changed - requesting broker restart." [] with
          pc := .requestRestart })
    else (.waitForSingleObject .timeout, { w with pc := .stopCheck })
  | _ =>
    (.invalidHandle,
      { w.log .warning "WARNING: Failed to initialize broker config change notification (%s)."
          [.str reason] with
        pc := .exited })

def findNextChangeNotification (w : ConfigWatcher) (ok : Bool) (reason : Bytes) : ConfigWatcher :=
  if ok then { w with handle := w.handle.next, pc := .stopCheck }
  else
    { w.log .warning "WARNING: Failed to set up the next broker config change notification (%s)."
        [.str reason] with
      pc := .exited }

/-- A handle that could not be created is only noticed by `ProcessConfigChanges`. -/
def step (w : ConfigWatcher) (stop ok : Bool) (reason : Bytes) : Option (ConfigEvent × ConfigWatcher) :=
  match w.pc with
  | .notCreated => none
  | .findFirst =>
    if ok then some (.findFirst true, { w with handle := .opened false false, pc := .stopCheck })
    else some (.findFirst false, { w with handle := .invalid, pc := .stopCheck })
  | .stopCheck =>
    if stop then some (.stopCheck true, { w with pc := .exited })
    else some (.stopCheck false, { w with pc := .wait })
  | .wait => some (w.processConfigChanges ok reason)
  | .requestRestart => some (.requestRestart, { w with pc := .findNext })
  | .findNext => some (.findNext ok, w.findNextChangeNotification ok reason)
  | .exited => none

/-- The transitions of the thread. -/
inductive Step (stop : Bool) (w : ConfigWatcher) : ConfigEvent → ConfigWatcher → Prop
  | findFirst : w.pc = .findFirst →
      Step stop w (.findFirst true) { w with handle := .opened false false, pc := .stopCheck }
  | findFirstFailed : w.pc = .findFirst →
      Step stop w (.findFirst false) { w with handle := .invalid, pc := .stopCheck }
  | stopSeen : w.pc = .stopCheck → stop = true → Step stop w (.stopCheck true) { w with pc := .exited }
  | stopNotSeen : w.pc = .stopCheck → stop = false → Step stop w (.stopCheck false) { w with pc := .wait }
  | failed (e : ConfigEvent) (m : LogMessage) : w.pc = .wait ∨ w.pc = .findNext → m.priority = .warning →
      e.failed = true → Step stop w e { w with messages := w.messages ++ [m], pc := .exited }
  | waitSignalled (recorded : Bool) (m : LogMessage) : w.pc = .wait → w.handle = .opened true recorded →
      Step stop w (.waitForSingleObject .signalled)
        { w with messages := w.messages ++ [m], pc := .requestRestart }
  | waitTimeout (recorded : Bool) : w.pc = .wait → w.handle = .opened false recorded →
      Step stop w (.waitForSingleObject .timeout) { w with pc := .stopCheck }
  | requestRestart : w.pc = .requestRestart → Step stop w .requestRestart { w with pc := .findNext }
  | findNext : w.pc = .findNext →
      Step stop w (.findNext true) { w with handle := w.handle.next, pc := .stopCheck }

theorem step_cases {w w' : ConfigWatcher} {stop ok : Bool} {reason : Bytes} {e : ConfigEvent}
    (h : w.step stop ok reason = some (e, w')) : Step stop w e w' := by
  unfold step at h
  split at h
  case h_1 => cases h
  case h_2 hPc =>
    split at h <;> cases h
    · exact .findFirst hPc
    · exact .findFirstFailed hPc
  case h_3 hPc =>
    split at h <;> cases h
    · exact .stopSeen hPc ‹_›
    · exact .stopNotSeen hPc (Bool.eq_false_iff.mpr ‹_›)
  case h_4 hPc =>
    unfold processConfigChanges at h
    split at h
    · rename_i signalled recorded hHandle
      split at h
      · cases h
        exact .failed _ _ (.inl hPc) rfl rfl
      · cases signalled <;> cases h
        · exact .waitTimeout recorded hPc hHandle
        · exact .waitSignalled recorded _ hPc hHandle
    · cases h
      exact .failed _ _ (.inl hPc) rfl rfl
  case h_5 hPc =>
    cases h
    exact .requestRestart hPc
  case h_6 hPc =>
    cases ok with
    | true =>
      cases h
      exact .findNext hPc
    | false =>
      cases h
      exact .failed _ _ (.inr hPc) rfl rfl
  case h_7 => cases h

def confWritten (w : ConfigWatcher) : ConfigWatcher :=
  match w.handle, w.pc with
  | .opened signalled _, .requestRestart | .opened signalled _, .findNext =>
    { w with handle := .opened signalled true }
  | .opened _ recorded, _ => { w with handle := .opened true recorded }
  | _, _ => w

end ConfigWatcher

inductive ServicePc
  | notStarted
  | createAddrThread
  | createConfigThread
  | run
  | stopConfig
  | joinConfig
  | stopAddr
  | joinAddr
  | setServiceStatus
  | returned
  deriving DecidableEq, Repr

inductive ThreadEvent
  | start
  | createAddrThread
  | createConfigThread
  | runReturn (ok : Bool)
  | stopConfig
  | joinConfig
  | stopAddr
  | joinAddr
  | setServiceStatus
  deriving DecidableEq, Repr

/-- `unrefreshed`: the address table has changed since the last call that refreshes the interfaces.
`rearmMs`: the time since the address thread last asked for a restart. -/
structure Detection where
  shell : Shell
  thread : ServicePc
  addr : AddrWatcher
  config : ConfigWatcher
  stopAddrChangeDetection : Bool
  stopConfigChangeDetection : Bool
  unrefreshed : Bool
  rearmMs : Nat

inductive DetectionEvent
  | shell (e : Event)
  | thread (e : ThreadEvent)
  | addr (e : AddrEvent)
  | config (e : ConfigEvent)
  | addrChange

inductive DetectionAct
  | shell (a : Act)
  | thread
  | addr (ok : Bool) (reason : Bytes) (status : Int)
  | config (ok : Bool) (reason : Bytes)
  | addrChange

namespace Detection

def observe (s : Detection) (e : Event) (shell : Shell) : Detection :=
  match e with
  | .startup _ _ => { s with shell := shell, unrefreshed := false }
  | .tick ms => { s with shell := shell, rearmMs := s.rearmMs + ms.toNat }
  | .writeConf _ => { s with shell := shell, config := s.config.confWritten }
  | _ => { s with shell := shell }

/-- `Init` is over before the service thread starts, which calls `Run`. -/
def shellEnabled (s : Detection) : Act → Bool
  | .main _ _ =>
    match s.shell.pc with
    | .initReturned => s.thread == .run
    | .runReturned _ => false
    | _ => true
  | _ => true

def stepShell (L : Libraries) (s : Detection) (a : Act) : Option (DetectionEvent × Detection) :=
  if s.shellEnabled a then (s.shell.step L a).map fun r => (.shell r.1, s.observe r.1 r.2)
  else none

def stepThread (s : Detection) : Option (ThreadEvent × Detection) :=
  match s.thread with
  | .notStarted =>
    if s.shell.pc = .initReturned ∧ s.shell.readyToRun = true then
      some (.start, { s with thread := .createAddrThread })
    else none
  | .createAddrThread =>
    some (.createAddrThread,
      { s with addr := { s.addr with pc := .createEvent }, thread := .createConfigThread })
  | .createConfigThread =>
    some (.createConfigThread, { s with config := { s.config with pc := .findFirst }, thread := .run })
  | .run =>
    match s.shell.pc with
    | .runReturned ok => some (.runReturn ok, { s with thread := .stopConfig })
    | _ => none
  | .stopConfig => some (.stopConfig, { s with stopConfigChangeDetection := true, thread := .joinConfig })
  | .joinConfig =>
    if s.config.pc = .exited then some (.joinConfig, { s with thread := .stopAddr }) else none
  | .stopAddr => some (.stopAddr, { s with stopAddrChangeDetection := true, thread := .joinAddr })
  | .joinAddr =>
    if s.addr.pc = .exited then
      some (.joinAddr,
        { s with thread := if s.shell.pc = .runReturned true then .returned else .setServiceStatus })
    else none
  | .setServiceStatus => some (.setServiceStatus, { s with thread := .returned })
  | .returned => none

def stepAddr (s : Detection) (ok : Bool) (reason : Bytes) (status : Int) :
    Option (DetectionEvent × Detection) :=
  (s.addr.step s.stopAddrChangeDetection ok reason status).map fun r =>
    match r.1 with
    | .requestRestart =>
      (.addr .requestRestart,
        { s with shell := s.shell.requestRestart kNetworkChangeCooldownMs, addr := r.2, rearmMs := 0 })
    | e => (.addr e, { s with addr := r.2 })

def stepConfig (s : Detection) (ok : Bool) (reason : Bytes) : Option (DetectionEvent × Detection) :=
  (s.config.step s.stopConfigChangeDetection ok reason).map fun r =>
    match r.1 with
    | .requestRestart =>
      (.config .requestRestart, { s with shell := s.shell.requestRestart 0, config := r.2 })
    | e => (.config e, { s with config := r.2 })

def step (L : Libraries) (s : Detection) : DetectionAct → Option (DetectionEvent × Detection)
  | .shell a => s.stepShell L a
  | .thread => s.stepThread.map fun r => (.thread r.1, r.2)
  | .addr ok reason status => s.stepAddr ok reason status
  | .config ok reason => s.stepConfig ok reason
  | .addrChange => some (.addrChange, { s with addr := s.addr.addrChanged, unrefreshed := true })

/-- The transitions of the service thread. -/
inductive ThreadStep (s : Detection) : ThreadEvent → Detection → Prop
  | start : s.thread = .notStarted → s.shell.pc = .initReturned → s.shell.readyToRun = true →
      ThreadStep s .start { s with thread := .createAddrThread }
  | createAddrThread : s.thread = .createAddrThread →
      ThreadStep s .createAddrThread
        { s with addr := { s.addr with pc := .createEvent }, thread := .createConfigThread }
  | createConfigThread : s.thread = .createConfigThread →
      ThreadStep s .createConfigThread
        { s with config := { s.config with pc := .findFirst }, thread := .run }
  | runReturn (ok : Bool) : s.thread = .run → s.shell.pc = .runReturned ok →
      ThreadStep s (.runReturn ok) { s with thread := .stopConfig }
  | stopConfig : s.thread = .stopConfig →
      ThreadStep s .stopConfig { s with stopConfigChangeDetection := true, thread := .joinConfig }
  | joinConfig : s.thread = .joinConfig → s.config.pc = .exited →
      ThreadStep s .joinConfig { s with thread := .stopAddr }
  | stopAddr : s.thread = .stopAddr →
      ThreadStep s .stopAddr { s with stopAddrChangeDetection := true, thread := .joinAddr }
  | joinAddr : s.thread = .joinAddr → s.addr.pc = .exited → s.shell.pc = .runReturned true →
      ThreadStep s .joinAddr { s with thread := .returned }
  | joinAddrFailed : s.thread = .joinAddr → s.addr.pc = .exited → s.shell.pc ≠ .runReturned true →
      ThreadStep s .joinAddr { s with thread := .setServiceStatus }
  | setServiceStatus : s.thread = .setServiceStatus →
      ThreadStep s .setServiceStatus { s with thread := .returned }

inductive Step (L : Libraries) (s : Detection) : DetectionEvent → Detection → Prop
  | shell (a : Act) (e : Event) (t : Shell) : s.shellEnabled a = true → s.shell.step L a = some (e, t) →
      Step L s (.shell e) (s.observe e t)
  | thread (e : ThreadEvent) (s' : Detection) : s.ThreadStep e s' → Step L s (.thread e) s'
  | addr (e : AddrEvent) (w : AddrWatcher) : e ≠ .requestRestart →
      s.addr.Step s.stopAddrChangeDetection e w → Step L s (.addr e) { s with addr := w }
  | addrRestart : s.addr.pc = .requestRestart →
      Step L s (.addr .requestRestart)
        { s with
          shell := s.shell.requestRestart kNetworkChangeCooldownMs
          addr := { s.addr with pc := .resetEvent }
          rearmMs := 0 }
  | config (e : ConfigEvent) (w : ConfigWatcher) : e ≠ .requestRestart →
      s.config.Step s.stopConfigChangeDetection e w → Step L s (.config e) { s with config := w }
  | configRestart : s.config.pc = .requestRestart →
      Step L s (.config .requestRestart)
        { s with shell := s.shell.requestRestart 0, config := { s.config with pc := .findNext } }
  | addrChange : Step L s .addrChange { s with addr := s.addr.addrChanged, unrefreshed := true }

variable {L : Libraries} {s s' : Detection}

theorem observe_shell (s : Detection) (e : Event) (t : Shell) : (s.observe e t).shell = t := by
  cases e <;> rfl

theorem step_of_stepThread {e : ThreadEvent} (h : s.stepThread = some (e, s')) : s.ThreadStep e s' := by
  unfold stepThread at h
  split at h
  case h_1 hPc =>
    split at h <;> cases h
    rename_i hInit
    exact .start hPc hInit.1 hInit.2
  case h_2 hPc =>
    cases h
    exact .createAddrThread hPc
  case h_3 hPc =>
    cases h
    exact .createConfigThread hPc
  case h_4 hPc =>
    split at h <;> cases h
    exact .runReturn _ hPc ‹_›
  case h_5 hPc =>
    cases h
    exact .stopConfig hPc
  case h_6 hPc =>
    split at h <;> cases h
    exact .joinConfig hPc ‹_›
  case h_7 hPc =>
    cases h
    exact .stopAddr hPc
  case h_8 hPc =>
    split at h <;> cases h
    rename_i hExited
    split
    · exact .joinAddr hPc hExited ‹_›
    · exact .joinAddrFailed hPc hExited ‹_›
  case h_9 hPc =>
    cases h
    exact .setServiceStatus hPc
  case h_10 => cases h

theorem step_of_stepAddr {ok : Bool} {reason : Bytes} {status : Int} {e : DetectionEvent}
    (h : s.stepAddr ok reason status = some (e, s')) : Step L s e s' := by
  obtain ⟨⟨e', w⟩, hAddr, hResult⟩ := Option.map_eq_some_iff.mp h
  have hStep := AddrWatcher.step_cases hAddr
  split at hResult
  · rename_i hEvent
    change e' = .requestRestart at hEvent
    subst hEvent
    cases hResult
    cases hStep with
    | requestRestart hPc => exact .addrRestart hPc
  · rename_i hEvent
    cases hResult
    exact .addr _ _ hEvent hStep

theorem step_of_stepConfig {ok : Bool} {reason : Bytes} {e : DetectionEvent}
    (h : s.stepConfig ok reason = some (e, s')) : Step L s e s' := by
  obtain ⟨⟨e', w⟩, hConfig, hResult⟩ := Option.map_eq_some_iff.mp h
  have hStep := ConfigWatcher.step_cases hConfig
  split at hResult
  · rename_i hEvent
    change e' = .requestRestart at hEvent
    subst hEvent
    cases hResult
    cases hStep with
    | requestRestart hPc => exact .configRestart hPc
    | failed _ _ _ _ hFailed => cases hFailed
  · rename_i hEvent
    cases hResult
    exact .config _ _ hEvent hStep

theorem step_cases {a : DetectionAct} {e : DetectionEvent} (h : s.step L a = some (e, s')) :
    Step L s e s' := by
  cases a with
  | shell a =>
    simp only [step, stepShell] at h
    split at h
    · rename_i hEnabled
      obtain ⟨⟨e, t⟩, hShell, hResult⟩ := Option.map_eq_some_iff.mp h
      cases hResult
      exact .shell a e t hEnabled hShell
    · cases h
  | thread =>
    obtain ⟨⟨e, t⟩, hThread, hResult⟩ := Option.map_eq_some_iff.mp h
    cases hResult
    exact .thread e t (step_of_stepThread hThread)
  | addr ok reason status => exact step_of_stepAddr h
  | config ok reason => exact step_of_stepConfig h
  | addrChange =>
    cases h
    exact .addrChange

end Detection

def brokerDetection (L : Libraries) (defaultCid : Uuid) : System Detection DetectionEvent where
  initial s := s.shell.Constructed defaultCid ∧ s.thread = .notStarted ∧
    s.addr = ⟨.notCreated, .none, false, []⟩ ∧ s.config = ⟨.notCreated, .none, []⟩ ∧
    s.stopAddrChangeDetection = false ∧ s.stopConfigChangeDetection = false
  next s e s' := ∃ a, s.step L a = some (e, s')

namespace AddrWatcher

def Coherent (w : AddrWatcher) : Prop :=
  match w.pc with
  | .notCreated | .createEvent => w.event = .none ∧ w.pending = false
  | .notifyFirst | .notifyNext => w.event = .opened false ∧ w.pending = false
  | .stopCheck | .wait =>
    w.event = .opened false ∧ w.pending = true ∨ w.event = .opened true ∧ w.pending = false
  | .requestRestart | .resetEvent => w.event = .opened true ∧ w.pending = false
  | .cancel => w.event.isOpened = true
  | .close => w.event.isOpened = true ∧ w.pending = false
  | .exited => w.pending = false

variable {w w' : AddrWatcher} {stop : Bool} {e : AddrEvent}

theorem isOpened_set (handle : EventHandle) : handle.set.isOpened = handle.isOpened := by
  cases handle <;> rfl

theorem Step.coherent (hStep : Step stop w e w') (h : w.Coherent) : w'.Coherent := by
  unfold Coherent at h
  cases hStep with
  | createEvent hPc =>
    simp only [hPc] at h
    exact ⟨rfl, h.2⟩
  | createEventFailed m hPc | notifyFirstFailed m hPc =>
    simp only [hPc] at h
    exact h.2
  | notifyFirst hPc | notifyNext hPc =>
    simp only [hPc] at h
    exact .inl ⟨h.1, rfl⟩
  | stopSeen hPc =>
    simp only [hPc] at h
    change w.event.isOpened = true
    rcases h with ⟨hEvent, -⟩ | ⟨hEvent, -⟩ <;> rw [hEvent] <;> rfl
  | stopNotSeen hPc | waitTimeout hPc =>
    simp only [hPc] at h
    exact h
  | waitFailed m hPc =>
    simp only [hPc] at h
    change w.event.isOpened = true
    rcases h with ⟨hEvent, -⟩ | ⟨hEvent, -⟩ <;> rw [hEvent] <;> rfl
  | waitSignalled m hPc hSignalled =>
    simp only [hPc] at h
    rcases h with ⟨hEvent, -⟩ | hSet
    · rw [hSignalled] at hEvent
      cases hEvent
    · exact hSet
  | requestRestart hPc =>
    simp only [hPc] at h
    exact h
  | resetEvent hPc =>
    simp only [hPc] at h
    exact ⟨rfl, h.2⟩
  | notifyNextFailed m hPc =>
    simp only [hPc] at h
    change w.event.isOpened = true
    rw [h.1]
    rfl
  | cancel hPc =>
    simp only [hPc] at h
    exact ⟨h, rfl⟩
  | close hPc =>
    simp only [hPc] at h
    exact h.2

theorem Coherent.addrChanged (h : w.Coherent) : w.addrChanged.Coherent := by
  unfold AddrWatcher.addrChanged
  split
  · rename_i hPending
    unfold Coherent at h ⊢
    cases hPc : w.pc with
    | stopCheck | wait =>
      simp only [hPc] at h ⊢
      rcases h with ⟨hEvent, -⟩ | ⟨-, hNot⟩
      · rw [hEvent]
        exact .inr ⟨rfl, trivial⟩
      · rw [hPending] at hNot
        cases hNot
    | cancel =>
      simp only [hPc] at h ⊢
      rw [isOpened_set]
      exact h
    | exited => rfl
    | _ =>
      simp only [hPc] at h
      rw [hPending] at h
      cases h.2
  · exact h

end AddrWatcher

def DetectionEvent.shellEvent? : DetectionEvent → Option Event
  | .shell e => some e
  | .addr .requestRestart => some (.requestRestart kNetworkChangeCooldownMs)
  | .config .requestRestart => some (.requestRestart 0)
  | _ => none

/-- The threads only call into the shell: what the shell does here is a run of the shell. -/
theorem detection_shell {L : Libraries} {defaultCid : Uuid} {tr : List DetectionEvent} {s : Detection}
    (h : (brokerDetection L defaultCid).Run tr s) :
    (brokerShell L defaultCid).Run (tr.filterMap DetectionEvent.shellEvent?) s.shell := by
  refine System.Run.project (S := brokerShell L defaultCid) (T := brokerDetection L defaultCid)
    Detection.shell DetectionEvent.shellEvent? (fun _ h0 => h0.1) ?_ h
  rintro t d t' ⟨a, hStep⟩
  cases Detection.step_cases hStep with
  | shell a e u _ hShell => exact .inl ⟨e, rfl, a, by rw [Detection.observe_shell]; exact hShell⟩
  | thread e t' hThread => exact .inr ⟨rfl, by cases hThread <;> rfl⟩
  | addr e w hNe =>
    refine .inr ⟨?_, rfl⟩
    cases e with
    | requestRestart => exact absurd rfl hNe
    | _ => rfl
  | addrRestart => exact .inl ⟨_, rfl, .requestRestart kNetworkChangeCooldownMs, rfl⟩
  | config e w hNe =>
    refine .inr ⟨?_, rfl⟩
    cases e with
    | requestRestart => exact absurd rfl hNe
    | _ => rfl
  | configRestart => exact .inl ⟨_, rfl, .requestRestart 0, rfl⟩
  | addrChange => exact .inr ⟨rfl, rfl⟩

def sampleDetection (text : String) : Detection where
  shell := sampleShell text
  thread := .notStarted
  addr := ⟨.notCreated, .none, false, []⟩
  config := ⟨.notCreated, .none, []⟩
  stopAddrChangeDetection := false
  stopConfigChangeDetection := false
  unrefreshed := false
  rearmMs := 0

theorem sampleDetection_initial (text : String) :
    (brokerDetection .sample sampleConfig.defaultCid).initial (sampleDetection text) :=
  ⟨sampleShell_constructed text, rfl, rfl, rfl, rfl, rfl⟩

theorem exists_sample_detection {P : List DetectionEvent → Detection → Prop} [∀ tr s, Decidable (P tr s)]
    (acts : List DetectionAct)
    (h : (System.exec (Detection.step .sample) (sampleDetection "\x7b\x7d") acts).any
      (fun r => decide (P r.1 r.2)) = true) :
    ∃ tr s, (brokerDetection .sample sampleConfig.defaultCid).Run tr s ∧ P tr s :=
  System.Run.exists_of_exec (S := brokerDetection .sample sampleConfig.defaultCid)
    (fun _ a _ _ hStep => ⟨a, hStep⟩) acts (sampleDetection_initial _) h

def shellActs (n : Nat) : List DetectionAct := List.replicate n (.shell (.main true []))

def threadActs (n : Nat) : List DetectionAct := List.replicate n .thread

def addrActs (n : Nat) : List DetectionAct := List.replicate n (.addr true [] 0)

def configActs (n : Nat) : List DetectionAct := List.replicate n (.config true [])

/-- `Init`, the service thread up to `Run`, and the first registration. -/
def startActs : List DetectionAct := shellActs 6 ++ threadActs 3 ++ addrActs 2

/-- A whole life of the service. -/
def lifeActs : List DetectionAct :=
  startActs ++ shellActs 4 ++ .shell .asyncShutdown :: shellActs 3 ++ threadActs 2 ++ configActs 2 ++
    threadActs 2 ++ addrActs 3 ++ threadActs 1

end RdmnetBroker
