import RdmnetBroker.Shell.Steps

/-! # The macOS service

`main` and its signal handler share one thread, and the shell has another. A `SIGTERM`
interrupts `main` wherever it is after `signal` and `main` goes on when the handler
has returned; the handler waits for the thread of the shell, so a lock that `main` holds
at the point of the interrupt is held during the whole wait. `CFRunLoopStop` ends the
run of the loop that is under way and does nothing for a later one, and a run loop
with nothing to watch may return by itself. A signal that comes before `signal`, or that
another thread takes, is not modelled.
-/

namespace RdmnetBroker

open Library

set_option autoImplicit false

def Pc.isRunReturned : Pc → Bool
  | .runReturned _ => true
  | _ => false

/-- `main`, with `Run` and `InterfaceChangeCallback` in their places. -/
inductive MacPc
  | init
  | signal
  | start
  | addObserver
  | runLoopRun
  | runLoop
  | lock
  | lockedRequestRestart
  | deinit (ok : Bool)
  | exited (ok : Bool)
  deriving DecidableEq, Repr

def MacPc.inRunLoop : MacPc → Bool
  | .runLoop | .lock | .lockedRequestRestart => true
  | _ => false

def MacPc.handlesSigterm : MacPc → Bool
  | .init | .signal | .exited _ => false
  | _ => true

inductive HandlerPc
  | idle
  | removeObserver
  | runLoopStop
  | asyncShutdown
  | join
  deriving DecidableEq, Repr

inductive MacMainEvent
  | initReturn (ok : Bool)
  | signal
  | start (ok : Bool)
  | addObserver
  | runLoopRun
  | callback
  | lock
  | requestRestart
  | runLoopReturn
  | deinit
  deriving DecidableEq, Repr

inductive HandlerEvent
  | removeObserver
  | runLoopStop
  | asyncShutdown
  | join
  deriving DecidableEq, Repr

/-- `notified` says that a network change is posted and its callback not yet called.
`unrefreshed`: the network has changed since the last call that refreshes the interfaces.
`messages` is what `main` passed to the logger. -/
structure MacService where
  shell : Shell
  main : MacPc
  handler : HandlerPc
  shellStarted : Bool
  observing : Bool
  notified : Bool
  stopped : Bool
  unrefreshed : Bool
  messages : List LogMessage

/-- `sigterm` names the point of `main` that it interrupts. -/
inductive MacEvent
  | shell (e : Event)
  | main (e : MacMainEvent)
  | sigterm (interrupted : MacPc)
  | handler (e : HandlerEvent)
  | networkChange

inductive MacAct
  | shell (a : Act)
  | main (ok : Bool)
  | sigterm
  | handler
  | networkChange

namespace MacService

def kNetworkChangeCooldownMs : BitVec 32 := 5000

/-- `main` holds `lock_`. Every other critical section is one step. -/
def lockHeld (s : MacService) : Bool := s.main == .lockedRequestRestart

/-- The process is gone: `main` has returned, or an exception has left a thread. -/
def ended (s : MacService) : Bool :=
  match s.shell.pc, s.main with
  | .escaped _, _ => true
  | _, .exited _ => true
  | _, _ => false

def observe (s : MacService) (e : Event) (shell : Shell) : MacService :=
  match e with
  | .startup _ _ => { s with shell := shell, unrefreshed := false }
  | _ => { s with shell := shell }

/-- `Init` runs in `main`, `Run` in the thread of the shell. Restart requests and the request
to shut down come from `main` and from the handler, below. -/
def shellEnabled (s : MacService) : Act → Bool
  | .main _ _ =>
    match s.shell.pc with
    | .initReturned => s.shellStarted
    | .timeToRestart | .applySettings => !s.lockHeld
    | .runReturned _ => false
    | _ => true
  | .handleScopeChanged _ => !s.lockHeld
  | .tick _ | .writeConf _ => true
  | .requestRestart _ | .asyncShutdown => false

def stepShell (L : Libraries) (s : MacService) (a : Act) : Option (MacEvent × MacService) :=
  if s.shellEnabled a then (s.shell.step L a).map fun r => (.shell r.1, s.observe r.1 r.2)
  else none

/-- `CFRunLoopRun`; `finished` says that a loop with nothing to watch returns. -/
def stepRunLoop (s : MacService) (finished : Bool) : Option (MacMainEvent × MacService) :=
  if s.stopped then some (.runLoopReturn, { s with main := .deinit true })
  else if s.observing then
    if s.notified then
      some (.callback,
        { s with
          notified := false
          messages := s.messages ++
            [⟨.info, "A network change was detected - requesting broker restart.", []⟩]
          main := .lock })
    else none
  else if finished then some (.runLoopReturn, { s with main := .deinit true })
  else none

/-- One step of `main`. `ok` is the outcome of the call that it makes, if that can fail. -/
def stepMain (s : MacService) (ok : Bool) : Option (MacMainEvent × MacService) :=
  match s.main with
  | .init =>
    if s.shell.pc = .initReturned then
      if s.shell.readyToRun then some (.initReturn true, { s with main := .signal })
      else some (.initReturn false, { s with main := .exited false })
    else none
  | .signal => some (.signal, { s with main := .start })
  | .start =>
    if ok then some (.start true, { s with shellStarted := true, main := .addObserver })
    else some (.start false, { s with main := .deinit false })
  | .addObserver => some (.addObserver, { s with observing := true, main := .runLoopRun })
  | .runLoopRun => some (.runLoopRun, { s with main := .runLoop })
  | .runLoop => s.stepRunLoop ok
  | .lock => some (.lock, { s with main := .lockedRequestRestart })
  | .lockedRequestRestart =>
    some (.requestRestart,
      { s with shell := s.shell.requestRestart kNetworkChangeCooldownMs, main := .runLoop })
  | .deinit ok => some (.deinit, { s with main := .exited ok })
  | .exited _ => none

/-- `Join` returns at once when the thread was not started. -/
def joinReturns (s : MacService) : Bool := !s.shellStarted || s.shell.pc.isRunReturned

/-- `AsyncShutdown`, called by `HandleSignal`. -/
def stepHandler (s : MacService) : Option (HandlerEvent × MacService) :=
  match s.handler with
  | .idle => none
  | .removeObserver =>
    some (.removeObserver, { s with observing := false, notified := false, handler := .runLoopStop })
  | .runLoopStop =>
    some (.runLoopStop, { s with stopped := s.stopped || s.main.inRunLoop, handler := .asyncShutdown })
  | .asyncShutdown =>
    some (.asyncShutdown, { s with shell := s.shell.asyncShutdown, handler := .join })
  | .join => if s.joinReturns then some (.join, { s with handler := .idle }) else none

def step (L : Libraries) (s : MacService) (a : MacAct) : Option (MacEvent × MacService) :=
  if s.ended then none
  else
    match a with
    | .shell a => s.stepShell L a
    | .main ok => if s.handler = .idle then (s.stepMain ok).map fun r => (.main r.1, r.2) else none
    | .sigterm =>
      if s.handler = .idle ∧ s.main.handlesSigterm = true then
        some (.sigterm s.main, { s with handler := .removeObserver })
      else none
    | .handler => s.stepHandler.map fun r => (.handler r.1, r.2)
    | .networkChange =>
      some (.networkChange, { s with notified := s.notified || s.observing, unrefreshed := true })

/-- The transitions of `main`. -/
inductive MainStep (s : MacService) : MacMainEvent → MacService → Prop
  | initReturn : s.main = .init → s.shell.pc = .initReturned → s.shell.readyToRun = true →
      MainStep s (.initReturn true) { s with main := .signal }
  | initFailed : s.main = .init → s.shell.pc = .initReturned → s.shell.readyToRun = false →
      MainStep s (.initReturn false) { s with main := .exited false }
  | signal : s.main = .signal → MainStep s .signal { s with main := .start }
  | start : s.main = .start →
      MainStep s (.start true) { s with shellStarted := true, main := .addObserver }
  | startFailed : s.main = .start → MainStep s (.start false) { s with main := .deinit false }
  | addObserver : s.main = .addObserver →
      MainStep s .addObserver { s with observing := true, main := .runLoopRun }
  | runLoopRun : s.main = .runLoopRun → MainStep s .runLoopRun { s with main := .runLoop }
  | runLoopReturn : s.main = .runLoop → s.stopped = true ∨ s.observing = false →
      MainStep s .runLoopReturn { s with main := .deinit true }
  | callback (m : LogMessage) : s.main = .runLoop → s.stopped = false → s.observing = true →
      s.notified = true →
      MainStep s .callback { s with notified := false, messages := s.messages ++ [m], main := .lock }
  | lock : s.main = .lock → MainStep s .lock { s with main := .lockedRequestRestart }
  | requestRestart : s.main = .lockedRequestRestart →
      MainStep s .requestRestart
        { s with shell := s.shell.requestRestart kNetworkChangeCooldownMs, main := .runLoop }
  | deinit (ok : Bool) : s.main = .deinit ok → MainStep s .deinit { s with main := .exited ok }

/-- The transitions of the handler. -/
inductive HandlerStep (s : MacService) : HandlerEvent → MacService → Prop
  | removeObserver : s.handler = .removeObserver →
      HandlerStep s .removeObserver
        { s with observing := false, notified := false, handler := .runLoopStop }
  | runLoopStop : s.handler = .runLoopStop →
      HandlerStep s .runLoopStop
        { s with stopped := s.stopped || s.main.inRunLoop, handler := .asyncShutdown }
  | asyncShutdown : s.handler = .asyncShutdown →
      HandlerStep s .asyncShutdown { s with shell := s.shell.asyncShutdown, handler := .join }
  | join : s.handler = .join → s.joinReturns = true → HandlerStep s .join { s with handler := .idle }

inductive Step (L : Libraries) (s : MacService) : MacEvent → MacService → Prop
  | shell (a : Act) (e : Event) (t : Shell) : s.shellEnabled a = true → s.shell.step L a = some (e, t) →
      Step L s (.shell e) (s.observe e t)
  | main (e : MacMainEvent) (s' : MacService) : s.handler = .idle → s.MainStep e s' →
      Step L s (.main e) s'
  | sigterm : s.handler = .idle → s.main.handlesSigterm = true →
      Step L s (.sigterm s.main) { s with handler := .removeObserver }
  | handler (e : HandlerEvent) (s' : MacService) : s.HandlerStep e s' → Step L s (.handler e) s'
  | networkChange :
      Step L s .networkChange { s with notified := s.notified || s.observing, unrefreshed := true }

variable {L : Libraries} {s s' : MacService}

theorem observe_shell (s : MacService) (e : Event) (t : Shell) : (s.observe e t).shell = t := by
  cases e <;> rfl

theorem step_of_stepMain {ok : Bool} {e : MacMainEvent} (h : s.stepMain ok = some (e, s')) :
    s.MainStep e s' := by
  unfold stepMain at h
  split at h
  case h_1 hPc =>
    split at h
    · rename_i hInit
      split at h <;> cases h
      · exact .initReturn hPc hInit ‹_›
      · exact .initFailed hPc hInit (Bool.eq_false_iff.mpr ‹_›)
    · cases h
  case h_2 hPc =>
    cases h
    exact .signal hPc
  case h_3 hPc =>
    split at h <;> cases h
    · exact .start hPc
    · exact .startFailed hPc
  case h_4 hPc =>
    cases h
    exact .addObserver hPc
  case h_5 hPc =>
    cases h
    exact .runLoopRun hPc
  case h_6 hPc =>
    unfold stepRunLoop at h
    split at h
    · cases h
      exact .runLoopReturn hPc (.inl ‹_›)
    · rename_i hStopped
      split at h
      · rename_i hObserving
        split at h <;> cases h
        exact .callback _ hPc (Bool.eq_false_iff.mpr hStopped) hObserving ‹_›
      · rename_i hObserving
        split at h <;> cases h
        exact .runLoopReturn hPc (.inr (Bool.eq_false_iff.mpr hObserving))
  case h_7 hPc =>
    cases h
    exact .lock hPc
  case h_8 hPc =>
    cases h
    exact .requestRestart hPc
  case h_9 ok' hPc =>
    cases h
    exact .deinit ok' hPc
  case h_10 => cases h

theorem step_of_stepHandler {e : HandlerEvent} (h : s.stepHandler = some (e, s')) : s.HandlerStep e s' := by
  unfold stepHandler at h
  split at h
  case h_1 => cases h
  case h_2 hPc =>
    cases h
    exact .removeObserver hPc
  case h_3 hPc =>
    cases h
    exact .runLoopStop hPc
  case h_4 hPc =>
    cases h
    exact .asyncShutdown hPc
  case h_5 hPc =>
    split at h <;> cases h
    exact .join hPc ‹_›

theorem step_cases {a : MacAct} {e : MacEvent} (h : s.step L a = some (e, s')) :
    s.ended = false ∧ Step L s e s' := by
  unfold step at h
  split at h
  · cases h
  · rename_i hEnded
    refine ⟨Bool.eq_false_iff.mpr hEnded, ?_⟩
    split at h
    case h_1 a =>
      unfold stepShell at h
      split at h
      · rename_i hEnabled
        obtain ⟨⟨e, t⟩, hShell, hResult⟩ := Option.map_eq_some_iff.mp h
        cases hResult
        exact .shell a e t hEnabled hShell
      · cases h
    case h_2 ok =>
      split at h
      · rename_i hIdle
        obtain ⟨⟨e, t⟩, hMain, hResult⟩ := Option.map_eq_some_iff.mp h
        cases hResult
        exact .main e t hIdle (step_of_stepMain hMain)
      · cases h
    case h_3 =>
      split at h <;> cases h
      rename_i hTaken
      exact .sigterm hTaken.1 hTaken.2
    case h_4 =>
      obtain ⟨⟨e, t⟩, hHandler, hResult⟩ := Option.map_eq_some_iff.mp h
      cases hResult
      exact .handler e t (step_of_stepHandler hHandler)
    case h_5 =>
      cases h
      exact .networkChange

end MacService

def macService (L : Libraries) (defaultCid : Uuid) : System MacService MacEvent where
  initial s := s.shell.Constructed defaultCid ∧ s.main = .init ∧ s.handler = .idle ∧
    s.shellStarted = false ∧ s.observing = false ∧ s.notified = false ∧ s.stopped = false
  next s e s' := ∃ a, s.step L a = some (e, s')

def MacEvent.shellEvent? : MacEvent → Option Event
  | .shell e => some e
  | .main .requestRestart => some (.requestRestart MacService.kNetworkChangeCooldownMs)
  | .handler .asyncShutdown => some .asyncShutdown
  | _ => none

section Runs

variable {L : Libraries} {defaultCid : Uuid} {tr : List MacEvent} {s s' : MacService} {e : MacEvent}

/-- What the shell does here is a run of the shell. -/
theorem macService_shell (h : (macService L defaultCid).Run tr s) :
    (brokerShell L defaultCid).Run (tr.filterMap MacEvent.shellEvent?) s.shell := by
  refine System.Run.project (S := brokerShell L defaultCid) (T := macService L defaultCid)
    MacService.shell MacEvent.shellEvent? (fun _ h0 => h0.1) ?_ h
  rintro t d t' ⟨a, hStep⟩
  cases (MacService.step_cases hStep).2 with
  | shell a e u _ hShell =>
    refine .inl ⟨e, rfl, a, ?_⟩
    rw [MacService.observe_shell]
    exact hShell
  | main e t' _ hMain =>
    cases hMain with
    | requestRestart => exact .inl ⟨_, rfl, .requestRestart MacService.kNetworkChangeCooldownMs, rfl⟩
    | _ => exact .inr ⟨rfl, rfl⟩
  | sigterm => exact .inr ⟨rfl, rfl⟩
  | handler e t' hHandler =>
    cases hHandler with
    | asyncShutdown => exact .inl ⟨_, rfl, .asyncShutdown, rfl⟩
    | _ => exact .inr ⟨rfl, rfl⟩
  | networkChange => exact .inr ⟨rfl, rfl⟩

end Runs

def sampleMac (text : String) : MacService where
  shell := sampleShell text
  main := .init
  handler := .idle
  shellStarted := false
  observing := false
  notified := false
  stopped := false
  unrefreshed := false
  messages := []

theorem sampleMac_initial (text : String) :
    (macService .sample sampleConfig.defaultCid).initial (sampleMac text) :=
  ⟨sampleShell_constructed text, rfl, rfl, rfl, rfl, rfl, rfl⟩

theorem exists_sample_mac {P : List MacEvent → MacService → Prop} [∀ tr s, Decidable (P tr s)]
    (acts : List MacAct)
    (h : (System.exec (MacService.step .sample) (sampleMac "\x7b\x7d") acts).any
      (fun r => decide (P r.1 r.2)) = true) :
    ∃ tr s, (macService .sample sampleConfig.defaultCid).Run tr s ∧ P tr s :=
  System.Run.exists_of_exec (S := macService .sample sampleConfig.defaultCid)
    (fun _ a _ _ hStep => ⟨a, hStep⟩) acts (sampleMac_initial _) h

def macShellActs (n : Nat) : List MacAct := List.replicate n (.shell (.main true []))

def macMainActs (n : Nat) : List MacAct := List.replicate n (.main true)

def macHandlerActs (n : Nat) : List MacAct := List.replicate n .handler

/-- `Init`, `Run` up to the run loop, and the shell up to its first look at the restart request. -/
def macStartActs : List MacAct := macShellActs 6 ++ macMainActs 5 ++ macShellActs 5

end RdmnetBroker
