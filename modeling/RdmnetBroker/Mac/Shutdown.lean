import RdmnetBroker.Mac.Service
import RdmnetBroker.Shell.Progress

/-! # How the macOS service ends

`main` closes the log once the run loop has returned, and the run loop returns only
when a handler has waited for the thread of the shell. The wait ends, unless the signal
has interrupted `main` between taking `lock_` and releasing it.
-/

namespace RdmnetBroker

open Library

set_option autoImplicit false

/-- Where `main` is when `Start` has succeeded. -/
def MacPc.afterStart : MacPc → Bool
  | .addObserver | .runLoopRun | .runLoop | .lock | .lockedRequestRestart => true
  | .deinit ok | .exited ok => ok
  | _ => false

/-- Where `main` is when the observer has been added. -/
def MacPc.afterAddObserver : MacPc → Bool
  | .runLoopRun | .runLoop | .lock | .lockedRequestRestart => true
  | .deinit ok | .exited ok => ok
  | _ => false

namespace MacService

variable {L : Libraries} {s s' : MacService}

/-- Where the thread of the shell is, by the program points of `main` and of the handler. -/
structure Placed (s : MacService) : Prop where
  started : s.shellStarted = s.main.afterStart
  notStarted : s.main ≠ .init → s.shellStarted = false → s.shell.pc = .initReturned
  notDeinited : s.shell.pc ≠ .deinitReturned
  interrupted : s.handler ≠ .idle → s.main.handlesSigterm = true
  stopped : s.stopped = true → s.main.afterAddObserver = true ∧
    (s.handler = .idle → s.shell.pc.isRunReturned = true)
  unobserved : s.main.afterAddObserver = true → s.observing = false → s.handler = .idle →
    s.shell.pc.isRunReturned = true
  finished : s.main = .deinit true ∨ s.main = .exited true → s.shell.pc.isRunReturned = true

theorem observe_eq (s : MacService) (e : Event) (t : Shell) :
    ∃ unrefreshed, s.observe e t = { s with shell := t, unrefreshed := unrefreshed } := by
  cases e <;> exact ⟨_, rfl⟩

theorem shell_pc_of_not_main {t t' : Shell} {a : Act} {e : Event} (h : t.step L a = some (e, t'))
    (hNotMain : ∀ ok reason, a ≠ .main ok reason) : t'.pc = t.pc := by
  cases a with
  | main ok reason => exact absurd rfl (hNotMain ok reason)
  | _ =>
    cases h
    rfl

/-- A thread that is not started, or has returned, stays where it is. -/
theorem shell_pc_eq {a : Act} {e : Event} {t : Shell} (hEnabled : s.shellEnabled a = true)
    (h : s.shell.step L a = some (e, t))
    (hAt : s.shell.pc = .initReturned ∧ s.shellStarted = false ∨ s.shell.pc.isRunReturned = true) :
    t.pc = s.shell.pc := by
  apply shell_pc_of_not_main h
  rintro ok reason rfl
  unfold shellEnabled at hEnabled
  rcases hAt with ⟨hPc, hStarted⟩ | hPc
  · simp [hPc, hStarted] at hEnabled
  · unfold Pc.isRunReturned at hPc
    split at hPc
    · rename_i hAt
      simp [hAt] at hEnabled
    · cases hPc

theorem Placed.shell {a : Act} {e : Event} {t : Shell} (h : s.Placed) (hEnabled : s.shellEnabled a = true)
    (hNext : s.shell.step L a = some (e, t)) (hStep : Shell.Step L s.shell e t) :
    (s.observe e t).Placed := by
  have hReturned : s.shell.pc.isRunReturned = true → t.pc.isRunReturned = true := by
    intro hPc
    rw [shell_pc_eq hEnabled hNext (.inr hPc)]
    exact hPc
  obtain ⟨unrefreshed, hEq⟩ := s.observe_eq e t
  rw [hEq]
  constructor
  · exact h.started
  · intro hMain hStarted
    have hPc := h.notStarted hMain hStarted
    change t.pc = _
    rw [shell_pc_eq hEnabled hNext (.inl ⟨hPc, hStarted⟩)]
    exact hPc
  · refine hStep.pc_ne_deinitReturned h.notDeinited fun ok hPc => ?_
    exact shell_pc_eq hEnabled hNext (.inr (by rw [hPc]; rfl))
  · exact h.interrupted
  · intro hStopped
    obtain ⟨hMain, hIdle⟩ := h.stopped hStopped
    exact ⟨hMain, fun hHandler => hReturned (hIdle hHandler)⟩
  · intro hMain hObserving hHandler
    exact hReturned (h.unobserved hMain hObserving hHandler)
  · intro hMain
    exact hReturned (h.finished hMain)

theorem Placed.main {e : MacMainEvent} (h : s.Placed) (hHandler : s.handler = .idle)
    (hStep : s.MainStep e s') : s'.Placed := by
  obtain ⟨hStarted, hNotStarted, hNotDeinited, hInterrupted, hStopped, hUnobserved, hFinished⟩ := h
  cases hStep with
  | runLoopReturn hPc hWhy =>
    -- Only a handler stops the loop or removes the observer, and it has waited for the shell.
    have hReturned : s.shell.pc.isRunReturned = true := by
      rcases hWhy with hWhy | hWhy
      · exact (hStopped hWhy).2 hHandler
      · exact hUnobserved (by rw [hPc]; rfl) hWhy hHandler
    constructor <;> simp_all [MacPc.afterStart, MacPc.afterAddObserver]
  | requestRestart hPc =>
    have hPcEq : (s.shell.requestRestart kNetworkChangeCooldownMs).pc = s.shell.pc := rfl
    constructor <;> simp_all [MacPc.afterStart, MacPc.afterAddObserver]
  | _ => constructor <;> simp_all [MacPc.afterStart, MacPc.afterAddObserver]

theorem isRunReturned_of_joinReturns (h : s.joinReturns = true) (hStarted : s.shellStarted = true) :
    s.shell.pc.isRunReturned = true := by
  unfold joinReturns at h
  rw [hStarted] at h
  exact h

theorem afterStart_of_afterAddObserver {pc : MacPc} (h : pc.afterAddObserver = true) :
    pc.afterStart = true := by
  cases pc with
  | deinit ok | exited ok => exact h
  | init | signal | start | addObserver => cases h
  | _ => rfl

theorem afterAddObserver_of_inRunLoop {pc : MacPc} (h : pc.inRunLoop = true) :
    pc.afterAddObserver = true := by
  cases pc with
  | runLoop | lock | lockedRequestRestart => rfl
  | _ => cases h

theorem Placed.handler {e : HandlerEvent} (h : s.Placed) (hStep : s.HandlerStep e s') : s'.Placed := by
  obtain ⟨hStarted, hNotStarted, hNotDeinited, hInterrupted, hStopped, hUnobserved, hFinished⟩ := h
  cases hStep with
  | removeObserver hPc => constructor <;> simp_all
  | runLoopStop hPc =>
    refine ⟨hStarted, hNotStarted, hNotDeinited, fun _ => hInterrupted (by simp [hPc]), ?_, ?_, hFinished⟩
    · intro hStop
      constructor
      · rcases Bool.or_eq_true_iff.mp hStop with hBefore | hInLoop
        · exact (hStopped hBefore).1
        · exact afterAddObserver_of_inRunLoop hInLoop
      · intro hIdle
        cases hIdle
    · intro _ _ hIdle
      cases hIdle
  | asyncShutdown hPc =>
    have hPcEq : s.shell.asyncShutdown.pc = s.shell.pc := rfl
    constructor <;> simp_all
  | join hPc hJoin =>
    have hReturned : s.main.afterAddObserver = true → s.shell.pc.isRunReturned = true := by
      intro hMain
      exact isRunReturned_of_joinReturns hJoin (hStarted.trans (afterStart_of_afterAddObserver hMain))
    constructor
    · exact hStarted
    · exact hNotStarted
    · exact hNotDeinited
    · intro hIdle
      exact absurd rfl hIdle
    · intro hStop
      have hMain := (hStopped hStop).1
      exact ⟨hMain, fun _ => hReturned hMain⟩
    · intro hMain _ _
      exact hReturned hMain
    · exact hFinished

theorem Step.placed {e : MacEvent} (hStep : Step L s e s') (h : s.Placed)
    (hShell : ∀ {a e t}, s.shell.step L a = some (e, t) → Shell.Step L s.shell e t) : s'.Placed := by
  cases hStep with
  | shell a e t hEnabled hNext => exact h.shell hEnabled hNext (hShell hNext)
  | main e s' hIdle hMain => exact h.main hIdle hMain
  | sigterm hIdle hTaken =>
    obtain ⟨hStarted, hNotStarted, hNotDeinited, -, hStopped, hUnobserved, hFinished⟩ := h
    constructor <;> simp_all
  | handler e s' hHandler => exact h.handler hHandler
  | networkChange =>
    obtain ⟨hStarted, hNotStarted, hNotDeinited, hInterrupted, hStopped, hUnobserved, hFinished⟩ := h
    exact ⟨hStarted, hNotStarted, hNotDeinited, hInterrupted, hStopped, hUnobserved, hFinished⟩

end MacService

section Runs

variable {L : Libraries} {defaultCid : Uuid} {tr : List MacEvent} {s : MacService}

theorem run_placed (h : (macService L defaultCid).Run tr s) : s.Placed := by
  refine h.invariant (I := fun _ s => s.Placed) ?_ ?_
  · rintro s ⟨hShell, hMain, hHandler, hStarted, hObserving, -, hStopped⟩
    have hPc := hShell.pc_eq
    constructor <;> simp_all [MacPc.afterStart, MacPc.afterAddObserver]
  · rintro tr s e s' hRun ih ⟨a, hStep⟩
    exact (MacService.step_cases hStep).2.placed ih fun hNext => run_step (macService_shell hRun) ⟨_, hNext⟩

end Runs

/-- A `SIGTERM` was taken after the observer had been added. -/
def SignalledInRun (tr : List MacEvent) : Prop :=
  ∃ post pc pre, tr = post ++ .sigterm pc :: pre ∧ .main .addObserver ∈ pre

theorem SignalledInRun.cons {tr : List MacEvent} (e : MacEvent) (h : SignalledInRun tr) :
    SignalledInRun (e :: tr) := by
  obtain ⟨post, pc, pre, rfl, hMem⟩ := h
  exact ⟨e :: post, pc, pre, rfl, hMem⟩

namespace MacService

variable {L : Libraries} {s s' : MacService} {tr : List MacEvent}

/-- What the trace shows when something can make the run loop return. -/
structure Signalled (s : MacService) (tr : List MacEvent) : Prop where
  observed : s.main.afterAddObserver = true → .main .addObserver ∈ tr
  handling : s.main.afterAddObserver = true → s.handler ≠ .idle → SignalledInRun tr
  stopped : s.stopped = true → SignalledInRun tr
  unobserved : s.main.afterAddObserver = true → s.observing = false → SignalledInRun tr
  finished : s.main = .deinit true ∨ s.main = .exited true → SignalledInRun tr

/-- Steps that leave `main`, the handler and what they share alone. -/
theorem Signalled.cons (e : MacEvent) (h : s.Signalled tr) (hMain : s'.main = s.main)
    (hHandler : s'.handler = s.handler) (hStopped : s'.stopped = s.stopped)
    (hObserving : s'.observing = s.observing) : s'.Signalled (e :: tr) := by
  constructor
  · rw [hMain]
    exact fun hAfter => List.mem_cons_of_mem _ (h.observed hAfter)
  · rw [hMain, hHandler]
    exact fun hAfter hBusy => (h.handling hAfter hBusy).cons e
  · rw [hStopped]
    exact fun hStop => (h.stopped hStop).cons e
  · rw [hMain, hObserving]
    exact fun hAfter hUnobserved => (h.unobserved hAfter hUnobserved).cons e
  · rw [hMain]
    exact fun hFinished => (h.finished hFinished).cons e

theorem Signalled.main {e : MacMainEvent} (h : s.Signalled tr) (hIdle : s.handler = .idle)
    (hStep : s.MainStep e s') : s'.Signalled (.main e :: tr) := by
  obtain ⟨hObserved, -, hStopped, hUnobserved, hFinished⟩ := h
  have hCons : SignalledInRun tr → SignalledInRun (.main e :: tr) := SignalledInRun.cons (.main e)
  cases hStep with
  | runLoopReturn hPc hWhy =>
    have hSignalled : SignalledInRun tr := by
      rcases hWhy with hWhy | hWhy
      · exact hStopped hWhy
      · exact hUnobserved (by rw [hPc]; rfl) hWhy
    constructor <;> simp_all [MacPc.afterAddObserver]
  | deinit ok hPc => cases ok <;> constructor <;> simp_all [MacPc.afterAddObserver]
  | _ => constructor <;> simp_all [MacPc.afterAddObserver]

theorem Signalled.handler {e : HandlerEvent} (h : s.Signalled tr) (hStep : s.HandlerStep e s') :
    s'.Signalled (.handler e :: tr) := by
  obtain ⟨hObserved, hHandling, hStopped, hUnobserved, hFinished⟩ := h
  have hCons : SignalledInRun tr → SignalledInRun (.handler e :: tr) := SignalledInRun.cons (.handler e)
  cases hStep with
  | runLoopStop hPc =>
    refine ⟨fun hAfter => List.mem_cons_of_mem _ (hObserved hAfter), ?_, ?_, ?_, ?_⟩
    · intro hAfter _
      exact hCons (hHandling hAfter (by simp [hPc]))
    · intro hStop
      rcases Bool.or_eq_true_iff.mp hStop with hBefore | hInLoop
      · exact hCons (hStopped hBefore)
      · exact hCons (hHandling (afterAddObserver_of_inRunLoop hInLoop) (by simp [hPc]))
    · exact fun hAfter hUnobs => hCons (hUnobserved hAfter hUnobs)
    · exact fun hFin => hCons (hFinished hFin)
  | _ => constructor <;> simp_all

theorem Step.signalled {e : MacEvent} (hStep : Step L s e s') (h : s.Signalled tr) :
    s'.Signalled (e :: tr) := by
  cases hStep with
  | shell a e t =>
    obtain ⟨unrefreshed, hEq⟩ := s.observe_eq e t
    rw [hEq]
    exact h.cons _ rfl rfl rfl rfl
  | main e s' hIdle hMain => exact h.main hIdle hMain
  | sigterm =>
    refine ⟨fun hAfter => List.mem_cons_of_mem _ (h.observed hAfter), ?_, ?_, ?_, ?_⟩
    · intro hAfter _
      exact ⟨[], s.main, tr, rfl, h.observed hAfter⟩
    · exact fun hStop => (h.stopped hStop).cons _
    · exact fun hAfter hUnobserved => (h.unobserved hAfter hUnobserved).cons _
    · exact fun hFinished => (h.finished hFinished).cons _
  | handler e s' hHandler => exact h.handler hHandler
  | networkChange => exact h.cons _ rfl rfl rfl rfl

end MacService

section Runs

variable {L : Libraries} {defaultCid : Uuid} {tr : List MacEvent} {s : MacService}

theorem run_signalled (h : (macService L defaultCid).Run tr s) : s.Signalled tr := by
  refine h.invariant (I := fun tr s => s.Signalled tr) ?_ ?_
  · rintro s ⟨-, hMain, hHandler, -, -, -, hStopped⟩
    constructor <;> simp_all [MacPc.afterAddObserver]
  · rintro tr s e s' _ ih ⟨a, hStep⟩
    exact (MacService.step_cases hStep).2.signalled ih

theorem brokerStarted_of_isRunReturned {t : Shell} {tr : List Event}
    (h : (brokerShell L defaultCid).Run tr t)
    (hPc : t.pc = .initReturned ∨ t.pc.isRunReturned = true) : t.brokerStarted = false := by
  rw [(run_control h).started_eq]
  unfold Shell.startedAt
  rcases hPc with hPc | hPc
  · rw [hPc]
  · unfold Pc.isRunReturned at hPc
    split at hPc
    · rename_i hAt
      rw [hAt]
    · cases hPc

/-- What holds from the moment when `Run` of the service has returned. -/
structure EndsInOrder (tr : List MacEvent) (s : MacService) : Prop where
  shell_over : ∀ ok, s.main = .deinit ok ∨ s.main = .exited ok →
    s.joinReturns = true ∧ s.shell.brokerStarted = false
  signalled : s.main = .deinit true ∨ s.main = .exited true → SignalledInRun tr

/-- `Deinit` is called, and `main` returns, only when no thread runs the shell any more; and
only a signal that comes after the observer was added makes `Run` succeed. -/
theorem mac_ends_in_order (h : (macService L defaultCid).Run tr s) : EndsInOrder tr s := by
  have hPlaced := run_placed h
  refine ⟨?_, (run_signalled h).finished⟩
  intro ok hMain
  cases ok with
  | true =>
    have hReturned := hPlaced.finished hMain
    refine ⟨?_, brokerStarted_of_isRunReturned (macService_shell h) (.inr hReturned)⟩
    unfold MacService.joinReturns
    rw [hReturned, Bool.or_true]
  | false =>
    have hStarted : s.shellStarted = false := by
      rw [hPlaced.started]
      rcases hMain with hMain | hMain <;> rw [hMain] <;> rfl
    have hPc := hPlaced.notStarted (by rcases hMain with hMain | hMain <;> simp [hMain]) hStarted
    refine ⟨?_, brokerStarted_of_isRunReturned (macService_shell h) (.inl hPc)⟩
    unfold MacService.joinReturns
    rw [hStarted]
    rfl

/-- A whole life: the signal comes in the run loop, and the shell is waited for. -/
theorem mac_ends_in_order_success : ∃ (tr : List MacEvent) (s : MacService), s.main = .exited true ∧
    (macService .sample sampleConfig.defaultCid).Run tr s ∧ EndsInOrder tr s := by
  obtain ⟨tr, s, hRun, hExited⟩ := exists_sample_mac (P := fun _ s => s.main = .exited true)
    (macStartActs ++ .sigterm :: macHandlerActs 3 ++ macShellActs 6 ++ macHandlerActs 1 ++ macMainActs 2)
    (by decide +kernel)
  exact ⟨tr, s, hExited, hRun, mac_ends_in_order hRun⟩

end Runs

/-- The steps of `main`, of its handler and of the thread of the shell. -/
def MacAct.isOwn : MacAct → Bool
  | .shell (.main _ _) | .main _ | .handler => true
  | _ => false

def MacEvent.isOwn : MacEvent → Bool
  | .shell e => e.isMain
  | .main _ | .handler _ => true
  | _ => false

namespace MacService

variable {L : Libraries} {s s' : MacService}

/-- The handler waits for the shell, and the shell for the lock of the interrupted `main`. -/
structure Deadlocked (s : MacService) : Prop where
  waiting : s.handler = .join
  holding : s.main = .lockedRequestRestart
  blocked : s.shell.pc = .timeToRestart ∨ s.shell.pc = .applySettings

theorem Placed.shell_not_ended (h : s.Placed) (hEnded : s.ended = false) : s.shell.pc.ended = false := by
  unfold ended at hEnded
  cases hPc : s.shell.pc with
  | deinitReturned => exact absurd hPc h.notDeinited
  | escaped =>
    simp only [hPc] at hEnded
    cases hEnded
  | _ => rfl

/-- While a handler is under way one of the two threads can go on, or neither ever will. -/
theorem Placed.own_step (h : s.Placed) (hEnded : s.ended = false) (hHandler : s.handler ≠ .idle)
    (hNot : ¬ s.Deadlocked) : ∃ a, a.isOwn = true ∧ (s.step L a).isSome = true := by
  cases hPc : s.handler with
  | idle => exact absurd hPc hHandler
  | removeObserver | runLoopStop | asyncShutdown =>
    refine ⟨.handler, rfl, ?_⟩
    simp [step, hEnded, stepHandler, hPc]
  | join =>
    by_cases hJoin : s.joinReturns = true
    · refine ⟨.handler, rfl, ?_⟩
      simp [step, hEnded, stepHandler, hPc, hJoin]
    · obtain ⟨e, t, hNext⟩ := Shell.exists_main_step (L := L) (h.shell_not_ended hEnded) true []
      refine ⟨.shell (.main true []), rfl, ?_⟩
      have hStarted : s.shellStarted = true ∧ s.shell.pc.isRunReturned = false := by
        simpa [joinReturns] using hJoin
      have hEnabled : s.shellEnabled (.main true []) = true := by
        cases hAt : s.shell.pc with
        | initReturned => simp [shellEnabled, hAt, hStarted.1]
        | timeToRestart =>
          have hFree : s.main ≠ .lockedRequestRestart := fun hHeld => hNot ⟨hPc, hHeld, .inl hAt⟩
          simp [shellEnabled, hAt, lockHeld, hFree]
        | applySettings =>
          have hFree : s.main ≠ .lockedRequestRestart := fun hHeld => hNot ⟨hPc, hHeld, .inr hAt⟩
          simp [shellEnabled, hAt, lockHeld, hFree]
        | runReturned ok =>
          rw [hAt] at hStarted
          cases hStarted.2
        | _ => simp [shellEnabled, hAt]
      simp [step, hEnded, stepShell, hEnabled, hNext]

theorem Deadlocked.joinReturns (h : s.Deadlocked) (hPlaced : s.Placed) : s.joinReturns = false := by
  have hStarted : s.shellStarted = true := by
    rw [hPlaced.started, h.holding]
    rfl
  unfold MacService.joinReturns
  rcases h.blocked with hPc | hPc <;> rw [hStarted, hPc] <;> rfl

theorem Deadlocked.shellEnabled (h : s.Deadlocked) (ok : Bool) (reason : Bytes) :
    s.shellEnabled (.main ok reason) = false := by
  have hHeld : s.lockHeld = true := by
    unfold lockHeld
    rw [h.holding]
    rfl
  unfold MacService.shellEnabled
  rcases h.blocked with hPc | hPc <;> simp [hPc, hHeld]

theorem Deadlocked.no_own_step (h : s.Deadlocked) (hPlaced : s.Placed) {a : MacAct}
    (hOwn : a.isOwn = true) : s.step L a = none := by
  unfold step
  split
  · rfl
  · unfold MacAct.isOwn at hOwn
    split at hOwn
    · simp [stepShell, h.shellEnabled]
    · simp [h.waiting]
    · simp [stepHandler, h.waiting, h.joinReturns hPlaced]
    · cases hOwn

theorem Deadlocked.step (h : s.Deadlocked) (hPlaced : s.Placed) {a : MacAct} {e : MacEvent}
    (hNext : s.step L a = some (e, s')) : e.isOwn = false ∧ s'.Deadlocked := by
  obtain ⟨-, hStep⟩ := step_cases hNext
  cases hStep with
  | shell a e t hEnabled hShell =>
    have hNotMain : ∀ ok reason, a ≠ .main ok reason := by
      rintro ok reason rfl
      rw [h.shellEnabled] at hEnabled
      cases hEnabled
    refine ⟨?_, ?_⟩
    · cases a with
      | main ok reason => exact absurd rfl (hNotMain ok reason)
      | _ =>
        cases hShell
        rfl
    · have hSame := shell_pc_of_not_main hShell hNotMain
      obtain ⟨unrefreshed, hEq⟩ := s.observe_eq e t
      rw [hEq]
      refine ⟨h.waiting, h.holding, ?_⟩
      change t.pc = _ ∨ t.pc = _
      rw [hSame]
      exact h.blocked
  | main e s' hIdle =>
    rw [h.waiting] at hIdle
    cases hIdle
  | sigterm hIdle =>
    rw [h.waiting] at hIdle
    cases hIdle
  | handler e s' hHandler =>
    cases hHandler with
    | join _ hJoin =>
      rw [h.joinReturns hPlaced] at hJoin
      cases hJoin
    | removeObserver hPc | runLoopStop hPc | asyncShutdown hPc =>
      rw [h.waiting] at hPc
      cases hPc
  | networkChange => exact ⟨rfl, h.waiting, h.holding, h.blocked⟩

end MacService

section Runs

variable {L : Libraries} {defaultCid : Uuid} {tr : List MacEvent} {s : MacService}

/-- While a handler is under way the service stands still exactly when the signal has
interrupted `main` inside the lock and the shell wants to take it, and then for ever. -/
theorem mac_stuck_iff (h : (macService L defaultCid).Run tr s) (hHandler : s.handler ≠ .idle)
    (hEnded : s.ended = false) :
    ((∀ a, a.isOwn = true → s.step L a = none) ↔ s.Deadlocked) ∧
      (s.Deadlocked → ∀ a e s', s.step L a = some (e, s') → e.isOwn = false ∧ s'.Deadlocked) := by
  have hPlaced := run_placed h
  constructor
  · constructor
    · intro hStuck
      by_contra hNot
      obtain ⟨a, hOwn, hSome⟩ := hPlaced.own_step (L := L) hEnded hHandler hNot
      rw [hStuck a hOwn] at hSome
      cases hSome
    · intro hDead a hOwn
      exact hDead.no_own_step hPlaced hOwn
  · intro hDead a e s' hNext
    exact hDead.step hPlaced hNext

/-- The signal interrupts the callback of a network change inside `RequestRestart`. -/
theorem mac_stuck_iff_deadlock : ∃ (tr : List MacEvent) (s : MacService), s.Deadlocked ∧
    (macService .sample sampleConfig.defaultCid).Run tr s ∧
      (∀ a, a.isOwn = true → s.step .sample a = none) := by
  obtain ⟨tr, s, hRun, hWaiting, hHolding, hBlocked, hEnded⟩ := exists_sample_mac
    (P := fun _ s => s.handler = .join ∧ s.main = .lockedRequestRestart ∧ s.shell.pc = .timeToRestart ∧
      s.ended = false)
    (macStartActs ++ .networkChange :: macMainActs 2 ++ .sigterm :: macHandlerActs 3) (by decide +kernel)
  have hDead : s.Deadlocked := ⟨hWaiting, hHolding, .inl hBlocked⟩
  have hBusy : s.handler ≠ .idle := by simp [hWaiting]
  exact ⟨tr, s, hDead, hRun, (mac_stuck_iff hRun hBusy hEnded).1.mpr hDead⟩

end Runs

/-- The most steps that `main` can take once the run loop is stopped. -/
def MacPc.stepsLeft : MacPc → Nat
  | .lock => 4
  | .lockedRequestRestart => 3
  | .runLoop => 2
  | .deinit _ => 1
  | _ => 0

theorem MacPc.stepsLeft_le (pc : MacPc) : pc.stepsLeft ≤ 4 := by
  unfold stepsLeft
  split <;> decide

def HandlerPc.stepsLeft : HandlerPc → Nat
  | .removeObserver => 4
  | .runLoopStop => 3
  | .asyncShutdown => 2
  | .join => 1
  | .idle => 0

def MacEvent.isShell : MacEvent → Bool
  | .shell e => e.isMain
  | _ => false

def MacEvent.isMain : MacEvent → Bool
  | .main _ => true
  | _ => false

def MacEvent.isHandler : MacEvent → Bool
  | .handler _ => true
  | _ => false

def MacEvent.isSigterm : MacEvent → Bool
  | .sigterm _ => true
  | _ => false

namespace MacService

variable {L : Libraries} {s s' : MacService}

/-- What a signal that comes inside the run loop, but not inside the lock, leads to. -/
structure Finishing (s : MacService) : Prop where
  main : s.main.inRunLoop = true ∨ s.main = .deinit true ∨ s.main = .exited true
  stops : s.stopped = true ∨
    s.main.inRunLoop = true ∧ (s.handler = .removeObserver ∨ s.handler = .runLoopStop)
  free : s.shell.pc.isRunReturned = true ∨ s.handler ≠ .idle ∧ s.main ≠ .lockedRequestRestart

theorem Finishing.not_deadlocked (h : s.Finishing) : ¬ s.Deadlocked := by
  rintro ⟨-, hHolding, hBlocked⟩
  rcases h.free with hReturned | ⟨-, hFree⟩
  · rcases hBlocked with hPc | hPc <;> rw [hPc] at hReturned <;> cases hReturned
  · exact hFree hHolding

/-- Between two handlers the loop is stopped and the shell has returned. -/
theorem Finishing.of_idle (h : s.Finishing) (hIdle : s.handler = .idle) :
    s.stopped = true ∧ s.shell.pc.isRunReturned = true := by
  constructor
  · rcases h.stops with hStopped | ⟨-, hPc | hPc⟩
    · exact hStopped
    · rw [hIdle] at hPc
      cases hPc
    · rw [hIdle] at hPc
      cases hPc
  · rcases h.free with hReturned | ⟨hBusy, -⟩
    · exact hReturned
    · exact absurd hIdle hBusy

theorem Finishing.main_step {e : MacMainEvent} (h : s.Finishing) (hIdle : s.handler = .idle)
    (hStep : s.MainStep e s') : s'.Finishing ∧ 1 + s'.main.stepsLeft ≤ s.main.stepsLeft := by
  obtain ⟨hStopped, hReturned⟩ := h.of_idle hIdle
  have hMain := h.main
  cases hStep with
  | runLoopReturn hPc =>
    refine ⟨⟨.inr (.inl rfl), .inl hStopped, .inl hReturned⟩, ?_⟩
    rw [hPc]
    exact Nat.le_refl 2
  | callback m _ hNotStopped =>
    rw [hStopped] at hNotStopped
    cases hNotStopped
  | lock hPc =>
    refine ⟨⟨.inl rfl, .inl hStopped, .inl hReturned⟩, ?_⟩
    rw [hPc]
    exact Nat.le_refl 4
  | requestRestart hPc =>
    refine ⟨⟨.inl rfl, .inl hStopped, .inl hReturned⟩, ?_⟩
    rw [hPc]
    exact Nat.le_refl 3
  | deinit ok hPc =>
    have hOk : ok = true := by simpa [hPc, MacPc.inRunLoop] using hMain
    subst hOk
    refine ⟨⟨.inr (.inr rfl), .inl hStopped, .inl hReturned⟩, ?_⟩
    rw [hPc]
    exact Nat.le_refl 1
  | _ => simp_all [MacPc.inRunLoop]

theorem Finishing.afterStart (h : s.Finishing) : s.main.afterStart = true := by
  rcases h.main with hMain | hMain | hMain
  · exact afterStart_of_afterAddObserver (afterAddObserver_of_inRunLoop hMain)
  · rw [hMain]
    rfl
  · rw [hMain]
    rfl

theorem Finishing.handler_step {e : HandlerEvent} (h : s.Finishing) (hPlaced : s.Placed)
    (hStep : s.HandlerStep e s') : s'.Finishing := by
  have hMain := h.main
  have hFree : s.shell.pc.isRunReturned = true ∨ s.main ≠ .lockedRequestRestart := h.free.imp id And.right
  cases hStep with
  | removeObserver hPc =>
    refine ⟨hMain, ?_, ?_⟩
    · rcases h.stops with hStopped | ⟨hInLoop, -⟩
      · exact .inl hStopped
      · exact .inr ⟨hInLoop, .inr rfl⟩
    · exact hFree.imp id fun hNot => ⟨fun hIdle => (by cases hIdle), hNot⟩
  | runLoopStop hPc =>
    refine ⟨hMain, ?_, ?_⟩
    · left
      apply Bool.or_eq_true_iff.mpr
      exact h.stops.imp id And.left
    · exact hFree.imp id fun hNot => ⟨fun hIdle => (by cases hIdle), hNot⟩
  | asyncShutdown hPc =>
    refine ⟨hMain, ?_, ?_⟩
    · rcases h.stops with hStopped | ⟨-, hAt | hAt⟩
      · exact .inl hStopped
      · rw [hPc] at hAt
        cases hAt
      · rw [hPc] at hAt
        cases hAt
    · exact hFree.imp id fun hNot => ⟨fun hIdle => (by cases hIdle), hNot⟩
  | join hPc hJoin =>
    refine ⟨hMain, ?_, ?_⟩
    · rcases h.stops with hStopped | ⟨-, hAt | hAt⟩
      · exact .inl hStopped
      · rw [hPc] at hAt
        cases hAt
      · rw [hPc] at hAt
        cases hAt
    · exact .inl (isRunReturned_of_joinReturns hJoin (hPlaced.started.trans h.afterStart))

theorem Step.finishing {e : MacEvent} (hStep : Step L s e s') (hPlaced : s.Placed) (h : s.Finishing) :
    s'.Finishing := by
  cases hStep with
  | shell a e t hEnabled hShell =>
    obtain ⟨unrefreshed, hEq⟩ := s.observe_eq e t
    rw [hEq]
    refine ⟨h.main, h.stops, ?_⟩
    rcases h.free with hReturned | hBusy
    · left
      change t.pc.isRunReturned = true
      rw [shell_pc_eq hEnabled hShell (.inr hReturned)]
      exact hReturned
    · exact .inr hBusy
  | main e s' hIdle hMain => exact (h.main_step hIdle hMain).1
  | sigterm hIdle =>
    obtain ⟨hStopped, hReturned⟩ := h.of_idle hIdle
    exact ⟨h.main, .inl hStopped, .inl hReturned⟩
  | handler e s' hHandler => exact h.handler_step hPlaced hHandler
  | networkChange => exact ⟨h.main, h.stops, h.free⟩

theorem Finishing.own_step (h : s.Finishing) (hPlaced : s.Placed) (hEnded : s.ended = false) :
    ∃ a, a.isOwn = true ∧ (s.step L a).isSome = true := by
  by_cases hIdle : s.handler = .idle
  · obtain ⟨hStopped, -⟩ := h.of_idle hIdle
    refine ⟨.main true, rfl, ?_⟩
    cases hPc : s.main with
    | runLoop => simp [step, hEnded, hIdle, stepMain, hPc, stepRunLoop, hStopped]
    | lock | lockedRequestRestart | deinit => simp [step, hEnded, hIdle, stepMain, hPc]
    | exited ok =>
      unfold ended at hEnded
      rw [hPc] at hEnded
      split at hEnded <;> simp_all
    | _ =>
      have hMain := h.main
      simp [hPc, MacPc.inRunLoop] at hMain
  · exact hPlaced.own_step hEnded hIdle h.not_deadlocked

theorem Step.handler_stepsLeft {e : MacEvent} (hStep : Step L s e s') :
    e.isHandler.toNat + s'.handler.stepsLeft ≤ s.handler.stepsLeft + 4 * e.isSigterm.toNat := by
  cases hStep with
  | shell a e t =>
    obtain ⟨unrefreshed, hEq⟩ := s.observe_eq e t
    rw [hEq]
    exact (Nat.zero_add _).le
  | main e s' _ hMain => cases hMain <;> exact (Nat.zero_add _).le
  | sigterm hIdle =>
    rw [hIdle]
    exact Nat.le_refl 4
  | handler e s' hHandler =>
    cases hHandler <;> rename_i hPc <;> simp_all [HandlerPc.stepsLeft, MacEvent.isHandler]
  | networkChange => exact (Nat.zero_add _).le

end MacService

section Runs

variable {L : Libraries} {defaultCid : Uuid} {tr post mid pre : List MacEvent} {s : MacService} {pc : MacPc}

theorem finishing_since_sigterm (h : (macService L defaultCid).Run (post ++ .sigterm pc :: pre) s)
    (hInLoop : pc.inRunLoop = true) (hFree : pc ≠ .lockedRequestRestart) : s.Finishing := by
  refine h.since (J := fun _ s => s.Finishing) ?_ ?_
  · intro s hRun
    cases hRun with
    | step _ hNext =>
      obtain ⟨a, hStep⟩ := hNext
      cases (MacService.step_cases hStep).2 with
      | sigterm =>
        exact ⟨.inl hInLoop, .inr ⟨hInLoop, .inl rfl⟩, .inr ⟨fun hIdle => (by cases hIdle), hFree⟩⟩
  · rintro post s e s' hRun ih ⟨a, hStep⟩
    exact (MacService.step_cases hStep).2.finishing (run_placed hRun) ih

theorem main_steps_since_sigterm (h : (macService L defaultCid).Run (post ++ .sigterm pc :: pre) s)
    (hInLoop : pc.inRunLoop = true) (hFree : pc ≠ .lockedRequestRestart) :
    post.countP MacEvent.isMain + s.main.stepsLeft ≤ 4 := by
  refine h.countP_add_rank_le (q := fun _ => True) (fun s => s.main.stepsLeft)
    (fun s _ => s.main.stepsLeft_le) ?_ fun _ _ => trivial
  rintro post s e s' hRun - ⟨a, hStep⟩
  cases (MacService.step_cases hStep).2 with
  | shell a e t =>
    obtain ⟨unrefreshed, hEq⟩ := s.observe_eq e t
    rw [hEq]
    exact (Nat.zero_add _).le
  | main e s' hIdle hMain =>
    exact ((finishing_since_sigterm hRun hInLoop hFree).main_step hIdle hMain).2
  | sigterm | networkChange => exact (Nat.zero_add _).le
  | handler e s' hHandler => cases hHandler <;> exact (Nat.zero_add _).le

theorem handler_steps_since (h : (macService L defaultCid).Run (post ++ .handler .asyncShutdown :: pre) s) :
    post.countP MacEvent.isHandler + s.handler.stepsLeft ≤ 1 + 4 * post.countP MacEvent.isSigterm := by
  refine h.since (J := fun post s => post.countP MacEvent.isHandler + s.handler.stepsLeft ≤
    1 + 4 * post.countP MacEvent.isSigterm) ?_ ?_
  · intro s hRun
    cases hRun with
    | step _ hNext =>
      obtain ⟨a, hStep⟩ := hNext
      cases (MacService.step_cases hStep).2 with
      | handler _ _ hHandler =>
        cases hHandler
        exact Nat.le_refl 1
  · rintro post s e s' _ ih ⟨a, hStep⟩
    have hLeft := (MacService.step_cases hStep).2.handler_stepsLeft
    rw [System.countP_cons_toNat, System.countP_cons_toNat]
    omega

theorem shell_steps_since (h : (macService L defaultCid).Run (post ++ .handler .asyncShutdown :: pre) s) :
    post.countP MacEvent.isShell ≤ 14 := by
  have hShell := macService_shell h
  have hCons : (MacEvent.handler .asyncShutdown :: pre).filterMap MacEvent.shellEvent? =
      .asyncShutdown :: pre.filterMap MacEvent.shellEvent? := rfl
  rw [List.filterMap_append, hCons] at hShell
  have hSteps := main_steps_after_asyncShutdown hShell
  have hCount : post.countP MacEvent.isShell ≤
      (post.filterMap MacEvent.shellEvent?).countP Event.isMain := by
    apply System.countP_le_countP_filterMap
    intro e hEvent
    cases e with
    | shell e => exact hEvent
    | _ => cases hEvent
  omega

/-- The process ends by `main` with success, or by what the JSON library throws at a text that
the shell reads. -/
theorem sigterm_ends (h : (macService L defaultCid).Run tr s) (hFinishing : s.Finishing)
    (hEnded : s.ended = true) : s.main = .exited true ∨
      ∃ site file, s.shell.pc = .escaped site ∧ .shell (.confFileRead site file) ∈ tr ∧
        fileEscapes L file = true := by
  unfold MacService.ended at hEnded
  split at hEnded
  case h_1 main site hPc =>
    right
    obtain ⟨file, hRead, hEscapes⟩ := (run_escapeRead (macService_shell h)).escaped site hPc
    refine ⟨site, file, hPc, ?_, hEscapes⟩
    obtain ⟨e, hMem, hLabel⟩ := List.mem_filterMap.mp hRead
    unfold MacEvent.shellEvent? at hLabel
    split at hLabel <;> cases hLabel
    exact hMem
  case h_2 ok hMain _ =>
    left
    have hOk : ok = true := by simpa [hMain, MacPc.inRunLoop] using hFinishing.main
    rw [hMain, hOk]
  case h_3 => cases hEnded

/-- What a signal that comes inside the run loop brings about; `post` is what the run `tr` has
made since the request of its handler. -/
structure SigtermCompletes (L : Libraries) (tr post : List MacEvent) (s : MacService) : Prop where
  shell_bounded : post.countP MacEvent.isShell ≤ 14
  main_bounded : post.countP MacEvent.isMain ≤ 4
  handlers_bounded : post.countP MacEvent.isHandler ≤ 1 + 4 * post.countP MacEvent.isSigterm
  never_stuck : s.ended = false → ∃ a, a.isOwn = true ∧ (s.step L a).isSome = true
  ends : s.ended = true → s.main = .exited true ∨
    ∃ site file, s.shell.pc = .escaped site ∧ .shell (.confFileRead site file) ∈ tr ∧
      fileEscapes L file = true

/-- From the request of its handler on, both threads have a bounded number of steps left, and one
of them can be taken as long as the process has not ended. More signals may come meanwhile. -/
theorem sigterm_completes (hTrace : tr = post ++ .handler .asyncShutdown :: (mid ++ .sigterm pc :: pre))
    (h : (macService L defaultCid).Run tr s) (hInLoop : pc.inRunLoop = true)
    (hFree : pc ≠ .lockedRequestRestart) : SigtermCompletes L tr post s := by
  have hSince : tr = (post ++ .handler .asyncShutdown :: mid) ++ .sigterm pc :: pre := by simp [hTrace]
  have hFinishing : s.Finishing := by
    rw [hSince] at h
    exact finishing_since_sigterm h hInLoop hFree
  have hMain : (post ++ .handler .asyncShutdown :: mid).countP MacEvent.isMain + s.main.stepsLeft ≤ 4 := by
    rw [hSince] at h
    exact main_steps_since_sigterm h hInLoop hFree
  have hEnds := sigterm_ends h hFinishing
  have hPlaced := run_placed h
  rw [hTrace] at h
  have hHandlers := handler_steps_since h
  refine ⟨shell_steps_since h, ?_, ?_, hFinishing.own_step hPlaced, hEnds⟩
  · rw [List.countP_append] at hMain
    omega
  · omega

/-- The signal whose handler made the request that comes before the last `n` steps. -/
def requestedBy? (n : Nat) (tr : List MacEvent) : Option MacPc :=
  match tr.drop n with
  | .handler .asyncShutdown :: .handler .runLoopStop :: .handler .removeObserver :: .sigterm pc :: _ =>
    some pc
  | _ => none

theorem eq_append_of_requestedBy {n : Nat} {tr : List MacEvent} (h : requestedBy? n tr = some pc) :
    ∃ mid pre, tr = tr.take n ++ .handler .asyncShutdown :: (mid ++ .sigterm pc :: pre) := by
  unfold requestedBy? at h
  split at h
  · rename_i pc' pre hDrop
    cases h
    refine ⟨[.handler .runLoopStop, .handler .removeObserver], pre, ?_⟩
    have hSplit := List.take_append_drop n tr
    rw [hDrop] at hSplit
    exact hSplit.symm
  · cases h

/-- A second signal comes while `main` leaves the callback that the first one interrupted. -/
theorem sigterm_completes_twice : ∃ tr post mid pre pc s,
    tr = post ++ .handler .asyncShutdown :: (mid ++ .sigterm pc :: pre) ∧
      (macService .sample sampleConfig.defaultCid).Run tr s ∧ s.main = .exited true ∧
      post.countP MacEvent.isSigterm = 1 ∧ SigtermCompletes .sample tr post s := by
  obtain ⟨tr, s, hRun, hRequested, hExited, hTwice⟩ := exists_sample_mac
    (P := fun tr s => requestedBy? 16 tr = some .lock ∧ s.main = .exited true ∧
      (tr.take 16).countP MacEvent.isSigterm = 1)
    (macStartActs ++ .networkChange :: macMainActs 1 ++ .sigterm :: macHandlerActs 3 ++ macShellActs 6 ++
      macHandlerActs 1 ++ macMainActs 1 ++ .sigterm :: macHandlerActs 4 ++ macMainActs 3)
    (by decide +kernel)
  obtain ⟨mid, pre, hTrace⟩ := eq_append_of_requestedBy hRequested
  have hFree : MacPc.lock ≠ .lockedRequestRestart := by decide
  exact ⟨tr, _, mid, pre, .lock, s, hTrace, hRun, hExited, hTwice,
    sigterm_completes hTrace hRun rfl hFree⟩

end Runs

end RdmnetBroker
