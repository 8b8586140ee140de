import RdmnetBroker.Mac.Service
import RdmnetBroker.Shell.Refresh

/-! # The broker on macOS and the network

A change that comes while the observer is registered is delivered to the callback, also one
that comes during the callback of an earlier change, so no timing is assumed here. The
thread of the shell starts before the observer is added: what changes between the first
`Startup` and `CFNotificationCenterAddObserver` is not seen.
-/

namespace RdmnetBroker

open Library

set_option autoImplicit false

def MacEvent.isNetworkChange : MacEvent → Bool
  | .networkChange => true
  | _ => false

def MacEvent.isStartup : MacEvent → Bool
  | .shell (.startup _ _) => true
  | _ => false

/-- The observer was added after the latest `Startup`, and nothing has changed since. -/
def ChangedBeforeObserver (tr : List MacEvent) : Prop :=
  ∃ post pre, tr = post ++ .main .addObserver :: pre ∧
    ∀ e ∈ post, e.isNetworkChange = false ∧ e.isStartup = false

theorem ChangedBeforeObserver.cons {tr : List MacEvent} {e : MacEvent} (h : ChangedBeforeObserver tr)
    (hChange : e.isNetworkChange = false) (hStartup : e.isStartup = false) :
    ChangedBeforeObserver (e :: tr) := by
  obtain ⟨post, pre, rfl, hNone⟩ := h
  refine ⟨e :: post, pre, rfl, ?_⟩
  rw [List.forall_mem_cons]
  exact ⟨⟨hChange, hStartup⟩, hNone⟩

namespace MacService

variable {L : Libraries} {s s' : MacService} {tr : List MacEvent}

/-- The callback of a change is under way. -/
def calling (s : MacService) : Prop := s.main = .lock ∨ s.main = .lockedRequestRestart

/-- Where a change that the running broker has not seen is on its way. -/
def ChangeSeen (s : MacService) (tr : List MacEvent) : Prop :=
  s.observing = true → s.unrefreshed = true → s.shell.Exposed →
    s.notified = true ∨ s.calling ∨ s.shell.WillStop ∨ ChangedBeforeObserver tr

/-- Steps that leave the observer and the shell alone. -/
theorem ChangeSeen.congr {e : MacEvent} (h : s.ChangeSeen tr) (hChange : e.isNetworkChange = false)
    (hStartup : e.isStartup = false) (hShell : s'.shell = s.shell) (hObserving : s'.observing = s.observing)
    (hUnrefreshed : s'.unrefreshed = s.unrefreshed) (hNotified : s'.notified = s.notified)
    (hCalling : s.calling → s'.calling) : s'.ChangeSeen (e :: tr) := by
  unfold ChangeSeen
  rw [hShell, hObserving, hUnrefreshed, hNotified]
  intro hObs hUnref hExposed
  rcases h hObs hUnref hExposed with hNote | hCall | hWill | hMissed
  · exact .inl hNote
  · exact .inr (.inl (hCalling hCall))
  · exact .inr (.inr (.inl hWill))
  · exact .inr (.inr (.inr (hMissed.cons hChange hStartup)))

theorem ChangeSeen.shell {e : Event} {t : Shell} (h : s.ChangeSeen tr) (hStep : Shell.Step L s.shell e t)
    (hControl : s.shell.Control) : (s.observe e t).ChangeSeen (.shell e :: tr) := by
  by_cases hStartup : (MacEvent.shell e).isStartup = true
  · cases e with
    | startup =>
      intro _ hUnrefreshed
      cases hUnrefreshed
    | _ => cases hStartup
  · have hNoStartup : ∀ settings logMask, e ≠ .startup settings logMask := by
      rintro settings logMask rfl
      exact hStartup rfl
    have hEq : s.observe e t = { s with shell := t } := by
      cases e with
      | startup settings logMask => exact absurd rfl (hNoStartup settings logMask)
      | _ => rfl
    rw [hEq]
    intro hObserving hUnrefreshed hExposed
    have hBefore : s.shell.Exposed := by
      rcases hStep.exposed hExposed with hBefore | ⟨settings, logMask, hEvent⟩
      · exact hBefore
      · exact absurd hEvent (hNoStartup settings logMask)
    rcases h hObserving hUnrefreshed hBefore with hNotified | hCalling | hWill | hMissed
    · exact .inl hNotified
    · exact .inr (.inl hCalling)
    · exact .inr (.inr (.inl (hStep.willStop hControl hWill hExposed)))
    · exact .inr (.inr (.inr (hMissed.cons rfl (Bool.eq_false_iff.mpr hStartup))))

theorem ChangeSeen.main {e : MacMainEvent} (h : s.ChangeSeen tr) (hStep : s.MainStep e s') :
    s'.ChangeSeen (.main e :: tr) := by
  cases hStep with
  | addObserver =>
    intro _ _ _
    refine .inr (.inr (.inr ⟨[], tr, rfl, ?_⟩))
    intro e hMem
    cases hMem
  | callback =>
    intro _ _ _
    exact .inr (.inl (.inl rfl))
  | lock =>
    intro _ _ _
    exact .inr (.inl (.inr rfl))
  | requestRestart =>
    intro _ _ _
    exact .inr (.inr (.inl (.inl rfl)))
  | _ =>
    refine h.congr rfl rfl rfl rfl rfl rfl ?_
    rintro (hPc | hPc) <;> simp_all

theorem ChangeSeen.handler {e : HandlerEvent} (h : s.ChangeSeen tr) (hStep : s.HandlerStep e s') :
    s'.ChangeSeen (.handler e :: tr) := by
  cases hStep with
  | removeObserver =>
    intro hObserving
    cases hObserving
  | asyncShutdown =>
    intro _ _ _
    exact .inr (.inr (.inl (.inr (.inr rfl))))
  | runLoopStop | join => exact h.congr rfl rfl rfl rfl rfl rfl id

theorem Step.changeSeen {e : MacEvent} (hStep : Step L s e s') (h : s.ChangeSeen tr)
    (hShell : ∀ {a e t}, s.shell.step L a = some (e, t) → Shell.Step L s.shell e t)
    (hControl : s.shell.Control) : s'.ChangeSeen (e :: tr) := by
  cases hStep with
  | shell a e t _ hNext => exact h.shell (hShell hNext) hControl
  | main e s' _ hMain => exact h.main hMain
  | sigterm => exact h.congr rfl rfl rfl rfl rfl rfl id
  | handler e s' hHandler => exact h.handler hHandler
  | networkChange =>
    intro hObserving _ _
    left
    change s.observing = true at hObserving
    rw [hObserving, Bool.or_true]

/-- Nothing is on its way to the broker: the observer is registered, no change waits for its
callback, no restart is asked for or under way, and the service is not on its way down. -/
structure NetworkQuiescent (s : MacService) : Prop where
  observing : s.observing = true
  notNotified : s.notified = false
  notCalling : ¬ s.calling
  notRequested : s.shell.restartRequested = false
  notRestarting : s.shell.pc ≠ .restartShutdown
  notShuttingDown : s.shell.shutdownRequested = false

end MacService

section Runs

variable {L : Libraries} {defaultCid : Uuid} {tr : List MacEvent} {s : MacService}

theorem run_changeSeen (h : (macService L defaultCid).Run tr s) : s.ChangeSeen tr := by
  refine h.invariant (I := fun tr s => s.ChangeSeen tr) ?_ ?_
  · rintro s ⟨-, -, -, -, hObserving, -⟩ hTrue
    rw [hObserving] at hTrue
    cases hTrue
  · rintro tr s e s' hRun ih ⟨a, hStep⟩
    have hShell := macService_shell hRun
    exact (MacService.step_cases hStep).2.changeSeen ih (fun hNext => run_step hShell ⟨_, hNext⟩)
      (run_control hShell)

/-- A broker that runs in a quiescent state has asked for the network interfaces since the
network last changed, unless that change came before the observer was added and no restart
has come since. -/
theorem mac_network_caughtUp (h : (macService L defaultCid).Run tr s) (hQuiescent : s.NetworkQuiescent)
    (hStarted : s.shell.brokerStarted = true) : s.unrefreshed = false ∨ ChangedBeforeObserver tr := by
  cases hUnrefreshed : s.unrefreshed with
  | false => exact .inl rfl
  | true =>
    right
    rcases run_changeSeen h hQuiescent.observing hUnrefreshed (.inl hStarted) with
      hNotified | hCalling | hWill | hMissed
    · rw [hQuiescent.notNotified] at hNotified
      cases hNotified
    · exact absurd hCalling hQuiescent.notCalling
    · rcases hWill with hRequested | hPc | hShutdown
      · rw [hQuiescent.notRequested] at hRequested
        cases hRequested
      · exact absurd hPc hQuiescent.notRestarting
      · rw [hQuiescent.notShuttingDown] at hShutdown
        cases hShutdown
    · exact hMissed

end Runs

namespace MacService

def isNetworkQuiescent (s : MacService) : Bool :=
  s.observing && !s.notified && s.main == .runLoop && !s.shell.restartRequested &&
    s.shell.pc != .restartShutdown && !s.shell.shutdownRequested

theorem networkQuiescent_of_check {s : MacService} (h : s.isNetworkQuiescent = true) :
    s.NetworkQuiescent := by
  simp only [isNetworkQuiescent, Bool.and_eq_true, beq_iff_eq, bne_iff_ne, Bool.not_eq_true'] at h
  obtain ⟨⟨⟨⟨⟨hObserving, hNotified⟩, hMain⟩, hRequested⟩, hPc⟩, hShutdown⟩ := h
  refine ⟨hObserving, hNotified, ?_, hRequested, hPc, hShutdown⟩
  rintro (hAt | hAt) <;> rw [hMain] at hAt <;> cases hAt

end MacService

/-- A change while the broker runs, the restart that it leads to, and the quiet after it. -/
theorem mac_network_caughtUp_restarted : ∃ (tr : List MacEvent) (s : MacService),
    s.NetworkQuiescent ∧ s.shell.brokerStarted = true ∧ tr.any MacEvent.isNetworkChange = true ∧
      (s.unrefreshed = false ∨ ChangedBeforeObserver tr) := by
  obtain ⟨tr, s, hRun, hCheck, hStarted, hChange⟩ := exists_sample_mac
    (P := fun tr s => s.isNetworkQuiescent = true ∧ s.shell.brokerStarted = true ∧
      tr.any MacEvent.isNetworkChange = true)
    (macStartActs ++ .networkChange :: macMainActs 3 ++ .shell (.tick 5001) :: macShellActs 9)
    (by decide +kernel)
  have hQuiet := MacService.networkQuiescent_of_check hCheck
  exact ⟨tr, s, hQuiet, hStarted, hChange, mac_network_caughtUp hRun hQuiet hStarted⟩

end RdmnetBroker
