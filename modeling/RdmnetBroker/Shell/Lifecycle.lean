import RdmnetBroker.Shell.History

/-! # Startup and Shutdown of the library's broker

`enable_broker` is both what the file asks for and the only record of whether
the broker runs. Over whole runs it is a correct record: the calls of
`Startup` and `Shutdown` are paired, whatever the files and the results of
`Startup` are.
-/

namespace RdmnetBroker

open Library

set_option autoImplicit false

/-- A load has returned and no startup phase has used it. -/
def startupDue : List Event → Bool
  | [] => false
  | .loadReturn _ _ :: _ => true
  | .startup _ _ :: _ => false
  | .startupDisabled :: _ => false
  | _ :: tr => startupDue tr

def Event.isStartupSuccess : Event → Bool
  | .startupReturn true => true
  | _ => false

def Event.isShutdown : Event → Bool
  | .shutdown => true
  | _ => false

namespace Shell

variable {L : Libraries} {tr : List Event} {s s' : Shell} {e : Event}

structure Armed (s : Shell) (tr : List Event) : Prop where
  fresh : s.Fresh → startupDue tr = true
  used : (s.pc = .loopHead ∨ s.pc = .sleep) ∧ s.startupBroker = false ∨ s.pc = .startup ∨
    s.pc = .shutdownCheck ∨ s.pc = .timeToRestart → startupDue tr = false

theorem Step.armed (hStep : Step L s e s') (hControl : s.Control) (h : s.Armed tr) :
    s'.Armed (e :: tr) := by
  obtain ⟨hFresh, hUsed⟩ := h
  obtain ⟨hReady, hDisarmed, _, _⟩ := hControl
  cases hStep with
  | requestRestart | handleScopeChanged | asyncShutdown | tick | writeConf => exact ⟨hFresh, hUsed⟩
  | loadReturn site file messages hPc =>
    cases site <;> exact ⟨fun _ => rfl, by simp [afterLoad]⟩
  | _ => constructor <;> simp_all [Fresh, startupDue]

theorem Constructed.armed {defaultCid : Uuid} (h : s.Constructed defaultCid) : s.Armed [] := by
  constructor <;> simp [Fresh, h.pc_eq]

theorem Step.startup_stopped {settings : Settings} {logMask : Int} (hControl : s.Control)
    (hStep : Step L s (.startup settings logMask) s') : s.brokerStarted = false := by
  cases hStep with
  | startup _ hPc hStartup _ => simp [hControl.started_eq, startedAt, hPc, hStartup]

theorem Step.startupReturn_stopped {ok : Bool} (hControl : s.Control)
    (hStep : Step L s (.startupReturn ok) s') : s.brokerStarted = false := by
  cases hStep with
  | startupReturn hPc => simp [hControl.started_eq, startedAt, hPc]
  | startupFailed _ hPc => simp [hControl.started_eq, startedAt, hPc]

theorem Step.shutdown_started (hControl : s.Control) (hStep : Step L s .shutdown s') :
    s.brokerStarted = true := by
  cases hStep with
  | restartShutdown hPc hEnabled => simp [hControl.started_eq, startedAt, hPc, hEnabled]
  | finalShutdown hPc hEnabled => simp [hControl.started_eq, startedAt, hPc, hEnabled]

end Shell

variable {L : Libraries} {defaultCid : Uuid} {tr : List Event} {s : Shell}

theorem run_armed (h : (brokerShell L defaultCid).Run tr s) : s.Armed tr :=
  (run_invariant (I := fun tr s => s.Control ∧ s.Armed tr)
    (fun _ h0 => ⟨h0.control, h0.armed⟩)
    (fun _ _ _ _ ih hStep => ⟨hStep.control ih.1, hStep.armed ih.1 ih.2⟩) h).2

theorem startup_count (h : (brokerShell L defaultCid).Run tr s) :
    tr.countP Event.isStartupSuccess = tr.countP Event.isShutdown + (started tr).toNat := by
  refine h.invariant (I := fun tr _ =>
    tr.countP Event.isStartupSuccess = tr.countP Event.isShutdown + (started tr).toNat) ?_ ?_
  · intro _ _
    rfl
  · intro tr s e s' hRun ih hNext
    have hStep := run_step hRun hNext
    have hControl := run_control hRun
    have hStarted := (run_tracks hRun).started_eq
    cases e with
    | startupReturn ok =>
      rw [hStep.startupReturn_stopped hControl] at hStarted
      rw [← hStarted] at ih
      cases ok <;>
        simp [List.countP_cons, started, Event.isStartupSuccess, Event.isShutdown, ← hStarted, ih]
    | shutdown =>
      rw [hStep.shutdown_started hControl] at hStarted
      rw [← hStarted] at ih
      simp [List.countP_cons, started, Event.isStartupSuccess, Event.isShutdown, ih]
    | _ => simpa [List.countP_cons, started, Event.isStartupSuccess, Event.isShutdown] using ih

/-- The calls to the library's broker in a run, and where they leave it. -/
structure Lifecycle (tr : List Event) (s : Shell) : Prop where
  startup_stopped : ∀ post settings logMask pre, tr = post ++ .startup settings logMask :: pre →
    started pre = false
  shutdown_started : ∀ post pre, tr = post ++ .shutdown :: pre → started pre = true
  shutdown_once : tr.countP Event.isStartupSuccess = tr.countP Event.isShutdown + (started tr).toNat
  startup_enabled : ∀ post settings logMask pre, tr = post ++ .startup settings logMask :: pre →
    startupDue pre = true ∧ ∃ c, lastLoad pre = some c ∧ c.enableBroker = true
  startup_disabled : ∀ post pre, tr = post ++ .startupDisabled :: pre →
    startupDue pre = true ∧ ∃ c, lastLoad pre = some c ∧ c.enableBroker = false
  startup_skipped : ∀ post pre, tr = post ++ .startupSkipped :: pre → startupDue pre = false
  stopped_on_return : s.pc = .runReturned true → started tr = false
  enabled_at_check : s.pc = .shutdownCheck → (s.config.enableBroker = true ↔ started tr = true)

theorem run_lifecycle (h : (brokerShell L defaultCid).Run tr s) : Lifecycle tr s := by
  have hControl := run_control h
  have hTracks := run_tracks h
  refine ⟨?_, ?_, startup_count h, ?_, ?_, ?_, ?_, ?_⟩
  · rintro post settings logMask pre rfl
    obtain ⟨s₁, s₂, hRun, hStep⟩ := run_at h
    rw [← (run_tracks hRun).started_eq]
    exact hStep.startup_stopped (run_control hRun)
  · rintro post pre rfl
    obtain ⟨s₁, s₂, hRun, hStep⟩ := run_at h
    rw [← (run_tracks hRun).started_eq]
    exact hStep.shutdown_started (run_control hRun)
  · rintro post settings logMask pre rfl
    obtain ⟨s₁, s₂, hRun, hStep⟩ := run_at h
    obtain ⟨hFresh, _, file, c, hUses, hEnabled, _⟩ := run_startup_uses hRun hStep
    exact ⟨(run_armed hRun).fresh hFresh, c, hUses.load_eq, hEnabled⟩
  · rintro post pre rfl
    obtain ⟨s₁, s₂, hRun, hStep⟩ := run_at h
    cases hStep with
    | startupDisabled _ hPc hStartup hDisabled =>
      have hFresh := Shell.fresh_of_loopHead hPc hStartup
      obtain ⟨file, c, hUses⟩ := run_usesLoad hRun hFresh
      rw [hUses.config_eq] at hDisabled
      exact ⟨(run_armed hRun).fresh hFresh, c, hUses.load_eq, hDisabled⟩
  · rintro post pre rfl
    obtain ⟨s₁, s₂, hRun, hStep⟩ := run_at h
    cases hStep with
    | startupSkipped hPc hStartup => exact (run_armed hRun).used (.inl ⟨.inl hPc, hStartup⟩)
  · intro hPc
    rw [← hTracks.started_eq, hControl.started_eq]
    simp [Shell.startedAt, hPc]
  · intro hPc
    rw [← hTracks.started_eq, hControl.started_eq]
    simp [Shell.startedAt, hPc]

theorem run_lifecycle_returned : ∃ tr s, s.pc = .runReturned true ∧
    tr.countP Event.isStartupSuccess = 1 ∧ Lifecycle tr s := by
  obtain ⟨tr, s, hRun, hPc, hCount⟩ := exists_sample_run
    (P := fun tr s => s.pc = .runReturned true ∧ tr.countP Event.isStartupSuccess = 1)
    "\x7b\x7d" (.asyncShutdown :: mainSteps 13) (by decide +kernel)
  exact ⟨tr, s, hPc, hCount, run_lifecycle hRun⟩

end RdmnetBroker
