import RdmnetBroker.Windows.Teardown

/-! # The threads of the service refine the watcher

The model of the shell with one watcher of the configuration file knows nothing of the
service thread, of the thread that watches the addresses, and of calls that fail. As long as
the calls of the configuration thread succeed, what the whole service does is what that
model does: the addresses' thread is one more caller of `RequestRestart`, and the order
in which `ServiceThread` creates and stops the threads is one that the model allows.
-/

namespace RdmnetBroker

open Library

set_option autoImplicit false

def ConfigPc.watcher : ConfigPc → WatcherPc
  | .notCreated => .notCreated
  | .findFirst => .findFirst
  | .stopCheck => .stopCheck
  | .wait => .wait
  | .requestRestart => .requestRestart
  | .findNext => .findNext
  | .exited => .exited

def ChangeHandle.signalled : ChangeHandle → Bool
  | .opened signalled _ => signalled
  | _ => false

def ChangeHandle.recorded : ChangeHandle → Bool
  | .opened _ recorded => recorded
  | _ => false

def ChangeHandle.isOpened : ChangeHandle → Bool
  | .opened _ _ => true
  | _ => false

/-- What the model of the watcher sees of a step. -/
def DetectionEvent.serviceEvent? : DetectionEvent → Option ServiceEvent
  | .shell e => some (.shell e)
  | .thread .createConfigThread => some .createWatcher
  | .thread .stopConfig => some .stopDetection
  | .addr .requestRestart => some (.shell (.requestRestart kNetworkChangeCooldownMs))
  | .config (.findFirst _) => some .findFirst
  | .config (.stopCheck stop) => some (.stopCheck stop)
  | .config (.waitForSingleObject .signalled) => some (.waitForSingleObject true)
  | .config (.waitForSingleObject .timeout) => some (.waitForSingleObject false)
  | .config .requestRestart => some .requestRestart
  | .config (.findNext _) => some .findNext
  | _ => none

namespace Detection

variable {L : Libraries} {defaultCid : Uuid} {s s' : Detection} {u : Service}

/-- The calls of the configuration thread succeed. -/
def ConfigCallSucceeds (_ : Detection) : DetectionEvent → Prop
  | .config e => e.failed = false ∧ e ≠ .findFirst false
  | _ => True

/-- Where the shell is, by the program point of the service thread. -/
structure Called (s : Detection) : Prop where
  before : 1 ≤ s.thread.index → s.thread.index ≤ 2 →
    s.shell.pc = .initReturned ∧ s.shell.readyToRun = true
  after : 4 ≤ s.thread.index → ∃ ok, s.shell.pc = .runReturned ok

theorem Called.shell {a : Act} {e : Event} {t : Shell} (h : s.Called) (hEnabled : s.shellEnabled a = true)
    (hStep : s.shell.step L a = some (e, t)) : (s.observe e t).Called := by
  -- Neither where `Run` is not yet called nor where it has returned does the main thread move.
  have hKept : (s.shell.pc = .initReturned ∧ s.thread ≠ .run ∨ ∃ ok, s.shell.pc = .runReturned ok) →
      t.pc = s.shell.pc ∧ t.readyToRun = s.shell.readyToRun := by
    intro hAt
    cases a with
    | main ok reason =>
      unfold shellEnabled at hEnabled
      rcases hAt with ⟨hPc, hThread⟩ | ⟨ok', hPc⟩
      · simp [hPc, hThread] at hEnabled
      · simp [hPc] at hEnabled
    | _ =>
      cases hStep
      exact ⟨rfl, rfl⟩
  constructor
  · rw [observe_thread, observe_shell]
    intro hFirst hLast
    obtain ⟨hPc, hReady⟩ := h.before hFirst hLast
    have hThread : s.thread ≠ .run := by
      intro hRun
      rw [hRun] at hLast
      exact absurd hLast (by decide)
    obtain ⟨hSame, hSameReady⟩ := hKept (.inl ⟨hPc, hThread⟩)
    rw [hSame, hSameReady]
    exact ⟨hPc, hReady⟩
  · rw [observe_thread, observe_shell]
    intro hIndex
    obtain ⟨ok, hPc⟩ := h.after hIndex
    refine ⟨ok, ?_⟩
    rw [(hKept (.inr ⟨ok, hPc⟩)).1, hPc]

theorem Step.called {e : DetectionEvent} (hStep : Step L s e s') (h : s.Called) : s'.Called := by
  cases hStep with
  | shell a e t hEnabled hNext => exact h.shell hEnabled hNext
  | thread e s' hThread =>
    obtain ⟨hBefore, hAfter⟩ := h
    cases hThread <;> constructor <;> simp_all [ServicePc.index]
  | addr | config | addrChange => exact ⟨h.before, h.after⟩
  | addrRestart | configRestart => exact ⟨h.before, h.after⟩

/-- The state of the watcher's model that stands for the state of the whole service. -/
structure Follows (s : Detection) (u : Service) : Prop where
  shell : u.shell = s.shell
  watcher : u.watcher = s.config.pc.watcher
  stop : u.stopConfigChangeDetection = s.stopConfigChangeDetection
  signalled : u.signalled = s.config.handle.signalled
  recorded : u.recorded = s.config.handle.recorded
  opened : s.config.handle.isOpened = (s.config.pc.watcher.armed || s.config.pc.watcher.rearming)

theorem Follows.congr (h : s.Follows u) (hShell : s'.shell = s.shell) (hConfig : s'.config = s.config)
    (hStop : s'.stopConfigChangeDetection = s.stopConfigChangeDetection) : s'.Follows u := by
  obtain ⟨hShell', hWatcher, hStop', hSignalled, hRecorded, hOpened⟩ := h
  constructor
  · rw [hShell', hShell]
  · rw [hWatcher, hConfig]
  · rw [hStop', hStop]
  · rw [hSignalled, hConfig]
  · rw [hRecorded, hConfig]
  · rw [hConfig]
    exact hOpened

/-- A write of the file, seen by both. -/
theorem Follows.confWritten (h : s.Follows u) (t : Shell) :
    { s with shell := t, config := s.config.confWritten }.Follows
      { u with shell := t, stale := true }.noteWrite := by
  obtain ⟨-, hWatcher, hStop, hSignalled, hRecorded, hOpened⟩ := h
  cases hHandle : s.config.handle with
  | opened signalled recorded =>
    cases hPc : s.config.pc <;> constructor <;>
      simp_all [ConfigWatcher.confWritten, Service.noteWrite, ConfigPc.watcher, WatcherPc.armed,
        WatcherPc.rearming, ChangeHandle.signalled, ChangeHandle.recorded, ChangeHandle.isOpened]
  | none | invalid =>
    cases hPc : s.config.pc <;> constructor <;>
      simp_all [ConfigWatcher.confWritten, Service.noteWrite, ConfigPc.watcher, WatcherPc.armed,
        WatcherPc.rearming, ChangeHandle.signalled, ChangeHandle.recorded, ChangeHandle.isOpened]

theorem Follows.observe (h : s.Follows u) (e : Event) (t : Shell) :
    (s.observe e t).Follows (u.observe e t) := by
  cases e with
  | writeConf => exact h.confWritten t
  | _ => exact ⟨rfl, h.watcher, h.stop, h.signalled, h.recorded, h.opened⟩

theorem Follows.shellEnabled (h : s.Follows u) (hOrdered : s.Ordered) {a : Act}
    (hEnabled : s.shellEnabled a = true) : u.shellEnabled a = true := by
  cases a with
  | main ok reason =>
    have hShell := h.shell
    have hWatcher := h.watcher
    cases hPc : s.shell.pc with
    | initReturned =>
      have hRun : s.thread = .run := by simpa [Detection.shellEnabled, hPc] using hEnabled
      have hCreated : s.config.pc ≠ .notCreated := by
        rw [ne_eq, hOrdered.config_new, hRun]
        decide
      simp only [Service.shellEnabled, hShell, hPc, hWatcher]
      cases hConfig : s.config.pc with
      | notCreated => exact absurd hConfig hCreated
      | _ => rfl
    | runReturned ok => simp [Detection.shellEnabled, hPc] at hEnabled
    | _ => simp [Service.shellEnabled, hShell, hPc]
  | _ => rfl

end Detection

theorem Service.step_shell {L : Libraries} {u : Service} {a : Act} {e : Event} {t : Shell}
    (hEnabled : u.shellEnabled a = true) (hStep : u.shell.step L a = some (e, t)) :
    u.step L (.shell a) = some (.shell e, u.observe e t) := by
  simp [Service.step, Service.stepShell, hEnabled, hStep]

namespace Detection

variable {L : Libraries} {defaultCid : Uuid} {s s' : Detection} {u : Service}

/-- A step of the whole service is matched by a step of the watcher's model, or by none. -/
def Matched (L : Libraries) (e : DetectionEvent) (s' : Detection) (u : Service) : Prop :=
  (∃ d u', e.serviceEvent? = some d ∧ (∃ a, u.step L a = some (d, u')) ∧ s'.Follows u') ∨
    e.serviceEvent? = none ∧ s'.Follows u

theorem Follows.thread {e : ThreadEvent} (h : s.Follows u) (hOrdered : s.Ordered) (hCalled : s.Called)
    (hStep : s.ThreadStep e s') : Matched L (.thread e) s' u := by
  cases hStep with
  | createConfigThread hPc =>
    have hNew : s.config.pc = .notCreated := by
      rw [hOrdered.config_new, hPc]
      decide
    obtain ⟨hInit, hReady⟩ := hCalled.before (by rw [hPc]; decide) (by rw [hPc]; decide)
    refine .inl ⟨.createWatcher, { u with watcher := .findFirst }, rfl, ⟨.createWatcher, ?_⟩, ?_⟩
    · simp [Service.step, h.watcher, hNew, ConfigPc.watcher, h.shell, hInit, hReady]
    · refine ⟨h.shell, rfl, h.stop, h.signalled, h.recorded, ?_⟩
      have hOpened := h.opened
      rw [hNew] at hOpened
      exact hOpened
  | stopConfig hPc =>
    obtain ⟨ok, hReturned⟩ := hCalled.after (by rw [hPc]; decide)
    refine .inl ⟨.stopDetection, { u with stopConfigChangeDetection := true }, rfl,
      ⟨.stopDetection, ?_⟩, ?_⟩
    · simp [Service.step, h.shell, hReturned]
    · exact ⟨h.shell, h.watcher, rfl, h.signalled, h.recorded, h.opened⟩
  | _ => exact .inr ⟨rfl, h.congr rfl rfl rfl⟩

theorem Follows.config {e : ConfigEvent} {w : ConfigWatcher} (h : s.Follows u)
    (hSucceeds : s.ConfigCallSucceeds (.config e)) (hNe : e ≠ .requestRestart)
    (hStep : s.config.Step s.stopConfigChangeDetection e w) :
    Matched L (.config e) { s with config := w } u := by
  obtain ⟨hShell, hWatcher, hStop, hSignalled, hRecorded, hOpened⟩ := h
  left
  cases hStep with
  | findFirst hPc =>
    refine ⟨.findFirst, { u with watcher := .stopCheck, signalled := false, recorded := false }, rfl,
      ⟨.watcher, ?_⟩, hShell, rfl, hStop, rfl, rfl, rfl⟩
    simp [Service.step, Service.stepWatcher, hWatcher, hPc, ConfigPc.watcher]
  | findFirstFailed => exact absurd rfl hSucceeds.2
  | stopSeen hPc hTold =>
    refine ⟨.stopCheck true, { u with watcher := .exited }, rfl, ⟨.watcher, ?_⟩, hShell, rfl, hStop,
      hSignalled, hRecorded, ?_⟩
    · simp [Service.step, Service.stepWatcher, hWatcher, hPc, ConfigPc.watcher, hStop, hTold]
    · rw [hPc] at hOpened
      exact hOpened
  | stopNotSeen hPc hTold =>
    refine ⟨.stopCheck false, { u with watcher := .wait }, rfl, ⟨.watcher, ?_⟩, hShell, rfl, hStop,
      hSignalled, hRecorded, ?_⟩
    · simp [Service.step, Service.stepWatcher, hWatcher, hPc, ConfigPc.watcher, hStop, hTold]
    · rw [hPc] at hOpened
      exact hOpened
  | failed e m _ _ hFailed =>
    rw [hSucceeds.1] at hFailed
    cases hFailed
  | waitSignalled recorded m hPc hHandle =>
    refine ⟨.waitForSingleObject true, { u with watcher := .requestRestart }, rfl, ⟨.watcher, ?_⟩, hShell,
      rfl, hStop, hSignalled, hRecorded, ?_⟩
    · simp [Service.step, Service.stepWatcher, hWatcher, hPc, ConfigPc.watcher, hSignalled, hHandle,
        ChangeHandle.signalled]
    · rw [hPc] at hOpened
      exact hOpened
  | waitTimeout recorded hPc hHandle =>
    refine ⟨.waitForSingleObject false, { u with watcher := .stopCheck }, rfl, ⟨.watcher, ?_⟩, hShell,
      rfl, hStop, hSignalled, hRecorded, ?_⟩
    · simp [Service.step, Service.stepWatcher, hWatcher, hPc, ConfigPc.watcher, hSignalled, hHandle,
        ChangeHandle.signalled]
    · rw [hPc] at hOpened
      exact hOpened
  | requestRestart => exact absurd rfl hNe
  | findNext hPc =>
    refine ⟨.findNext, { u with watcher := .stopCheck, signalled := u.recorded, recorded := false }, rfl,
      ⟨.watcher, ?_⟩, hShell, rfl, hStop, ?_, ?_, ?_⟩
    · simp [Service.step, Service.stepWatcher, hWatcher, hPc, ConfigPc.watcher]
    · change u.recorded = _
      rw [hRecorded]
      cases s.config.handle <;> rfl
    · cases s.config.handle <;> rfl
    · rw [hPc] at hOpened
      cases hHandle : s.config.handle with
      | opened => rfl
      | none | invalid =>
        rw [hHandle] at hOpened
        cases hOpened

theorem Follows.step {e : DetectionEvent} (h : s.Follows u) (hSucceeds : s.ConfigCallSucceeds e)
    (hOrdered : s.Ordered) (hCalled : s.Called) (hStep : Step L s e s') : Matched L e s' u := by
  cases hStep with
  | shell a e t hEnabled hNext =>
    refine .inl ⟨.shell e, u.observe e t, rfl, ⟨.shell a, ?_⟩, h.observe e t⟩
    rw [← h.shell] at hNext
    exact Service.step_shell (h.shellEnabled hOrdered hEnabled) hNext
  | thread e s' hThread => exact h.thread hOrdered hCalled hThread
  | addr e w hNe =>
    refine .inr ⟨?_, h.congr rfl rfl rfl⟩
    cases e with
    | requestRestart => exact absurd rfl hNe
    | _ => rfl
  | addrRestart =>
    refine .inl ⟨_, _, rfl, ⟨.shell (.requestRestart kNetworkChangeCooldownMs),
      Service.step_shell rfl rfl⟩, ?_⟩
    obtain ⟨hShell, hWatcher, hStop, hSignalled, hRecorded, hOpened⟩ := h
    refine ⟨?_, hWatcher, hStop, hSignalled, hRecorded, hOpened⟩
    change u.shell.requestRestart _ = s.shell.requestRestart _
    rw [hShell]
  | config e w hNe hConfig => exact h.config hSucceeds hNe hConfig
  | configRestart hPc =>
    obtain ⟨hShell, hWatcher, hStop, hSignalled, hRecorded, hOpened⟩ := h
    refine .inl ⟨.requestRestart, { u with shell := u.shell.requestRestart 0, watcher := .findNext }, rfl,
      ⟨.watcher, ?_⟩, ?_, rfl, hStop, hSignalled, hRecorded, ?_⟩
    · simp [Service.step, Service.stepWatcher, hWatcher, hPc, ConfigPc.watcher]
    · change u.shell.requestRestart 0 = s.shell.requestRestart 0
      rw [hShell]
    · rw [hPc] at hOpened
      exact hOpened
  | addrChange => exact .inr ⟨rfl, h.congr rfl rfl rfl⟩

end Detection

section Runs

variable {L : Libraries} {defaultCid : Uuid} {tr : List DetectionEvent} {s : Detection}

theorem run_called (h : (brokerDetection L defaultCid).Run tr s) : s.Called := by
  refine h.invariant (I := fun _ s => s.Called) ?_ ?_
  · rintro s ⟨-, hThread, -⟩
    constructor <;> simp [hThread, ServicePc.index]
  · rintro tr s e s' _ ih ⟨a, hStep⟩
    exact (Detection.step_cases hStep).called ih

/-- Every run of the whole service in which the calls of the configuration thread succeed is, to
the shell and to that thread, a run of the model with the watcher alone. -/
theorem detection_refines_service
    (h : ((brokerDetection L defaultCid).guard Detection.ConfigCallSucceeds).Run tr s) :
    ∃ u, (brokerService L defaultCid).Run (tr.filterMap DetectionEvent.serviceEvent?) u ∧ s.Follows u := by
  refine System.Run.simulate (S := brokerService L defaultCid)
    (T := (brokerDetection L defaultCid).guard Detection.ConfigCallSucceeds) Detection.Follows
    DetectionEvent.serviceEvent? ?_ ?_ h
  · rintro s ⟨hShell, -, -, hConfig, -, hStop⟩
    refine ⟨⟨s.shell, .notCreated, false, false, false, false⟩, ⟨hShell, rfl, rfl, rfl, rfl, rfl⟩, ?_⟩
    constructor <;> simp [hConfig, hStop, ConfigPc.watcher, ChangeHandle.signalled, ChangeHandle.recorded,
      ChangeHandle.isOpened, WatcherPc.armed, WatcherPc.rearming]
  · rintro tr s e s' u hRun hFollows ⟨hSucceeds, a, hStep⟩
    exact hFollows.step hSucceeds (run_ordered_threads hRun.of_guard) (run_called hRun.of_guard)
      (Detection.step_cases hStep)

end Runs

def Detection.configCallSucceeds (_ : Detection) : DetectionEvent → Bool
  | .config e => !e.failed && e != .findFirst false
  | _ => true

theorem Detection.configCallSucceeds_of_check (s : Detection) (e : DetectionEvent)
    (h : s.configCallSucceeds e = true) : s.ConfigCallSucceeds e := by
  cases e with
  | config e => simpa [configCallSucceeds, ConfigCallSucceeds] using h
  | _ => trivial

/-- Both threads ask for a restart, one after a write and one after a change of the addresses. -/
theorem detection_refines_service_both : ∃ (tr : List DetectionEvent) (s : Detection) (u : Service),
    s.config.pc = .findNext ∧ s.addr.pc = .resetEvent ∧
      (brokerService .sample sampleConfig.defaultCid).Run (tr.filterMap DetectionEvent.serviceEvent?) u ∧
      s.Follows u := by
  obtain ⟨tr, s, hRun, hConfig, hAddr⟩ := System.Run.exists_of_exec_guard
    (S := brokerDetection .sample sampleConfig.defaultCid) (G := Detection.ConfigCallSucceeds)
    (P := fun _ s => s.config.pc = .findNext ∧ s.addr.pc = .resetEvent)
    (fun _ a _ _ hStep => ⟨a, hStep⟩) Detection.configCallSucceeds Detection.configCallSucceeds_of_check
    (startActs ++ configActs 1 ++ shellActs 4 ++ .shell (.writeConf (sampleFile "")) :: configActs 3 ++
      .addrChange :: addrActs 3)
    (sampleDetection_initial "\x7b\x7d") (by decide +kernel)
  obtain ⟨u, hMatched, hFollows⟩ := detection_refines_service hRun
  exact ⟨tr, s, u, hConfig, hAddr, hMatched, hFollows⟩

end RdmnetBroker
