import RdmnetBroker.Shell.Progress
import RdmnetBroker.Windows.Detection

/-! # How the threads of the service end

The threads that watch read flags of the frame of `ServiceThread`, so they must end
before it returns. Each ends a bounded number of its own steps after its flag is set,
whatever is signalled meanwhile; before that it ends only after it has told the log
why.
-/

namespace RdmnetBroker

open Library

set_option autoImplicit false

def ServicePc.index : ServicePc → Nat
  | .notStarted => 0
  | .createAddrThread => 1
  | .createConfigThread => 2
  | .run => 3
  | .stopConfig => 4
  | .joinConfig => 5
  | .stopAddr => 6
  | .joinAddr => 7
  | .setServiceStatus => 8
  | .returned => 9

def DetectionEvent.isAddr : DetectionEvent → Bool
  | .addr _ => true
  | _ => false

def DetectionEvent.isConfig : DetectionEvent → Bool
  | .config _ => true
  | _ => false

namespace Detection

variable {L : Libraries} {s s' : Detection}

/-- Where the watching threads are, by the program point of the service thread. -/
structure Ordered (s : Detection) : Prop where
  addr_new : s.addr.pc = .notCreated ↔ s.thread.index ≤ 1
  config_new : s.config.pc = .notCreated ↔ s.thread.index ≤ 2
  stop_config : s.stopConfigChangeDetection = true ↔ 5 ≤ s.thread.index
  stop_addr : s.stopAddrChangeDetection = true ↔ 7 ≤ s.thread.index
  config_joined : 6 ≤ s.thread.index → s.config.pc = .exited
  addr_joined : 8 ≤ s.thread.index → s.addr.pc = .exited

end Detection

theorem AddrWatcher.Step.created {stop : Bool} {w w' : AddrWatcher} {e : AddrEvent} (h : Step stop w e w') :
    w.pc ≠ .notCreated ∧ w.pc ≠ .exited ∧ w'.pc ≠ .notCreated := by
  cases h <;> simp_all

theorem ConfigWatcher.Step.created {stop : Bool} {w w' : ConfigWatcher} {e : ConfigEvent}
    (h : Step stop w e w') : w.pc ≠ .notCreated ∧ w.pc ≠ .exited ∧ w'.pc ≠ .notCreated := by
  cases h with
  | failed _ _ hPc => rcases hPc with hPc | hPc <;> simp [hPc]
  | _ => simp_all

namespace Detection

variable {L : Libraries} {s s' : Detection}

theorem observe_thread (s : Detection) (e : Event) (t : Shell) : (s.observe e t).thread = s.thread := by
  cases e <;> rfl

theorem observe_addr (s : Detection) (e : Event) (t : Shell) : (s.observe e t).addr = s.addr := by
  cases e <;> rfl

theorem confWritten_pc (w : ConfigWatcher) : w.confWritten.pc = w.pc := by
  unfold ConfigWatcher.confWritten
  split <;> simp_all

theorem addrChanged_pc (w : AddrWatcher) : w.addrChanged.pc = w.pc := by
  unfold AddrWatcher.addrChanged
  split <;> rfl

theorem observe_config_pc (s : Detection) (e : Event) (t : Shell) :
    (s.observe e t).config.pc = s.config.pc := by
  cases e with
  | writeConf => exact confWritten_pc s.config
  | _ => rfl

theorem observe_stops (s : Detection) (e : Event) (t : Shell) :
    (s.observe e t).stopConfigChangeDetection = s.stopConfigChangeDetection ∧
      (s.observe e t).stopAddrChangeDetection = s.stopAddrChangeDetection := by
  cases e <;> exact ⟨rfl, rfl⟩

/-- Steps beside the service thread that move a watching thread from one point to another. -/
theorem Ordered.congr (h : s.Ordered) (hThread : s'.thread = s.thread)
    (hStopConfig : s'.stopConfigChangeDetection = s.stopConfigChangeDetection)
    (hStopAddr : s'.stopAddrChangeDetection = s.stopAddrChangeDetection)
    (hAddr : s'.addr.pc = s.addr.pc ∨
      s.addr.pc ≠ .notCreated ∧ s.addr.pc ≠ .exited ∧ s'.addr.pc ≠ .notCreated)
    (hConfig : s'.config.pc = s.config.pc ∨
      s.config.pc ≠ .notCreated ∧ s.config.pc ≠ .exited ∧ s'.config.pc ≠ .notCreated) : s'.Ordered := by
  obtain ⟨hAddrNew, hConfigNew, hStop, hStop', hConfigJoined, hAddrJoined⟩ := h
  constructor <;> rw [hThread]
  · rcases hAddr with hAddr | ⟨hNew, -, hNew'⟩
    · rw [hAddr]
      exact hAddrNew
    · exact iff_of_false hNew' (mt hAddrNew.mpr hNew)
  · rcases hConfig with hConfig | ⟨hNew, -, hNew'⟩
    · rw [hConfig]
      exact hConfigNew
    · exact iff_of_false hNew' (mt hConfigNew.mpr hNew)
  · rw [hStopConfig]
    exact hStop
  · rw [hStopAddr]
    exact hStop'
  · intro hIndex
    rcases hConfig with hConfig | ⟨-, hExited, -⟩
    · rw [hConfig]
      exact hConfigJoined hIndex
    · exact absurd (hConfigJoined hIndex) hExited
  · intro hIndex
    rcases hAddr with hAddr | ⟨-, hExited, -⟩
    · rw [hAddr]
      exact hAddrJoined hIndex
    · exact absurd (hAddrJoined hIndex) hExited

theorem ThreadStep.ordered {e : ThreadEvent} (hStep : ThreadStep s e s') (h : s.Ordered) : s'.Ordered := by
  obtain ⟨hAddrNew, hConfigNew, hStop, hStop', hConfigJoined, hAddrJoined⟩ := h
  cases hStep <;> constructor <;> simp_all [ServicePc.index]

theorem Step.ordered {e : DetectionEvent} (hStep : Step L s e s') (h : s.Ordered) : s'.Ordered := by
  cases hStep with
  | shell a e t =>
    obtain ⟨hStopConfig, hStopAddr⟩ := observe_stops s e t
    exact h.congr (observe_thread s e t) hStopConfig hStopAddr (.inl (by rw [observe_addr]))
      (.inl (observe_config_pc s e t))
  | thread e s' hThread => exact hThread.ordered h
  | addr e w _ hAddr => exact h.congr rfl rfl rfl (.inr hAddr.created) (.inl rfl)
  | addrRestart hPc =>
    refine h.congr rfl rfl rfl (.inr ⟨?_, ?_, ?_⟩) (.inl rfl) <;> simp [hPc]
  | config e w _ hConfig => exact h.congr rfl rfl rfl (.inl rfl) (.inr hConfig.created)
  | configRestart hPc =>
    refine h.congr rfl rfl rfl (.inl rfl) (.inr ⟨?_, ?_, ?_⟩) <;> simp [hPc]
  | addrChange => exact h.congr rfl rfl rfl (.inl (addrChanged_pc s.addr)) (.inl rfl)

end Detection

def AddrPc.stepsLeft : AddrPc → Nat
  | .wait => 7
  | .requestRestart => 6
  | .resetEvent | .createEvent => 5
  | .notifyNext | .notifyFirst => 4
  | .stopCheck => 3
  | .cancel => 2
  | .close => 1
  | .notCreated | .exited => 0

def ConfigPc.stepsLeft : ConfigPc → Nat
  | .wait => 4
  | .requestRestart => 3
  | .findNext | .findFirst => 2
  | .stopCheck => 1
  | .notCreated | .exited => 0

theorem AddrPc.stepsLeft_le (pc : AddrPc) : pc.stepsLeft ≤ 7 := by
  cases pc <;> decide

theorem ConfigPc.stepsLeft_le (pc : ConfigPc) : pc.stepsLeft ≤ 4 := by
  cases pc <;> decide

theorem AddrWatcher.Step.stepsLeft_lt {w w' : AddrWatcher} {e : AddrEvent} (h : Step true w e w') :
    w'.pc.stepsLeft < w.pc.stepsLeft := by
  cases h with
  | stopNotSeen _ hStop => cases hStop
  | waitTimeout hPc => simp [hPc, AddrPc.stepsLeft]
  | _ => simp_all [AddrPc.stepsLeft]

theorem ConfigWatcher.Step.stepsLeft_lt {w w' : ConfigWatcher} {e : ConfigEvent} (h : Step true w e w') :
    w'.pc.stepsLeft < w.pc.stepsLeft := by
  cases h with
  | stopNotSeen _ hStop => cases hStop
  | failed _ _ hPc => rcases hPc with hPc | hPc <;> simp [hPc, ConfigPc.stepsLeft]
  | _ => simp_all [ConfigPc.stepsLeft]

theorem AddrWatcher.exists_step {w : AddrWatcher} (hNew : w.pc ≠ .notCreated) (hExited : w.pc ≠ .exited)
    (stop ok : Bool) (reason : Bytes) (status : Int) : ∃ r, w.step stop ok reason status = some r := by
  apply Option.isSome_iff_exists.mp
  unfold step
  split
  case h_1 hPc => exact absurd hPc hNew
  case h_11 hPc => exact absurd hPc hExited
  case h_5 =>
    split
    · rfl
    · split <;> rfl
  all_goals first | rfl | (split <;> rfl)

theorem ConfigWatcher.exists_step {w : ConfigWatcher} (hNew : w.pc ≠ .notCreated) (hExited : w.pc ≠ .exited)
    (stop ok : Bool) (reason : Bytes) : ∃ r, w.step stop ok reason = some r := by
  apply Option.isSome_iff_exists.mp
  unfold step
  split
  case h_1 hPc => exact absurd hPc hNew
  case h_7 hPc => exact absurd hPc hExited
  all_goals first | rfl | (split <;> rfl)

namespace Detection

variable {L : Libraries} {s s' : Detection} {e : DetectionEvent}

theorem Step.index_le (hStep : Step L s e s') : s.thread.index ≤ s'.thread.index := by
  cases hStep with
  | shell a e t => rw [observe_thread]
  | thread e s' hThread => cases hThread <;> simp_all [ServicePc.index]
  | _ => exact Nat.le_refl _

theorem Step.addr_stepsLeft (hStep : Step L s e s') (h : s.Ordered) (hIndex : 7 ≤ s.thread.index) :
    e.isAddr.toNat + s'.addr.pc.stepsLeft ≤ s.addr.pc.stepsLeft := by
  have hStop := h.stop_addr.mpr hIndex
  cases hStep with
  | shell a e t =>
    rw [observe_addr]
    exact (Nat.zero_add _).le
  | thread e s' hThread =>
    cases hThread with
    | createAddrThread hPc =>
      rw [hPc] at hIndex
      exact absurd hIndex (by decide)
    | _ => exact (Nat.zero_add _).le
  | addr e w _ hAddr =>
    rw [hStop] at hAddr
    have hLess := hAddr.stepsLeft_lt
    change 1 + w.pc.stepsLeft ≤ s.addr.pc.stepsLeft
    omega
  | addrRestart hPc =>
    rw [hPc]
    change 1 + AddrPc.resetEvent.stepsLeft ≤ AddrPc.requestRestart.stepsLeft
    decide
  | config | configRestart => exact (Nat.zero_add _).le
  | addrChange =>
    change 0 + s.addr.addrChanged.pc.stepsLeft ≤ _
    rw [addrChanged_pc]
    exact (Nat.zero_add _).le

theorem Step.config_stepsLeft (hStep : Step L s e s') (h : s.Ordered) (hIndex : 5 ≤ s.thread.index) :
    e.isConfig.toNat + s'.config.pc.stepsLeft ≤ s.config.pc.stepsLeft := by
  have hStop := h.stop_config.mpr hIndex
  cases hStep with
  | shell a e t =>
    rw [observe_config_pc]
    exact (Nat.zero_add _).le
  | thread e s' hThread =>
    cases hThread with
    | createConfigThread hPc =>
      rw [hPc] at hIndex
      exact absurd hIndex (by decide)
    | _ => exact (Nat.zero_add _).le
  | config e w _ hConfig =>
    rw [hStop] at hConfig
    have hLess := hConfig.stepsLeft_lt
    change 1 + w.pc.stepsLeft ≤ s.config.pc.stepsLeft
    omega
  | configRestart hPc =>
    rw [hPc]
    change 1 + ConfigPc.findNext.stepsLeft ≤ ConfigPc.requestRestart.stepsLeft
    decide
  | addr | addrRestart | addrChange => exact (Nat.zero_add _).le

end Detection

/-- The service thread can go on, or the thread that it waits for can. -/
def Detection.GoesOn (L : Libraries) (s : Detection) : Prop :=
  (∃ r, s.stepThread = some r) ∨
    (s.thread = .run ∧ ∀ ok reason, ∃ r, s.stepShell L (.main ok reason) = some r) ∨
    (s.thread = .joinConfig ∧ ∀ ok reason, ∃ r, s.stepConfig ok reason = some r) ∨
    (s.thread = .joinAddr ∧ ∀ ok reason status, ∃ r, s.stepAddr ok reason status = some r)

theorem Detection.shell_step_of_run {L : Libraries} {s : Detection} (hRun : s.thread = .run)
    (hEnded : s.shell.pc.ended = false) (hReturned : ∀ ok, s.shell.pc ≠ .runReturned ok) (ok : Bool)
    (reason : Bytes) : ∃ r, s.stepShell L (.main ok reason) = some r := by
  obtain ⟨e, t, hStep⟩ := Shell.exists_main_step (L := L) hEnded ok reason
  have hEnabled : s.shellEnabled (.main ok reason) = true := by
    cases hPc : s.shell.pc with
    | initReturned => simp [shellEnabled, hPc, hRun]
    | runReturned ok => exact absurd hPc (hReturned ok)
    | _ => simp [shellEnabled, hPc]
  simp [stepShell, hEnabled, hStep]

theorem Detection.Ordered.goesOn {L : Libraries} {s : Detection} (h : s.Ordered)
    (hEnded : s.shell.pc.ended = false) (hStarted : s.thread ≠ .notStarted) (hReturned : s.thread ≠ .returned) : s.GoesOn L := by
  unfold GoesOn
  cases hPc : s.thread with
  | notStarted => exact absurd hPc hStarted
  | createAddrThread | createConfigThread =>
    left
    simp [stepThread, hPc]
  | run =>
    by_cases hOver : ∃ ok, s.shell.pc = .runReturned ok
    · obtain ⟨ok, hOver⟩ := hOver
      left
      simp [stepThread, hPc, hOver]
    · refine .inr (.inl ⟨rfl, ?_⟩)
      exact shell_step_of_run hPc hEnded (not_exists.mp hOver)
  | stopConfig | stopAddr | setServiceStatus =>
    left
    simp [stepThread, hPc]
  | joinConfig =>
    by_cases hExited : s.config.pc = .exited
    · left
      simp [stepThread, hPc, hExited]
    · refine .inr (.inr (.inl ⟨rfl, fun ok reason => ?_⟩))
      have hNew : s.config.pc ≠ .notCreated := by
        rw [ne_eq, h.config_new, hPc]
        decide
      obtain ⟨r, hStep⟩ := s.config.exists_step hNew hExited s.stopConfigChangeDetection ok reason
      simp [stepConfig, hStep]
  | joinAddr =>
    by_cases hExited : s.addr.pc = .exited
    · left
      simp [stepThread, hPc, hExited]
    · refine .inr (.inr (.inr ⟨rfl, fun ok reason status => ?_⟩))
      have hNew : s.addr.pc ≠ .notCreated := by
        rw [ne_eq, h.addr_new, hPc]
        decide
      obtain ⟨r, hStep⟩ := s.addr.exists_step hNew hExited s.stopAddrChangeDetection ok reason status
      simp [stepAddr, hStep]
  | returned => exact absurd hPc hReturned

section Runs

variable {L : Libraries} {defaultCid : Uuid} {tr : List DetectionEvent} {s : Detection}

theorem run_ordered_threads (h : (brokerDetection L defaultCid).Run tr s) : s.Ordered := by
  refine h.invariant (I := fun _ s => s.Ordered) ?_ ?_
  · rintro s ⟨-, hThread, hAddr, hConfig, hStopAddr, hStopConfig⟩
    constructor <;> simp [hThread, hAddr, hConfig, hStopAddr, hStopConfig, ServicePc.index]
  · rintro tr s e s' _ ih ⟨a, hStep⟩
    exact (Detection.step_cases hStep).ordered ih

theorem index_since {post pre : List DetectionEvent} {e : DetectionEvent} {n : Nat}
    (h : (brokerDetection L defaultCid).Run (post ++ e :: pre) s)
    (hEvent : ∀ s s', Detection.Step L s e s' → n ≤ s'.thread.index) : n ≤ s.thread.index := by
  refine h.since (J := fun _ s => n ≤ s.thread.index) ?_ ?_
  · intro s hRun
    cases hRun with
    | step _ hNext =>
      obtain ⟨a, hStep⟩ := hNext
      exact hEvent _ _ (Detection.step_cases hStep)
  · rintro post s e s' _ hIndex ⟨a, hStep⟩
    exact hIndex.trans (Detection.step_cases hStep).index_le

theorem index_of_stopAddr {s' : Detection} (h : Detection.Step L s (.thread .stopAddr) s') :
    7 ≤ s'.thread.index := by
  cases h with
  | thread _ _ hThread =>
    cases hThread
    exact Nat.le_refl 7

theorem index_of_stopConfig {s' : Detection} (h : Detection.Step L s (.thread .stopConfig) s') :
    5 ≤ s'.thread.index := by
  cases h with
  | thread _ _ hThread =>
    cases hThread
    exact Nat.le_refl 5

theorem run_shell_not_deinited (h : (brokerDetection L defaultCid).Run tr s) :
    s.shell.pc ≠ .deinitReturned := by
  refine h.invariant (I := fun _ s => s.shell.pc ≠ .deinitReturned) ?_ ?_
  · rintro s ⟨hShell, -⟩
    rw [hShell.pc_eq]
    decide
  · rintro tr s e s' hRun ih ⟨a, hStep⟩
    cases Detection.step_cases hStep with
    | shell a e t hEnabled hNext =>
      rw [Detection.observe_shell]
      refine (run_step (detection_shell hRun) ⟨a, hNext⟩).pc_ne_deinitReturned ih ?_
      intro ok hPc
      cases a with
      | main ok' reason => simp [Detection.shellEnabled, hPc] at hEnabled
      | _ =>
        cases hNext
        rfl
    | thread e s' hThread => cases hThread <;> exact ih
    | _ => exact ih

/-- The steps of the shell's own thread, which is the service thread inside `Run`. -/
def DetectionEvent.isShell : DetectionEvent → Bool
  | .shell e => e.isMain
  | _ => false

theorem shell_steps_after_asyncShutdown {post pre : List DetectionEvent}
    (h : (brokerDetection L defaultCid).Run (post ++ .shell .asyncShutdown :: pre) s) :
    post.countP DetectionEvent.isShell ≤ 14 := by
  have hShell := detection_shell h
  have hCons : (DetectionEvent.shell .asyncShutdown :: pre).filterMap DetectionEvent.shellEvent? =
      .asyncShutdown :: pre.filterMap DetectionEvent.shellEvent? := rfl
  rw [List.filterMap_append, hCons] at hShell
  have hSteps := main_steps_after_asyncShutdown hShell
  have hCount : post.countP DetectionEvent.isShell ≤
      (post.filterMap DetectionEvent.shellEvent?).countP Event.isMain := by
    apply System.countP_le_countP_filterMap
    intro e hEvent
    cases e with
    | shell e => exact hEvent
    | _ => cases hEvent
  omega

/-- From `AsyncShutdown` on the service thread comes to its end. -/
structure ServiceEnds (L : Libraries) (tr : List DetectionEvent) (s : Detection) : Prop where
  shell_bounded : ∀ post pre, tr = post ++ .shell .asyncShutdown :: pre →
    post.countP DetectionEvent.isShell ≤ 14
  config_bounded : ∀ post pre, tr = post ++ .thread .stopConfig :: pre →
    post.countP DetectionEvent.isConfig ≤ 4
  addr_bounded : ∀ post pre, tr = post ++ .thread .stopAddr :: pre → post.countP DetectionEvent.isAddr ≤ 7
  never_stuck : s.thread ≠ .notStarted → s.thread ≠ .returned → (∀ site, s.shell.pc ≠ .escaped site) →
    s.GoesOn L

theorem service_ends (h : (brokerDetection L defaultCid).Run tr s) : ServiceEnds L tr s := by
  constructor
  · rintro post pre rfl
    exact shell_steps_after_asyncShutdown h
  · rintro post pre rfl
    have hLeft : post.countP DetectionEvent.isConfig + s.config.pc.stepsLeft ≤ 4 := by
      refine h.countP_add_rank_le (q := fun _ => True) (fun s => s.config.pc.stepsLeft)
        (fun s _ => s.config.pc.stepsLeft_le) ?_ fun _ _ => trivial
      rintro post s e s' hRun - ⟨a, hStep⟩
      have hIndex := index_since hRun fun _ _ => index_of_stopConfig
      exact (Detection.step_cases hStep).config_stepsLeft (run_ordered_threads hRun) hIndex
    omega
  · rintro post pre rfl
    have hLeft : post.countP DetectionEvent.isAddr + s.addr.pc.stepsLeft ≤ 7 := by
      refine h.countP_add_rank_le (q := fun _ => True) (fun s => s.addr.pc.stepsLeft)
        (fun s _ => s.addr.pc.stepsLeft_le) ?_ fun _ _ => trivial
      rintro post s e s' hRun - ⟨a, hStep⟩
      have hIndex := index_since hRun fun _ _ => index_of_stopAddr
      exact (Detection.step_cases hStep).addr_stepsLeft (run_ordered_threads hRun) hIndex
    omega
  · intro hStarted hReturned hEscaped
    have hNotDeinited := run_shell_not_deinited h
    refine (run_ordered_threads h).goesOn ?_ hStarted hReturned
    cases hPc : s.shell.pc with
    | deinitReturned => exact absurd hPc hNotDeinited
    | escaped site => exact absurd hPc (hEscaped site)
    | _ => rfl

theorem service_ends_returned : ∃ (tr : List DetectionEvent) (s : Detection), s.thread = .returned ∧
    (brokerDetection .sample sampleConfig.defaultCid).Run tr s ∧ ServiceEnds .sample tr s := by
  obtain ⟨tr, s, hRun, hReturned⟩ := exists_sample_detection
    (P := fun _ s => s.thread = .returned) lifeActs (by decide +kernel)
  exact ⟨tr, s, hReturned, hRun, service_ends hRun⟩

theorem index_of_joinAddr {s' : Detection} (h : Detection.Step L s (.thread .joinAddr) s') :
    8 ≤ s'.thread.index := by
  cases h with
  | thread _ _ hThread =>
    cases hThread with
    | joinAddr => exact (by decide : 8 ≤ ServicePc.returned.index)
    | joinAddrFailed => exact Nat.le_refl 8

theorem index_of_joinConfig {s' : Detection} (h : Detection.Step L s (.thread .joinConfig) s') :
    6 ≤ s'.thread.index := by
  cases h with
  | thread _ _ hThread =>
    cases hThread
    exact Nat.le_refl 6

theorem not_exited_of_isAddr {e : DetectionEvent} {s' : Detection} (h : Detection.Step L s e s')
    (hAddr : e.isAddr = true) : s.addr.pc ≠ .exited := by
  cases h with
  | addr e w _ hStep => exact hStep.created.2.1
  | addrRestart hPc => simp [hPc]
  | _ => cases hAddr

theorem not_exited_of_isConfig {e : DetectionEvent} {s' : Detection} (h : Detection.Step L s e s')
    (hConfig : e.isConfig = true) : s.config.pc ≠ .exited := by
  cases h with
  | config e w _ hStep => exact hStep.created.2.1
  | configRestart hPc => simp [hPc]
  | _ => cases hConfig

/-- Neither watching thread does anything after `ServiceThread` has joined it, and both are joined
before it reports its result and returns. -/
structure NeverOutlives (tr : List DetectionEvent) (s : Detection) : Prop where
  config : ∀ post pre, tr = post ++ .thread .joinConfig :: pre → ∀ e ∈ post, e.isConfig = false
  addr : ∀ post pre, tr = post ++ .thread .joinAddr :: pre → ∀ e ∈ post, e.isAddr = false
  ended : s.thread = .setServiceStatus ∨ s.thread = .returned →
    s.addr.pc = .exited ∧ s.config.pc = .exited

theorem watchers_never_outlive (h : (brokerDetection L defaultCid).Run tr s) : NeverOutlives tr s := by
  constructor
  · rintro post pre rfl e hMem
    obtain ⟨late, early, rfl⟩ := List.append_of_mem hMem
    rw [List.append_assoc, List.cons_append] at h
    obtain ⟨s₁, s₂, hRun, a, hStep⟩ := h.at_label
    have hIndex := index_since hRun fun _ _ => index_of_joinConfig
    rw [Bool.eq_false_iff]
    intro hConfig
    exact not_exited_of_isConfig (Detection.step_cases hStep) hConfig
      ((run_ordered_threads hRun).config_joined hIndex)
  · rintro post pre rfl e hMem
    obtain ⟨late, early, rfl⟩ := List.append_of_mem hMem
    rw [List.append_assoc, List.cons_append] at h
    obtain ⟨s₁, s₂, hRun, a, hStep⟩ := h.at_label
    have hIndex := index_since hRun fun _ _ => index_of_joinAddr
    rw [Bool.eq_false_iff]
    intro hAddr
    exact not_exited_of_isAddr (Detection.step_cases hStep) hAddr
      ((run_ordered_threads hRun).addr_joined hIndex)
  · intro hThread
    have hOrdered := run_ordered_threads h
    have hIndex : 8 ≤ s.thread.index := by
      rcases hThread with hPc | hPc <;> rw [hPc] <;> decide
    exact ⟨hOrdered.addr_joined hIndex, hOrdered.config_joined (by omega)⟩

theorem watchers_never_outlive_returned : ∃ (tr : List DetectionEvent) (s : Detection),
    s.thread = .returned ∧ (brokerDetection .sample sampleConfig.defaultCid).Run tr s ∧
      NeverOutlives tr s := by
  obtain ⟨tr, s, hRun, hReturned⟩ := exists_sample_detection
    (P := fun _ s => s.thread = .returned) lifeActs (by decide +kernel)
  exact ⟨tr, s, hReturned, hRun, watchers_never_outlive hRun⟩

end Runs

def DetectionEvent.isClose : DetectionEvent → Bool
  | .addr .wsaCloseEvent => true
  | _ => false

def AddrPc.ending : AddrPc → Bool
  | .cancel | .close | .exited => true
  | _ => false

theorem AddrWatcher.Step.explained {stop : Bool} {w w' : AddrWatcher} {e : AddrEvent}
    (hStep : w.Step stop e w') (hEnding : w'.pc.ending = true)
    (h : w.pc.ending = true → stop = true ∨ ∃ m ∈ w.messages, m.priority = .err ∨ m.priority = .warning) :
    stop = true ∨ ∃ m ∈ w'.messages, m.priority = .err ∨ m.priority = .warning := by
  cases hStep with
  | stopSeen _ hStop => exact .inl hStop
  | createEventFailed m _ hErr | notifyFirstFailed m _ hErr | notifyNextFailed m _ hErr =>
    exact .inr ⟨m, by simp, .inl hErr⟩
  | waitFailed m _ hWarning => exact .inr ⟨m, by simp, .inr hWarning⟩
  | cancel hPc =>
    apply h
    rw [hPc]
    rfl
  | close hPc =>
    apply h
    rw [hPc]
    rfl
  | _ => cases hEnding

theorem ConfigWatcher.Step.explained {stop : Bool} {w w' : ConfigWatcher} {e : ConfigEvent}
    (hStep : w.Step stop e w') (hExited : w'.pc = .exited) :
    stop = true ∨ ∃ m ∈ w'.messages, m.priority = .warning := by
  cases hStep with
  | stopSeen _ hStop => exact .inl hStop
  | failed e m _ hWarning => exact .inr ⟨m, by simp, hWarning⟩
  | _ => cases hExited

/-- The steps of the addresses' thread, apart from the two that decide on the event. -/
theorem AddrWatcher.Step.open_iff {stop : Bool} {w w' : AddrWatcher} {e : AddrEvent}
    (hStep : w.Step stop e w') (h : w.Coherent) (hClose : e ≠ .wsaCloseEvent) (hNotify : e ≠ .notifyFirst false) :
    (w'.event = .closed ↔ w.event = .closed) ∧
      (w'.pc = .exited ∧ w'.event.isOpened = true ↔ w.pc = .exited ∧ w.event.isOpened = true) := by
  unfold AddrWatcher.Coherent at h
  cases hStep with
  | notifyFirstFailed => exact absurd rfl hNotify
  | close => exact absurd rfl hClose
  | _ => simp_all [EventHandle.isOpened]

namespace Detection

variable {L : Libraries} {s s' : Detection} {e : DetectionEvent} {tr : List DetectionEvent}

theorem Step.coherent (hStep : Step L s e s') (hOrdered : s.Ordered) (h : s.addr.Coherent) :
    s'.addr.Coherent := by
  cases hStep with
  | shell a e t =>
    rw [observe_addr]
    exact h
  | thread e s' hThread =>
    cases hThread with
    | createAddrThread hPc =>
      have hNew := hOrdered.addr_new.mpr (by rw [hPc]; decide)
      unfold AddrWatcher.Coherent at h
      rw [hNew] at h
      exact h
    | _ => exact h
  | addr e w _ hAddr => exact hAddr.coherent h
  | addrRestart hPc =>
    have hAddr : s.addr.Step false .requestRestart { s.addr with pc := .resetEvent } := .requestRestart hPc
    exact hAddr.coherent h
  | config | configRestart => exact h
  | addrChange => exact h.addrChanged

/-- A thread that ends before it is told to has said so in the log. -/
structure Explained (s : Detection) : Prop where
  addr : s.addr.pc.ending = true → s.stopAddrChangeDetection = true ∨
    ∃ m ∈ s.addr.messages, m.priority = .err ∨ m.priority = .warning
  config : s.config.pc = .exited → s.stopConfigChangeDetection = true ∨
    ∃ m ∈ s.config.messages, m.priority = .warning

theorem observe_config_messages (s : Detection) (e : Event) (t : Shell) :
    (s.observe e t).config.messages = s.config.messages := by
  cases e with
  | writeConf =>
    change s.config.confWritten.messages = _
    unfold ConfigWatcher.confWritten
    split <;> rfl
  | _ => rfl

theorem addrChanged_isOpened (w : AddrWatcher) : w.addrChanged.event.isOpened = w.event.isOpened := by
  unfold AddrWatcher.addrChanged
  split
  · exact AddrWatcher.isOpened_set w.event
  · rfl

theorem addrChanged_event_closed (w : AddrWatcher) : w.addrChanged.event = .closed ↔ w.event = .closed := by
  unfold AddrWatcher.addrChanged
  split
  · cases hEvent : w.event <;> simp [EventHandle.set]
  · rfl

theorem addrChanged_messages (w : AddrWatcher) : w.addrChanged.messages = w.messages := by
  unfold AddrWatcher.addrChanged
  split <;> rfl

theorem ThreadStep.explained {e : ThreadEvent} (hStep : ThreadStep s e s') (h : s.Explained) :
    s'.Explained := by
  obtain ⟨hAddr, hConfig⟩ := h
  cases hStep with
  | createAddrThread =>
    refine ⟨?_, hConfig⟩
    intro hEnding
    cases hEnding
  | createConfigThread =>
    refine ⟨hAddr, ?_⟩
    intro hExited
    cases hExited
  | stopConfig => exact ⟨hAddr, fun _ => .inl rfl⟩
  | stopAddr => exact ⟨fun _ => .inl rfl, hConfig⟩
  | _ => exact ⟨hAddr, hConfig⟩

theorem Step.explained (hStep : Step L s e s') (h : s.Explained) : s'.Explained := by
  obtain ⟨hAddr, hConfig⟩ := h
  cases hStep with
  | shell a e t =>
    obtain ⟨hStopConfig, hStopAddr⟩ := observe_stops s e t
    constructor
    · rw [observe_addr, hStopAddr]
      exact hAddr
    · rw [observe_config_pc, observe_config_messages, hStopConfig]
      exact hConfig
  | thread e s' hThread => exact hThread.explained ⟨hAddr, hConfig⟩
  | addr e w _ hStep => exact ⟨fun hEnding => hStep.explained hEnding hAddr, hConfig⟩
  | addrRestart =>
    refine ⟨?_, hConfig⟩
    intro hEnding
    cases hEnding
  | config e w _ hStep => exact ⟨hAddr, fun hExited => hStep.explained hExited⟩
  | configRestart =>
    refine ⟨hAddr, ?_⟩
    intro hExited
    cases hExited
  | addrChange =>
    refine ⟨?_, hConfig⟩
    change s.addr.addrChanged.pc.ending = true → _ ∨ ∃ m ∈ s.addr.addrChanged.messages, _
    rw [addrChanged_pc, addrChanged_messages]
    exact hAddr

/-- The event is closed at most once, and it is still open after the thread has ended exactly
when the first registration failed. -/
structure EventClosed (s : Detection) (tr : List DetectionEvent) : Prop where
  count : tr.countP DetectionEvent.isClose = if s.addr.event = .closed then 1 else 0
  leaked : .addr (.notifyFirst false) ∈ tr ↔ s.addr.pc = .exited ∧ s.addr.event.isOpened = true

theorem EventClosed.cons (h : s.EventClosed tr) (hClose : e.isClose = false)
    (hNotify : e ≠ .addr (.notifyFirst false)) (hClosed : s'.addr.event = .closed ↔ s.addr.event = .closed)
    (hOpen : s'.addr.pc = .exited ∧ s'.addr.event.isOpened = true ↔
      s.addr.pc = .exited ∧ s.addr.event.isOpened = true) : s'.EventClosed (e :: tr) := by
  constructor
  · rw [List.countP_cons_of_neg (by rw [hClose]; decide), h.count]
    simp only [hClosed]
  · rw [List.mem_cons, hOpen, ← h.leaked]
    exact or_iff_right hNotify.symm

theorem Step.eventClosed (hStep : Step L s e s') (hCoherent : s.addr.Coherent) (hOrdered : s.Ordered)
    (h : s.EventClosed tr) : s'.EventClosed (e :: tr) := by
  cases hStep with
  | shell a e t =>
    refine h.cons rfl (by intro hEq; cases hEq) ?_ ?_ <;> rw [observe_addr]
  | thread e s' hThread =>
    cases hThread with
    | createAddrThread hPc =>
      have hNew := hOrdered.addr_new.mpr (by rw [hPc]; decide)
      refine h.cons rfl (by intro hEq; cases hEq) Iff.rfl ?_
      simp [hNew]
    | _ => exact h.cons rfl (by intro hEq; cases hEq) Iff.rfl Iff.rfl
  | addr e w _ hAddr =>
    by_cases hClose : e = .wsaCloseEvent
    · subst hClose
      cases hAddr with
      | close hPc =>
        unfold AddrWatcher.Coherent at hCoherent
        simp only [hPc] at hCoherent
        constructor
        · have hNotClosed : s.addr.event ≠ .closed := by
            intro hEvent
            rw [hEvent] at hCoherent
            cases hCoherent.1
          rw [List.countP_cons_of_pos rfl, h.count, if_neg hNotClosed]
          rfl
        · refine iff_of_false ?_ (by simp [EventHandle.isOpened])
          rw [List.mem_cons, h.leaked, hPc]
          simp
    · by_cases hNotify : e = .notifyFirst false
      · subst hNotify
        cases hAddr with
        | notifyFirstFailed m hPc =>
          unfold AddrWatcher.Coherent at hCoherent
          simp only [hPc] at hCoherent
          constructor
          · rw [List.countP_cons_of_neg (by decide), h.count]
          · refine iff_of_true (List.mem_cons_self ..) ⟨rfl, ?_⟩
            change s.addr.event.isOpened = true
            rw [hCoherent.1]
            rfl
      · obtain ⟨hClosed, hOpen⟩ := hAddr.open_iff hCoherent hClose hNotify
        refine h.cons ?_ ?_ hClosed hOpen
        · cases e with
          | wsaCloseEvent => exact absurd rfl hClose
          | _ => rfl
        · intro hEq
          exact hNotify (DetectionEvent.addr.inj hEq)
  | addrRestart hPc =>
    refine h.cons rfl (by intro hEq; cases hEq) Iff.rfl ?_
    simp [hPc]
  | config | configRestart => exact h.cons rfl (by intro hEq; cases hEq) Iff.rfl Iff.rfl
  | addrChange =>
    refine h.cons rfl (by intro hEq; cases hEq) ?_ ?_
    · exact addrChanged_event_closed s.addr
    · change s.addr.addrChanged.pc = .exited ∧ s.addr.addrChanged.event.isOpened = true ↔ _
      rw [addrChanged_pc, addrChanged_isOpened]

end Detection

section Runs

variable {L : Libraries} {defaultCid : Uuid} {tr : List DetectionEvent} {s : Detection}

theorem run_coherent (h : (brokerDetection L defaultCid).Run tr s) : s.addr.Coherent := by
  refine h.invariant (I := fun _ s => s.addr.Coherent) ?_ ?_
  · rintro s ⟨-, -, hAddr, -⟩
    rw [hAddr]
    exact ⟨rfl, rfl⟩
  · rintro tr s e s' hRun ih ⟨a, hStep⟩
    exact (Detection.step_cases hStep).coherent (run_ordered_threads hRun) ih

/-- No watching thread gives up silently. -/
theorem detection_explained (h : (brokerDetection L defaultCid).Run tr s) : s.Explained := by
  refine h.invariant (I := fun _ s => s.Explained) ?_ ?_
  · rintro s ⟨-, -, hAddr, hConfig, -⟩
    constructor
    · rw [hAddr]
      intro hEnding
      cases hEnding
    · rw [hConfig]
      intro hExited
      cases hExited
  · rintro tr s e s' _ ih ⟨a, hStep⟩
    exact (Detection.step_cases hStep).explained ih

theorem event_closed_once (h : (brokerDetection L defaultCid).Run tr s) : s.EventClosed tr := by
  refine h.invariant (I := fun tr s => s.EventClosed tr) ?_ ?_
  · rintro s ⟨-, -, hAddr, -⟩
    constructor <;> simp [hAddr]
  · rintro tr s e s' hRun ih ⟨a, hStep⟩
    exact (Detection.step_cases hStep).eventClosed (run_coherent hRun) (run_ordered_threads hRun) ih

/-- The event could not be created. -/
theorem detection_explained_no_event : ∃ tr s,
    (brokerDetection .sample sampleConfig.defaultCid).Run tr s ∧ s.addr.pc = .exited ∧
      s.stopAddrChangeDetection = false ∧ s.Explained := by
  obtain ⟨tr, s, hRun, hPc, hStop⟩ := exists_sample_detection
    (P := fun _ s => s.addr.pc = .exited ∧ s.stopAddrChangeDetection = false)
    (shellActs 6 ++ threadActs 2 ++ [.addr false (bytes "Access is denied.") 0]) (by decide +kernel)
  exact ⟨tr, s, hRun, hPc, hStop, detection_explained hRun⟩

/-- The first registration fails, and the event stays open. -/
theorem event_closed_once_leak : ∃ tr s,
    (brokerDetection .sample sampleConfig.defaultCid).Run tr s ∧ s.addr.event = .opened false ∧
      s.addr.pc = .exited ∧ s.EventClosed tr := by
  obtain ⟨tr, s, hRun, hEvent, hPc⟩ := exists_sample_detection
    (P := fun _ s => s.addr.event = .opened false ∧ s.addr.pc = .exited)
    (shellActs 6 ++ threadActs 2 ++ addrActs 1 ++ [.addr false (bytes "Access is denied.") 0])
    (by decide +kernel)
  exact ⟨tr, s, hRun, hEvent, hPc, event_closed_once hRun⟩

end Runs

end RdmnetBroker
