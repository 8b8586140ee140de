import RdmnetBroker.Shell.Lifecycle

/-! # After AsyncShutdown

How much work a run still does once a shutdown is requested, how `Run` leaves
its loop, and in which state it calls `rdmnet::Deinit`.
-/

namespace RdmnetBroker

open Library

set_option autoImplicit false

def Pc.inLoop : Pc → Bool
  | .loopHead | .startup | .shutdownCheck | .timeToRestart | .restartShutdown | .load .restart _
  | .applySettings | .sleep => true
  | _ => false

/-- The places before the loop, and those where `Init` or `Run` gives up before it. -/
def Pc.outsideLoop : Pc → Bool
  | .openLogFile | .logStartup | .load .init _ | .setLogMask | .initReturned | .rdmnetInit
  | .runReturned false | .escaped .init => true
  | _ => false

theorem Pc.inLoop_of_outsideLoop {pc : Pc} (h : pc.outsideLoop = true) : pc.inLoop = false := by
  unfold outsideLoop at h
  split at h
  all_goals first | rfl | cases h

def Event.isLoadBegin : Event → Bool
  | .loadBegin _ => true
  | _ => false

def Event.isStartup : Event → Bool
  | .startup _ _ => true
  | _ => false

def Event.isRdmnetDeinit : Event → Bool
  | .rdmnetDeinit => true
  | _ => false

/-- The events by which `Run` enters and leaves its loop. -/
def Event.marksLoop : Event → Bool
  | .rdmnetInit true | .shutdownCheck true | .rdmnetDeinit => true
  | _ => false

namespace Shell

variable {L : Libraries} {defaultCid : Uuid} {tr : List Event} {s s' : Shell} {e : Event}

/-- The loads that can still begin when the next shutdown check is the last. -/
def loadsLeft (s : Shell) : Nat :=
  match s.pc with
  | .openLogFile | .logStartup | .load _ .setDefaults | .timeToRestart | .restartShutdown => 1
  | _ => 0

def startupsLeft (s : Shell) : Nat :=
  match s.pc with
  | .loopHead | .sleep => s.startupBroker.toNat
  | .startup | .shutdownCheck | .finalShutdown | .rdmnetDeinit | .runReturned _ | .deinitReturned
  | .escaped _ => 0
  | _ => 1

theorem loadsLeft_le (s : Shell) : s.loadsLeft ≤ 1 := by
  unfold loadsLeft
  split <;> omega

theorem startupsLeft_le (s : Shell) : s.startupsLeft ≤ 1 := by
  unfold startupsLeft
  split
  · cases s.startupBroker <;> decide
  · cases s.startupBroker <;> decide
  all_goals omega

theorem Step.loadsLeft_le (hStep : Step L s e s') (hShutdown : s.shutdownRequested = true) :
    e.isLoadBegin.toNat + s'.loadsLeft ≤ s.loadsLeft := by
  cases hStep with
  | loadReturn site => cases site <;> simp_all [loadsLeft, Event.isLoadBegin, afterLoad]
  | _ => simp_all [loadsLeft, Event.isLoadBegin]

theorem Step.startupsLeft_le (hStep : Step L s e s') (hControl : s.Control)
    (hShutdown : s.shutdownRequested = true) :
    e.isStartup.toNat + s'.startupsLeft ≤ s.startupsLeft := by
  obtain ⟨_, hDisarmed, _, _⟩ := hControl
  cases hStep with
  | loadReturn site => cases site <;> simp_all [startupsLeft, Event.isStartup, afterLoad]
  | _ => simp_all [startupsLeft, Event.isStartup]

theorem Step.shutdownRequested (hStep : Step L s e s') (hShutdown : s.shutdownRequested = true) :
    s'.shutdownRequested = true := by
  cases hStep <;> first | rfl | exact hShutdown

structure LoopExit (s : Shell) (tr : List Event) : Prop where
  entered : .rdmnetInit true ∈ tr →
    s.pc.inLoop = true ∨ s.pc = .escaped .restart ∨ .shutdownCheck true ∈ tr
  leaving : s.pc = .finalShutdown ∨ s.pc = .rdmnetDeinit →
    .shutdownCheck true ∈ tr ∧ tr.countP Event.isRdmnetDeinit = 0
  left : .shutdownCheck true ∈ tr → s.pc = .finalShutdown ∨ s.pc = .rdmnetDeinit ∨
    tr.countP Event.isRdmnetDeinit = 1 ∧ (s.pc = .runReturned true ∨ s.pc = .deinitReturned)
  notLeft : .shutdownCheck true ∉ tr → tr.countP Event.isRdmnetDeinit = 0
  beforeLoop : s.pc.inLoop = true → .rdmnetInit true ∈ tr

theorem Constructed.loopExit (h : s.Constructed defaultCid) : s.LoopExit [] := by
  constructor <;> simp [h.pc_eq, Pc.inLoop]

theorem mem_of_mem_cons_unmarked {x : Event} (hMark : e.marksLoop = false) (hx : x.marksLoop = true)
    (h : x ∈ e :: tr) : x ∈ tr := by
  rcases List.mem_cons.mp h with rfl | hTail
  · rw [hMark] at hx
    cases hx
  · exact hTail

theorem countP_deinit_cons (h : e.isRdmnetDeinit = false) :
    (e :: tr).countP Event.isRdmnetDeinit = tr.countP Event.isRdmnetDeinit :=
  List.countP_cons_of_neg (by rw [h]; decide)

namespace LoopExit

theorem cons (h : s.LoopExit tr) (hPc : s'.pc = s.pc) (hMark : e.marksLoop = false) :
    s'.LoopExit (e :: tr) := by
  have hCount : (e :: tr).countP Event.isRdmnetDeinit = tr.countP Event.isRdmnetDeinit := by
    apply countP_deinit_cons
    cases e with
    | rdmnetDeinit => cases hMark
    | _ => rfl
  have hCheck : .shutdownCheck true ∈ e :: tr ↔ .shutdownCheck true ∈ tr :=
    ⟨mem_of_mem_cons_unmarked hMark rfl, .tail _⟩
  have hInit : .rdmnetInit true ∈ e :: tr ↔ .rdmnetInit true ∈ tr :=
    ⟨mem_of_mem_cons_unmarked hMark rfl, .tail _⟩
  constructor
  · rw [hInit, hCheck, hPc]
    exact h.entered
  · rw [hCheck, hCount, hPc]
    exact h.leaving
  · rw [hCheck, hCount, hPc]
    exact h.left
  · rw [hCheck, hCount]
    exact h.notLeft
  · rw [hInit, hPc]
    exact h.beforeLoop

theorem not_checked (h : s.LoopExit tr) (hPc : s.pc.inLoop = true ∨ s.pc.outsideLoop = true) :
    .shutdownCheck true ∉ tr := by
  intro hCheck
  rcases h.left hCheck with hAt | hAt | ⟨-, hAt | hAt⟩ <;> rw [hAt] at hPc <;> rcases hPc with hPc | hPc <;>
    cases hPc

theorem not_entered (h : s.LoopExit tr) (hPc : s.pc.outsideLoop = true) : .rdmnetInit true ∉ tr := by
  intro hInit
  rcases h.entered hInit with hLoop | hEscaped | hCheck
  · rw [Pc.inLoop_of_outsideLoop hPc] at hLoop
    cases hLoop
  · rw [hEscaped] at hPc
    cases hPc
  · exact h.not_checked (.inr hPc) hCheck

theorem inLoop (h : s.LoopExit tr) (hPc : s.pc.inLoop = true) (hPc' : s'.pc.inLoop = true) :
    s'.LoopExit tr where
  entered _ := .inl hPc'
  leaving hLeaving := by
    rcases hLeaving with hAt | hAt <;> rw [hAt] at hPc' <;> cases hPc'
  left hCheck := absurd hCheck (h.not_checked (.inl hPc))
  notLeft := h.notLeft
  beforeLoop _ := h.beforeLoop hPc

theorem outside (h : s.LoopExit tr) (hPc : s.pc.outsideLoop = true)
    (hPc' : s'.pc.outsideLoop = true ∨ s'.pc = .deinitReturned) : s'.LoopExit tr where
  entered hInit := absurd hInit (h.not_entered hPc)
  leaving hLeaving := by
    rcases hLeaving with hAt | hAt <;> rw [hAt] at hPc' <;> rcases hPc' with hPc' | hPc' <;> cases hPc'
  left hCheck := absurd hCheck (h.not_checked (.inr hPc))
  notLeft := h.notLeft
  beforeLoop hLoop := by
    rcases hPc' with hPc' | hPc'
    · rw [Pc.inLoop_of_outsideLoop hPc'] at hLoop
      cases hLoop
    · rw [hPc'] at hLoop
      cases hLoop

/-- A load throws out of `Init` before the loop, and out of the loop in a restart. -/
theorem escaped (h : s.LoopExit tr) {site : LoadSite} {stage : LoadStage}
    (hPc : s.pc = .load site stage) (hPc' : s'.pc = .escaped site) : s'.LoopExit tr := by
  cases site with
  | init =>
    refine h.outside ?_ (.inl ?_)
    · rw [hPc]
      rfl
    · rw [hPc']
      rfl
  | restart =>
    have hLoop : s.pc.inLoop = true := by
      rw [hPc]
      rfl
    refine ⟨fun _ => .inr (.inl hPc'), ?_, fun hCheck => absurd hCheck (h.not_checked (.inl hLoop)),
      h.notLeft, ?_⟩
    · rw [hPc']
      rintro (hAt | hAt) <;> cases hAt
    · rw [hPc']
      nofun

theorem load (h : s.LoopExit tr) {site : LoadSite} {stage : LoadStage}
    (hPc : s.pc = .load site stage)
    (hPc' : (∃ stage', s'.pc = .load site stage') ∨ s'.pc = afterLoad site) : s'.LoopExit tr := by
  cases site with
  | init =>
    refine h.outside ?_ (.inl ?_)
    · rw [hPc]
      rfl
    · rcases hPc' with ⟨stage', hPc'⟩ | hPc' <;> rw [hPc'] <;> rfl
  | restart =>
    refine h.inLoop ?_ ?_
    · rw [hPc]
      rfl
    · rcases hPc' with ⟨stage', hPc'⟩ | hPc' <;> rw [hPc'] <;> rfl

theorem rdmnetInit (h : s.LoopExit tr) (hPc : s.pc = .rdmnetInit) (hPc' : s'.pc = .loopHead) :
    s'.LoopExit (.rdmnetInit true :: tr) := by
  have hCheck : .shutdownCheck true ∉ tr := h.not_checked (.inr (by rw [hPc]; rfl))
  constructor
  · rw [hPc']
    exact fun _ => .inl rfl
  · rw [hPc']
    rintro (hAt | hAt) <;> cases hAt
  · intro hMem
    rcases List.mem_cons.mp hMem with hHead | hTail
    · cases hHead
    · exact absurd hTail hCheck
  · rw [countP_deinit_cons rfl]
    exact fun _ => h.notLeft hCheck
  · exact fun _ => .head _

theorem shutdownSeen (h : s.LoopExit tr) (hPc : s.pc = .shutdownCheck)
    (hPc' : s'.pc = .finalShutdown) : s'.LoopExit (.shutdownCheck true :: tr) := by
  have hCheck : .shutdownCheck true ∉ tr := h.not_checked (.inl (by rw [hPc]; rfl))
  constructor
  · exact fun _ => .inr (.inr (.head _))
  · rw [countP_deinit_cons rfl]
    exact fun _ => ⟨.head _, h.notLeft hCheck⟩
  · exact fun _ => .inl hPc'
  · exact fun hNot => absurd (.head _) hNot
  · rw [hPc']
    nofun

theorem finalShutdown (h : s.LoopExit tr) (hPc : s.pc = .finalShutdown)
    (hPc' : s'.pc = .rdmnetDeinit) : s'.LoopExit tr := by
  obtain ⟨hCheck, hCount⟩ := h.leaving (.inl hPc)
  refine ⟨fun _ => .inr (.inr hCheck), fun _ => ⟨hCheck, hCount⟩, fun _ => .inr (.inl hPc'), h.notLeft, ?_⟩
  rw [hPc']
  nofun

theorem rdmnetDeinit (h : s.LoopExit tr) (hPc : s.pc = .rdmnetDeinit)
    (hPc' : s'.pc = .runReturned true) : s'.LoopExit (.rdmnetDeinit :: tr) := by
  obtain ⟨hCheck, hCount⟩ := h.leaving (.inr hPc)
  constructor
  · exact fun _ => .inr (.inr (.tail _ hCheck))
  · rw [hPc']
    rintro (hAt | hAt) <;> cases hAt
  · rw [List.countP_cons_of_pos rfl, hCount]
    exact fun _ => .inr (.inr ⟨rfl, .inl hPc'⟩)
  · exact fun hNot => absurd (.tail _ hCheck) hNot
  · rw [hPc']
    nofun

theorem deinit (h : s.LoopExit tr) {ok : Bool} (hPc : s.pc = .runReturned ok)
    (hPc' : s'.pc = .deinitReturned) : s'.LoopExit tr := by
  cases ok with
  | false => exact h.outside (by rw [hPc]; rfl) (.inr hPc')
  | true =>
    constructor
    · intro hInit
      rcases h.entered hInit with hAt | hAt | hCheck
      · rw [hPc] at hAt
        cases hAt
      · rw [hPc] at hAt
        cases hAt
      · exact .inr (.inr hCheck)
    · rw [hPc']
      rintro (hAt | hAt) <;> cases hAt
    · intro hCheck
      rcases h.left hCheck with hAt | hAt | ⟨hCount, -⟩
      · cases hPc.symm.trans hAt
      · cases hPc.symm.trans hAt
      · exact .inr (.inr ⟨hCount, .inr hPc'⟩)
    · exact h.notLeft
    · rw [hPc']
      nofun

end LoopExit

theorem Step.loopExit (hStep : Step L s e s') (h : s.LoopExit tr) : s'.LoopExit (e :: tr) := by
  cases hStep with
  | requestRestart | handleScopeChanged | asyncShutdown | tick | writeConf => exact h.cons rfl rfl
  | openLogFile _ hPc | openLogFileFailed _ hPc | logStartup hPc | logStartupFailed hPc | initReturn hPc
  | runCall hPc | runRefused hPc | rdmnetInitFailed hPc =>
    have hOutside : s.pc.outsideLoop = true := by
      rw [hPc]
      rfl
    exact (h.outside hOutside (.inl rfl)).cons rfl rfl
  | startup _ hPc | startupDisabled _ hPc | startupSkipped hPc | startupReturn hPc | startupFailed _ hPc
  | shutdownNotSeen hPc | timeToRestart _ hPc | notTimeToRestart hPc | restartShutdown hPc
  | restartNoShutdown hPc | applyScope hPc | applyNothing hPc | sleep hPc =>
    have hLoop : s.pc.inLoop = true := by
      rw [hPc]
      rfl
    exact (h.inLoop hLoop rfl).cons rfl rfl
  | loadBegin site _ hPc | confFileRead site hPc => exact (h.load hPc (.inl ⟨_, rfl⟩)).cons rfl rfl
  | loadReturn site _ _ hPc => exact (h.load hPc (.inr rfl)).cons rfl rfl
  | loadThrow site _ _ _ _ hPc => exact (h.escaped hPc rfl).cons rfl rfl
  | rdmnetInit hPc => exact h.rdmnetInit hPc rfl
  | shutdownSeen hPc => exact h.shutdownSeen hPc rfl
  | finalShutdown hPc | finalNoShutdown hPc => exact (h.finalShutdown hPc rfl).cons rfl rfl
  | rdmnetDeinit hPc => exact h.rdmnetDeinit hPc rfl
  | deinit ok hPc => exact (h.deinit hPc rfl).cons rfl rfl

structure EscapeRead (L : Libraries) (s : Shell) (tr : List Event) : Prop where
  reading : ∀ site file, s.pc = .load site (.read file) → .confFileRead site file ∈ tr
  escaped : ∀ site, s.pc = .escaped site →
    ∃ file, .confFileRead site file ∈ tr ∧ fileEscapes L file = true

theorem Step.escapeRead (hStep : Step L s e s') (h : s.EscapeRead L tr) : s'.EscapeRead L (e :: tr) := by
  obtain ⟨hReading, hEscaped⟩ := h
  cases hStep with
  | requestRestart | handleScopeChanged | asyncShutdown | tick | writeConf =>
    refine ⟨fun site file hPc => .tail _ (hReading site file hPc), fun site hPc => ?_⟩
    obtain ⟨file, hMem, hEscapes⟩ := hEscaped site hPc
    exact ⟨file, .tail _ hMem, hEscapes⟩
  | confFileRead site =>
    refine ⟨fun _ _ hPc => ?_, nofun⟩
    cases hPc
    exact .head _
  | loadThrow site file x config messages hPc hEscapes =>
    refine ⟨nofun, fun _ hPc' => ?_⟩
    cases hPc'
    exact ⟨file, .tail _ (hReading site file hPc), hEscapes⟩
  | loadReturn site =>
    refine ⟨fun _ _ hPc => ?_, fun _ hPc => ?_⟩ <;> cases site <;> cases hPc
  | _ => exact ⟨nofun, nofun⟩

end Shell

variable {L : Libraries} {defaultCid : Uuid} {tr : List Event} {s : Shell}

theorem run_loopExit (h : (brokerShell L defaultCid).Run tr s) : s.LoopExit tr :=
  run_invariant (I := fun tr s => s.LoopExit tr) (fun _ h0 => h0.loopExit)
    (fun _ _ _ _ ih hStep => hStep.loopExit ih) h

theorem run_escapeRead (h : (brokerShell L defaultCid).Run tr s) : s.EscapeRead L tr := by
  refine run_invariant (I := fun tr s => s.EscapeRead L tr) (fun s h0 => ?_)
    (fun _ _ _ _ ih hStep => hStep.escapeRead ih) h
  constructor <;> simp [h0.pc_eq]

theorem work_after_asyncShutdown {post pre : List Event}
    (h : (brokerShell L defaultCid).Run (post ++ .asyncShutdown :: pre) s) :
    post.countP Event.isLoadBegin ≤ 1 ∧ post.countP Event.isStartup ≤ 1 := by
  have hBound : s.shutdownRequested = true ∧ post.countP Event.isLoadBegin + s.loadsLeft ≤ 1 ∧
      post.countP Event.isStartup + s.startupsLeft ≤ 1 := by
    refine h.since (J := fun post s => s.shutdownRequested = true ∧
      post.countP Event.isLoadBegin + s.loadsLeft ≤ 1 ∧
      post.countP Event.isStartup + s.startupsLeft ≤ 1) ?_ ?_
    · intro s hRun
      cases hRun with
      | step hPre hNext =>
        have hStep := run_step hPre hNext
        cases hStep with
        | asyncShutdown =>
          exact ⟨rfl, by simpa using Shell.loadsLeft_le _, by simpa using Shell.startupsLeft_le _⟩
    · rintro post s e s' hRun ⟨hShutdown, hLoads, hStartups⟩ hNext
      have hStep := run_step hRun hNext
      have hLoads' := hStep.loadsLeft_le hShutdown
      have hStartups' := hStep.startupsLeft_le (run_control hRun) hShutdown
      refine ⟨hStep.shutdownRequested hShutdown, ?_, ?_⟩
      · rw [System.countP_cons_toNat]
        omega
      · rw [System.countP_cons_toNat]
        omega
  omega

structure ShutdownFinal (tr : List Event) (s : Shell) : Prop where
  bounded : ∀ post pre, tr = post ++ .asyncShutdown :: pre →
    post.countP Event.isLoadBegin ≤ 1 ∧ post.countP Event.isStartup ≤ 1
  through_check : .rdmnetInit true ∈ tr → s.pc.inLoop = true ∨ .shutdownCheck true ∈ tr
  stopped : ∀ post pre, tr = post ++ .rdmnetDeinit :: pre → .shutdownCheck true ∈ pre ∧
    started pre = false ∧ pre.countP Event.isStartupSuccess = pre.countP Event.isShutdown
  deinit_le : tr.countP Event.isRdmnetDeinit ≤ 1
  deinit_once : .shutdownCheck true ∈ tr → s.pc = .finalShutdown ∨ s.pc = .rdmnetDeinit ∨
    tr.countP Event.isRdmnetDeinit = 1 ∧ (s.pc = .runReturned true ∨ s.pc = .deinitReturned)

/-- Shutdown is final in every run whose restarts read only files that `Read` lets no
exception escape on. -/
theorem run_shutdownFinal (h : (brokerShell L defaultCid).Run tr s)
    (hReads : ∀ file, .confFileRead .restart file ∈ tr → fileEscapes L file = false) :
    ShutdownFinal tr s := by
  have hExit := run_loopExit h
  refine ⟨?_, ?_, ?_, ?_, hExit.left⟩
  · rintro post pre rfl
    exact work_after_asyncShutdown h
  · intro hInit
    rcases hExit.entered hInit with hLoop | hEscaped | hCheck
    · exact .inl hLoop
    · obtain ⟨file, hRead, hEscapes⟩ := (run_escapeRead h).escaped _ hEscaped
      rw [hReads file hRead] at hEscapes
      cases hEscapes
    · exact .inr hCheck
  · rintro post pre rfl
    obtain ⟨s₁, s₂, hRun, hStep⟩ := run_at h
    cases hStep with
    | rdmnetDeinit hPc =>
      have hStopped : started pre = false := by
        rw [← (run_tracks hRun).started_eq, (run_control hRun).started_eq]
        simp [Shell.startedAt, hPc]
      have hCount := startup_count hRun
      rw [hStopped] at hCount
      exact ⟨((run_loopExit hRun).leaving (.inr hPc)).1, hStopped, hCount⟩
  · by_cases hCheck : .shutdownCheck true ∈ tr
    · rcases hExit.left hCheck with hPc | hPc | ⟨hCount, _⟩
      · exact (hExit.leaving (.inl hPc)).2.le.trans (by decide)
      · exact (hExit.leaving (.inr hPc)).2.le.trans (by decide)
      · exact hCount.le
    · exact (hExit.notLeft hCheck).le.trans (by decide)

def Event.restartReadsSafely (L : Libraries) : Event → Bool
  | .confFileRead .restart file => !fileEscapes L file
  | _ => true

theorem run_shutdownFinal_restart : ∃ tr s, s.pc = .runReturned true ∧
    tr.countP Event.isStartup = 2 ∧ ShutdownFinal tr s := by
  obtain ⟨tr, s, hRun, hPc, hCount, hReads⟩ := exists_sample_run
    (P := fun tr s => s.pc = .runReturned true ∧ tr.countP Event.isStartup = 2 ∧
      tr.all (Event.restartReadsSafely .sample) = true) "\x7b\x7d"
    (mainSteps 10 ++ .requestRestart 0 :: mainSteps 2 ++ .asyncShutdown :: mainSteps 11)
    (by decide +kernel)
  refine ⟨tr, s, hPc, hCount, run_shutdownFinal hRun fun file hMem => ?_⟩
  simpa [Event.restartReadsSafely] using List.all_eq_true.mp hReads _ hMem

def Event.isLoopEntry : Event → Bool
  | .rdmnetInit true => true
  | _ => false

def Event.isLoopExit : Event → Bool
  | .shutdownCheck true => true
  | _ => false

/-- A restart that reads a number without a finite double leaves the loop with the
exception, and `rdmnet::Deinit` is never called. -/
theorem not_shutdownFinal_overflow : ¬ ∀ tr s,
    (brokerShell .sample sampleConfig.defaultCid).Run tr s → ShutdownFinal tr s := by
  intro hAll
  obtain ⟨tr, s, hRun, hPc, hEntry, hExit⟩ := exists_sample_run
    (P := fun tr s => s.pc = .escaped .restart ∧ tr.any Event.isLoopEntry = true ∧
      tr.any Event.isLoopExit = false) "\x7b\x7d"
    (mainSteps 10 ++ .requestRestart 0 ::
      .writeConf (sampleFile "\x7b\"listen_port\": 1e999\x7d") :: mainSteps 2 ++
      .asyncShutdown :: mainSteps 4)
    (by decide +kernel)
  obtain ⟨e, hMem, hInit⟩ := List.any_eq_true.mp hEntry
  have hEvent : e = .rdmnetInit true := by
    unfold Event.isLoopEntry at hInit
    split at hInit
    · rfl
    · cases hInit
  subst hEvent
  rcases (hAll tr s hRun).through_check hMem with hLoop | hCheck
  · rw [hPc] at hLoop
    cases hLoop
  · exact List.any_eq_false.mp hExit _ hCheck rfl

end RdmnetBroker
