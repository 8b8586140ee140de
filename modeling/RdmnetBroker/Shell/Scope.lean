import RdmnetBroker.Shell.Requests

/-! # Which scope the broker runs with

A scope given to `HandleScopeChanged` is overlaid on the settings of one load.
The first part follows the latest scope change into the `Startup` it is meant
for, beside a file that stays as it is; the second compares the settings of
two `Startup` calls with no scope change between them.
-/

namespace RdmnetBroker

open Library

set_option autoImplicit false

def lastStartup : List Event → Option Settings
  | [] => none
  | .startup settings _ :: _ => some settings
  | _ :: tr => lastStartup tr

def Pc.inRestart : Pc → Bool
  | .restartShutdown | .load .restart _ | .applySettings => true
  | _ => false

def Pc.beforeLoop : Pc → Bool
  | .openLogFile | .logStartup | .load .init _ | .setLogMask | .initReturned | .rdmnetInit => true
  | _ => false

def Shell.startupDone (s : Shell) : Bool :=
  match s.pc with
  | .startup | .shutdownCheck | .timeToRestart | .finalShutdown => true
  | .loopHead | .sleep => !s.startupBroker
  | _ => false

/-- The world that a scope change is promised in: a file that stays as it is, `Startup`
calls that succeed, and scope changes reported only while the broker is started. -/
structure SteadyWorld (file : ConfFile) (s : Shell) (e : Event) : Prop where
  confFile_eq : s.confFile = file
  startup_succeeds : e ≠ .startupReturn false
  scope_while_started : ∀ x, e = .handleScopeChanged x → s.brokerStarted = true

/-- A scope change after `TimeToRestartBroker` has returned true and before `Shutdown`
returns asks for no other scope than the file's. -/
def NoChangeWhileStopping (scope : Bytes) (s : Shell) (e : Event) : Prop :=
  ∀ x, e = .handleScopeChanged x → s.pc = .restartShutdown → x = [] ∨ x = scope

/-- At the shutdown check with no request pending, the broker was last started with the
scope of the latest call, when that was a scope change. -/
def LatestScopeRuns (tr : List Event) (s : Shell) : Prop :=
  ∀ x, s.pc = .shutdownCheck → s.restartRequested = false →
    tr.find? Event.isRestartCall = some (.handleScopeChanged x) → x ≠ [] →
    (lastStartup tr).map (·.scope) = some x

namespace Shell

/-- Where the scope `x` of the latest call is on its way to `Startup`, with `scope` the
one that the file gives. -/
structure Carries (scope x : Bytes) (tr : List Event) (s : Shell) : Prop where
  entered : s.pc.beforeLoop = false
  pending : s.restartRequested = true ∨ s.pc.inRestart = true →
    s.newScope = x ∨ s.newScope = [] ∧ x = scope
  overlap : s.restartRequested = true → s.pc.inRestart = true → x = scope
  armed : s.restartRequested = false → (s.pc = .loopHead ∨ s.pc = .sleep) ∧ s.startupBroker = true →
    s.config.settings.scope = x
  running : s.restartRequested = false → s.startupDone = true → (lastStartup tr).map (·.scope) = some x

variable {L : Libraries} {tr : List Event} {s s' : Shell} {e : Event} {scope x : Bytes}

/-- Outside a restart the scope is only due, in the settings of the next `Startup` or in the last. -/
theorem Carries.outside {tr' : List Event} (h : s.Carries scope x tr) (hEntered : s'.pc.beforeLoop = false)
    (hRestart : s'.pc.inRestart = false) (hFlag : s'.restartRequested = s.restartRequested)
    (hScope : s'.newScope = s.newScope)
    (hArmed : s'.restartRequested = false → (s'.pc = .loopHead ∨ s'.pc = .sleep) ∧ s'.startupBroker = true →
      s'.config.settings.scope = x)
    (hRunning : s'.restartRequested = false → s'.startupDone = true →
      (lastStartup tr').map (·.scope) = some x) : s'.Carries scope x tr' where
  entered := hEntered
  pending hPending := by
    rw [hScope]
    rcases hPending with hRequested | hAt
    · exact h.pending (.inl (hFlag.symm.trans hRequested))
    · rw [hRestart] at hAt
      cases hAt
  overlap _ hAt := by
    rw [hRestart] at hAt
    cases hAt
  armed := hArmed
  running := hRunning

theorem Step.carries (hStep : Step L s e s') (hControl : s.Control)
    (hCall : e.isRestartCall = false) (hApply : s.pc = .applySettings → s.config.settings.scope = scope)
    (hEnabled : e ≠ .startupDisabled) (hNonempty : x ≠ []) (h : s.Carries scope x tr) :
    s'.Carries scope x (e :: tr) := by
  have ⟨hEntered, hPending, hOverlap, hArmed, hRunning⟩ := h
  cases hStep with
  | requestRestart | handleScopeChanged => cases hCall
  | asyncShutdown | tick | writeConf => exact ⟨hEntered, hPending, hOverlap, hArmed, hRunning⟩
  | applyScope hPc _ =>
    have hRestart : s.pc.inRestart = true := by simp [hPc, Pc.inRestart]
    refine ⟨rfl, fun hFlag => .inr ⟨rfl, ?_⟩, ?_, ?_, ?_⟩
    · exact hOverlap (by simpa [Pc.inRestart] using hFlag) hRestart
    · intro _ hAt
      cases hAt
    · intro _ _
      rcases hPending (.inr hRestart) with hScope | ⟨hScope, _⟩
      · exact hScope
      · contradiction
    · simp [startupDone]
  | applyNothing hPc hEmpty =>
    have hRestart : s.pc.inRestart = true := by simp [hPc, Pc.inRestart]
    have hFile : x = scope := by
      rcases hPending (.inr hRestart) with hScope | ⟨_, hScope⟩
      · exact absurd (hScope.symm.trans hEmpty) hNonempty
      · exact hScope
    refine ⟨rfl, fun _ => .inr ⟨hEmpty, hFile⟩, ?_, ?_, ?_⟩
    · intro _ hAt
      cases hAt
    · intro _ _
      exact (hApply hPc).trans hFile.symm
    · simp [startupDone]
  | loadBegin site _ hPc | confFileRead site hPc | loadReturn site _ _ hPc | loadThrow site _ _ _ _ hPc =>
    cases site with
    | init => simp [hPc, Pc.beforeLoop] at hEntered
    | restart =>
      have hRestart : s.pc.inRestart = true := by simp [hPc, Pc.inRestart]
      refine ⟨rfl, fun _ => hPending (.inr hRestart), fun hFlag _ => hOverlap hFlag hRestart, ?_, ?_⟩ <;>
        simp [startupDone, afterLoad]
  | openLogFile _ hPc | openLogFileFailed _ hPc | logStartup hPc | logStartupFailed hPc | initReturn hPc
  | runCall hPc | runRefused hPc | rdmnetInit hPc | rdmnetInitFailed hPc =>
    rw [hPc] at hEntered
    cases hEntered
  | startupDisabled => exact absurd rfl hEnabled
  | startup _ hPc hStartup =>
    refine h.outside rfl rfl rfl rfl ?_ fun hFlag _ => congrArg some (hArmed hFlag ⟨.inl hPc, hStartup⟩)
    rintro _ ⟨hAt | hAt, -⟩ <;> cases hAt
  | startupSkipped hPc hStartup =>
    refine h.outside rfl rfl rfl rfl ?_ fun hFlag _ => hRunning hFlag (by simp [startupDone, hPc, hStartup])
    rintro _ ⟨hAt | hAt, -⟩ <;> cases hAt
  | startupReturn hPc | startupFailed _ hPc | shutdownSeen hPc | shutdownNotSeen hPc =>
    refine h.outside rfl rfl rfl rfl ?_ fun hFlag _ => hRunning hFlag (by simp [startupDone, hPc])
    rintro _ ⟨hAt | hAt, -⟩ <;> cases hAt
  | timeToRestart _ hPc hRequested =>
    refine ⟨rfl, fun _ => hPending (.inl hRequested), ?_, ?_, ?_⟩
    · intro hFlag
      cases hFlag
    · rintro _ ⟨hAt | hAt, -⟩ <;> cases hAt
    · intro _ hDone
      cases hDone
  | notTimeToRestart hPc =>
    refine h.outside rfl rfl rfl rfl ?_ fun hFlag _ => hRunning hFlag (by simp [startupDone, hPc])
    rintro _ ⟨-, hStartup⟩
    rw [hControl.disarmed (.inr (.inr hPc))] at hStartup
    cases hStartup
  | restartShutdown hPc | restartNoShutdown hPc =>
    have hRestart : s.pc.inRestart = true := by simp [hPc, Pc.inRestart]
    refine ⟨rfl, fun _ => hPending (.inr hRestart), fun hFlag _ => hOverlap hFlag hRestart, ?_, ?_⟩
    · rintro _ ⟨hAt | hAt, -⟩ <;> cases hAt
    · intro _ hDone
      cases hDone
  | sleep hPc =>
    refine h.outside rfl rfl rfl rfl (fun hFlag hAt => hArmed hFlag ⟨.inr hPc, hAt.2⟩)
      fun hFlag hDone => hRunning hFlag ?_
    rw [startupDone, hPc]
    exact hDone
  | finalShutdown | finalNoShutdown | rdmnetDeinit | deinit =>
    refine h.outside rfl rfl rfl rfl ?_ ?_
    · rintro _ ⟨hAt | hAt, -⟩ <;> cases hAt
    · intro _ hDone
      cases hDone

theorem Carries.of_call (hControl : s.Control) (hStarted : s.brokerStarted = true)
    (hStopping : s.pc = .restartShutdown → x = [] ∨ x = scope) (hNonempty : x ≠ []) :
    ({ s with newScope := x, restartRequested := true, restartTimer := s.restartTimerAfter 0 } :
      Shell).Carries scope x tr := by
  have hAt : s.startedAt = true := hControl.started_eq.symm.trans hStarted
  refine ⟨?_, fun _ => .inl rfl, fun _ hRestart => ?_, nofun, nofun⟩
  · unfold startedAt at hAt
    unfold Pc.beforeLoop
    cases hPc : s.pc <;> simp_all
  · have hPc : s.pc = .restartShutdown := by
      unfold startedAt at hAt
      unfold Pc.inRestart at hRestart
      cases hPc : s.pc <;> simp_all
    exact (hStopping hPc).resolve_left hNonempty

structure Steady (L : Libraries) (defaultCid : Uuid) (file : ConfFile) (tr : List Event) (s : Shell) :
    Prop where
  lastFile_eq : ∀ g, lastFile tr = some g → g = file
  apply_scope : s.pc = .applySettings → s.config.settings.scope = (fileSettings L defaultCid file).scope
  carries : ∀ x, tr.find? Event.isRestartCall = some (.handleScopeChanged x) → x ≠ [] →
    s.Carries (fileSettings L defaultCid file).scope x tr

end Shell

section Steady

variable {L : Libraries} {defaultCid : Uuid} {file : ConfFile} {tr : List Event} {s s' : Shell}
  {e : Event}

theorem lastFile_steady (hStep : Shell.Step L s e s') (hFile : s.confFile = file)
    (h : ∀ g, lastFile tr = some g → g = file) : ∀ g, lastFile (e :: tr) = some g → g = file := by
  intro g hLast
  cases hStep with
  | confFileRead site =>
    cases hLast
    exact hFile
  | _ => exact h g hLast

theorem apply_scope_steady (hStep : Shell.Step L s e s') (hTracks : s.Tracks L defaultCid tr)
    (h : s.Steady L defaultCid file tr) :
    s'.pc = .applySettings → s'.config.settings.scope = (fileSettings L defaultCid file).scope := by
  intro hPc
  cases hStep with
  | requestRestart | handleScopeChanged | asyncShutdown | tick | writeConf => exact h.apply_scope hPc
  | loadReturn site g messages hPc' =>
    have hFile : g = file := h.lastFile_eq g (hTracks.reading site g hPc')
    rw [← hFile, ← hTracks.defaultCid_eq]
    rfl
  | _ => cases hPc

theorem ne_startupDisabled (hRun : (brokerShell L defaultCid).Run tr s) (hStep : Shell.Step L s e s')
    (hEnabled : fileEnableBroker L file = true) (hFile : ∀ g, lastFile tr = some g → g = file) :
    e ≠ .startupDisabled := by
  rintro rfl
  cases hStep with
  | startupDisabled _ hPc hStartup hDisabled =>
    obtain ⟨g, c, hUses⟩ := run_usesLoad hRun (Shell.fresh_of_loopHead hPc hStartup)
    have hLoad : c.enableBroker = true := by
      rw [hUses.loadedFrom.2.2, hFile g hUses.file_eq, hEnabled]
    rw [hUses.config_eq] at hDisabled
    exact absurd hLoad (Bool.eq_false_iff.mp hDisabled)

theorem run_steady (hEnabled : fileEnableBroker L file = true)
    (h : ((brokerShell L defaultCid).guard fun s e => SteadyWorld file s e ∧
      NoChangeWhileStopping (fileSettings L defaultCid file).scope s e).Run tr s) :
    s.Steady L defaultCid file tr := by
  refine h.invariant (I := fun tr s => s.Steady L defaultCid file tr) ?_ ?_
  · intro s h0
    exact ⟨nofun, by simp [h0.pc_eq], nofun⟩
  · rintro tr s e s' hRun ih ⟨⟨hWorld, hStopping⟩, hNext⟩
    have hRun := hRun.of_guard
    have hStep := run_step hRun hNext
    have hControl := run_control hRun
    refine ⟨lastFile_steady hStep hWorld.confFile_eq ih.lastFile_eq,
      apply_scope_steady hStep (run_tracks hRun) ih, fun x hCall hNonempty => ?_⟩
    cases hCalled : e.isRestartCall with
    | true =>
      rw [List.find?_cons_of_pos hCalled, Option.some.injEq] at hCall
      subst hCall
      cases hStep with
      | handleScopeChanged =>
        exact .of_call hControl (hWorld.scope_while_started x rfl) (hStopping x rfl) hNonempty
    | false =>
      rw [List.find?_cons_of_neg (by simp [hCalled])] at hCall
      exact hStep.carries hControl hCalled ih.apply_scope
        (ne_startupDisabled hRun hStep hEnabled ih.lastFile_eq) hNonempty (ih.carries x hCall hNonempty)

/-- Beside a steady file that enables the broker the latest scope change is not lost, as
long as none asks for another scope than the file's while a restart stops the broker. -/
theorem latestScopeRuns_of_steady (hEnabled : fileEnableBroker L file = true)
    (h : ((brokerShell L defaultCid).guard fun s e => SteadyWorld file s e ∧
      NoChangeWhileStopping (fileSettings L defaultCid file).scope s e).Run tr s) :
    LatestScopeRuns tr s := by
  intro x hPc hFlag hCall hNonempty
  have hCarries := (run_steady hEnabled h).carries x hCall hNonempty
  exact hCarries.running hFlag (by simp [Shell.startupDone, hPc])

end Steady

def SteadyWorld.check (file : ConfFile) (s : Shell) (e : Event) : Bool :=
  s.confFile == file &&
    match e with
    | .startupReturn ok => ok
    | .handleScopeChanged _ => s.brokerStarted
    | _ => true

theorem SteadyWorld.of_check {file : ConfFile} {s : Shell} {e : Event}
    (h : SteadyWorld.check file s e = true) : SteadyWorld file s e := by
  obtain ⟨hFile, hEvent⟩ := Bool.and_eq_true_iff.mp h
  refine ⟨eq_of_beq hFile, ?_, ?_⟩
  · rintro rfl
    cases hEvent
  · rintro x rfl
    exact hEvent

def NoChangeWhileStopping.check (s : Shell) (e : Event) : Bool :=
  !(e.isScopeCall && s.pc == .restartShutdown)

theorem NoChangeWhileStopping.of_check {scope : Bytes} {s : Shell} {e : Event}
    (h : NoChangeWhileStopping.check s e = true) : NoChangeWhileStopping scope s e := by
  rintro x rfl hPc
  simp [NoChangeWhileStopping.check, Event.isScopeCall, hPc] at h

theorem eq_of_changesScope {e : Event} {x : Bytes} (h : e.changesScope x = true) :
    e = .handleScopeChanged x := by
  cases e with
  | handleScopeChanged scope => rw [eq_of_beq h]
  | _ => cases h

theorem latestScopeRuns_of_steady_rig : ∃ tr s,
    (brokerShell .sample sampleConfig.defaultCid).Run tr s ∧ s.pc = .shutdownCheck ∧
      s.restartRequested = false ∧ (lastStartup tr).map (·.scope) = some (bytes "rig") := by
  obtain ⟨tr, s, hRun, hPc, hFlag, hCall⟩ := exists_guarded_sample_run
    (G := fun s e => SteadyWorld (sampleFile "\x7b\x7d") s e ∧
      NoChangeWhileStopping
        (fileSettings .sample sampleConfig.defaultCid (sampleFile "\x7b\x7d")).scope s e)
    (P := fun tr s => s.pc = .shutdownCheck ∧ s.restartRequested = false ∧
      (tr.find? Event.isRestartCall).any (Event.changesScope (bytes "rig")) = true)
    (fun s e => SteadyWorld.check (sampleFile "\x7b\x7d") s e && NoChangeWhileStopping.check s e)
    (fun s e h => ⟨.of_check (Bool.and_eq_true_iff.mp h).1, .of_check (Bool.and_eq_true_iff.mp h).2⟩)
    "\x7b\x7d" (mainSteps 10 ++ .handleScopeChanged (bytes "rig") :: mainSteps 10) (by decide +kernel)
  obtain ⟨e, hFind, hChange⟩ := (Option.any_eq_true _ _).mp hCall
  rw [eq_of_changesScope hChange] at hFind
  exact ⟨tr, s, hRun.of_guard, hPc, hFlag,
    latestScopeRuns_of_steady (by decide +kernel) hRun _ hPc hFlag hFind (by decide)⟩

/-- A scope change between a true return of `TimeToRestartBroker` and the return of
`Shutdown` is applied by that restart, and undone by the one that it asked for. -/
theorem not_latestScopeRuns_stopping : ¬ ∀ file tr s, fileEnableBroker .sample file = true →
    ((brokerShell .sample sampleConfig.defaultCid).guard (SteadyWorld file)).Run tr s →
    LatestScopeRuns tr s := by
  intro hAll
  obtain ⟨tr, s, hRun, hPc, hFlag, hCall, hScope⟩ := exists_guarded_sample_run
    (G := SteadyWorld (sampleFile "\x7b\x7d"))
    (P := fun tr s => s.pc = .shutdownCheck ∧ s.restartRequested = false ∧
      (tr.find? Event.isRestartCall).any (Event.changesScope (bytes "rig")) = true ∧
      (lastStartup tr).map (·.scope) = some (bytes "default"))
    (SteadyWorld.check (sampleFile "\x7b\x7d")) (fun _ _ => .of_check)
    "\x7b\x7d" (mainSteps 10 ++ .requestRestart 0 :: mainSteps 2 ++
      .handleScopeChanged (bytes "rig") :: mainSteps 18) (by decide +kernel)
  obtain ⟨e, hFind, hChange⟩ := (Option.any_eq_true _ _).mp hCall
  rw [eq_of_changesScope hChange] at hFind
  have hRig := hAll _ tr s (by decide +kernel) hRun _ hPc hFlag hFind (by decide)
  rw [hScope] at hRig
  exact absurd hRig (by decide)

namespace Shell

variable {L : Libraries} {defaultCid : Uuid} {tr : List Event} {s s' : Shell} {e : Event}

structure Plain (L : Libraries) (defaultCid : Uuid) (tr : List Event) (s : Shell) : Prop where
  newScope_eq : s.newScope = []
  fresh : s.Fresh → ∃ file, lastFile tr = some file ∧ s.config.settings = fileSettings L defaultCid file
  starting : s.pc = .startup → ∃ file, lastFile tr = some file ∧
    lastStartup tr = some (fileSettings L defaultCid file)

theorem Step.plain (hStep : Step L s e s') (hControl : s.Control) (hTracks : s.Tracks L defaultCid tr)
    (hCall : e.isScopeCall = false) (h : s.Plain L defaultCid tr) : s'.Plain L defaultCid (e :: tr) := by
  obtain ⟨hScope, hFresh, hStarting⟩ := h
  obtain ⟨hReady, hDisarmed, _, _⟩ := hControl
  cases hStep with
  | handleScopeChanged => cases hCall
  | requestRestart | asyncShutdown | tick | writeConf => exact ⟨hScope, hFresh, hStarting⟩
  | loadReturn site file messages hPc =>
    refine ⟨hScope, fun _ => ⟨file, hTracks.reading site file hPc, ?_⟩, ?_⟩
    · rw [← hTracks.defaultCid_eq]
      rfl
    · cases site <;> simp [afterLoad]
  | startup messages hPc hStartup =>
    obtain ⟨file, hFile, hSettings⟩ := hFresh (fresh_of_loopHead hPc hStartup)
    exact ⟨hScope, fun hNever => hNever.elim, fun _ => ⟨file, hFile, congrArg some hSettings⟩⟩
  | applyScope _ hNonempty => exact absurd hScope hNonempty
  | _ => constructor <;> simp_all [Fresh, lastFile]

end Shell

variable {L : Libraries} {defaultCid : Uuid} {tr : List Event} {s : Shell}

theorem startup_settings (h : (brokerShell L defaultCid).Run tr s) (hPc : s.pc = .startup) :
    ∃ file settings, lastFile tr = some file ∧ lastStartup tr = some settings ∧
      settings = { fileSettings L defaultCid file with scope := settings.scope } := by
  refine h.invariant (I := fun tr s => s.pc = .startup → ∃ file settings, lastFile tr = some file ∧
    lastStartup tr = some settings ∧
      settings = { fileSettings L defaultCid file with scope := settings.scope }) ?_ ?_ hPc
  · intro s h0 hPc
    simp [h0.pc_eq] at hPc
  · intro tr s e s' hRun ih hNext hPc
    have hStep := run_step hRun hNext
    cases hStep with
    | startup messages hHead hStartup hEnabled =>
      obtain ⟨_, _, file, c, hUses, _, _, hSettings⟩ :=
        run_startup_uses hRun (.startup messages hHead hStartup hEnabled)
      exact ⟨file, _, hUses.file_eq, rfl, hSettings⟩
    | requestRestart | handleScopeChanged | asyncShutdown | tick | writeConf => exact ih hPc
    | loadReturn site => cases site <;> cases hPc
    | _ => cases hPc

theorem plain_since {mid pre : List Event}
    (h : (brokerShell L defaultCid).Run (mid ++ .startupReturn true :: pre) s)
    (hNone : ∀ e ∈ mid, e.isScopeCall = false) (hPending : pendingScope pre = []) :
    s.Plain L defaultCid (mid ++ .startupReturn true :: pre) := by
  refine h.since (J := fun mid s => (∀ e ∈ mid, e.isScopeCall = false) →
    s.Plain L defaultCid (mid ++ .startupReturn true :: pre)) ?_ ?_ hNone
  · intro s hRun _
    have hScope := (run_tracks hRun).newScope_eq
    cases hRun with
    | step hPre hNext =>
      have hStep := run_step hPre hNext
      cases hStep with
      | startupReturn => exact ⟨hScope.trans hPending, nofun, nofun⟩
  · intro mid s e s' hRun ih hNext hNone
    have hPlain := ih fun e' hMem => hNone e' (.tail _ hMem)
    exact (run_step hRun hNext).plain (run_control hRun) (run_tracks hRun) (hNone e (.head _)) hPlain

/-- Two `Startup` calls with one file behind them and no scope change between them get
the same settings but for the scope. With no scope pending at the first, the second
gets those of the file. -/
theorem restart_settings {post mid pre : List Event}
    (h : (brokerShell L defaultCid).Run
      (post ++ .startupReturn true :: (mid ++ .startupReturn true :: pre)) s)
    (hNone : ∀ e ∈ mid, e.isScopeCall = false)
    (hFile : lastFile (mid ++ .startupReturn true :: pre) = lastFile pre) :
    ∃ file first second, lastFile pre = some file ∧ lastStartup pre = some first ∧
      lastStartup (mid ++ .startupReturn true :: pre) = some second ∧
      second = { first with scope := second.scope } ∧
      (pendingScope pre = [] → second = fileSettings L defaultCid file ∧
        (first = second ↔ first.scope = (fileSettings L defaultCid file).scope)) := by
  obtain ⟨s₁, _, hRun, hStep⟩ := run_at h
  obtain ⟨s₀, _, hPre, hFirstStep⟩ := run_at hRun
  have hPc : s₁.pc = .startup := by cases hStep with | startupReturn hPc => exact hPc
  have hFirstPc : s₀.pc = .startup := by cases hFirstStep with | startupReturn hPc => exact hPc
  obtain ⟨file, first, hFirstFile, hFirst, hFirstEq⟩ := startup_settings hPre hFirstPc
  obtain ⟨file', second, hSecondFile, hSecond, hSecondEq⟩ := startup_settings hRun hPc
  rw [hFile, hFirstFile, Option.some.injEq] at hSecondFile
  subst hSecondFile
  refine ⟨file, first, second, hFirstFile, hFirst, hSecond, ?_, fun hPending => ?_⟩
  · rw [hFirstEq]
    exact hSecondEq
  · obtain ⟨file', hPlainFile, hPlain⟩ := (plain_since hRun hNone hPending).starting hPc
    rw [hFile, hFirstFile, Option.some.injEq] at hPlainFile
    subst hPlainFile
    rw [hSecond, Option.some.injEq] at hPlain
    refine ⟨hPlain, fun hEq => by rw [hEq, hPlain], fun hScope => ?_⟩
    rw [hPlain, hFirstEq, hScope]

def sinceStartup : List Event → Option (List Event × List Event)
  | [] => none
  | .startupReturn true :: pre => some ([], pre)
  | e :: tr => (sinceStartup tr).map fun r => (e :: r.1, r.2)

theorem eq_of_sinceStartup {tr mid pre : List Event} (h : sinceStartup tr = some (mid, pre)) :
    tr = mid ++ .startupReturn true :: pre ∧ ∀ e ∈ mid, e.isStartupSuccess = false := by
  induction tr generalizing mid with
  | nil => cases h
  | cons e tr ih =>
    by_cases hSuccess : e = .startupReturn true
    · subst hSuccess
      cases h
      exact ⟨rfl, nofun⟩
    · rw [sinceStartup.eq_3 _ _ hSuccess] at h
      obtain ⟨⟨mid', pre'⟩, hRest, hEq⟩ := Option.map_eq_some_iff.mp h
      cases hEq
      obtain ⟨hTrace, hNone⟩ := ih hRest
      refine ⟨by rw [hTrace]; rfl, ?_⟩
      rintro e' (_ | ⟨_, hMem⟩)
      · unfold Event.isStartupSuccess
        split
        · exact absurd rfl hSuccess
        · rfl
      · exact hNone e' hMem

def hasStartupPair (P : List Event → List Event → Prop) [∀ mid pre, Decidable (P mid pre)]
    (tr : List Event) : Bool :=
  (sinceStartup tr).any fun last => (sinceStartup last.2).any fun previous =>
    previous.1.all (fun e => !e.isScopeCall) && lastFile last.2 == lastFile previous.2 &&
      decide (P previous.1 previous.2)

theorem exists_startup_pair {P : List Event → List Event → Prop} [∀ mid pre, Decidable (P mid pre)]
    (acts : List Act)
    (h : (System.exec (Shell.step .sample) (sampleShell "\x7b\x7d") acts).any
      (fun r => decide (hasStartupPair P r.1 = true)) = true) :
    ∃ post mid pre s, (brokerShell .sample sampleConfig.defaultCid).Run
        (post ++ .startupReturn true :: (mid ++ .startupReturn true :: pre)) s ∧
      (∀ e ∈ mid, e.isStartupSuccess = false) ∧ (∀ e ∈ mid, e.isScopeCall = false) ∧
      lastFile (mid ++ .startupReturn true :: pre) = lastFile pre ∧ P mid pre := by
  obtain ⟨tr, s, hRun, hOuter⟩ :=
    exists_sample_run (P := fun tr _ => hasStartupPair P tr = true) "\x7b\x7d" acts h
  obtain ⟨⟨post, rest⟩, hPost, hInner⟩ := (Option.any_eq_true _ _).mp hOuter
  obtain ⟨⟨mid, pre⟩, hMid, hTest⟩ := (Option.any_eq_true _ _).mp hInner
  obtain ⟨rfl, _⟩ := eq_of_sinceStartup hPost
  obtain ⟨hRest, hConsecutive⟩ := eq_of_sinceStartup hMid
  subst hRest
  obtain ⟨hBoth, hP⟩ := Bool.and_eq_true_iff.mp hTest
  obtain ⟨hCalls, hFile⟩ := Bool.and_eq_true_iff.mp hBoth
  refine ⟨post, mid, pre, s, hRun, hConsecutive, fun e hMem => ?_, eq_of_beq hFile, of_decide_eq_true hP⟩
  simpa using List.all_eq_true.mp hCalls e hMem

theorem restart_settings_default : ∃ (mid pre : List Event) (file : ConfFile) (first second : Settings),
    lastStartup pre = some first ∧ lastStartup (mid ++ .startupReturn true :: pre) = some second ∧
      second = { first with scope := second.scope } ∧ lastFile pre = some file ∧ pendingScope pre = [] ∧
      second = fileSettings .sample sampleConfig.defaultCid file ∧
      (first = second ↔ first.scope = (fileSettings .sample sampleConfig.defaultCid file).scope) := by
  obtain ⟨post, mid, pre, s, hRun, _, hCalls, hFile, hPending⟩ :=
    exists_startup_pair (P := fun _ pre => pendingScope pre = [])
      (mainSteps 10 ++ .requestRestart 0 :: mainSteps 10) (by decide +kernel)
  obtain ⟨file, first, second, hRead, hFirst, hSecond, hEq, hSettings⟩ :=
    restart_settings hRun hCalls hFile
  obtain ⟨hGiven, hSame⟩ := hSettings hPending
  exact ⟨mid, pre, file, first, second, hFirst, hSecond, hEq, hRead, hPending, hGiven, hSame⟩

/-- A restart that was only asked for by `RequestRestart` takes back the scope that an
earlier scope change installed. -/
theorem restart_changes_scope : ¬ ∀ post mid pre s,
    (brokerShell .sample sampleConfig.defaultCid).Run
      (post ++ .startupReturn true :: (mid ++ .startupReturn true :: pre)) s →
    (∀ e ∈ mid, e.isStartupSuccess = false) → (∀ e ∈ mid, e.isScopeCall = false) →
    lastFile (mid ++ .startupReturn true :: pre) = lastFile pre →
    lastStartup (mid ++ .startupReturn true :: pre) = lastStartup pre := by
  intro hAll
  obtain ⟨post, mid, pre, s, hRun, hConsecutive, hCalls, hFile, hSecond, hFirst⟩ :=
    exists_startup_pair (P := fun mid pre =>
        (lastStartup (mid ++ .startupReturn true :: pre)).map (·.scope) = some (bytes "default") ∧
          (lastStartup pre).map (·.scope) = some (bytes "rig"))
      (mainSteps 10 ++ .handleScopeChanged (bytes "rig") :: mainSteps 10 ++
        .requestRestart 0 :: mainSteps 10) (by decide +kernel)
  rw [hAll post mid pre s hRun hConsecutive hCalls hFile, hFirst] at hSecond
  exact absurd hSecond (by decide)

end RdmnetBroker
