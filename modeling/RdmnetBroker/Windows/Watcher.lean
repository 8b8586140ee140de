import RdmnetBroker.Shell.Scope
import RdmnetBroker.Windows.Service

/-! # The running configuration catches up with the file

A write to the configuration file reaches a load in two stages, the change
handle and then the restart flag. From the creation of the handle on no write
is missed; a write between the load in `Init` and that moment is.
-/

namespace RdmnetBroker

open Library

set_option autoImplicit false

def Pc.beforeRestartRead : Pc → Bool
  | .restartShutdown | .load .restart .setDefaults | .load .restart .getConfFile => true
  | _ => false

namespace Shell

variable {L : Libraries} {defaultCid : Uuid} {tr : List Event} {s s' : Shell} {e : Event}

/-- The file will be read again, unless the service is on its way down. -/
def WillReload (s : Shell) : Prop :=
  s.restartRequested = true ∨ s.pc.beforeRestartRead = true ∨ s.shutdownRequested = true

theorem Step.willReload (hStep : Step L s e s') (h : s.WillReload)
    (hRead : ∀ site file, e ≠ .confFileRead site file) : s'.WillReload := by
  unfold WillReload at *
  cases hStep with
  | confFileRead site => exact absurd rfl (hRead site _)
  | loadReturn site | loadThrow site | loadBegin site =>
    cases site <;> simp_all [Pc.beforeRestartRead, afterLoad]
  | _ => simp_all [Pc.beforeRestartRead]

theorem Step.readyToRun (hStep : Step L s e s') (h : s.readyToRun = true) : s'.readyToRun = true := by
  cases hStep <;> first | rfl | exact h

theorem Step.readyToRun_read (hStep : Step L s e s') (hTracks : s.Tracks L defaultCid tr)
    (h : s.readyToRun = true → (lastFile tr).isSome = true) :
    s'.readyToRun = true → (lastFile (e :: tr)).isSome = true := by
  intro hReady
  cases hStep with
  | initReturn hPc =>
    obtain ⟨file, _, hFile, _⟩ := hTracks.loaded (by simp [Fresh, hPc])
    simp [lastFile, hFile]
  | confFileRead => rfl
  | _ => exact h hReady

theorem run_readyToRun_read (h : (brokerShell L defaultCid).Run tr s) :
    s.readyToRun = true → (lastFile tr).isSome = true := by
  refine h.invariant (I := fun tr s => s.readyToRun = true → (lastFile tr).isSome = true) ?_ ?_
  · intro s h0 hReady
    rw [h0.readyToRun_eq] at hReady
    cases hReady
  · intro tr s e s' hRun ih hNext
    exact (run_step hRun hNext).readyToRun_read (run_tracks hRun) ih

end Shell

namespace Service

def handleCreated (s : Service) : Bool := s.watcher.armed || s.watcher.rearming

/-- Where a write that no load has read yet is on its way. -/
structure Watched (s : Service) (tr : List Event) : Prop where
  ready : s.watcher ≠ .notCreated → s.shell.readyToRun = true
  rearming_signalled : s.watcher.rearming = true → s.signalled = true
  recorded_rearming : s.recorded = true → s.watcher.rearming = true
  seen : s.handleCreated = true → s.stale = true →
    s.signalled = true ∧ s.watcher ≠ .findNext ∨ s.recorded = true ∨ s.shell.WillReload
  current : s.stale = false → ∀ file, lastFile tr = some file → file = s.shell.confFile

variable {L : Libraries} {tr : List Event} {s : Service} {e : Event} {t : Shell}

theorem Watched.shell (hStep : Shell.Step L s.shell e t) (h : s.Watched tr) :
    (s.observe e t).Watched (e :: tr) := by
  obtain ⟨hReady, hSignalled, hRecorded, hSeen, hCurrent⟩ := h
  have hReady' : s.watcher ≠ .notCreated → t.readyToRun = true := fun hPc => hStep.readyToRun (hReady hPc)
  have hReload : (∀ site file, e ≠ .confFileRead site file) → s.shell.WillReload → t.WillReload :=
    fun hRead h => hStep.willReload h hRead
  cases hStep with
  | writeConf file =>
    refine ⟨hReady', fun hRearming => ?_, fun hRecord => ?_, fun hCreated _ => ?_, nofun⟩
    · exact Bool.or_eq_true_iff.mpr (.inl (hSignalled hRearming))
    · exact (Bool.or_eq_true_iff.mp hRecord).elim hRecorded id
    · rcases Bool.or_eq_true_iff.mp hCreated with hArmed | hRearming
      · refine .inl ⟨Bool.or_eq_true_iff.mpr (.inr hArmed), fun hPc => ?_⟩
        change s.watcher = .findNext at hPc
        change s.watcher.armed = true at hArmed
        simp [hPc, WatcherPc.armed] at hArmed
      · exact .inr (.inl (Bool.or_eq_true_iff.mpr (.inr hRearming)))
  | confFileRead site hPc =>
    refine ⟨hReady', hSignalled, hRecorded, nofun, fun _ file hFile => ?_⟩
    cases hFile
    rfl
  | _ =>
    refine ⟨hReady', hSignalled, hRecorded, fun hCreated hStale => ?_, hCurrent⟩
    rcases hSeen hCreated hStale with hSignal | hRecord | hWill
    · exact .inl hSignal
    · exact .inr (.inl hRecord)
    · exact .inr (.inr (hReload nofun hWill))

/-- When the handle is created, the file is as it was last read, or will be read again. -/
def HandleCreatedInTime (s : Service) (e : ServiceEvent) : Prop :=
  e = .findFirst → s.stale = true → s.shell.WillReload

theorem Step.watched {e : ServiceEvent} {s' : Service} {defaultCid : Uuid} {str : List ServiceEvent}
    (hRun : (brokerShell L defaultCid).Run (shellTrace str) s.shell) (hStep : Step L s e s')
    (hInTime : HandleCreatedInTime s e) (h : s.Watched (shellTrace str)) :
    s'.Watched (shellTrace (e :: str)) := by
  cases hStep with
  | shell a e t _ hShell => exact h.shell (run_step hRun ⟨a, hShell⟩)
  | createWatcher hPc _ hReady =>
    have hRecorded := h.recorded_rearming
    simp only [hPc, WatcherPc.rearming] at hRecorded
    exact ⟨fun _ => hReady, nofun, hRecorded, nofun, h.current⟩
  | findFirst hPc =>
    have hReady := h.ready (by simp [hPc])
    exact ⟨fun _ => hReady, nofun, nofun, fun _ hStale => .inr (.inr (hInTime rfl hStale)), h.current⟩
  | waitSatisfied hPc hSignalled =>
    have hReady := h.ready (by simp [hPc])
    exact ⟨fun _ => hReady, fun _ => hSignalled, fun _ => rfl, fun _ _ => .inl ⟨hSignalled, nofun⟩,
      h.current⟩
  | requestRestart hPc =>
    have hReady := h.ready (by simp [hPc])
    have hSignalled := h.rearming_signalled (by simp [hPc, WatcherPc.rearming])
    exact ⟨fun _ => hReady, fun _ => hSignalled, fun _ => rfl, fun _ _ => .inr (.inr (.inl rfl)),
      h.current⟩
  | findNext hPc =>
    have hReady := h.ready (by simp [hPc])
    refine ⟨fun _ => hReady, nofun, nofun, fun _ hStale => ?_, h.current⟩
    rcases h.seen (by simp [handleCreated, hPc, WatcherPc.rearming]) hStale with hSignal | hRecord | hWill
    · exact absurd hPc hSignal.2
    · exact .inl ⟨hRecord, nofun⟩
    · exact .inr (.inr hWill)
  | stopCheckStop hPc | stopCheckGo hPc | waitTimeout hPc =>
    have hReady := h.ready (by simp [hPc])
    have hRecorded := h.recorded_rearming
    have hSeen := h.seen (by simp [handleCreated, hPc, WatcherPc.armed])
    simp only [hPc, WatcherPc.rearming] at hRecorded
    refine ⟨fun _ => hReady, nofun, hRecorded, fun _ hStale => ?_, h.current⟩
    rcases hSeen hStale with hSignal | hOther
    · exact .inl ⟨hSignal.1, nofun⟩
    · exact .inr hOther
  | stopDetection => exact ⟨h.ready, h.rearming_signalled, h.recorded_rearming, h.seen, h.current⟩

structure Quiescent (s : Service) : Prop where
  created : s.handleCreated = true
  notSignalled : s.signalled = false
  notRequested : s.shell.restartRequested = false
  notRestarting : s.shell.pc.inRestart = false
  notShuttingDown : s.shell.shutdownRequested = false

theorem Quiescent.not_willReload (h : s.Quiescent) : ¬ s.shell.WillReload := by
  rintro (hRequested | hPc | hShutdown)
  · exact absurd hRequested (Bool.eq_false_iff.mp h.notRequested)
  · have hRestarting := h.notRestarting
    unfold Pc.beforeRestartRead at hPc
    split at hPc <;> simp_all [Pc.inRestart]
  · exact absurd hShutdown (Bool.eq_false_iff.mp h.notShuttingDown)

theorem Quiescent.current (h : s.Quiescent) (hWatched : s.Watched tr) : s.stale = false := by
  rw [Bool.eq_false_iff]
  intro hStale
  rcases hWatched.seen h.created hStale with hSignal | hRecord | hWill
  · exact absurd hSignal.1 (Bool.eq_false_iff.mp h.notSignalled)
  · have hSignal := hWatched.rearming_signalled (hWatched.recorded_rearming hRecord)
    exact absurd hSignal (Bool.eq_false_iff.mp h.notSignalled)
  · exact h.not_willReload hWill

end Service

section Runs

variable {L : Libraries} {defaultCid : Uuid} {tr : List ServiceEvent} {s : Service}

theorem run_watched (h : ((brokerService L defaultCid).guard Service.HandleCreatedInTime).Run tr s) :
    s.Watched (shellTrace tr) := by
  refine h.invariant (I := fun tr s => s.Watched (shellTrace tr)) ?_ ?_
  · rintro s ⟨_, hWatcher, _, hRecorded, _, _⟩
    constructor <;> simp [hWatcher, hRecorded, WatcherPc.rearming, WatcherPc.armed, Service.handleCreated,
      shellTrace, lastFile]
  · rintro tr s e s' hRun ih ⟨hInTime, a, hStep⟩
    exact (Service.step_cases hStep).watched (run_shell hRun.of_guard) hInTime ih

def CaughtUp (tr : List ServiceEvent) (s : Service) : Prop :=
  s.stale = false ∧ lastFile (shellTrace tr) = some s.shell.confFile

/-- When the change handle is created in time, the configuration in force in every
quiescent state was loaded from the file as it is. -/
theorem caughtUp_of_quiescent
    (h : ((brokerService L defaultCid).guard Service.HandleCreatedInTime).Run tr s)
    (hQuiescent : s.Quiescent) : CaughtUp tr s := by
  have hWatched := run_watched h
  have hStale := hQuiescent.current hWatched
  have hCreated : s.watcher ≠ .notCreated := by
    intro hPc
    have := hQuiescent.created
    simp [Service.handleCreated, hPc, WatcherPc.armed, WatcherPc.rearming] at this
  have hRead := Shell.run_readyToRun_read (run_shell h.of_guard) (hWatched.ready hCreated)
  obtain ⟨file, hFile⟩ := Option.isSome_iff_exists.mp hRead
  refine ⟨hStale, ?_⟩
  rw [hFile, hWatched.current hStale file hFile]

end Runs

def sampleService (text : String) : Service := ⟨sampleShell text, .notCreated, false, false, false, false⟩

theorem sampleService_initial (text : String) :
    (brokerService .sample sampleConfig.defaultCid).initial (sampleService text) :=
  ⟨sampleShell_constructed text, rfl, rfl, rfl, rfl, rfl⟩

def shellSteps (n : Nat) : List ServiceAct := List.replicate n (.shell (.main true []))

def Service.isQuiescent (s : Service) : Bool :=
  s.handleCreated && !s.signalled && !s.shell.restartRequested && !s.shell.pc.inRestart &&
    !s.shell.shutdownRequested

theorem Service.quiescent_of_isQuiescent {s : Service} (h : s.isQuiescent = true) : s.Quiescent := by
  simp only [Service.isQuiescent, Bool.and_eq_true, Bool.not_eq_true'] at h
  exact ⟨h.1.1.1.1, h.1.1.1.2, h.1.1.2, h.1.2, h.2⟩

def Service.createsHandleInTime (s : Service) : ServiceEvent → Bool
  | .findFirst => !s.stale
  | _ => true

theorem Service.handleCreatedInTime_of_check (s : Service) (e : ServiceEvent)
    (h : s.createsHandleInTime e = true) : s.HandleCreatedInTime e := by
  rintro rfl hStale
  simp [Service.createsHandleInTime, hStale] at h

theorem caughtUp_of_quiescent_restarted : ∃ tr s,
    s.shell.confFile = sampleFile "\x7b\"enable_broker\": false\x7d" ∧ s.shell.pc = .shutdownCheck ∧
      CaughtUp tr s := by
  obtain ⟨tr, s, hRun, hQuiescent, hFile, hPc⟩ := System.Run.exists_of_exec_guard
    (S := brokerService .sample sampleConfig.defaultCid) (G := Service.HandleCreatedInTime)
    (P := fun _ s => s.isQuiescent = true ∧
      s.shell.confFile = sampleFile "\x7b\"enable_broker\": false\x7d" ∧ s.shell.pc = .shutdownCheck)
    (fun _ a _ _ hStep => ⟨a, hStep⟩) Service.createsHandleInTime Service.handleCreatedInTime_of_check
    (shellSteps 6 ++ .createWatcher :: .watcher :: shellSteps 4 ++
      .shell (.writeConf (sampleFile "\x7b\"enable_broker\": false\x7d")) ::
      List.replicate 4 .watcher ++ shellSteps 9)
    (sampleService_initial "\x7b\x7d") (by decide +kernel)
  exact ⟨tr, s, hFile, hPc, caughtUp_of_quiescent hRun (Service.quiescent_of_isQuiescent hQuiescent)⟩

/-- A write between the load in `Init` and the creation of the change handle is missed. -/
theorem not_caughtUp_early_write : ¬ ∀ tr s,
    (brokerService .sample sampleConfig.defaultCid).Run tr s → s.Quiescent → CaughtUp tr s := by
  intro hAll
  obtain ⟨tr, s, hRun, hQuiescent, hStale⟩ := System.Run.exists_of_exec
    (S := brokerService .sample sampleConfig.defaultCid)
    (P := fun _ s => s.isQuiescent = true ∧ s.stale = true)
    (fun _ a _ _ hStep => ⟨a, hStep⟩)
    (shellSteps 6 ++ .shell (.writeConf (sampleFile "\x7b\"enable_broker\": false\x7d")) ::
      .createWatcher :: .watcher :: shellSteps 4)
    (sampleService_initial "\x7b\x7d") (by decide +kernel)
  rw [(hAll tr s hRun (Service.quiescent_of_isQuiescent hQuiescent)).1] at hStale
  cases hStale

end RdmnetBroker
