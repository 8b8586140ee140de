import RdmnetBroker.Shell.Steps

/-! # The state of a shell and the history of its run

What the shell's fields say about the events so far. `Control` ties the
program point to the flags; `Tracks` ties the fields to the history. Every
property of whole runs is read off these two invariants.
-/

namespace RdmnetBroker

open Library

set_option autoImplicit false

def lastLoad : List Event → Option BrokerConfig
  | [] => none
  | .loadReturn _ config :: _ => some config
  | _ :: tr => lastLoad tr

/-- The configuration of the most recent load with the scope applied since. -/
def configured : List Event → Option BrokerConfig
  | [] => none
  | .loadReturn _ config :: _ => some config
  | .applySettings (some scope) _ :: tr => (configured tr).map (Field.scope.set scope)
  | _ :: tr => configured tr

def lastFile : List Event → Option ConfFile
  | [] => none
  | .confFileRead _ file :: _ => some file
  | _ :: tr => lastFile tr

def started : List Event → Bool
  | [] => false
  | .startupReturn true :: _ => true
  | .shutdown :: _ => false
  | _ :: tr => started tr

/-- The argument of the latest `HandleScopeChanged` that no `ApplySettingsChanges` followed. -/
def pendingScope : List Event → Bytes
  | [] => []
  | .handleScopeChanged scope :: _ => scope
  | .applySettings _ _ :: _ => []
  | _ :: tr => pendingScope tr

theorem lastLoad_of_configured {tr : List Event} {c : BrokerConfig} (h : configured tr = some c) :
    (lastLoad tr).map (Field.scope.set c.settings.scope) = some c := by
  induction tr generalizing c with
  | nil => cases h
  | cons e tr ih =>
    cases e with
    | loadReturn site config =>
      cases h
      rfl
    | applySettings applied settings =>
      cases applied with
      | none => exact ih h
      | some scope =>
        obtain ⟨c₀, hConfigured, rfl⟩ := Option.map_eq_some_iff.mp h
        obtain ⟨c₁, hLoad, hScope⟩ := Option.map_eq_some_iff.mp (ih hConfigured)
        refine Option.map_eq_some_iff.mpr ⟨c₁, hLoad, ?_⟩
        rw [← hScope]
        rfl
    | _ => exact ih h

namespace Shell

variable {L : Libraries} {defaultCid : Uuid} {tr : List Event} {s s' : Shell} {e : Event}

/-- Whether the broker is started, by program point: `enable_broker` is the record of
it from the startup phase to the next `Shutdown`. -/
def startedAt (s : Shell) : Bool :=
  match s.pc with
  | .loopHead | .sleep => !s.startupBroker && s.config.enableBroker
  | .shutdownCheck | .timeToRestart | .restartShutdown | .finalShutdown => s.config.enableBroker
  | _ => false

structure Control (s : Shell) : Prop where
  notReady : s.pc = .openLogFile ∨ s.pc = .logStartup → s.readyToRun = false
  disarmed : s.pc = .startup ∨ s.pc = .shutdownCheck ∨ s.pc = .timeToRestart → s.startupBroker = false
  enabled : s.pc = .startup → s.config.enableBroker = true
  started_eq : s.brokerStarted = s.startedAt

theorem Constructed.control (h : s.Constructed defaultCid) : s.Control where
  notReady _ := h.readyToRun_eq
  disarmed hPc := by simp [h.pc_eq] at hPc
  enabled hPc := by simp [h.pc_eq] at hPc
  started_eq := by simp [startedAt, h.pc_eq, h.brokerStarted_eq]

theorem Step.control (hStep : Step L s e s') (h : s.Control) : s'.Control := by
  obtain ⟨hReady, hArmed, hEnabled, hStarted⟩ := h
  cases hStep with
  | requestRestart | handleScopeChanged | asyncShutdown | tick | writeConf =>
    exact ⟨hReady, hArmed, hEnabled, hStarted⟩
  | loadReturn site file messages hPc =>
    cases site <;> constructor <;> simp_all [startedAt, afterLoad]
  | _ => constructor <;> simp_all [startedAt, Field.enableBroker, Field.scope, Field.ofSettings]

/-- Between the return of a load and the startup phase that uses it. -/
def Fresh (s : Shell) : Prop :=
  match s.pc with
  | .setLogMask | .rdmnetInit | .applySettings => True
  | .initReturned => s.readyToRun = true
  | .loopHead | .sleep => s.startupBroker = true
  | _ => False

theorem fresh_of_loopHead (hPc : s.pc = .loopHead) (hStartup : s.startupBroker = true) : s.Fresh := by
  simp [Fresh, hPc, hStartup]

theorem fresh_of_applySettings (hPc : s.pc = .applySettings) : s.Fresh := by
  simp [Fresh, hPc]

def MaskSet (s : Shell) : Prop := s.Fresh ∧ s.pc ≠ .setLogMask ∧ s.pc ≠ .applySettings

def LoadedFrom (L : Libraries) (defaultCid : Uuid) (file : ConfFile) (c : BrokerConfig) : Prop :=
  c.settings = fileSettings L defaultCid file ∧ c.logMask = fileLogMask L file ∧
    c.enableBroker = fileEnableBroker L file

structure Tracks (s : Shell) (L : Libraries) (defaultCid : Uuid) (tr : List Event) : Prop where
  defaultCid_eq : s.config.defaultCid = defaultCid
  started_eq : s.brokerStarted = started tr
  newScope_eq : s.newScope = pendingScope tr
  reading : ∀ site file, s.pc = .load site (.read file) → lastFile tr = some file
  configured_eq : s.Fresh → configured tr = some s.config
  loaded : s.Fresh → ∃ file c, lastFile tr = some file ∧ lastLoad tr = some c ∧
    LoadedFrom L defaultCid file c
  mask_eq : s.MaskSet → s.logMask = s.config.logMask

theorem Constructed.tracks (h : s.Constructed defaultCid) : s.Tracks L defaultCid [] where
  defaultCid_eq := h.defaultCid_eq
  started_eq := h.brokerStarted_eq
  newScope_eq := h.newScope_eq
  reading site file hPc := by simp [h.pc_eq] at hPc
  configured_eq hFresh := by simp [Fresh, h.pc_eq] at hFresh
  loaded hFresh := by simp [Fresh, h.pc_eq] at hFresh
  mask_eq hMask := by simp [MaskSet, Fresh, h.pc_eq] at hMask

theorem Tracks.of_stale (hCid : s.config.defaultCid = defaultCid)
    (hStarted : s.brokerStarted = started tr) (hScope : s.newScope = pendingScope tr)
    (hReading : ∀ site file, s.pc ≠ .load site (.read file)) (hStale : ¬ s.Fresh) :
    s.Tracks L defaultCid tr where
  defaultCid_eq := hCid
  started_eq := hStarted
  newScope_eq := hScope
  reading site file hPc := absurd hPc (hReading site file)
  configured_eq hFresh := absurd hFresh hStale
  loaded hFresh := absurd hFresh hStale
  mask_eq hMask := absurd hMask.1 hStale

theorem Step.tracks (hStep : Step L s e s') (hControl : s.Control) (h : s.Tracks L defaultCid tr) :
    s'.Tracks L defaultCid (e :: tr) := by
  obtain ⟨hReady, hArmed, _, _⟩ := hControl
  obtain ⟨hCid, hStarted, hScope, hReading, hConfigured, hLoaded, hMask⟩ := h
  cases hStep with
  | requestRestart | asyncShutdown | tick | writeConf =>
    exact ⟨hCid, hStarted, hScope, hReading, hConfigured, hLoaded, hMask⟩
  | handleScopeChanged => exact ⟨hCid, hStarted, rfl, hReading, hConfigured, hLoaded, hMask⟩
  | openLogFileFailed messages hPc =>
    exact .of_stale hCid hStarted hScope nofun (by simp [Fresh, hReady (.inl hPc)])
  | logStartupFailed hPc =>
    exact .of_stale hCid hStarted hScope nofun (by simp [Fresh, hReady (.inr hPc)])
  | notTimeToRestart hPc =>
    exact .of_stale hCid hStarted hScope nofun (by simp [Fresh, hArmed (.inr (.inr hPc))])
  | confFileRead site hPc =>
    refine ⟨hCid, hStarted, hScope, fun _ _ hPc' => ?_, fun hFresh => hFresh.elim,
      fun hFresh => hFresh.elim, fun hMask' => hMask'.1.elim⟩
    cases hPc'
    rfl
  | loadReturn site file messages hPc =>
    have hLoad : LoadedFrom L defaultCid file (fileConfig L file s.config) := by
      rw [← hCid]
      exact ⟨rfl, rfl, rfl⟩
    refine ⟨hCid, hStarted, hScope, fun _ _ hPc' => ?_, fun _ => rfl,
      fun _ => ⟨file, _, hReading site file hPc, rfl, hLoad⟩, fun hMask' => ?_⟩
    · cases site <;> cases hPc'
    · cases site
      · exact absurd rfl hMask'.2.1
      · exact absurd rfl hMask'.2.2
  | initReturn hPc =>
    have hFresh : s.Fresh := by simp [Fresh, hPc]
    exact ⟨hCid, hStarted, hScope, nofun, fun _ => hConfigured hFresh, fun _ => hLoaded hFresh,
      fun _ => rfl⟩
  | runCall hPc hReadyToRun =>
    have hFresh : s.Fresh := by simp [Fresh, hPc, hReadyToRun]
    exact ⟨hCid, hStarted, hScope, nofun, fun _ => hConfigured hFresh, fun _ => hLoaded hFresh,
      fun _ => hMask ⟨hFresh, by simp [hPc]⟩⟩
  | rdmnetInit hPc =>
    have hFresh : s.Fresh := by simp [Fresh, hPc]
    exact ⟨hCid, hStarted, hScope, nofun, fun _ => hConfigured hFresh, fun _ => hLoaded hFresh,
      fun _ => hMask ⟨hFresh, by simp [hPc]⟩⟩
  | applyScope hPc =>
    have hFresh := fresh_of_applySettings hPc
    refine ⟨hCid, hStarted, rfl, nofun, fun _ => ?_, fun _ => hLoaded hFresh, fun _ => rfl⟩
    simp [configured, hConfigured hFresh]
  | applyNothing hPc hEmpty =>
    have hFresh := fresh_of_applySettings hPc
    exact ⟨hCid, hStarted, hEmpty, nofun, fun _ => hConfigured hFresh, fun _ => hLoaded hFresh,
      fun _ => rfl⟩
  | sleep hPc =>
    have hFresh : ∀ h : s.startupBroker = true, s.Fresh := fun h => by simp [Fresh, hPc, h]
    exact ⟨hCid, hStarted, hScope, nofun, fun h => hConfigured (hFresh h), fun h => hLoaded (hFresh h),
      fun h => hMask ⟨hFresh h.1, by simp [hPc]⟩⟩
  | loadThrow site file e config messages _ _ hCid' =>
    exact .of_stale (hCid'.trans hCid) hStarted hScope nofun id
  | startupReturn | restartShutdown | finalShutdown => exact .of_stale hCid rfl hScope nofun id
  | _ => exact .of_stale hCid hStarted hScope nofun id

end Shell

variable {L : Libraries} {defaultCid : Uuid} {tr : List Event} {s : Shell}

theorem run_control (h : (brokerShell L defaultCid).Run tr s) : s.Control :=
  run_invariant (I := fun _ s => s.Control) (fun _ h0 => h0.control)
    (fun _ _ _ _ ih hStep => hStep.control ih) h

theorem run_tracks (h : (brokerShell L defaultCid).Run tr s) : s.Tracks L defaultCid tr :=
  (run_invariant (I := fun tr s => s.Control ∧ s.Tracks L defaultCid tr)
    (fun _ h0 => ⟨h0.control, h0.tracks⟩)
    (fun _ _ _ _ ih hStep => ⟨hStep.control ih.1, hStep.tracks ih.1 ih.2⟩) h).2

/-- What a startup phase uses: the configuration that the most recent load left, with
at most the scope replaced. -/
structure UsesLoad (L : Libraries) (defaultCid : Uuid) (tr : List Event) (s : Shell) (file : ConfFile)
    (c : BrokerConfig) : Prop where
  file_eq : lastFile tr = some file
  load_eq : lastLoad tr = some c
  loadedFrom : Shell.LoadedFrom L defaultCid file c
  config_eq : s.config = Field.scope.set s.config.settings.scope c

theorem run_usesLoad (h : (brokerShell L defaultCid).Run tr s) (hFresh : s.Fresh) :
    ∃ file c, UsesLoad L defaultCid tr s file c := by
  have hTracks := run_tracks h
  obtain ⟨file, c, hFile, hLoad, hFrom⟩ := hTracks.loaded hFresh
  have hConfig := lastLoad_of_configured (hTracks.configured_eq hFresh)
  rw [hLoad, Option.map_some, Option.some.injEq] at hConfig
  exact ⟨file, c, hFile, hLoad, hFrom, hConfig.symm⟩

/-- What a call of `Startup` is made with: the settings of the file last read under some
scope, and the mask of the load. -/
theorem run_startup_uses {s' : Shell} {settings : Settings} {logMask : Int}
    (h : (brokerShell L defaultCid).Run tr s) (hStep : Shell.Step L s (.startup settings logMask) s') :
    s.Fresh ∧ settings = s.config.settings ∧ ∃ file c, UsesLoad L defaultCid tr s file c ∧
      c.enableBroker = true ∧ logMask = c.logMask ∧
      settings = { fileSettings L defaultCid file with scope := settings.scope } := by
  cases hStep with
  | startup _ hPc hStartup hEnabled =>
    have hFresh := Shell.fresh_of_loopHead hPc hStartup
    obtain ⟨file, c, hUses⟩ := run_usesLoad h hFresh
    refine ⟨hFresh, rfl, file, c, hUses, ?_, ?_, ?_⟩
    · rw [hUses.config_eq] at hEnabled
      exact hEnabled
    · rw [(run_tracks h).mask_eq ⟨hFresh, by simp [hPc]⟩, hUses.config_eq]
      rfl
    · rw [← hUses.loadedFrom.1, hUses.config_eq]
      rfl

end RdmnetBroker
