import RdmnetBroker.Config.Contract
import RdmnetBroker.Shell.Model

/-! # What a step of the shell can do

`Step` lists the transitions with their guards, and the step function takes no
other one. A load is described by its meaning: between its parts the
configuration holds the defaults, so a load that returns leaves the settings
of the file it read, and it throws exactly on the texts that escape `Read`.
-/

namespace RdmnetBroker

open Library

set_option autoImplicit false

namespace Shell

/-- The transitions out of a state whose configuration holds the defaults inside a load. -/
inductive Step (L : Libraries) (s : Shell) : Event → Shell → Prop
  | openLogFile (messages : List LogMessage) : s.pc = .openLogFile →
      Step L s (.openLogFile true) { s with messages := messages, pc := .logStartup }
  | openLogFileFailed (messages : List LogMessage) : s.pc = .openLogFile →
      Step L s (.openLogFile false) { s with messages := messages, pc := .initReturned }
  | logStartup : s.pc = .logStartup →
      Step L s (.logStartup true) { s with pc := .load .init .setDefaults }
  | logStartupFailed : s.pc = .logStartup →
      Step L s (.logStartup false) { s with pc := .initReturned }
  | loadBegin (site : LoadSite) (messages : List LogMessage) : s.pc = .load site .setDefaults →
      Step L s (.loadBegin site)
        { s with config := defaultConfig L s.config, messages := messages, pc := .load site .getConfFile }
  | confFileRead (site : LoadSite) : s.pc = .load site .getConfFile →
      Step L s (.confFileRead site s.confFile) { s with pc := .load site (.read s.confFile) }
  | loadReturn (site : LoadSite) (file : ConfFile) (messages : List LogMessage) :
      s.pc = .load site (.read file) → fileEscapes L file = false →
      Step L s (.loadReturn site (fileConfig L file s.config))
        { s with config := fileConfig L file s.config, messages := messages, pc := afterLoad site }
  | loadThrow (site : LoadSite) (file : ConfFile) (e : JsonException) (config : BrokerConfig)
      (messages : List LogMessage) : s.pc = .load site (.read file) → fileEscapes L file = true →
      config.defaultCid = s.config.defaultCid →
      Step L s (.loadThrow site e)
        { s with config := config, messages := messages, pc := .escaped site }
  | initReturn : s.pc = .setLogMask →
      Step L s .initReturn
        { s with logMask := s.config.logMask, readyToRun := true, pc := .initReturned }
  | runCall : s.pc = .initReturned → s.readyToRun = true →
      Step L s .runCall { s with pc := .rdmnetInit }
  | runRefused : s.pc = .initReturned → s.readyToRun = false →
      Step L s .runCall { s with pc := .runReturned false }
  | rdmnetInit : s.pc = .rdmnetInit →
      Step L s (.rdmnetInit true) { s with startupBroker := true, pc := .loopHead }
  | rdmnetInitFailed : s.pc = .rdmnetInit →
      Step L s (.rdmnetInit false) { s with pc := .runReturned false }
  | startup (messages : List LogMessage) : s.pc = .loopHead → s.startupBroker = true →
      s.config.enableBroker = true →
      Step L s (.startup s.config.settings s.logMask)
        { s with messages := messages, startupBroker := false, pc := .startup }
  | startupDisabled (messages : List LogMessage) : s.pc = .loopHead → s.startupBroker = true →
      s.config.enableBroker = false →
      Step L s .startupDisabled
        { s with messages := messages, startupBroker := false, pc := .shutdownCheck }
  | startupSkipped : s.pc = .loopHead → s.startupBroker = false →
      Step L s .startupSkipped { s with pc := .shutdownCheck }
  | startupReturn : s.pc = .startup →
      Step L s (.startupReturn true) { s with brokerStarted := true, pc := .shutdownCheck }
  | startupFailed (messages : List LogMessage) : s.pc = .startup →
      Step L s (.startupReturn false)
        { s with
          config := Field.enableBroker.set false s.config
          messages := messages
          pc := .shutdownCheck }
  | shutdownSeen : s.pc = .shutdownCheck → s.shutdownRequested = true →
      Step L s (.shutdownCheck true) { s with pc := .finalShutdown }
  | shutdownNotSeen : s.pc = .shutdownCheck → s.shutdownRequested = false →
      Step L s (.shutdownCheck false) { s with pc := .timeToRestart }
  | timeToRestart (messages : List LogMessage) : s.pc = .timeToRestart → s.restartRequested = true →
      s.restartTimer.isExpired s.now = true →
      Step L s (.timeToRestart true)
        { s with messages := messages, restartRequested := false, pc := .restartShutdown }
  | notTimeToRestart : s.pc = .timeToRestart →
      ¬ (s.restartRequested = true ∧ s.restartTimer.isExpired s.now = true) →
      Step L s (.timeToRestart false) { s with pc := .sleep }
  | restartShutdown : s.pc = .restartShutdown → s.config.enableBroker = true →
      Step L s .shutdown { s with brokerStarted := false, pc := .load .restart .setDefaults }
  | restartNoShutdown : s.pc = .restartShutdown → s.config.enableBroker = false →
      Step L s .noShutdown { s with pc := .load .restart .setDefaults }
  | applyScope : s.pc = .applySettings → s.newScope ≠ [] →
      Step L s (.applySettings (some s.newScope) { s.config.settings with scope := s.newScope })
        { s with
          config := Field.scope.set s.newScope s.config
          logMask := s.config.logMask
          newScope := []
          startupBroker := true
          pc := .sleep }
  | applyNothing : s.pc = .applySettings → s.newScope = [] →
      Step L s (.applySettings none s.config.settings)
        { s with logMask := s.config.logMask, startupBroker := true, pc := .sleep }
  | sleep : s.pc = .sleep → Step L s .sleep { s with pc := .loopHead }
  | finalShutdown : s.pc = .finalShutdown → s.config.enableBroker = true →
      Step L s .shutdown { s with brokerStarted := false, pc := .rdmnetDeinit }
  | finalNoShutdown : s.pc = .finalShutdown → s.config.enableBroker = false →
      Step L s .noShutdown { s with pc := .rdmnetDeinit }
  | rdmnetDeinit : s.pc = .rdmnetDeinit → Step L s .rdmnetDeinit { s with pc := .runReturned true }
  | deinit (ok : Bool) : s.pc = .runReturned ok → Step L s .deinit { s with pc := .deinitReturned }
  | requestRestart (cooldownMs : BitVec 32) :
      Step L s (.requestRestart cooldownMs)
        { s with restartRequested := true, restartTimer := s.restartTimerAfter cooldownMs }
  | handleScopeChanged (scope : Bytes) :
      Step L s (.handleScopeChanged scope)
        { s with newScope := scope, restartRequested := true, restartTimer := s.restartTimerAfter 0 }
  | asyncShutdown (messages : List LogMessage) :
      Step L s .asyncShutdown { s with messages := messages, shutdownRequested := true }
  | tick (ms : BitVec 32) : Step L s (.tick ms) { s with now := s.now + ms }
  | writeConf (file : ConfFile) : Step L s (.writeConf file) { s with confFile := file }

def DefaultsInLoad (L : Libraries) (s : Shell) : Prop :=
  ∀ site stage, s.pc = .load site stage → stage ≠ .setDefaults → defaultConfig L s.config = s.config

variable {L : Libraries} {s s' : Shell} {e : Event}

theorem step_of_stepMain {ok : Bool} {reason : Bytes} (hDefaults : s.DefaultsInLoad L)
    (h : s.stepMain L ok reason = some (e, s')) : Step L s e s' := by
  unfold stepMain at h
  split at h
  case h_1 hPc =>
    split at h <;> cases h
    · exact .openLogFile _ hPc
    · exact .openLogFileFailed _ hPc
  case h_2 hPc =>
    split at h <;> cases h
    · exact .logStartup hPc
    · exact .logStartupFailed hPc
  case h_3 site hPc =>
    obtain ⟨t, hRun, hConfig⟩ := setDefaults_yields L s.config ⟨s.config, s.messages⟩ rfl
    simp only [stepLoad, hRun, hConfig] at h
    cases h
    exact .loadBegin site _ hPc
  case h_4 site hPc =>
    cases h
    exact .confFileRead site hPc
  case h_5 site file hPc =>
    cases hEscapes : fileEscapes L file with
    | false =>
      obtain ⟨t, hRun, hConfig⟩ := loadFrom_yields (hDefaults site _ hPc nofun) hEscapes
        ⟨s.config, s.messages⟩ rfl
      simp only [stepLoad, hRun, hConfig] at h
      cases h
      exact .loadReturn site file _ hPc hEscapes
    | true =>
      obtain ⟨x, c', hThrows, hCid⟩ := loadFrom_throws hEscapes
      obtain ⟨t, hRun, rfl⟩ := hThrows ⟨s.config, s.messages⟩ rfl
      simp only [stepLoad, hRun] at h
      cases h
      exact .loadThrow site file x _ _ hPc hEscapes hCid
  case h_6 hPc =>
    cases h
    exact .initReturn hPc
  case h_7 hPc =>
    split at h <;> cases h
    · exact .runCall hPc ‹_›
    · exact .runRefused hPc (Bool.eq_false_iff.mpr ‹_›)
  case h_8 hPc =>
    split at h <;> cases h
    · exact .rdmnetInit hPc
    · exact .rdmnetInitFailed hPc
  case h_9 hPc =>
    unfold stepLoopHead at h
    split at h
    · rename_i hStartup
      split at h
      · rename_i hEnable
        cases ok <;> cases h <;> exact .startup _ hPc hStartup hEnable
      · rename_i hEnable
        cases h
        exact .startupDisabled _ hPc hStartup (Bool.eq_false_iff.mpr hEnable)
    · rename_i hStartup
      cases h
      exact .startupSkipped hPc (Bool.eq_false_iff.mpr hStartup)
  case h_10 hPc =>
    unfold stepStartup at h
    split at h <;> cases h
    · exact .startupReturn hPc
    · exact .startupFailed _ hPc
  case h_11 hPc =>
    split at h <;> cases h
    · exact .shutdownSeen hPc ‹_›
    · exact .shutdownNotSeen hPc (Bool.eq_false_iff.mpr ‹_›)
  case h_12 hPc =>
    unfold stepTimeToRestart timeToRestartBroker at h
    by_cases hTime : (s.restartRequested && s.restartTimer.isExpired s.now) = true
    · simp only [hTime, if_true] at h
      cases h
      simp only [Bool.and_eq_true] at hTime
      exact .timeToRestart _ hPc hTime.1 hTime.2
    · simp only [hTime] at h
      cases h
      simp only [Bool.and_eq_true] at hTime
      exact .notTimeToRestart hPc hTime
  case h_13 hPc =>
    unfold stepShutdown at h
    split at h <;> cases h
    · exact .restartShutdown hPc ‹_›
    · exact .restartNoShutdown hPc (Bool.eq_false_iff.mpr ‹_›)
  case h_14 hPc =>
    unfold stepApply applySettingsChanges at h
    cases hScope : s.newScope.isEmpty with
    | true =>
      simp only [hScope, if_true] at h
      cases h
      exact .applyNothing hPc (List.isEmpty_iff.mp hScope)
    | false =>
      simp only [hScope] at h
      cases h
      exact .applyScope hPc (List.isEmpty_eq_false_iff.mp hScope)
  case h_15 hPc =>
    cases h
    exact .sleep hPc
  case h_16 hPc =>
    unfold stepShutdown at h
    split at h <;> cases h
    · exact .finalShutdown hPc ‹_›
    · exact .finalNoShutdown hPc (Bool.eq_false_iff.mpr ‹_›)
  case h_17 hPc =>
    cases h
    exact .rdmnetDeinit hPc
  case h_18 ok' hPc =>
    cases h
    exact .deinit ok' hPc
  case h_19 => cases h
  case h_20 => cases h

theorem step_cases {a : Act} (hDefaults : s.DefaultsInLoad L) (h : s.step L a = some (e, s')) :
    Step L s e s' := by
  cases a with
  | main ok reason => exact step_of_stepMain hDefaults h
  | requestRestart cooldownMs =>
    cases h
    exact .requestRestart cooldownMs
  | handleScopeChanged scope =>
    cases h
    exact .handleScopeChanged scope
  | asyncShutdown =>
    cases h
    exact .asyncShutdown _
  | tick ms =>
    cases h
    exact .tick ms
  | writeConf file =>
    cases h
    exact .writeConf file

theorem Step.defaultsInLoad (hStep : Step L s e s') (h : s.DefaultsInLoad L) : s'.DefaultsInLoad L := by
  intro site stage hPc hStage
  cases hStep with
  | loadBegin => rfl
  | confFileRead site' hPc' => exact h site' _ hPc' nofun
  | requestRestart | handleScopeChanged | asyncShutdown | tick | writeConf =>
    exact h site stage hPc hStage
  | logStartup | restartShutdown | restartNoShutdown =>
    cases hPc
    exact absurd rfl hStage
  | loadReturn site' => cases site' <;> cases hPc
  | _ => cases hPc

end Shell

section Runs

variable {L : Libraries} {defaultCid : Uuid} {tr : List Event} {s s' : Shell} {e : Event}

theorem run_defaultsInLoad (h : (brokerShell L defaultCid).Run tr s) : s.DefaultsInLoad L := by
  refine h.invariant (I := fun _ s => s.DefaultsInLoad L) ?_ ?_
  · intro s h0 site stage hPc
    rw [h0.pc_eq] at hPc
    cases hPc
  · rintro tr s e s' _ ih ⟨a, hStep⟩
    exact (Shell.step_cases ih hStep).defaultsInLoad ih

theorem run_step (h : (brokerShell L defaultCid).Run tr s)
    (hNext : (brokerShell L defaultCid).next s e s') : Shell.Step L s e s' := by
  obtain ⟨a, hStep⟩ := hNext
  exact Shell.step_cases (run_defaultsInLoad h) hStep

theorem run_at {post pre : List Event} (h : (brokerShell L defaultCid).Run (post ++ e :: pre) s) :
    ∃ s₁ s₂, (brokerShell L defaultCid).Run pre s₁ ∧ Shell.Step L s₁ e s₂ := by
  obtain ⟨s₁, s₂, hRun, hNext⟩ := h.at_label
  exact ⟨s₁, s₂, hRun, run_step hRun hNext⟩

/-- The invariant rule for the shell, over the listed transitions. -/
theorem run_invariant {I : List Event → Shell → Prop}
    (hStart : ∀ s, s.Constructed defaultCid → I [] s)
    (hStep : ∀ tr s e s', I tr s → Shell.Step L s e s' → I (e :: tr) s')
    (h : (brokerShell L defaultCid).Run tr s) : I tr s :=
  h.invariant hStart fun _ _ _ _ hRun ih hNext => hStep _ _ _ _ ih (run_step hRun hNext)

end Runs

def sampleShell (text : String) : Shell where
  config := sampleConfig
  messages := []
  logMask := 0
  readyToRun := false
  restartTimer := ⟨0, 0⟩
  restartRequested := false
  shutdownRequested := false
  newScope := []
  startupBroker := false
  pc := .openLogFile
  logFilePath := bytes "/var/log/RDMnetBroker/broker.log"
  now := 0
  confFile := sampleFile text
  brokerStarted := false

theorem sampleShell_constructed (text : String) :
    (sampleShell text).Constructed sampleConfig.defaultCid :=
  ⟨rfl, rfl, rfl, rfl, rfl, rfl, rfl, rfl⟩

def mainSteps (n : Nat) : List Act := List.replicate n (.main true [])

theorem exists_sample_run {P : List Event → Shell → Prop} [∀ tr s, Decidable (P tr s)]
    (text : String) (acts : List Act)
    (h : (System.exec (Shell.step .sample) (sampleShell text) acts).any
      (fun r => decide (P r.1 r.2)) = true) :
    ∃ tr s, (brokerShell .sample sampleConfig.defaultCid).Run tr s ∧ P tr s :=
  System.Run.exists_of_exec (S := brokerShell .sample sampleConfig.defaultCid)
    (fun _ a _ _ hStep => ⟨a, hStep⟩) acts (sampleShell_constructed text) h

theorem exists_guarded_sample_run {G : Shell → Event → Prop} {P : List Event → Shell → Prop}
    [∀ tr s, Decidable (P tr s)] (check : Shell → Event → Bool)
    (hCheck : ∀ s e, check s e = true → G s e) (text : String) (acts : List Act)
    (h : (System.exec (fun s a => (Shell.step .sample s a).filter fun r => check s r.1) (sampleShell text)
      acts).any (fun r => decide (P r.1 r.2)) = true) :
    ∃ tr s, ((brokerShell .sample sampleConfig.defaultCid).guard G).Run tr s ∧ P tr s :=
  System.Run.exists_of_exec_guard (S := brokerShell .sample sampleConfig.defaultCid)
    (fun _ a _ _ hStep => ⟨a, hStep⟩) check hCheck acts (sampleShell_constructed text) h

end RdmnetBroker
