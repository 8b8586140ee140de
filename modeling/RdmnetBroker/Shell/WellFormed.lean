import RdmnetBroker.Config.WellFormed
import RdmnetBroker.Shell.History

/-! # What reaches the broker library

Every load leaves well-formed settings; only the scope overlay of
`ApplySettingsChanges` goes past the validators. In a run whose scope changes
fit the library's scope string, every `Startup` gets well-formed settings and
the logger has the mask of the load behind them.
-/

namespace RdmnetBroker

open Library

set_option autoImplicit false

namespace Shell

variable {L : Libraries} {defaultCid : Uuid} {tr : List Event} {s s' : Shell} {e : Event}

structure ScopeFits (L : Libraries) (s : Shell) : Prop where
  newScope_le : s.newScope.length ≤ L.e133ScopeStringPaddedLength - 1
  fresh : s.Fresh → Fits L.e133ScopeStringPaddedLength s.config.settings.scope

theorem Step.scopeFits (hStep : Step L s e s') (hL : L.Documented) (hCid : defaultCid.isNull = false)
    (hControl : s.Control) (hTracks : s.Tracks L defaultCid tr)
    (hScope : ∀ x, e = .handleScopeChanged x → x.length ≤ L.e133ScopeStringPaddedLength - 1)
    (h : s.ScopeFits L) : s'.ScopeFits L := by
  obtain ⟨hPending, hFresh⟩ := h
  obtain ⟨hReady, hDisarmed, _, _⟩ := hControl
  cases hStep with
  | handleScopeChanged x => exact ⟨hScope x rfl, hFresh⟩
  | requestRestart | asyncShutdown | tick | writeConf => exact ⟨hPending, hFresh⟩
  | loadReturn site file messages hPc =>
    refine ⟨hPending, fun _ => ?_⟩
    have hLoad : (fileConfig L file s.config).settings = fileSettings L defaultCid file := by
      rw [← hTracks.defaultCid_eq]
      rfl
    rw [hLoad]
    exact (fileSettings_wellFormed hL hCid file).scope
  | applyScope _ hNonempty => exact ⟨Nat.zero_le _, fun _ => ⟨hNonempty, hPending⟩⟩
  | _ => constructor <;> simp_all [Fresh]

end Shell

section Runs

variable {L : Libraries} {defaultCid : Uuid} {tr : List Event} {s : Shell}

theorem run_scopeFits (hL : L.Documented) (hCid : defaultCid.isNull = false)
    (h : (brokerShell L defaultCid).Run tr s)
    (hScopes : ∀ x, .handleScopeChanged x ∈ tr → x.length ≤ L.e133ScopeStringPaddedLength - 1) :
    s.ScopeFits L := by
  refine h.invariant (I := fun tr s =>
    (∀ x, .handleScopeChanged x ∈ tr → x.length ≤ L.e133ScopeStringPaddedLength - 1) →
      s.ScopeFits L) ?_ ?_ hScopes
  · intro s h0 _
    constructor <;> simp [Shell.Fresh, h0.pc_eq, h0.newScope_eq]
  · intro tr s e s' hRun ih hNext hScopes
    have hFits := ih fun x hMem => hScopes x (.tail _ hMem)
    refine (run_step hRun hNext).scopeFits hL hCid (run_control hRun) (run_tracks hRun) ?_ hFits
    rintro x rfl
    exact hScopes x (.head _)

/-- What a call of `Startup` gets: well-formed settings, and a logger with a mask of the
table that the most recent load chose. -/
def StartupsWellFormed (L : Libraries) (tr : List Event) : Prop :=
  ∀ post settings logMask pre, tr = post ++ .startup settings logMask :: pre →
    settings.WellFormed L ∧ logMask ∈ (kLogLevelOptions L).map Prod.snd ∧
      ∃ c, lastLoad pre = some c ∧ logMask = c.logMask

theorem run_startupsWellFormed (hL : L.Documented) (hCid : defaultCid.isNull = false)
    (h : (brokerShell L defaultCid).Run tr s)
    (hScopes : ∀ x, .handleScopeChanged x ∈ tr → x.length ≤ L.e133ScopeStringPaddedLength - 1) :
    StartupsWellFormed L tr := by
  rintro post settings logMask pre rfl
  obtain ⟨s₁, s₂, hRun, hStep⟩ := run_at h
  obtain ⟨hFresh, hConfig, file, c, hUses, _, hMask, hSettings⟩ := run_startup_uses hRun hStep
  have hScope := (run_scopeFits hL hCid hRun fun x hMem => hScopes x (by simp [hMem])).fresh hFresh
  rw [← hConfig] at hScope
  refine ⟨?_, ?_, c, hUses.load_eq, hMask⟩
  · rw [hSettings]
    exact { fileSettings_wellFormed hL hCid file with scope := hScope }
  · rw [hMask, hUses.loadedFrom.2.1]
    exact fileLogMask_mem L file

end Runs

def Event.startupScope? : Event → Option Bytes
  | .startup settings _ => some settings.scope
  | _ => none

theorem eq_of_startupScope? {e : Event} {x : Bytes} (h : e.startupScope? = some x) :
    ∃ settings logMask, e = .startup settings logMask ∧ settings.scope = x := by
  cases e with
  | startup settings logMask =>
    cases h
    exact ⟨settings, logMask, rfl, rfl⟩
  | _ => cases h

def Event.scopeFits (L : Libraries) : Event → Bool
  | .handleScopeChanged x => x.length ≤ L.e133ScopeStringPaddedLength - 1
  | _ => true

theorem run_startupsWellFormed_longest : ∃ tr,
    (tr.head?.bind Event.startupScope?) = some (List.replicate 62 97) ∧ StartupsWellFormed .sample tr := by
  obtain ⟨tr, s, hRun, hHead, hFits⟩ := exists_sample_run
    (P := fun tr _ => (tr.head?.bind Event.startupScope?) = some (List.replicate 62 97) ∧
      tr.all (Event.scopeFits .sample) = true) "\x7b\x7d"
    (mainSteps 10 ++ .handleScopeChanged (List.replicate 62 97) :: mainSteps 9) (by decide +kernel)
  refine ⟨tr, hHead, run_startupsWellFormed Libraries.sample_documented (by decide) hRun fun x hMem => ?_⟩
  simpa [Event.scopeFits] using List.all_eq_true.mp hFits _ hMem

/-- A scope change goes past the length check that the configuration file's scope has. -/
theorem not_startupsWellFormed_overlong : ¬ ∀ (L : Libraries) (defaultCid : Uuid) tr s,
    L.Documented → defaultCid.isNull = false → (brokerShell L defaultCid).Run tr s →
    StartupsWellFormed L tr := by
  intro hAll
  obtain ⟨tr, s, hRun, hHead⟩ := exists_sample_run
    (P := fun tr _ => (tr.head?.bind Event.startupScope?) = some (List.replicate 63 97)) "\x7b\x7d"
    (mainSteps 10 ++ .handleScopeChanged (List.replicate 63 97) :: mainSteps 9) (by decide +kernel)
  obtain ⟨e, hFirst, hScope⟩ := Option.bind_eq_some_iff.mp hHead
  obtain ⟨pre, rfl⟩ := List.head?_eq_some_iff.mp hFirst
  obtain ⟨settings, logMask, rfl, hSettings⟩ := eq_of_startupScope? hScope
  have hStartups := hAll _ _ _ s Libraries.sample_documented (by decide) hRun
  have hFits := (hStartups [] settings logMask pre rfl).1.scope.2
  rw [hSettings] at hFits
  exact absurd hFits (by decide)

end RdmnetBroker
