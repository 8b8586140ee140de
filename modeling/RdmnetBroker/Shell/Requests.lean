import RdmnetBroker.Shell.Shutdown

/-! # Pending requests and pending scopes

`restart_requested_` and `new_scope_` are set together under the lock and
cleared in two different critical sections, with a load between them. Neither
a restart request nor a pending scope is lost on the way, and a scope is
applied once.
-/

namespace RdmnetBroker

open Library

set_option autoImplicit false

/-- `RequestRestart` or `HandleScopeChanged` was called and no load has begun since. -/
def unserved : List Event → Bool
  | [] => false
  | .loadBegin _ :: _ => false
  | .requestRestart _ :: _ => true
  | .handleScopeChanged _ :: _ => true
  | _ :: tr => unserved tr

/-- Between a true return of `TimeToRestartBroker` and the return of the load that follows. -/
def reloading : List Event → Bool
  | [] => false
  | .timeToRestart true :: _ => true
  | .loadReturn _ _ :: _ => false
  | _ :: tr => reloading tr

/-- Between a true return of `TimeToRestartBroker` and the `ApplySettingsChanges` that follows. -/
def restarting : List Event → Bool
  | [] => false
  | .timeToRestart true :: _ => true
  | .applySettings _ _ :: _ => false
  | _ :: tr => restarting tr

def Event.isRestartCall : Event → Bool
  | .requestRestart _ => true
  | .handleScopeChanged _ => true
  | _ => false

def Event.isScopeCall : Event → Bool
  | .handleScopeChanged _ => true
  | _ => false

def Event.isApply : Event → Bool
  | .applySettings _ _ => true
  | _ => false

def latestScope : List Event → Option Bytes
  | [] => none
  | .handleScopeChanged scope :: _ => some scope
  | _ :: tr => latestScope tr

theorem unserved_of_call {post pre : List Event} {e : Event} (hCall : e.isRestartCall = true)
    (hNone : ∀ site, .loadBegin site ∉ post) : unserved (post ++ e :: pre) = true := by
  induction post with
  | nil => cases e <;> first | rfl | cases hCall
  | cons e' post ih =>
    have hRest := ih fun site hMem => hNone site (.tail _ hMem)
    cases e' with
    | loadBegin site => exact absurd (.head _) (hNone site)
    | requestRestart | handleScopeChanged => rfl
    | _ => exact hRest

theorem pendingScope_of_latest {mid pre : List Event} {x y : Bytes}
    (hNone : ∀ e ∈ mid, e.isApply = false)
    (hLatest : latestScope (mid ++ .handleScopeChanged x :: pre) = some y) :
    pendingScope (mid ++ .handleScopeChanged x :: pre) = y := by
  induction mid with
  | nil =>
    cases hLatest
    rfl
  | cons e mid ih =>
    have hRest := ih fun e' hMem => hNone e' (.tail _ hMem)
    cases e with
    | handleScopeChanged scope =>
      cases hLatest
      rfl
    | applySettings => cases hNone _ (.head _)
    | _ => exact hRest hLatest

namespace Shell

variable {L : Libraries} {defaultCid : Uuid} {tr : List Event} {s s' : Shell} {e : Event}

structure Requests (s : Shell) (tr : List Event) : Prop where
  unserved_imp : unserved tr = true →
    s.restartRequested = true ∨ s.pc = .restartShutdown ∨ s.pc = .load .restart .setDefaults
  reloading_of_pc : s.pc = .restartShutdown ∨ s.pc = .load .restart .setDefaults → reloading tr = true
  newScope_imp : s.newScope ≠ [] → s.restartRequested = true ∨ restarting tr = true

theorem Constructed.requests (h : s.Constructed defaultCid) : s.Requests [] := by
  constructor <;> simp [unserved, h.pc_eq, h.newScope_eq]

theorem Step.requests (hStep : Step L s e s') (h : s.Requests tr) : s'.Requests (e :: tr) := by
  obtain ⟨hUnserved, hReloading, hScope⟩ := h
  cases hStep with
  | requestRestart | handleScopeChanged => exact ⟨fun _ => .inl rfl, hReloading, fun _ => .inl rfl⟩
  | asyncShutdown | tick | writeConf => exact ⟨hUnserved, hReloading, hScope⟩
  | timeToRestart => exact ⟨fun _ => .inr (.inl rfl), fun _ => rfl, fun _ => .inr rfl⟩
  | loadBegin => exact ⟨nofun, by simp, hScope⟩
  | loadReturn site => cases site <;> constructor <;> simp_all [unserved, restarting, afterLoad]
  | _ => constructor <;> simp_all [unserved, reloading, restarting]

def Applied (c : BrokerConfig) (s : Shell) : Prop :=
  (s.pc = .sleep ∨ s.pc = .loopHead) ∧ s.startupBroker = true ∧ s.config = c

end Shell

def Event.isStartupPhase : Event → Bool
  | .startup _ _ => true
  | .startupDisabled => true
  | _ => false

theorem Shell.Step.applied {L : Libraries} {s s' : Shell} {e : Event} {c : BrokerConfig}
    (hStep : Shell.Step L s e s') (h : s.Applied c) (hPhase : e.isStartupPhase = false) :
    s'.Applied c := by
  obtain ⟨hPc, hStartup, hConfig⟩ := h
  cases hStep with
  | requestRestart | handleScopeChanged | asyncShutdown | tick | writeConf =>
    exact ⟨hPc, hStartup, hConfig⟩
  | sleep => exact ⟨.inr rfl, hStartup, hConfig⟩
  | _ => simp_all [Event.isStartupPhase]

variable {L : Libraries} {defaultCid : Uuid} {tr : List Event} {s : Shell}

theorem run_requests (h : (brokerShell L defaultCid).Run tr s) : s.Requests tr :=
  run_invariant (I := fun tr s => s.Requests tr) (fun _ h0 => h0.requests)
    (fun _ _ _ _ ih hStep => hStep.requests ih) h

/-- Outside a reload, once `restart_requested_` is false, a load has begun after every
`RequestRestart` and every `HandleScopeChanged`. -/
theorem loadBegin_after_request (h : (brokerShell L defaultCid).Run tr s)
    (hFlag : s.restartRequested = false) (hReloading : reloading tr = false) :
    ∀ post call pre, tr = post ++ call :: pre → call.isRestartCall = true →
      ∃ site, .loadBegin site ∈ post := by
  rintro post call pre rfl hCall
  by_contra hNone
  have hUnserved : unserved (post ++ call :: pre) = true :=
    unserved_of_call hCall fun site hMem => hNone ⟨site, hMem⟩
  have hRequests := run_requests h
  rcases hRequests.unserved_imp hUnserved with hSet | hPc
  · rw [hFlag] at hSet
    cases hSet
  · rw [hRequests.reloading_of_pc hPc] at hReloading
    cases hReloading

theorem loadBegin_after_request_restarted : ∃ (tr : List Event) (s : Shell),
    tr.any Event.isRestartCall = true ∧ s.restartRequested = false ∧ reloading tr = false ∧
      ∀ post call pre, tr = post ++ call :: pre → call.isRestartCall = true →
        ∃ site, .loadBegin site ∈ post := by
  obtain ⟨tr, s, hRun, hCall, hFlag, hReloading⟩ := exists_sample_run
    (P := fun tr s => tr.any Event.isRestartCall = true ∧ s.restartRequested = false ∧
      reloading tr = false) "\x7b\x7d" (mainSteps 10 ++ .requestRestart 0 :: mainSteps 6)
    (by decide +kernel)
  exact ⟨tr, s, hCall, hFlag, hReloading, loadBegin_after_request hRun hFlag hReloading⟩

def Event.appliesScope (x : Bytes) : Event → Bool
  | .applySettings (some scope) _ => scope == x
  | _ => false

def Event.changesScope (x : Bytes) : Event → Bool
  | .handleScopeChanged scope => scope == x
  | _ => false

/-- A scope that is neither empty nor applied counts for one call. -/
def scopeDue (x : Bytes) (tr : List Event) : Bool := x != [] && pendingScope tr == x

theorem scopeDue_applySettings (x : Bytes) (applied : Option Bytes) (settings : Settings)
    (tr : List Event) : scopeDue x (.applySettings applied settings :: tr) = false := by
  cases x <;> simp [scopeDue, pendingScope]

theorem applied_le_changed (h : (brokerShell L defaultCid).Run tr s) (x : Bytes) :
    tr.countP (Event.appliesScope x) + (scopeDue x tr).toNat ≤ tr.countP (Event.changesScope x) := by
  refine h.invariant (I := fun tr _ =>
    tr.countP (Event.appliesScope x) + (scopeDue x tr).toNat ≤ tr.countP (Event.changesScope x)) ?_ ?_
  · intro _ _
    cases x <;> simp [scopeDue, pendingScope]
  · intro tr s e s' hRun ih hNext
    have hStep := run_step hRun hNext
    have hScope := (run_tracks hRun).newScope_eq
    rw [System.countP_cons_toNat, System.countP_cons_toNat]
    cases e with
    | handleScopeChanged scope =>
      by_cases hEq : scope = x
      · have := Bool.toNat_le (scopeDue x (.handleScopeChanged scope :: tr))
        simp only [Event.appliesScope, Event.changesScope, hEq, beq_self_eq_true, Bool.toNat_true,
          Bool.toNat_false] at this ⊢
        omega
      · simp only [Event.appliesScope, Event.changesScope, scopeDue, pendingScope,
          beq_eq_false_iff_ne.mpr hEq, Bool.and_false, Bool.toNat_false]
        omega
    | applySettings applied settings =>
      cases hStep with
      | applyNothing =>
        simp only [Event.appliesScope, Event.changesScope, scopeDue_applySettings, Bool.toNat_false]
        omega
      | applyScope hPc hNonempty =>
        by_cases hEq : s.newScope = x
        · have hDue : scopeDue x tr = true := by
            simp [scopeDue, ← hScope, ← hEq, hNonempty]
          rw [hDue, Bool.toNat_true] at ih
          simp only [Event.appliesScope, Event.changesScope, scopeDue_applySettings, hEq,
            beq_self_eq_true, Bool.toNat_true, Bool.toNat_false]
          omega
        · simp only [Event.appliesScope, Event.changesScope, scopeDue_applySettings,
            beq_eq_false_iff_ne.mpr hEq, Bool.toNat_false]
          omega
    | _ => simpa [Event.appliesScope, Event.changesScope, scopeDue, pendingScope] using ih

theorem applied_until_startup {mid pre : List Event} {applied : Option Bytes} {settings : Settings}
    (h : (brokerShell L defaultCid).Run (mid ++ .applySettings applied settings :: pre) s)
    (hNone : ∀ e ∈ mid, e.isStartupPhase = false) :
    ∃ c config, lastLoad pre = some c ∧ s.Applied config ∧ config.settings = settings ∧
      config.enableBroker = c.enableBroker := by
  refine h.since (J := fun mid s => (∀ e ∈ mid, e.isStartupPhase = false) →
    ∃ c config, lastLoad pre = some c ∧ s.Applied config ∧ config.settings = settings ∧
      config.enableBroker = c.enableBroker) ?_ ?_ hNone
  · intro s hRun _
    cases hRun with
    | step hPre hNext =>
      have hStep := run_step hPre hNext
      cases hStep with
      | applyScope hPc _ | applyNothing hPc _ =>
        obtain ⟨file, c, hUses⟩ := run_usesLoad hPre (Shell.fresh_of_applySettings hPc)
        refine ⟨c, _, hUses.load_eq, ⟨.inl rfl, rfl, rfl⟩, rfl, ?_⟩
        rw [hUses.config_eq]
        rfl
  · intro mid s e s' hRun ih hNext hNone
    obtain ⟨c, config, hLoad, hApplied, hSettings⟩ := ih fun e' hMem => hNone e' (.tail _ hMem)
    exact ⟨c, config, hLoad, (run_step hRun hNext).applied hApplied (hNone e (.head _)), hSettings⟩

structure ScopesApplied (tr : List Event) (s : Shell) : Prop where
  not_stranded : s.newScope ≠ [] → s.restartRequested = true ∨ restarting tr = true
  latest_applied : ∀ post applied settings mid x pre y,
    tr = post ++ .applySettings applied settings :: (mid ++ .handleScopeChanged x :: pre) →
    (∀ e ∈ mid, e.isApply = false) →
    latestScope (mid ++ .handleScopeChanged x :: pre) = some y → y ≠ [] →
    applied = some y ∧ ∃ c, lastLoad (mid ++ .handleScopeChanged x :: pre) = some c ∧
      settings = { c.settings with scope := y }
  startup_follows : ∀ post e mid applied settings pre,
    tr = post ++ e :: (mid ++ .applySettings applied settings :: pre) →
    e.isStartupPhase = true → (∀ e ∈ mid, e.isStartupPhase = false) →
    ∃ c, lastLoad pre = some c ∧
      if c.enableBroker then ∃ logMask, e = .startup settings logMask else e = .startupDisabled
  applied_once : ∀ x, tr.countP (Event.appliesScope x) ≤ tr.countP (Event.changesScope x)

theorem run_scopesApplied (h : (brokerShell L defaultCid).Run tr s) : ScopesApplied tr s := by
  refine ⟨(run_requests h).newScope_imp, ?_, ?_, ?_⟩
  · rintro post applied settings mid x pre y rfl hNone hLatest hNonempty
    obtain ⟨s₁, s₂, hRun, hStep⟩ := run_at h
    have hPending : s₁.newScope = y :=
      (run_tracks hRun).newScope_eq.trans (pendingScope_of_latest hNone hLatest)
    cases hStep with
    | applyScope hPc _ =>
      obtain ⟨file, c, hUses⟩ := run_usesLoad hRun (Shell.fresh_of_applySettings hPc)
      refine ⟨congrArg some hPending, c, hUses.load_eq, ?_⟩
      rw [hPending, hUses.config_eq]
      rfl
    | applyNothing _ hEmpty => exact absurd (hPending.symm.trans hEmpty) hNonempty
  · rintro post e mid applied settings pre rfl hPhase hNone
    obtain ⟨s₁, s₂, hRun, hStep⟩ := run_at h
    obtain ⟨c, config, hLoad, ⟨hPc, hStartup, rfl⟩, rfl, hEnable⟩ := applied_until_startup hRun hNone
    refine ⟨c, hLoad, ?_⟩
    rw [← hEnable]
    cases hStep with
    | startup _ _ _ hEnabled => simp [hEnabled]
    | startupDisabled _ _ _ hDisabled => simp [hDisabled]
    | _ => cases hPhase
  · intro x
    have := applied_le_changed h x
    omega

theorem run_scopesApplied_latest : ∃ tr s,
    tr.countP (Event.appliesScope (bytes "rig")) = 1 ∧ s.pc = .startup ∧ ScopesApplied tr s := by
  obtain ⟨tr, s, hRun, hCount, hPc⟩ := exists_sample_run
    (P := fun tr s => tr.countP (Event.appliesScope (bytes "rig")) = 1 ∧ s.pc = .startup) "\x7b\x7d"
    (mainSteps 10 ++ .handleScopeChanged (bytes "stage") :: .handleScopeChanged (bytes "rig") ::
      mainSteps 9)
    (by decide +kernel)
  exact ⟨tr, s, hCount, hPc, run_scopesApplied hRun⟩

end RdmnetBroker
