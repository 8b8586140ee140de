import Mathlib.Algebra.Group.Nat.Defs
import RdmnetBroker.Windows.Stores

/-! # The check points

A pending state is reported with the next value of a counter that is never set back, and a final
one with zero. Callers that fill in the record at one time can undo this: they mix up the fields,
and they can lose a count.
-/

namespace RdmnetBroker

open Library

set_option autoImplicit false

def ServiceState.pending : ServiceState → Bool
  | .startPending | .stopPending => true
  | _ => false

/-- The last store for a pending state. -/
def StoreEvent.isPendingFill : StoreEvent → Bool
  | .store _ state (.checkPoint _) => state.pending
  | _ => false

/-- The check point of the record after `tr`: the number of pending states filled in so far, or
none. -/
def checkPointOf (state : ServiceState) (tr : List StoreEvent) : BitVec 32 :=
  if state.pending then BitVec.ofNat 32 (tr.countP StoreEvent.isPendingFill) else 0

/-- Nobody else is between its first store and its last one when a caller makes a store or reports. -/
def FillsApart (s : ServiceStores) : StoreEvent → Prop
  | .store caller _ _ | .other (.report caller _) => ∀ other, other ≠ caller → s.store other = .currentState
  | .other _ => True

/-- What the service control manager sees of the check points, modulo 2 ^ 32. -/
structure CheckPoints (tr : List StoreEvent) : Prop where
  counted : ∀ post pre caller status, tr = post ++ .other (.report caller status) :: pre →
    status.checkPoint = checkPointOf status.currentState pre
  /-- As long as the counter does not wrap, the check points of pending states do not go back. -/
  never_back : tr.countP StoreEvent.isPendingFill < 2 ^ 32 →
    ∀ post mid pre caller caller' status status',
      tr = post ++ .other (.report caller' status') :: (mid ++ .other (.report caller status) :: pre) →
      status.currentState.pending = true → status'.currentState.pending = true →
        status.checkPoint ≤ status'.checkPoint

namespace ServiceStores

/-- The counter, and what a call has read of it, when `n` pending states have been filled in and
the next store of the call is `pc`. -/
def Progress (call : StatusCall) (n : Nat) (next : BitVec 32) : StorePc → Prop
  | .currentState | .win32ExitCode | .serviceSpecificExitCode | .waitHint => next = BitVec.ofNat 32 (1 + n)
  | .loadCounter => call.currentState.pending = true ∧ next = BitVec.ofNat 32 (1 + n)
  | .storeCounter loaded => call.currentState.pending = true ∧ loaded = BitVec.ofNat 32 (1 + n)
  | .checkPoint value => next = BitVec.ofNat 32 (1 + (call.currentState.pending.toNat + n)) ∧
      value = if call.currentState.pending then BitVec.ofNat 32 (call.currentState.pending.toNat + n) else 0

/-- The counter and the record, while a call fills it in and while none does. -/
structure Counted (tr : List StoreEvent) (s : ServiceStores) : Prop where
  filling : ∀ caller call, (s.store caller).begun = true → s.service.call? caller = some call →
    s.service.status.currentState = call.currentState ∧
      Progress call (tr.countP StoreEvent.isPendingFill) s.service.nextCheckPoint (s.store caller)
  quiet : (∀ caller, (s.store caller).begun = false) →
    s.service.nextCheckPoint = BitVec.ofNat 32 (1 + tr.countP StoreEvent.isPendingFill) ∧
      s.service.status.checkPoint = checkPointOf s.service.status.currentState tr

variable {tr : List StoreEvent} {s : ServiceStores} {caller : Caller} {call : StatusCall}

theorem not_begun_of_apart (hApart : ∀ other, other ≠ caller → s.store other = .currentState)
    (hCaller : (s.store caller).begun = false) (other : Caller) : (s.store other).begun = false := by
  by_cases hSame : other = caller
  · rw [hSame, hCaller]
  · rw [hApart other hSame]
    rfl

/-- Where the call stands before its next store. -/
theorem Counted.progress (h : Counted tr s)
    (hApart : ∀ other, other ≠ caller → s.store other = .currentState)
    (hCall : s.service.call? caller = some call) :
    Progress call (tr.countP StoreEvent.isPendingFill) s.service.nextCheckPoint (s.store caller) := by
  cases hBegun : (s.store caller).begun with
  | true => exact (h.filling caller call hBegun hCall).2
  | false =>
    have hStart : s.store caller = .currentState := by
      cases hPc : s.store caller <;> rw [hPc] at hBegun <;> first | rfl | cases hBegun
    rw [hStart]
    exact (h.quiet (not_begun_of_apart hApart hBegun)).1

theorem counted_goto (hApart : ∀ other, other ≠ caller → s.store other = .currentState)
    (hCall : s.service.call? caller = some call) {e : StoreEvent} (hLabel : e.isPendingFill = false)
    {status : ServiceStatus} {next : BitVec 32} {pc : StorePc} (hBegun : pc.begun = true)
    (hState : status.currentState = call.currentState)
    (hProgress : Progress call (tr.countP StoreEvent.isPendingFill) next pc) :
    Counted (e :: tr) (s.goto caller (s.service.withRecord status next s.service.reported) pc) := by
  have hCount : (e :: tr).countP StoreEvent.isPendingFill = tr.countP StoreEvent.isPendingFill :=
    List.countP_cons_of_neg (by simp [hLabel])
  refine ⟨fun other call' hOther hCall' => ?_, fun hQuiet => ?_⟩
  · by_cases hSame : other = caller
    · subst hSame
      cases hCall.symm.trans ((call?_withRecord ..).symm.trans hCall')
      rw [hCount, goto_store_self]
      exact ⟨hState, hProgress⟩
    · rw [goto_store_of_ne hSame, hApart other hSame] at hOther
      cases hOther
  · have hStarted := hQuiet caller
    rw [goto_store_self, hBegun] at hStarted
    cases hStarted

theorem Counted.store (h : Counted tr s) (hApart : ∀ other, other ≠ caller → s.store other = .currentState)
    (hCall : s.service.call? caller = some call) :
    Counted (.store caller call.currentState (s.store caller) :: tr) (s.fillStep caller call) := by
  have hProgress := h.progress hApart hCall
  have hState : (s.store caller).begun = true → s.service.status.currentState = call.currentState :=
    fun hBegun => (h.filling caller call hBegun hCall).1
  have hFinal : call.final = !call.currentState.pending := by
    unfold StatusCall.final
    cases call.currentState <;> rfl
  unfold fillStep
  cases hPc : s.store caller with
  | currentState =>
    rw [hPc] at hProgress
    exact counted_goto hApart hCall rfl rfl rfl hProgress
  | win32ExitCode | serviceSpecificExitCode =>
    rw [hPc] at hProgress hState
    exact counted_goto hApart hCall rfl rfl (hState rfl) hProgress
  | waitHint =>
    rw [hPc] at hProgress hState
    refine counted_goto hApart hCall rfl ?_ (hState rfl) ?_
    · cases call.final <;> rfl
    · rw [hFinal]
      cases hPending : call.currentState.pending with
      | false => simpa [Progress, hPending] using hProgress
      | true => exact ⟨hPending, hProgress⟩
  | loadCounter =>
    rw [hPc] at hProgress hState
    exact counted_goto hApart hCall rfl rfl (hState rfl) hProgress
  | storeCounter loaded =>
    rw [hPc] at hProgress hState
    obtain ⟨hPending, rfl⟩ := hProgress
    refine counted_goto hApart hCall rfl rfl (hState rfl) ?_
    rw [Progress, hPending, if_pos rfl, Bool.toNat_true]
    refine ⟨?_, rfl⟩
    rw [Nat.add_comm 1 (1 + _), BitVec.ofNat_add _ 1]
    rfl
  | checkPoint value =>
    rw [hPc] at hProgress
    obtain ⟨hNext, hValue⟩ := hProgress
    have hCount := System.countP_cons_toNat StoreEvent.isPendingFill
      (.store caller call.currentState (.checkPoint value)) tr
    refine ⟨fun other call' hOther _ => ?_, fun _ => ⟨?_, ?_⟩⟩
    · by_cases hSame : other = caller
      · rw [hSame, goto_store_self] at hOther
        cases hOther
      · rw [goto_store_of_ne hSame, hApart other hSame] at hOther
        cases hOther
    · rw [hCount]
      exact (ServiceControl.filled_nextCheckPoint _ _).trans hNext
    · have hBefore : s.service.status.currentState = call.currentState := hState (by rw [hPc]; rfl)
      rw [checkPointOf, hCount]
      simp only [goto, ServiceControl.filled_status, hBefore]
      exact hValue

theorem Counted.other (h : Counted tr s) (hCoherent : s.Coherent) {e : ControlEvent} {t : ServiceControl}
    (hNone : s.service.call? e.caller = none) (hStep : s.service.Step e t) :
    Counted (.other e :: tr) { s with service := t } := by
  obtain ⟨hStatus, hNext⟩ := (hStep.recorded hNone).kept
  have hCount : (StoreEvent.other e :: tr).countP StoreEvent.isPendingFill =
      tr.countP StoreEvent.isPendingFill := List.countP_cons_of_neg nofun
  refine ⟨fun caller call hBegun hCall => ?_, fun hQuiet => ?_⟩
  · rw [hStatus, hNext, hCount]
    exact h.filling caller call hBegun ((hCoherent.call?_kept hNone hStep hBegun).symm.trans hCall)
  · rw [hStatus, hNext, checkPointOf, hCount]
    exact h.quiet hQuiet

end ServiceStores

section Runs

variable {tr : List StoreEvent} {s : ServiceStores}

theorem guarded_counted (h : (serviceStores.guard FillsApart).Run tr s) : ServiceStores.Counted tr s := by
  refine h.invariant (I := ServiceStores.Counted) ?_ ?_
  · rintro s rfl
    exact ⟨nofun, fun _ => ⟨rfl, rfl⟩⟩
  · rintro tr s e s' hRun hCounted ⟨hApart, a, hStep⟩
    cases ServiceStores.step_cases hStep with
    | store caller call hCall => exact hCounted.store hApart hCall
    | other e t hNone hService => exact hCounted.other (stores_coherent hRun.of_guard) hNone hService

theorem reported_checkPoint {post pre : List StoreEvent} {caller : Caller} {status : ServiceStatus}
    (h : (serviceStores.guard FillsApart).Run (post ++ .other (.report caller status) :: pre) s) :
    status.checkPoint = checkPointOf status.currentState pre := by
  obtain ⟨s₁, s₂, hRun, hApart, a, hStep⟩ := h.at_label
  cases ServiceStores.step_cases hStep with
  | other _ t hNone hService =>
    have hQuiet := ServiceStores.not_begun_of_apart hApart
      ((stores_coherent hRun.of_guard).not_begun hNone)
    cases hService.recorded hNone with
    | report => exact ((guarded_counted hRun).quiet hQuiet).2
    | other _ hNotReport => exact absurd rfl (hNotReport caller status)

theorem check_points_count (h : (serviceStores.guard FillsApart).Run tr s) : CheckPoints tr where
  counted := by
    rintro post pre caller status rfl
    exact reported_checkPoint h
  never_back := by
    rintro hBound post mid pre caller caller' status status' rfl hPending hPending'
    have hLater := reported_checkPoint h
    obtain ⟨s₁, s₂, hRun, -⟩ := h.at_label
    have hEarlier := reported_checkPoint hRun
    rw [checkPointOf, if_pos hPending] at hEarlier
    rw [checkPointOf, if_pos hPending'] at hLater
    have hMono : pre.countP StoreEvent.isPendingFill ≤
        (mid ++ .other (.report caller status) :: pre).countP StoreEvent.isPendingFill :=
      ((List.sublist_cons_self _ pre).trans (List.sublist_append_right mid _)).countP_le
    have hTotal : (mid ++ .other (.report caller status) :: pre).countP StoreEvent.isPendingFill < 2 ^ 32 :=
      Nat.lt_of_le_of_lt ((List.sublist_cons_self _ _).trans (List.sublist_append_right post _)).countP_le
        hBound
    rw [hEarlier, hLater, BitVec.le_def, BitVec.toNat_ofNat, BitVec.toNat_ofNat, Nat.mod_eq_of_lt hTotal,
      Nat.mod_eq_of_lt (Nat.lt_of_le_of_lt hMono hTotal)]
    exact hMono

theorem Caller.forall_iff {P : Caller → Prop} :
    (∀ caller, P caller) ↔ P .start ∧ P .serviceThread ∧ P (.control .stop) ∧ P (.control .shutdown) :=
  ⟨fun h => ⟨h _, h _, h _, h _⟩, fun ⟨hStart, hThread, hStop, hShutdown⟩ caller =>
    match caller with
    | .start => hStart
    | .serviceThread => hThread
    | .control .stop => hStop
    | .control .shutdown => hShutdown⟩

instance (s : ServiceStores) (caller : Caller) :
    Decidable (∀ other, other ≠ caller → s.store other = .currentState) :=
  decidable_of_iff _ Caller.forall_iff.symm

instance (s : ServiceStores) : (e : StoreEvent) → Decidable (FillsApart s e)
  | .store caller _ _ | .other (.report caller _) =>
    inferInstanceAs (Decidable (∀ other, other ≠ caller → s.store other = .currentState))
  | .other (.fill _ _) | .other (.createThread _) | .other .storeHandle | .other (.runReturn _)
  | .other (.call _) | .other (.asyncShutdown _) | .other (.waitReturn _) => isTrue trivial

/-- `Stop` reports between the last store and the report of `Start`, and the manager is told twice
that the service is stopping. -/
theorem check_points_count_overtaken : ∃ tr s post pre, (serviceStores.guard FillsApart).Run tr s ∧
    tr = post ++ .other (.report .start ⟨.stopPending, noError, 0, 2, 0⟩) :: pre ∧ CheckPoints tr := by
  obtain ⟨tr, s, hRun, hReport⟩ := System.Run.exists_of_exec_guard (S := serviceStores)
    (P := fun tr _ => tr.head? = some (.other (.report .start ⟨.stopPending, noError, 0, 2, 0⟩)))
    (fun _ a _ _ hStep => ⟨a, hStep⟩) (fun s e => decide (FillsApart s e)) (fun _ _ => of_decide_eq_true)
    (List.replicate 15 (.start true) ++ List.replicate 9 (.control .stop) ++ [.start true]) rfl (by decide)
  obtain ⟨pre, hTrace⟩ := List.head?_eq_some_iff.mp hReport
  exact ⟨tr, s, [], pre, hRun, hTrace, check_points_count hRun⟩

end Runs

end RdmnetBroker
