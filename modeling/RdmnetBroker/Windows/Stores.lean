import RdmnetBroker.Windows.Status

/-! # The service status, store by store

No lock guards `status_` or the static counter of `SetServiceStatus`: a call fills in the record
field by field, reads the counter and writes it back, and another caller can come between any two
of these steps. What a call passes to the service control manager is the record as it stands when
the manager takes it, which is one step.
-/

namespace RdmnetBroker

open Library

set_option autoImplicit false

/-- The next step of a call of `SetServiceStatus` that has not come to its report: a store, or the
two halves of `check_point++`. -/
inductive StorePc
  | currentState
  | win32ExitCode
  | serviceSpecificExitCode
  | waitHint
  | loadCounter
  | storeCounter (loaded : BitVec 32)
  | checkPoint (value : BitVec 32)
  deriving DecidableEq, Repr

/-- The arguments of a call of `SetServiceStatus`. -/
structure StatusCall where
  currentState : ServiceState
  win32Error : BitVec 32
  serviceSpecificError : BitVec 32
  deriving DecidableEq

def StatusCall.final (call : StatusCall) : Bool :=
  call.currentState == .running || call.currentState == .stopped

def StartPc.call? : StartPc → Option StatusCall
  | .fillStartPending => some ⟨.startPending, noError, 0⟩
  | .fillRunning => some ⟨.running, noError, 0⟩
  | _ => none

def ThreadPc.call? : ThreadPc → Option StatusCall
  | .fillStopped => some ⟨.stopped, errorServiceSpecificError, 1⟩
  | _ => none

def ControlPc.call? : ControlPc → Option StatusCall
  | .fillStopPending => some ⟨.stopPending, noError, 0⟩
  | .fillStopped => some ⟨.stopped, noError, 0⟩
  | _ => none

/-- Before the thread is created. -/
def StartPc.early : StartPc → Bool
  | .fillStartPending | .reportStartPending | .createThread => true
  | _ => false

/-- The call is about to report. -/
def StartPc.filled : StartPc → StartPc
  | .fillStartPending => .reportStartPending
  | .fillRunning => .reportRunning
  | pc => pc

def ThreadPc.filled : ThreadPc → ThreadPc
  | .fillStopped => .reportStopped
  | pc => pc

def ControlPc.filled : ControlPc → ControlPc
  | .fillStopPending => .reportStopPending
  | .fillStopped => .reportStopped
  | pc => pc

def ControlAct.caller : ControlAct → Caller
  | .start _ => .start
  | .thread _ => .serviceThread
  | .control c => .control c

def ControlEvent.caller : ControlEvent → Caller
  | .fill caller _ | .report caller _ => caller
  | .createThread _ | .storeHandle => .start
  | .runReturn _ => .serviceThread
  | .call c | .asyncShutdown c | .waitReturn c => .control c

namespace ServiceControl

/-- The call that fills in the record for `caller`. -/
def call? (s : ServiceControl) : Caller → Option StatusCall
  | .start => s.start.call?
  | .serviceThread => s.thread.call?
  | .control c => (s.control c).call?

def filled (s : ServiceControl) : Caller → ServiceControl
  | .start => { s with start := s.start.filled }
  | .serviceThread => { s with thread := s.thread.filled }
  | .control c => s.goto c (s.control c).filled

@[simp] theorem filled_status (s : ServiceControl) (caller : Caller) :
    (s.filled caller).status = s.status := by
  cases caller <;> rfl

@[simp] theorem filled_nextCheckPoint (s : ServiceControl) (caller : Caller) :
    (s.filled caller).nextCheckPoint = s.nextCheckPoint := by
  cases caller <;> rfl

variable {s t : ServiceControl} {e : ControlEvent}

theorem caller_eq_of_step {a : ControlAct} (h : s.step a = some (e, t)) : e.caller = a.caller := by
  cases a with
  | start ok =>
    change s.stepStart ok = some (e, t) at h
    unfold stepStart at h
    repeat' split at h
    all_goals cases h <;> rfl
  | thread ok =>
    change s.stepThread ok = some (e, t) at h
    unfold stepThread at h
    repeat' split at h
    all_goals cases h <;> rfl
  | control c =>
    change s.stepControl c = some (e, t) at h
    unfold stepControl at h
    repeat' split at h
    all_goals cases h <;> rfl

theorem exists_step (h : s.Step e t) : ∃ a, s.step a = some (e, t) := by
  cases h with
  | createThread hPc => exact ⟨.start true, by simp [step, stepStart, hPc]⟩
  | fillStartPending hPc | reportStartPending hPc | createThreadFailed hPc | storeHandle created hPc
  | fillRunning hPc | reportRunning hPc => exact ⟨.start false, by simp [step, stepStart, hPc]⟩
  | runReturned hPc => exact ⟨.thread true, by simp [step, stepThread, hPc]⟩
  | runFailed hPc | threadFill hPc | threadReport hPc =>
    exact ⟨.thread false, by simp [step, stepThread, hPc]⟩
  | callStop hPc => exact ⟨.control .stop, by simp [step, stepControl, hPc]⟩
  | callShutdown hPc => exact ⟨.control .shutdown, by simp [step, stepControl, hPc]⟩
  | waitReturn c hPc hWait => exact ⟨.control c, by simp [step, stepControl, hPc, hWait]⟩
  | fillStopPending c hPc | reportStopPending c hPc | asyncShutdown c hPc | fillStopped c hPc
  | reportStopped c hPc => exact ⟨.control c, by simp [step, stepControl, hPc]⟩

theorem fill_step {caller : Caller} {call : StatusCall} (h : s.call? caller = some call) :
    s.Step (.fill caller call.currentState)
      ((s.fill call.currentState call.win32Error call.serviceSpecificError).filled caller) := by
  cases caller with
  | start =>
    change s.start.call? = some call at h
    unfold StartPc.call? at h
    split at h
    case h_1 hPc =>
      cases h
      simpa [filled, StartPc.filled, hPc, fill] using Step.fillStartPending hPc
    case h_2 hPc =>
      cases h
      simpa [filled, StartPc.filled, hPc, fill] using Step.fillRunning hPc
    case h_3 => cases h
  | serviceThread =>
    change s.thread.call? = some call at h
    unfold ThreadPc.call? at h
    split at h
    case h_1 hPc =>
      cases h
      simpa [filled, ThreadPc.filled, hPc, fill] using Step.threadFill hPc
    case h_2 => cases h
  | control c =>
    change (s.control c).call? = some call at h
    unfold ControlPc.call? at h
    split at h
    case h_1 hPc =>
      cases h
      simpa [filled, ControlPc.filled, hPc, fill] using Step.fillStopPending c hPc
    case h_2 hPc =>
      cases h
      simpa [filled, ControlPc.filled, hPc, fill] using Step.fillStopped c hPc
    case h_3 => cases h

theorem Step.not_fill (hStep : s.Step e t) (hNone : s.call? e.caller = none) (caller : Caller)
    (state : ServiceState) : e ≠ .fill caller state := by
  rintro rfl
  cases hStep with
  | fillStartPending hPc | fillRunning hPc =>
    simp [ControlEvent.caller, call?, hPc, StartPc.call?] at hNone
  | threadFill hPc => simp [ControlEvent.caller, call?, hPc, ThreadPc.call?] at hNone
  | fillStopPending c hPc | fillStopped c hPc =>
    simp [ControlEvent.caller, call?, hPc, ControlPc.call?] at hNone

/-- What a step that does not fill in the record does to it, to the counter and to what is
reported. -/
inductive Recorded (s t : ServiceControl) : ControlEvent → Prop
  | report (caller : Caller) : t.status = s.status → t.nextCheckPoint = s.nextCheckPoint →
      t.reported = some s.status → Recorded s t (.report caller s.status)
  | other (e : ControlEvent) : (∀ caller status, e ≠ .report caller status) → t.status = s.status →
      t.nextCheckPoint = s.nextCheckPoint → t.reported = s.reported → Recorded s t e

theorem Step.recorded (hStep : s.Step e t) (hNone : s.call? e.caller = none) : Recorded s t e := by
  have hNotFill := hStep.not_fill hNone
  cases hStep with
  | fillStartPending | fillRunning | threadFill | fillStopPending | fillStopped =>
    exact absurd rfl (hNotFill _ _)
  | reportStartPending | reportRunning | threadReport | reportStopPending | reportStopped =>
    exact .report _ rfl rfl rfl
  | _ => exact .other _ nofun rfl rfl rfl

theorem Recorded.kept (h : Recorded s t e) : t.status = s.status ∧ t.nextCheckPoint = s.nextCheckPoint := by
  cases h with
  | report _ hStatus hNext => exact ⟨hStatus, hNext⟩
  | other _ _ hStatus hNext => exact ⟨hStatus, hNext⟩

/-- A step changes the call of its own caller only, but for the thread that it creates. -/
theorem Step.call?_of_ne {caller : Caller} (hStep : s.Step e t) (hOther : caller ≠ e.caller)
    (hThread : s.start.early = true → caller ≠ .serviceThread) : t.call? caller = s.call? caller := by
  cases hStep with
  | createThread hPc =>
    cases caller with
    | start => exact absurd rfl hOther
    | serviceThread => exact absurd rfl (hThread (by rw [hPc]; rfl))
    | control c => rfl
  | fillStartPending | reportStartPending | createThreadFailed | storeHandle | fillRunning
  | reportRunning | runReturned | runFailed | threadFill | threadReport =>
    cases caller <;> first | rfl | exact absurd rfl hOther
  | callStop | callShutdown | fillStopPending c | reportStopPending c | asyncShutdown c | waitReturn c
  | fillStopped c | reportStopped c =>
    cases caller with
    | start => rfl
    | serviceThread => rfl
    | control d =>
      have hSame : d ≠ _ := fun h => hOther (congrArg Caller.control h)
      exact congrArg ControlPc.call? (Function.update_of_ne hSame _ _)

theorem Step.early_kept (hStep : s.Step e t) (h : s.start.early = true → s.thread = .notCreated)
    (hEarly : t.start.early = true) : t.thread = .notCreated := by
  cases hStep with
  | fillStartPending hPc | reportStartPending hPc => exact h (by rw [hPc]; rfl)
  | createThread | createThreadFailed | storeHandle | fillRunning | reportRunning => cases hEarly
  | runReturned hPc | runFailed hPc | threadFill hPc | threadReport hPc =>
    cases hPc.symm.trans (h hEarly)
  | _ => exact h hEarly

end ServiceControl

/-- The service, and how far each caller that fills in the record has come. -/
structure ServiceStores where
  service : ServiceControl
  store : Caller → StorePc

inductive StoreEvent
  | store (caller : Caller) (state : ServiceState) (pc : StorePc)
  | other (e : ControlEvent)
  deriving DecidableEq

namespace ServiceStores

def goto (s : ServiceStores) (caller : Caller) (service : ServiceControl) (pc : StorePc) : ServiceStores where
  service := service
  store := Function.update s.store caller pc

@[simp] theorem goto_store_self (s : ServiceStores) (caller : Caller) (service : ServiceControl)
    (pc : StorePc) : (s.goto caller service pc).store caller = pc :=
  Function.update_self ..

theorem goto_store_of_ne {caller other : Caller} (hOther : other ≠ caller) (s : ServiceStores)
    (service : ServiceControl) (pc : StorePc) : (s.goto caller service pc).store other = s.store other :=
  Function.update_of_ne hOther ..

/-- `SetServiceStatus` up to its report, one step of it. -/
def fillStep (s : ServiceStores) (caller : Caller) (call : StatusCall) : ServiceStores :=
  let status := s.service.status
  match s.store caller with
  | .currentState =>
    s.goto caller { s.service with status := { status with currentState := call.currentState } }
      .win32ExitCode
  | .win32ExitCode =>
    s.goto caller { s.service with status := { status with win32ExitCode := call.win32Error } }
      .serviceSpecificExitCode
  | .serviceSpecificExitCode =>
    s.goto caller
      { s.service with status := { status with serviceSpecificExitCode := call.serviceSpecificError } }
      .waitHint
  | .waitHint =>
    s.goto caller { s.service with status := { status with waitHint := 0 } }
      (if call.final then .checkPoint 0 else .loadCounter)
  | .loadCounter => s.goto caller s.service (.storeCounter s.service.nextCheckPoint)
  | .storeCounter loaded =>
    s.goto caller { s.service with nextCheckPoint := loaded + 1 } (.checkPoint loaded)
  | .checkPoint value =>
    s.goto caller ({ s.service with status := { status with checkPoint := value } }.filled caller)
      .currentState

/-- A caller that fills in the record makes its next store; the other steps are as before. -/
def step (s : ServiceStores) (a : ControlAct) : Option (StoreEvent × ServiceStores) :=
  match s.service.call? a.caller with
  | some call =>
    some (.store a.caller call.currentState (s.store a.caller), s.fillStep a.caller call)
  | none => (s.service.step a).map fun r => (.other r.1, { s with service := r.2 })

def constructed : ServiceStores where
  service := .constructed
  store _ := .currentState

inductive Step (s : ServiceStores) : StoreEvent → ServiceStores → Prop
  | store (caller : Caller) (call : StatusCall) : s.service.call? caller = some call →
      Step s (.store caller call.currentState (s.store caller)) (s.fillStep caller call)
  | other (e : ControlEvent) (t : ServiceControl) : s.service.call? e.caller = none →
      s.service.Step e t → Step s (.other e) { s with service := t }

variable {s s' : ServiceStores} {e : StoreEvent}

theorem step_cases {a : ControlAct} (h : s.step a = some (e, s')) : Step s e s' := by
  unfold step at h
  split at h
  case h_1 call hCall =>
    cases h
    exact .store _ call hCall
  case h_2 hNone =>
    obtain ⟨⟨e, t⟩, hService, hResult⟩ := Option.map_eq_some_iff.mp h
    cases hResult
    rw [← ServiceControl.caller_eq_of_step hService] at hNone
    exact .other e t hNone (ServiceControl.step_cases hService)

end ServiceStores

/-- The label with the current state of a reported record only. -/
def ControlEvent.stateOnly : ControlEvent → ControlEvent
  | .report caller status => .report caller ⟨status.currentState, 0, 0, 0, 0⟩
  | e => e

/-- The fill stands where its first store is made. -/
def StoreEvent.control? : StoreEvent → Option ControlEvent
  | .store caller state .currentState => some (.fill caller state)
  | .store _ _ _ => none
  | .other e => some e.stateOnly

def serviceStores : System ServiceStores StoreEvent where
  initial s := s = .constructed
  next s e s' := ∃ a, s.step a = some (e, s')

/-- The call has made a store. -/
def StorePc.begun : StorePc → Bool
  | .currentState => false
  | _ => true

@[simp] theorem begun_currentState : StorePc.currentState.begun = false := rfl

def ServiceControl.withRecord (s : ServiceControl) (status : ServiceStatus) (nextCheckPoint : BitVec 32)
    (reported : Option ServiceStatus) : ServiceControl :=
  { s with status := status, nextCheckPoint := nextCheckPoint, reported := reported }

namespace ServiceStores

/-- Where the callers are if a call has come to its report as soon as it has made a store. -/
def ahead (s : ServiceStores) : ServiceControl :=
  { s.service with
    start := if (s.store .start).begun then s.service.start.filled else s.service.start
    thread := if (s.store .serviceThread).begun then s.service.thread.filled else s.service.thread
    control := fun c =>
      if (s.store (.control c)).begun then (s.service.control c).filled else s.service.control c }

structure Coherent (s : ServiceStores) : Prop where
  calling : ∀ caller, (s.store caller).begun = true → (s.service.call? caller).isSome = true
  notCreated : s.service.start.early = true → s.service.thread = .notCreated

variable {service t : ServiceControl} {store : Caller → StorePc} {caller : Caller} {pc : StorePc}

theorem ahead_of_begun (hBefore : (store caller).begun = true) (hAfter : pc.begun = true) :
    (ServiceStores.mk service (Function.update store caller pc)).ahead =
      (ServiceStores.mk service store).ahead := by
  have hBegun : ∀ c, (Function.update store caller pc c).begun = (store c).begun := by
    intro c
    by_cases hSame : c = caller
    · rw [hSame, Function.update_self, hAfter, hBefore]
    · rw [Function.update_of_ne hSame]
  simp only [ahead, hBegun]

theorem ahead_of_first (hBefore : (store caller).begun = false) (hAfter : pc.begun = true) :
    (ServiceStores.mk service (Function.update store caller pc)).ahead =
      (ServiceStores.mk service store).ahead.filled caller := by
  cases caller with
  | start => simp [ahead, ServiceControl.filled, hBefore, hAfter]
  | serviceThread => simp [ahead, ServiceControl.filled, hBefore, hAfter]
  | control c =>
    simp only [ahead, ServiceControl.filled, ServiceControl.goto, ServiceControl.mk.injEq, true_and]
    refine ⟨by simp, by simp, ?_⟩
    funext d
    by_cases hSame : d = c
    · subst hSame
      simp [hBefore, hAfter]
    · simp [hSame]

theorem ahead_of_last (hBefore : (store caller).begun = true) :
    (ServiceStores.mk (service.filled caller) (Function.update store caller .currentState)).ahead =
      (ServiceStores.mk service store).ahead := by
  cases caller with
  | start => simp [ahead, ServiceControl.filled, hBefore]
  | serviceThread => simp [ahead, ServiceControl.filled, hBefore]
  | control c =>
    simp only [ahead, ServiceControl.filled, ServiceControl.goto, ServiceControl.mk.injEq, true_and]
    refine ⟨by simp, by simp, ?_⟩
    funext d
    by_cases hSame : d = c
    · subst hSame
      simp [hBefore]
    · simp [hSame]

theorem ahead_goto {c : Control} (hNot : (store (.control c)).begun = false) (pc : ControlPc) :
    (ServiceStores.mk (service.goto c pc) store).ahead = (ServiceStores.mk service store).ahead.goto c pc := by
  simp only [ahead, ServiceControl.goto, ServiceControl.mk.injEq, true_and]
  funext d
  by_cases hSame : d = c
  · subst hSame
    simp [hNot]
  · simp [hSame]

variable {s : ServiceStores} {e : ControlEvent}

theorem ahead_start (h : (s.store .start).begun = false) : s.ahead.start = s.service.start := by
  simp [ahead, h]

theorem ahead_thread (h : (s.store .serviceThread).begun = false) : s.ahead.thread = s.service.thread := by
  simp [ahead, h]

theorem ahead_control {c : Control} (h : (s.store (.control c)).begun = false) :
    s.ahead.control c = s.service.control c := by
  simp [ahead, h]

/-- A fill is not over before its report, so a wait sees the thread as it does otherwise. -/
theorem ahead_waitReturns (s : ServiceStores) : s.ahead.waitReturns = s.service.waitReturns := by
  unfold ServiceControl.waitReturns ahead
  cases s.service.thread <;> cases (s.store .serviceThread).begun <;> rfl

theorem Coherent.not_begun (h : s.Coherent) (hNone : s.service.call? caller = none) :
    (s.store caller).begun = false := by
  by_contra hBegun
  have hCalling := h.calling caller (by simpa using hBegun)
  rw [hNone] at hCalling
  cases hCalling

/-- A step that neither fills in the record nor reports does not look at the record, nor at how far
the other callers have come with it. -/
theorem Coherent.ahead_step (h : s.Coherent) (hNone : s.service.call? e.caller = none)
    (hStep : s.service.Step e t) (hReport : ∀ caller status, e ≠ .report caller status)
    (status : ServiceStatus) (next : BitVec 32) (reported : Option ServiceStatus) :
    (s.ahead.withRecord status next reported).Step e
      ((ServiceStores.mk t s.store).ahead.withRecord status next reported) := by
  have hNot := h.not_begun hNone
  have hNotFill := hStep.not_fill hNone
  cases hStep with
  | fillStartPending | fillRunning | threadFill | fillStopPending | fillStopped =>
    exact absurd rfl (hNotFill _ _)
  | reportStartPending | reportRunning | threadReport | reportStopPending | reportStopped =>
    exact absurd rfl (hReport _ _)
  | createThread hPc =>
    have hAhead : (ServiceStores.mk { s.service with thread := .run, start := .storeHandle true }
        s.store).ahead = { s.ahead with thread := .run, start := .storeHandle true } := by
      simp [ahead, ThreadPc.filled, StartPc.filled]
    rw [hAhead]
    exact .createThread ((ahead_start hNot).trans hPc)
  | createThreadFailed hPc =>
    have hAhead : (ServiceStores.mk { s.service with start := .storeHandle false } s.store).ahead =
        { s.ahead with start := .storeHandle false } := by
      simp [ahead, StartPc.filled]
    rw [hAhead]
    exact .createThreadFailed ((ahead_start hNot).trans hPc)
  | storeHandle created hPc =>
    have hAhead : (ServiceStores.mk { s.service with serviceThread := created, start := .fillRunning }
        s.store).ahead = { s.ahead with serviceThread := created, start := .fillRunning } := by
      have hStart : (s.store .start).begun = false := hNot
      simp [ahead, hStart]
    rw [hAhead]
    exact .storeHandle created ((ahead_start hNot).trans hPc)
  | runReturned hPc =>
    have hAhead : (ServiceStores.mk { s.service with thread := .exited true } s.store).ahead =
        { s.ahead with thread := .exited true } := by
      simp [ahead, ThreadPc.filled]
    rw [hAhead]
    exact .runReturned ((ahead_thread hNot).trans hPc)
  | runFailed hPc =>
    have hThread : (s.store .serviceThread).begun = false := hNot
    have hAhead : (ServiceStores.mk { s.service with thread := .fillStopped } s.store).ahead =
        { s.ahead with thread := .fillStopped } := by
      simp [ahead, hThread]
    rw [hAhead]
    exact .runFailed ((ahead_thread hNot).trans hPc)
  | callStop hPc =>
    rw [ahead_goto hNot]
    exact .callStop ((ahead_control hNot).trans hPc)
  | callShutdown hPc =>
    rw [ahead_goto hNot]
    exact .callShutdown ((ahead_control hNot).trans hPc)
  | asyncShutdown c hPc =>
    rw [ahead_goto hNot]
    exact .asyncShutdown c ((ahead_control hNot).trans hPc)
  | waitReturn c hPc hWait =>
    rw [ahead_goto hNot]
    exact .waitReturn c ((ahead_control hNot).trans hPc) (s.ahead_waitReturns.trans hWait)

/-- A report passes on whatever the record holds. -/
theorem Coherent.ahead_report {status₀ : ServiceStatus} (h : s.Coherent)
    (hNone : s.service.call? caller = none) (hStep : s.service.Step (.report caller status₀) t)
    (status : ServiceStatus) (next : BitVec 32) (reported : Option ServiceStatus) :
    (s.ahead.withRecord status next reported).Step (.report caller status)
      ((ServiceStores.mk t s.store).ahead.withRecord status next (some status)) := by
  have hNot := h.not_begun hNone
  cases hStep with
  | reportStartPending hPc =>
    have hAhead : (ServiceStores.mk { s.service.report with start := .createThread } s.store).ahead =
        { s.ahead.report with start := .createThread } := by
      simp [ahead, StartPc.filled, ServiceControl.report]
    rw [hAhead]
    exact .reportStartPending ((ahead_start hNot).trans hPc)
  | reportRunning hPc =>
    have hAhead : (ServiceStores.mk { s.service.report with start := .returned } s.store).ahead =
        { s.ahead.report with start := .returned } := by
      simp [ahead, StartPc.filled, ServiceControl.report]
    rw [hAhead]
    exact .reportRunning ((ahead_start hNot).trans hPc)
  | threadReport hPc =>
    have hAhead : (ServiceStores.mk { s.service.report with thread := .exited false } s.store).ahead =
        { s.ahead.report with thread := .exited false } := by
      simp [ahead, ThreadPc.filled, ServiceControl.report]
    rw [hAhead]
    exact .threadReport ((ahead_thread hNot).trans hPc)
  | reportStopPending c hPc =>
    rw [ahead_goto hNot]
    exact .reportStopPending c ((ahead_control hNot).trans hPc)
  | reportStopped c hPc =>
    rw [ahead_goto hNot]
    exact .reportStopped c ((ahead_control hNot).trans hPc)

/-- A store changes the record or the counter, and with the last one the call comes to its report. -/
theorem fillStep_cases (s : ServiceStores) (caller : Caller) (call : StatusCall) : ∃ status next,
    status.currentState =
        (if (s.store caller).begun then s.service.status.currentState else call.currentState) ∧
      ((∃ pc, pc.begun = true ∧ s.fillStep caller call =
          s.goto caller (s.service.withRecord status next s.service.reported) pc) ∨
        (s.store caller).begun = true ∧ s.fillStep caller call =
          s.goto caller ((s.service.withRecord status next s.service.reported).filled caller)
            .currentState) := by
  unfold fillStep
  let status := s.service.status
  let next := s.service.nextCheckPoint
  cases s.store caller with
  | currentState =>
    exact ⟨{ status with currentState := call.currentState }, next, rfl, .inl ⟨_, rfl, rfl⟩⟩
  | win32ExitCode =>
    exact ⟨{ status with win32ExitCode := call.win32Error }, next, rfl, .inl ⟨_, rfl, rfl⟩⟩
  | serviceSpecificExitCode =>
    exact ⟨{ status with serviceSpecificExitCode := call.serviceSpecificError }, next, rfl,
      .inl ⟨_, rfl, rfl⟩⟩
  | waitHint =>
    refine ⟨{ status with waitHint := 0 }, next, rfl, .inl ⟨_, ?_, rfl⟩⟩
    cases call.final <;> rfl
  | loadCounter => exact ⟨status, next, rfl, .inl ⟨_, rfl, rfl⟩⟩
  | storeCounter loaded => exact ⟨status, loaded + 1, rfl, .inl ⟨_, rfl, rfl⟩⟩
  | checkPoint value => exact ⟨{ status with checkPoint := value }, next, rfl, .inr ⟨rfl, rfl⟩⟩

theorem call?_filled_of_ne {other : Caller} (hOther : other ≠ caller) :
    (service.filled caller).call? other = service.call? other := by
  cases caller with
  | start => cases other <;> first | rfl | exact absurd rfl hOther
  | serviceThread => cases other <;> first | rfl | exact absurd rfl hOther
  | control c =>
    cases other with
    | start => rfl
    | serviceThread => rfl
    | control d =>
      have hSame : d ≠ c := fun h => hOther (congrArg Caller.control h)
      exact congrArg ControlPc.call? (Function.update_of_ne hSame _ _)

theorem early_filled (h : (service.filled caller).start.early = true) : service.start.early = true := by
  cases caller with
  | start =>
    change service.start.filled.early = true at h
    cases hStart : service.start <;> rw [hStart] at h <;> first | rfl | cases h
  | serviceThread => exact h
  | control c => exact h

theorem thread_filled (h : service.thread = .notCreated) : (service.filled caller).thread = .notCreated := by
  cases caller with
  | serviceThread => rw [ServiceControl.filled, h]; rfl
  | start | control c => exact h

@[simp] theorem call?_withRecord (service : ServiceControl) (status : ServiceStatus) (next : BitVec 32)
    (reported : Option ServiceStatus) (caller : Caller) :
    (service.withRecord status next reported).call? caller = service.call? caller := by
  cases caller <;> rfl

theorem Coherent.goto (h : s.Coherent) {s' : ServiceStores} (hStore : s'.store = Function.update s.store caller pc)
    (hCalls : ∀ other, other ≠ caller → s'.service.call? other = s.service.call? other)
    (hCaller : pc.begun = true → (s'.service.call? caller).isSome = true)
    (hEarly : s'.service.start.early = true → s'.service.thread = .notCreated) : s'.Coherent := by
  refine ⟨fun other hBegun => ?_, hEarly⟩
  rw [hStore] at hBegun
  by_cases hSame : other = caller
  · subst hSame
    rw [Function.update_self] at hBegun
    exact hCaller hBegun
  · rw [Function.update_of_ne hSame] at hBegun
    rw [hCalls other hSame]
    exact h.calling other hBegun

theorem Coherent.fillStep (h : s.Coherent) {call : StatusCall} (hCall : s.service.call? caller = some call) :
    (s.fillStep caller call).Coherent := by
  obtain ⟨status, next, -, ⟨pc, -, hStep⟩ | ⟨-, hStep⟩⟩ := s.fillStep_cases caller call
  · rw [hStep]
    refine h.goto rfl (fun other _ => call?_withRecord ..) (fun _ => ?_) h.notCreated
    exact (congrArg Option.isSome ((call?_withRecord ..).trans hCall)).trans rfl
  · rw [hStep]
    refine h.goto rfl (fun other hOther => ?_) nofun fun hEarly => ?_
    · exact (call?_filled_of_ne hOther).trans (call?_withRecord ..)
    · have hBefore : (s.service.withRecord status next s.service.reported).start.early = true :=
        early_filled hEarly
      exact thread_filled (h.notCreated hBefore)

/-- A call that has made a store goes on whatever the others do. -/
theorem Coherent.call?_kept (h : s.Coherent) (hNone : s.service.call? e.caller = none)
    (hStep : s.service.Step e t) (hBegun : (s.store caller).begun = true) :
    t.call? caller = s.service.call? caller := by
  have hCalling := h.calling caller hBegun
  refine hStep.call?_of_ne ?_ fun hEarly => ?_
  · rintro rfl
    rw [hNone] at hCalling
    cases hCalling
  · rintro rfl
    rw [ServiceControl.call?, h.notCreated hEarly] at hCalling
    cases hCalling

theorem Coherent.other (h : s.Coherent) (hNone : s.service.call? e.caller = none)
    (hStep : s.service.Step e t) : (ServiceStores.mk t s.store).Coherent := by
  refine ⟨fun caller hBegun => ?_, hStep.early_kept h.notCreated⟩
  have hKept : t.call? caller = s.service.call? caller := h.call?_kept hNone hStep hBegun
  exact (congrArg Option.isSome hKept).trans (h.calling caller hBegun)

theorem ahead_call? (hNot : (s.store caller).begun = false) :
    s.ahead.call? caller = s.service.call? caller := by
  cases caller with
  | start => exact congrArg StartPc.call? (ahead_start hNot)
  | serviceThread => exact congrArg ThreadPc.call? (ahead_thread hNot)
  | control c => exact congrArg ControlPc.call? (ahead_control hNot)

theorem filled_withRecord (service : ServiceControl) (status : ServiceStatus) (next : BitVec 32)
    (reported : Option ServiceStatus) (caller : Caller) :
    (service.withRecord status next reported).filled caller =
      (service.filled caller).withRecord status next reported := by
  cases caller <;> rfl

/-- `u` is where the service would be if every call had filled in the record with its first store;
the two records agree in the current state, as do the two reports. -/
structure Follows (s : ServiceStores) (u : ServiceControl) : Prop where
  ahead : u = s.ahead.withRecord u.status u.nextCheckPoint u.reported
  status : u.status.currentState = s.service.status.currentState
  reported : u.reportedState = s.service.reportedState

variable {u : ServiceControl}

theorem Follows.first_store (h : s.Follows u) {call : StatusCall} (hCall : s.service.call? caller = some call)
    (hNot : (s.store caller).begun = false) : ∃ u', u.Step (.fill caller call.currentState) u' ∧
      (s.fillStep caller call).Follows u' := by
  have hFill : u.call? caller = some call := by
    rw [h.ahead, call?_withRecord, ahead_call? hNot, hCall]
  obtain ⟨status, next, hState, ⟨pc, hBegun, hStep⟩ | ⟨hBegun, -⟩⟩ := s.fillStep_cases caller call
  · have hAhead : (s.fillStep caller call).ahead =
        (s.ahead.filled caller).withRecord status next s.service.reported := by
      rw [hStep, goto, ahead_of_first hNot hBegun]
      exact filled_withRecord s.ahead ..
    refine ⟨_, ServiceControl.fill_step hFill, ?_, ?_, ?_⟩
    · rw [hAhead, h.ahead]
      cases caller <;> rfl
    · rw [hNot] at hState
      rw [hStep]
      cases caller <;> exact hState.symm
    · rw [hStep]
      cases caller <;> exact h.reported
  · rw [hNot] at hBegun
    cases hBegun

theorem Follows.later_store (h : s.Follows u) {call : StatusCall} (hBegun : (s.store caller).begun = true) :
    (s.fillStep caller call).Follows u := by
  obtain ⟨status, next, hState, ⟨pc, hAfter, hStep⟩ | ⟨-, hStep⟩⟩ := s.fillStep_cases caller call
  · have hAhead : (s.fillStep caller call).ahead = s.ahead.withRecord status next s.service.reported := by
      rw [hStep, goto, ahead_of_begun hBegun hAfter]
      rfl
    rw [if_pos hBegun] at hState
    refine ⟨?_, ?_, ?_⟩
    · rw [hAhead]
      exact h.ahead
    · rw [hStep]
      exact h.status.trans hState.symm
    · rw [hStep]
      exact h.reported
  · have hAhead : (s.fillStep caller call).ahead = s.ahead.withRecord status next s.service.reported := by
      rw [hStep, goto, ahead_of_last hBegun]
      rfl
    rw [if_pos hBegun] at hState
    refine ⟨?_, ?_, ?_⟩
    · rw [hAhead]
      exact h.ahead
    · rw [hStep, goto, filled_withRecord]
      exact h.status.trans hState.symm
    · rw [hStep, goto, filled_withRecord]
      exact h.reported

theorem Follows.other (h : s.Follows u) (hCoherent : s.Coherent) (hNone : s.service.call? e.caller = none)
    (hStep : s.service.Step e t) : ∃ e' u', e'.stateOnly = e.stateOnly ∧ u.Step e' u' ∧
      (ServiceStores.mk t s.store).Follows u' := by
  cases hStep.recorded hNone with
  | report caller hStatus _ hReported =>
    have hAhead := hCoherent.ahead_report hNone hStep u.status u.nextCheckPoint u.reported
    rw [← h.ahead] at hAhead
    refine ⟨.report caller u.status, _, ?_, hAhead, rfl, ?_, ?_⟩
    · exact congrArg (fun state => ControlEvent.report caller ⟨state, 0, 0, 0, 0⟩) h.status
    · exact h.status.trans (congrArg ServiceStatus.currentState hStatus).symm
    · exact (congrArg some h.status).trans (congrArg (Option.map ServiceStatus.currentState) hReported).symm
  | other e hNotReport hStatus _ hReported =>
    have hAhead := hCoherent.ahead_step hNone hStep hNotReport u.status u.nextCheckPoint u.reported
    rw [← h.ahead] at hAhead
    refine ⟨e, _, rfl, hAhead, rfl, ?_, ?_⟩
    · exact h.status.trans (congrArg ServiceStatus.currentState hStatus).symm
    · exact h.reported.trans (congrArg (Option.map ServiceStatus.currentState) hReported).symm

end ServiceStores

section Runs

variable {tr : List StoreEvent} {s : ServiceStores}

theorem stores_coherent (h : serviceStores.Run tr s) : s.Coherent := by
  refine h.invariant (I := fun _ s => s.Coherent) ?_ ?_
  · rintro s rfl
    exact ⟨nofun, fun _ => rfl⟩
  · rintro tr s e s' - hCoherent ⟨a, hStep⟩
    cases ServiceStores.step_cases hStep with
    | store caller call hCall => exact hCoherent.fillStep hCall
    | other e t hNone hService => exact hCoherent.other hNone hService

/-- Of the current states, and of all steps but the stores, the runs show nothing that they do not
show when each record is filled in at one stroke. -/
theorem stores_follow_fills (h : serviceStores.Run tr s) : ∃ tr' u, serviceControl.Run tr' u ∧
    tr'.map ControlEvent.stateOnly = tr.filterMap StoreEvent.control? ∧
      u.status.currentState = s.service.status.currentState ∧ u.reportedState = s.service.reportedState := by
  have hSimulated : ∃ u, (serviceControl.relabel ControlEvent.stateOnly).Run
      (tr.filterMap StoreEvent.control?) u ∧ s.Follows u := by
    refine h.simulate ServiceStores.Follows StoreEvent.control? ?_ ?_
    · rintro s rfl
      exact ⟨.constructed, rfl, rfl, rfl, rfl⟩
    · rintro tr s e s' u hRun hFollows ⟨a, hStep⟩
      cases ServiceStores.step_cases hStep with
      | store caller call hCall =>
        cases hPc : s.store caller with
        | currentState =>
          obtain ⟨u', hFill, hFollows'⟩ := hFollows.first_store hCall (by rw [hPc]; rfl)
          exact .inl ⟨_, u', rfl, ⟨_, rfl, ServiceControl.exists_step hFill⟩, hFollows'⟩
        | win32ExitCode | serviceSpecificExitCode | waitHint | loadCounter | storeCounter | checkPoint =>
          exact .inr ⟨rfl, hFollows.later_store (by rw [hPc]; rfl)⟩
      | other e t hNone hService =>
        obtain ⟨e', u', hLabel, hMatch, hFollows'⟩ := hFollows.other (stores_coherent hRun) hNone hService
        exact .inl ⟨_, u', rfl, ⟨e', hLabel, ServiceControl.exists_step hMatch⟩, hFollows'⟩
  obtain ⟨u, hRun, hFollows⟩ := hSimulated
  obtain ⟨tr', hLabels, hControl⟩ := hRun.of_relabel
  exact ⟨tr', u, hControl, hLabels, hFollows.status, hFollows.reported⟩

/-- `ServiceThread` sets its check point after `Stop` has filled in that it is pending, and `Stop`
reports the two together. -/
theorem stores_follow_fills_torn : ∃ tr s, serviceStores.Run tr s ∧
    tr.head? = some (.other (.report (.control .stop) ⟨.stopPending, noError, 0, 0, 0⟩)) ∧
      ∃ tr' u, serviceControl.Run tr' u ∧
        tr'.map ControlEvent.stateOnly = tr.filterMap StoreEvent.control? ∧
          u.reportedState = some .stopPending := by
  obtain ⟨tr, s, hRun, hHead, hReported⟩ := System.Run.exists_of_exec (S := serviceStores)
    (P := fun tr s => tr.head? = some (.other (.report (.control .stop) ⟨.stopPending, noError, 0, 0, 0⟩)) ∧
      s.service.reportedState = some .stopPending)
    (fun _ a _ _ hStep => ⟨a, hStep⟩)
    (List.replicate 9 (.start true) ++ List.replicate 5 (.thread false) ++
      List.replicate 8 (.control .stop) ++ [.thread false, .control .stop]) rfl (by decide)
  obtain ⟨tr', u, hControl, hLabels, -, hSame⟩ := stores_follow_fills hRun
  exact ⟨tr, s, hRun, hHead, tr', u, hControl, hLabels, hSame.trans hReported⟩

end Runs

end RdmnetBroker
