import Mathlib.Logic.Function.Basic
import RdmnetBroker.Library.Runs

/-! # The service status on Windows

`Start` runs on the thread of `ServiceMain`, `ServiceThread` on the thread that
it creates, and `Stop` and `Shutdown` on the control dispatcher. All four report
through `SetServiceStatus`, which fills the one record `status_` and then passes
it to the service control manager; a step is one of the two halves, or one other
call. The stores of the first half are taken apart in `Windows.Stores`, which
leaves the current states as they are here. Nothing that the `try` blocks call
throws, so the handlers are left out.
-/

namespace RdmnetBroker

open Library

set_option autoImplicit false

inductive ServiceState
  | startPending
  | running
  | stopPending
  | stopped
  deriving DecidableEq, Repr

/-- The fields of `SERVICE_STATUS` that `SetServiceStatus` writes. -/
structure ServiceStatus where
  currentState : ServiceState
  win32ExitCode : BitVec 32
  serviceSpecificExitCode : BitVec 32
  checkPoint : BitVec 32
  waitHint : BitVec 32
  deriving DecidableEq, Repr

def noError : BitVec 32 := 0

def errorServiceSpecificError : BitVec 32 := 1066

inductive StartPc
  | fillStartPending
  | reportStartPending
  | createThread
  | storeHandle (created : Bool)
  | fillRunning
  | reportRunning
  | returned
  deriving DecidableEq, Repr

inductive ThreadPc
  | notCreated
  | run
  | fillStopped
  | reportStopped
  | exited (ok : Bool)
  deriving DecidableEq, Repr

inductive ControlPc
  | idle
  | fillStopPending
  | reportStopPending
  | asyncShutdown
  | waitForSingleObject
  | fillStopped
  | reportStopped
  deriving DecidableEq, Repr

inductive Control
  | stop | shutdown
  deriving DecidableEq, Repr

inductive Caller
  | start
  | serviceThread
  | control (c : Control)
  deriving DecidableEq, Repr

/-- `CreateThread` has returned a handle. -/
def StartPc.created : StartPc → Bool
  | .storeHandle created => created
  | .fillRunning | .reportRunning | .returned => true
  | _ => false

/-- `ServiceThread` has filled in its failure. -/
def ThreadPc.failed : ThreadPc → Bool
  | .reportStopped | .exited false => true
  | _ => false

/-- The members of `BrokerService` and the static counter of `SetServiceStatus`, the
last status that the service control manager was given, and where each caller is. -/
structure ServiceControl where
  status : ServiceStatus
  nextCheckPoint : BitVec 32
  reported : Option ServiceStatus
  serviceThread : Bool
  shutdownRequested : Bool
  start : StartPc
  thread : ThreadPc
  control : Control → ControlPc

inductive ControlEvent
  | fill (caller : Caller) (state : ServiceState)
  | report (caller : Caller) (status : ServiceStatus)
  | createThread (ok : Bool)
  | storeHandle
  | runReturn (ok : Bool)
  | call (c : Control)
  | asyncShutdown (c : Control)
  | waitReturn (c : Control)
  deriving DecidableEq, Repr

/-- A step of one caller, with the outcome of `CreateThread` or of `Run` where it has one. -/
inductive ControlAct
  | start (ok : Bool)
  | thread (ok : Bool)
  | control (c : Control)

namespace ServiceControl

def reportedState (s : ServiceControl) : Option ServiceState := s.reported.map ServiceStatus.currentState

/-- The first half of `SetServiceStatus`. -/
def fill (s : ServiceControl) (currentState : ServiceState) (win32Error serviceSpecificError : BitVec 32) :
    ServiceControl :=
  let final := currentState = .running ∨ currentState = .stopped
  { s with
    status :=
      { currentState := currentState
        win32ExitCode := win32Error
        serviceSpecificExitCode := serviceSpecificError
        waitHint := 0
        checkPoint := if final then 0 else s.nextCheckPoint }
    nextCheckPoint := if final then s.nextCheckPoint else s.nextCheckPoint + 1 }

/-- The second half of `SetServiceStatus`. -/
def report (s : ServiceControl) : ServiceControl := { s with reported := some s.status }

def goto (s : ServiceControl) (c : Control) (pc : ControlPc) : ServiceControl :=
  { s with control := Function.update s.control c pc }

def stepStart (s : ServiceControl) (ok : Bool) : Option (ControlEvent × ServiceControl) :=
  match s.start with
  | .fillStartPending =>
    some (.fill .start .startPending,
      { s.fill .startPending noError 0 with start := .reportStartPending })
  | .reportStartPending =>
    some (.report .start s.status, { s.report with start := .createThread })
  | .createThread =>
    if ok then some (.createThread true, { s with thread := .run, start := .storeHandle true })
    else some (.createThread false, { s with start := .storeHandle false })
  | .storeHandle created =>
    some (.storeHandle, { s with serviceThread := created, start := .fillRunning })
  | .fillRunning =>
    some (.fill .start .running, { s.fill .running noError 0 with start := .reportRunning })
  | .reportRunning =>
    some (.report .start s.status, { s.report with start := .returned })
  | .returned => none

/-- `ServiceThread`: `ok` is what `Run` returns. -/
def stepThread (s : ServiceControl) (ok : Bool) : Option (ControlEvent × ServiceControl) :=
  match s.thread with
  | .notCreated => none
  | .run =>
    if ok then some (.runReturn true, { s with thread := .exited true })
    else some (.runReturn false, { s with thread := .fillStopped })
  | .fillStopped =>
    some (.fill .serviceThread .stopped,
      { s.fill .stopped errorServiceSpecificError 1 with thread := .reportStopped })
  | .reportStopped =>
    some (.report .serviceThread s.status, { s.report with thread := .exited false })
  | .exited _ => none

def waitReturns (s : ServiceControl) : Bool :=
  !s.serviceThread ||
    match s.thread with
    | .exited _ => true
    | _ => false

/-- `Stop` reports that it is pending; `Shutdown` goes on with `AsyncShutdown` at once.
The wait on a null handle fails, and the failure is not looked at. -/
def stepControl (s : ServiceControl) (c : Control) : Option (ControlEvent × ServiceControl) :=
  match s.control c with
  | .idle =>
    match c with
    | .stop => some (.call .stop, s.goto .stop .fillStopPending)
    | .shutdown => some (.call .shutdown, s.goto .shutdown .asyncShutdown)
  | .fillStopPending =>
    some (.fill (.control c) .stopPending, (s.fill .stopPending noError 0).goto c .reportStopPending)
  | .reportStopPending => some (.report (.control c) s.status, s.report.goto c .asyncShutdown)
  | .asyncShutdown =>
    some (.asyncShutdown c, { s with shutdownRequested := true }.goto c .waitForSingleObject)
  | .waitForSingleObject =>
    if s.waitReturns then some (.waitReturn c, s.goto c .fillStopped) else none
  | .fillStopped =>
    some (.fill (.control c) .stopped, (s.fill .stopped noError 0).goto c .reportStopped)
  | .reportStopped => some (.report (.control c) s.status, s.report.goto c .idle)

def step (s : ServiceControl) : ControlAct → Option (ControlEvent × ServiceControl)
  | .start ok => s.stepStart ok
  | .thread ok => s.stepThread ok
  | .control c => s.stepControl c

/-- The service after its construction, when `ServiceMain` calls `Start`. -/
def constructed : ServiceControl where
  status := ⟨.startPending, noError, 0, 0, 0⟩
  nextCheckPoint := 1
  reported := none
  serviceThread := false
  shutdownRequested := false
  start := .fillStartPending
  thread := .notCreated
  control _ := .idle

inductive Step (s : ServiceControl) : ControlEvent → ServiceControl → Prop
  | fillStartPending : s.start = .fillStartPending →
      Step s (.fill .start .startPending)
        { s.fill .startPending noError 0 with start := .reportStartPending }
  | reportStartPending : s.start = .reportStartPending →
      Step s (.report .start s.status) { s.report with start := .createThread }
  | createThread : s.start = .createThread →
      Step s (.createThread true) { s with thread := .run, start := .storeHandle true }
  | createThreadFailed : s.start = .createThread →
      Step s (.createThread false) { s with start := .storeHandle false }
  | storeHandle (created : Bool) : s.start = .storeHandle created →
      Step s .storeHandle { s with serviceThread := created, start := .fillRunning }
  | fillRunning : s.start = .fillRunning →
      Step s (.fill .start .running) { s.fill .running noError 0 with start := .reportRunning }
  | reportRunning : s.start = .reportRunning →
      Step s (.report .start s.status) { s.report with start := .returned }
  | runReturned : s.thread = .run → Step s (.runReturn true) { s with thread := .exited true }
  | runFailed : s.thread = .run → Step s (.runReturn false) { s with thread := .fillStopped }
  | threadFill : s.thread = .fillStopped →
      Step s (.fill .serviceThread .stopped)
        { s.fill .stopped errorServiceSpecificError 1 with thread := .reportStopped }
  | threadReport : s.thread = .reportStopped →
      Step s (.report .serviceThread s.status) { s.report with thread := .exited false }
  | callStop : s.control .stop = .idle → Step s (.call .stop) (s.goto .stop .fillStopPending)
  | callShutdown : s.control .shutdown = .idle →
      Step s (.call .shutdown) (s.goto .shutdown .asyncShutdown)
  | fillStopPending (c : Control) : s.control c = .fillStopPending →
      Step s (.fill (.control c) .stopPending)
        ((s.fill .stopPending noError 0).goto c .reportStopPending)
  | reportStopPending (c : Control) : s.control c = .reportStopPending →
      Step s (.report (.control c) s.status) (s.report.goto c .asyncShutdown)
  | asyncShutdown (c : Control) : s.control c = .asyncShutdown →
      Step s (.asyncShutdown c) ({ s with shutdownRequested := true }.goto c .waitForSingleObject)
  | waitReturn (c : Control) : s.control c = .waitForSingleObject → s.waitReturns = true →
      Step s (.waitReturn c) (s.goto c .fillStopped)
  | fillStopped (c : Control) : s.control c = .fillStopped →
      Step s (.fill (.control c) .stopped) ((s.fill .stopped noError 0).goto c .reportStopped)
  | reportStopped (c : Control) : s.control c = .reportStopped →
      Step s (.report (.control c) s.status) (s.report.goto c .idle)

variable {s s' : ServiceControl} {e : ControlEvent}

theorem step_of_stepStart {ok : Bool} (h : s.stepStart ok = some (e, s')) : Step s e s' := by
  unfold stepStart at h
  split at h
  case h_1 hPc =>
    cases h
    exact .fillStartPending hPc
  case h_2 hPc =>
    cases h
    exact .reportStartPending hPc
  case h_3 hPc =>
    split at h <;> cases h
    · exact .createThread hPc
    · exact .createThreadFailed hPc
  case h_4 created hPc =>
    cases h
    exact .storeHandle created hPc
  case h_5 hPc =>
    cases h
    exact .fillRunning hPc
  case h_6 hPc =>
    cases h
    exact .reportRunning hPc
  case h_7 => cases h

theorem step_of_stepThread {ok : Bool} (h : s.stepThread ok = some (e, s')) : Step s e s' := by
  unfold stepThread at h
  split at h
  case h_1 => cases h
  case h_2 hPc =>
    split at h <;> cases h
    · exact .runReturned hPc
    · exact .runFailed hPc
  case h_3 hPc =>
    cases h
    exact .threadFill hPc
  case h_4 hPc =>
    cases h
    exact .threadReport hPc
  case h_5 => cases h

theorem step_of_stepControl {c : Control} (h : s.stepControl c = some (e, s')) : Step s e s' := by
  unfold stepControl at h
  split at h
  case h_1 hPc =>
    split at h <;> cases h
    · exact .callStop hPc
    · exact .callShutdown hPc
  case h_2 hPc =>
    cases h
    exact .fillStopPending c hPc
  case h_3 hPc =>
    cases h
    exact .reportStopPending c hPc
  case h_4 hPc =>
    cases h
    exact .asyncShutdown c hPc
  case h_5 hPc =>
    split at h <;> cases h
    exact .waitReturn c hPc ‹_›
  case h_6 hPc =>
    cases h
    exact .fillStopped c hPc
  case h_7 hPc =>
    cases h
    exact .reportStopped c hPc

theorem step_cases {a : ControlAct} (h : s.step a = some (e, s')) : Step s e s' := by
  cases a with
  | start ok => exact step_of_stepStart h
  | thread ok => exact step_of_stepThread h
  | control c => exact step_of_stepControl h

end ServiceControl

def serviceControl : System ServiceControl ControlEvent where
  initial s := s = .constructed
  next s e s' := ∃ a, s.step a = some (e, s')

/-- What the status says of the service. -/
structure Truthful (tr : List ControlEvent) (s : ServiceControl) : Prop where
  running : s.reportedState = some .running →
    s.thread ≠ .notCreated ∧ ∀ status, .report .serviceThread status ∉ tr
  stopped : ∀ post pre caller status, tr = post ++ .report caller status :: pre →
    status.currentState = .stopped →
      ∀ caller' status', .report caller' status' ∈ post → status'.currentState = .stopped

/-- `CreateThread` succeeds, `RUNNING` is filled in before the service thread fills in its
failure, and only `STOPPED` is filled in once `STOPPED` is reported. -/
def StatusInOrder (s : ServiceControl) : ControlEvent → Prop
  | .createThread ok => ok = true
  | .fill _ .running => s.thread.failed = false ∧ s.reportedState ≠ some .stopped
  | .fill _ .startPending => s.reportedState ≠ some .stopped
  | .fill _ .stopPending => s.reportedState ≠ some .stopped
  | _ => True

namespace ServiceControl

/-- What holds in a run whose steps are in order. -/
structure Ordered (tr : List ControlEvent) (s : ServiceControl) : Prop where
  created : s.start.created = true ↔ s.thread ≠ .notCreated
  createThread : s.start ≠ .storeHandle false
  status_running : s.status.currentState = .running → s.start.created = true ∧ s.thread.failed = false
  reported_running : s.reportedState = some .running →
    s.start.created = true ∧ s.thread ≠ .exited false
  thread_reported : ∀ status, .report .serviceThread status ∈ tr → s.thread = .exited false
  stopped : s.reportedState = some .stopped → s.status.currentState = .stopped

variable {tr : List ControlEvent} {s s' : ServiceControl} {e : ControlEvent}

theorem Step.created_kept (hStep : Step s e s') (hOrder : StatusInOrder s e) (h : Ordered tr s) :
    (s'.start.created = true ↔ s'.thread ≠ .notCreated) ∧ s'.start ≠ .storeHandle false := by
  have hSame := h.created
  cases hStep with
  | fillStartPending hPc | reportStartPending hPc =>
    rw [hPc] at hSame
    exact ⟨hSame, nofun⟩
  | createThread => exact ⟨iff_of_true rfl nofun, nofun⟩
  | createThreadFailed => cases hOrder
  | storeHandle created hPc =>
    cases created with
    | false => exact absurd hPc h.createThread
    | true =>
      rw [hPc] at hSame
      exact ⟨hSame, nofun⟩
  | fillRunning hPc | reportRunning hPc =>
    rw [hPc] at hSame
    exact ⟨hSame, nofun⟩
  | runReturned hPc | runFailed hPc | threadFill hPc | threadReport hPc =>
    exact ⟨iff_of_true (h.created.mpr (by rw [hPc]; nofun)) nofun, h.createThread⟩
  | _ => exact ⟨h.created, h.createThread⟩

theorem Step.status_running_kept (hStep : Step s e s') (hOrder : StatusInOrder s e)
    (h : Ordered tr s) (hRunning : s'.status.currentState = .running) :
    s'.start.created = true ∧ s'.thread.failed = false := by
  cases hStep with
  | fillStartPending | threadFill | fillStopPending | fillStopped => cases hRunning
  | fillRunning hPc => exact ⟨rfl, hOrder.1⟩
  | reportStartPending hPc | createThread hPc | createThreadFailed hPc =>
    have hCreated := (h.status_running hRunning).1
    rw [hPc] at hCreated
    cases hCreated
  | storeHandle created hPc => exact ⟨rfl, (h.status_running hRunning).2⟩
  | reportRunning => exact ⟨rfl, (h.status_running hRunning).2⟩
  | runReturned | runFailed => exact ⟨(h.status_running hRunning).1, rfl⟩
  | threadReport hPc =>
    have hFailed := (h.status_running hRunning).2
    rw [hPc] at hFailed
    cases hFailed
  | _ => exact h.status_running hRunning

theorem Step.created_mono (hStep : Step s e s') (h : s.start.created = true) :
    s'.start.created = true := by
  cases hStep with
  | fillStartPending hPc | reportStartPending hPc | createThread hPc | createThreadFailed hPc =>
    rw [hPc] at h
    cases h
  | storeHandle | fillRunning | reportRunning => rfl
  | _ => exact h

/-- A report is a report of the record as it stands. -/
theorem Step.reportedState_eq (hStep : Step s e s') :
    (∃ caller, e = .report caller s.status ∧ s'.reportedState = some s.status.currentState ∧
      s'.status = s.status) ∨
    (∀ caller status, e ≠ .report caller status) ∧ s'.reportedState = s.reportedState := by
  cases hStep with
  | reportStartPending | reportRunning | threadReport | reportStopPending | reportStopped =>
    exact .inl ⟨_, rfl, rfl, rfl⟩
  | _ => exact .inr ⟨nofun, rfl⟩

theorem Step.failed_of_exited (hStep : Step s e s') (h : s'.thread = .exited false) :
    s.thread.failed = true ∧ (s.thread = .exited false ∨ ∃ status, e = .report .serviceThread status) := by
  cases hStep with
  | createThread | runReturned | runFailed | threadFill => cases h
  | threadReport hPc => exact ⟨by rw [hPc]; rfl, .inr ⟨_, rfl⟩⟩
  | _ =>
    have hThread : s.thread = .exited false := h
    exact ⟨by rw [hThread]; rfl, .inl hThread⟩

theorem Step.reported_running_kept (hStep : Step s e s') (h : Ordered tr s)
    (hRunning : s'.reportedState = some .running) :
    s'.start.created = true ∧ s'.thread ≠ .exited false := by
  rcases hStep.reportedState_eq with ⟨caller, -, hReported, -⟩ | ⟨hOther, hSame⟩
  · have hStatus : s.status.currentState = .running := Option.some.inj (hReported.symm.trans hRunning)
    obtain ⟨hCreated, hFailed⟩ := h.status_running hStatus
    refine ⟨hStep.created_mono hCreated, fun hExited => ?_⟩
    rw [(hStep.failed_of_exited hExited).1] at hFailed
    cases hFailed
  · obtain ⟨hCreated, hThread⟩ := h.reported_running (hSame ▸ hRunning)
    refine ⟨hStep.created_mono hCreated, fun hExited => ?_⟩
    rcases (hStep.failed_of_exited hExited).2 with hBefore | ⟨status, hReport⟩
    · exact hThread hBefore
    · exact hOther _ _ hReport

theorem Step.thread_reported_kept (hStep : Step s e s') (h : Ordered tr s) (status : ServiceStatus)
    (hMem : .report .serviceThread status ∈ e :: tr) : s'.thread = .exited false := by
  rcases List.mem_cons.mp hMem with hHead | hTail
  · cases hStep with
    | threadReport => rfl
    | _ => cases hHead
  · have hExited := h.thread_reported status hTail
    cases hStep with
    | createThread hPc =>
      have hCreated := h.created.mpr (by rw [hExited]; nofun)
      rw [hPc] at hCreated
      cases hCreated
    | runReturned hPc | runFailed hPc | threadFill hPc => cases hPc.symm.trans hExited
    | threadReport => rfl
    | _ => exact hExited

theorem Step.stopped_kept (hStep : Step s e s') (hOrder : StatusInOrder s e) (h : Ordered tr s)
    (hStopped : s'.reportedState = some .stopped) : s'.status.currentState = .stopped := by
  cases hStep with
  | fillStartPending | fillStopPending => exact absurd hStopped hOrder
  | fillRunning => exact absurd hStopped hOrder.2
  | threadFill | fillStopped => rfl
  | reportStartPending | reportRunning | threadReport | reportStopPending | reportStopped =>
    exact Option.some.inj hStopped
  | _ => exact h.stopped hStopped

theorem Step.ordered (hStep : Step s e s') (hOrder : StatusInOrder s e) (h : Ordered tr s) :
    Ordered (e :: tr) s' where
  created := (hStep.created_kept hOrder h).1
  createThread := (hStep.created_kept hOrder h).2
  status_running := hStep.status_running_kept hOrder h
  reported_running := hStep.reported_running_kept h
  thread_reported := hStep.thread_reported_kept h
  stopped := hStep.stopped_kept hOrder h

theorem constructed_ordered : Ordered [] constructed where
  created := iff_of_false nofun fun h => h rfl
  createThread := nofun
  status_running := nofun
  reported_running := nofun
  thread_reported := nofun
  stopped := nofun

theorem Ordered.truthful_running (h : Ordered tr s) (hRunning : s.reportedState = some .running) :
    s.thread ≠ .notCreated ∧ ∀ status, .report .serviceThread status ∉ tr := by
  obtain ⟨hCreated, hThread⟩ := h.reported_running hRunning
  exact ⟨h.created.mp hCreated, fun status hMem => hThread (h.thread_reported status hMem)⟩

/-- Once `STOPPED` is reported it stays the state of the record and of every report. -/
theorem Step.stopped_stays (hStep : Step s e s') (h : Ordered tr s)
    (hStopped : s.reportedState = some .stopped) :
    s'.reportedState = some .stopped ∧
      ∀ caller status, e = .report caller status → status.currentState = .stopped := by
  have hStatus := h.stopped hStopped
  rcases hStep.reportedState_eq with ⟨caller, hReport, hReported, -⟩ | ⟨hOther, hSame⟩
  · refine ⟨by rw [hReported, hStatus], fun caller' status hReport' => ?_⟩
    cases hReport.symm.trans hReport'
    exact hStatus
  · exact ⟨by rw [hSame, hStopped], fun caller status hReport => absurd hReport (hOther _ _)⟩

end ServiceControl

section Runs

variable {tr : List ControlEvent} {s s' : ServiceControl} {e : ControlEvent}

theorem guarded_ordered (h : (serviceControl.guard StatusInOrder).Run tr s) :
    ServiceControl.Ordered tr s := by
  refine h.invariant (I := ServiceControl.Ordered) ?_ ?_
  · rintro s rfl
    exact ServiceControl.constructed_ordered
  · rintro tr s e s' - ih ⟨hOrder, a, hStep⟩
    exact (ServiceControl.step_cases hStep).ordered hOrder ih

theorem guarded_stopped {post pre : List ControlEvent} {caller : Caller} {status : ServiceStatus}
    (hStatus : status.currentState = .stopped)
    (h : (serviceControl.guard StatusInOrder).Run (post ++ .report caller status :: pre) s) :
    s.reportedState = some .stopped ∧
      ∀ caller' status', .report caller' status' ∈ post → status'.currentState = .stopped := by
  refine h.since (J := fun post s => s.reportedState = some .stopped ∧
    ∀ caller' status', .report caller' status' ∈ post → status'.currentState = .stopped) ?_ ?_
  · intro s hRun
    refine ⟨?_, nofun⟩
    cases hRun with
    | step _ hNext =>
      obtain ⟨-, a, hStep⟩ := hNext
      rcases (ServiceControl.step_cases hStep).reportedState_eq with
        ⟨caller', hReport, hReported, -⟩ | ⟨hOther, -⟩
      · cases hReport
        rw [hReported, hStatus]
      · exact absurd rfl (hOther _ _)
  · rintro post s e s' hRun ⟨hStopped, hPost⟩ ⟨-, a, hStep⟩
    obtain ⟨hStays, hLabel⟩ :=
      (ServiceControl.step_cases hStep).stopped_stays (guarded_ordered hRun) hStopped
    refine ⟨hStays, fun caller' status' hMem => ?_⟩
    rcases List.mem_cons.mp hMem with hHead | hTail
    · exact hLabel caller' status' hHead.symm
    · exact hPost caller' status' hTail

theorem status_truthful_of_inOrder (tr : List ControlEvent) (s : ServiceControl)
    (h : (serviceControl.guard StatusInOrder).Run tr s) : Truthful tr s where
  running := (guarded_ordered h).truthful_running
  stopped := by
    rintro post pre caller status rfl hStatus
    exact (guarded_stopped hStatus h).2

instance (s : ServiceControl) : (e : ControlEvent) → Decidable (StatusInOrder s e)
  | .createThread ok => inferInstanceAs (Decidable (ok = true))
  | .fill _ .running =>
    inferInstanceAs (Decidable (s.thread.failed = false ∧ s.reportedState ≠ some .stopped))
  | .fill _ .startPending => inferInstanceAs (Decidable (s.reportedState ≠ some .stopped))
  | .fill _ .stopPending => inferInstanceAs (Decidable (s.reportedState ≠ some .stopped))
  | .fill _ .stopped | .report _ _ | .storeHandle | .runReturn _ | .call _ | .asyncShutdown _
  | .waitReturn _ => isTrue trivial

theorem status_truthful_of_stop : ∃ tr s, (serviceControl.guard StatusInOrder).Run tr s ∧
    s.reportedState = some .stopped ∧ Truthful tr s := by
  have hRun : ∃ tr s, (serviceControl.guard StatusInOrder).Run tr s ∧
      s.reportedState = some .stopped :=
    System.Run.exists_of_exec_guard (S := serviceControl) (fun _ a _ _ hStep => ⟨a, hStep⟩)
      (fun s e => decide (StatusInOrder s e)) (fun _ _ => of_decide_eq_true)
      (List.replicate 6 (.start true) ++ List.replicate 4 (.control .stop) ++ [.thread true] ++
        List.replicate 3 (.control .stop)) rfl (by decide)
  obtain ⟨tr, s, hRun, hStopped⟩ := hRun
  exact ⟨tr, s, hRun, hStopped, status_truthful_of_inOrder tr s hRun⟩

/-- `RUNNING` stands reported without a thread, and after the thread reported its failure. -/
theorem status_not_truthful :
    (∃ tr s, serviceControl.Run tr s ∧ s.reportedState = some .running ∧ s.thread = .notCreated) ∧
    (∃ tr s, serviceControl.Run tr s ∧ s.reportedState = some .running ∧
      .report .serviceThread ⟨.stopped, errorServiceSpecificError, 1, 0, 0⟩ ∈ tr) ∧
    ¬ ∀ tr s, serviceControl.Run tr s → Truthful tr s := by
  have hExec (acts : List ControlAct) {P : List ControlEvent → ServiceControl → Prop}
      [∀ tr s, Decidable (P tr s)] (h : (System.exec ServiceControl.step .constructed acts).any
        (fun r => decide (P r.1 r.2)) = true) : ∃ tr s, serviceControl.Run tr s ∧ P tr s :=
    System.Run.exists_of_exec (S := serviceControl) (fun _ a _ _ hStep => ⟨a, hStep⟩) acts rfl h
  have hNull : ∃ tr s, serviceControl.Run tr s ∧ s.reportedState = some .running ∧
      s.thread = .notCreated :=
    hExec (List.replicate 6 (.start false)) (by decide)
  refine ⟨hNull, ?_, fun h => ?_⟩
  · exact hExec (List.replicate 3 (.start true) ++ List.replicate 3 (.thread false) ++
      List.replicate 3 (.start true)) (by decide)
  · obtain ⟨tr, s, hRun, hRunning, hThread⟩ := hNull
    exact ((h tr s hRun).running hRunning).1 hThread

end Runs

end RdmnetBroker
