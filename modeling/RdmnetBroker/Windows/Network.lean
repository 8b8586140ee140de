import RdmnetBroker.Shell.Progress
import RdmnetBroker.Shell.Refresh
import RdmnetBroker.Windows.Teardown

/-! # The running broker catches up with the network

A change of the address table sets the event of a pending `NotifyAddrChange`, and
the thread turns that into a restart request. Between the wait and the next
`NotifyAddrChange` a change sets nothing; the cooldown of the request covers it,
since the restart, and with it the refresh of the interfaces, cannot come before
the cooldown is over. This is so as long as the thread takes less than the cooldown.
-/

namespace RdmnetBroker

open Library

set_option autoImplicit false

namespace Detection

variable {L : Libraries} {defaultCid : Uuid} {s s' : Detection}

def listening (s : Detection) : Prop := s.addr.pc = .stopCheck ∨ s.addr.pc = .wait

def rearming (s : Detection) : Prop := s.addr.pc = .resetEvent ∨ s.addr.pc = .notifyNext

/-- Where a change of the addresses that the running broker has not seen is on its way. -/
structure NetworkWatched (s : Detection) : Prop where
  seen : s.listening → s.unrefreshed = true → s.shell.Exposed →
    s.addr.event = .opened true ∨ s.shell.WillStop
  asked : s.rearming → s.rearmMs < kNetworkChangeCooldownMs.toNat →
    s.shell.restartRequested = true ∧ kNetworkChangeCooldownMs.toNat ≤ s.shell.remaining + s.rearmMs

/-- The first registration finds no change that the running broker has missed, and each
later one follows its restart request within the cooldown. -/
def RegistersInTime (s : Detection) : DetectionEvent → Prop
  | .addr (.notifyFirst true) => s.unrefreshed = true → s.shell.Exposed → s.shell.WillStop
  | .addr (.notifyNext true) => s.rearmMs < kNetworkChangeCooldownMs.toNat
  | _ => True

theorem observe_rearmMs (s : Detection) (e : Event) (t : Shell) :
    (s.observe e t).rearmMs = s.rearmMs + e.ms := by
  cases e <;> rfl

theorem observe_unrefreshed {e : Event} {t : Shell} (h : (s.observe e t).unrefreshed = true) :
    s.unrefreshed = true ∧ ∀ settings logMask, e ≠ .startup settings logMask := by
  cases e with
  | startup => cases h
  | _ =>
    refine ⟨h, ?_⟩
    intro settings logMask hEvent
    cases hEvent

/-- The cooldown of a request that is less than its own length old holds every restart off. -/
theorem asked_kept {r r' : Shell} {e : Event} {ms : Nat} (hStep : Shell.RestartStep r e r')
    (hRequested : r.restartRequested = true) (hLeft : kNetworkChangeCooldownMs.toNat ≤ r.remaining + ms)
    (hEarly : ms + e.ms < kNetworkChangeCooldownMs.toNat) :
    r'.restartRequested = true ∧ kNetworkChangeCooldownMs.toNat ≤ r'.remaining + (ms + e.ms) := by
  constructor
  · apply hStep.requested_of_requested _ hRequested
    rintro rfl
    have hZero := hStep.poll_true.2
    omega
  · have hLe := hStep.remaining_le
    omega

theorem NetworkWatched.shell {e : Event} {t : Shell} (hStep : Shell.Step L s.shell e t)
    (hControl : s.shell.Control) (h : s.NetworkWatched) : (s.observe e t).NetworkWatched := by
  constructor
  · unfold listening
    rw [observe_addr, observe_shell]
    intro hListening hUnrefreshed hExposed
    obtain ⟨hBefore, hNotStartup⟩ := observe_unrefreshed hUnrefreshed
    rcases hStep.exposed hExposed with hExposedBefore | ⟨settings, logMask, hStartup⟩
    · rcases h.seen hListening hBefore hExposedBefore with hSignalled | hWill
      · exact .inl hSignalled
      · exact .inr (hStep.willStop hControl hWill hExposed)
    · exact absurd hStartup (hNotStartup settings logMask)
  · unfold rearming
    rw [observe_addr, observe_shell, observe_rearmMs]
    intro hRearming hEarly
    obtain ⟨hRequested, hLeft⟩ := h.asked hRearming (by omega)
    exact asked_kept hStep.restartStep hRequested hLeft hEarly

/-- A restart request of either thread. -/
theorem NetworkWatched.requestRestart (cooldownMs : BitVec 32) (h : s.NetworkWatched) :
    { s with shell := s.shell.requestRestart cooldownMs }.NetworkWatched := by
  constructor
  · intro _ _ _
    exact .inr (.inl rfl)
  · intro hRearming hEarly
    obtain ⟨-, hLeft⟩ := h.asked hRearming hEarly
    refine ⟨rfl, ?_⟩
    change _ ≤ (s.shell.requestRestart cooldownMs).remaining + s.rearmMs
    rw [Shell.remaining_requestRestart]
    omega

/-- Steps that leave the addresses' thread and the shell alone. -/
theorem NetworkWatched.congr (h : s.NetworkWatched) (hShell : s'.shell = s.shell) (hAddr : s'.addr = s.addr)
    (hUnrefreshed : s'.unrefreshed = s.unrefreshed) (hMs : s'.rearmMs = s.rearmMs) : s'.NetworkWatched := by
  obtain ⟨hSeen, hAsked⟩ := h
  constructor
  · unfold listening
    rw [hShell, hAddr, hUnrefreshed]
    exact hSeen
  · unfold rearming
    rw [hShell, hAddr, hMs]
    exact hAsked

theorem NetworkWatched.addrChange (h : s.NetworkWatched) (hBefore : s.addr.Coherent) :
    { s with addr := s.addr.addrChanged, unrefreshed := true }.NetworkWatched := by
  constructor
  · intro hListening _ _
    left
    have hCoherent := hBefore.addrChanged
    have hNotPending : s.addr.addrChanged.pending = false := by
      unfold AddrWatcher.addrChanged
      split
      · rfl
      · exact Bool.eq_false_iff.mpr ‹_›
    unfold AddrWatcher.Coherent at hCoherent
    rcases hListening with hAt | hAt
    · change s.addr.addrChanged.pc = _ at hAt
      simp only [hAt, hNotPending, Bool.false_eq_true, and_false, false_or, and_true] at hCoherent
      exact hCoherent
    · change s.addr.addrChanged.pc = _ at hAt
      simp only [hAt, hNotPending, Bool.false_eq_true, and_false, false_or, and_true] at hCoherent
      exact hCoherent
  · unfold rearming
    rw [addrChanged_pc]
    exact h.asked

theorem NetworkWatched.addr {e : AddrEvent} {w : AddrWatcher} (h : s.NetworkWatched)
    (hStep : s.addr.Step s.stopAddrChangeDetection e w) (hNe : e ≠ .requestRestart)
    (hInTime : s.RegistersInTime (.addr e)) : { s with addr := w }.NetworkWatched := by
  constructor
  · intro hListening hUnrefreshed hExposed
    cases hStep with
    | notifyFirst => exact .inr (hInTime hUnrefreshed hExposed)
    | stopNotSeen hPc => exact h.seen (.inl hPc) hUnrefreshed hExposed
    | waitTimeout hPc => exact h.seen (.inr hPc) hUnrefreshed hExposed
    | notifyNext hPc => exact .inr (.inl (h.asked (.inr hPc) hInTime).1)
    | requestRestart => exact absurd rfl hNe
    | _ => rcases hListening with hPc | hPc <;> cases hPc
  · intro hRearming hEarly
    cases hStep with
    | resetEvent hPc => exact h.asked (.inl hPc) hEarly
    | requestRestart => exact absurd rfl hNe
    | _ => rcases hRearming with hPc | hPc <;> cases hPc

theorem networkWatched_addrRestart (s : Detection) :
    { s with
      shell := s.shell.requestRestart kNetworkChangeCooldownMs
      addr := { s.addr with pc := .resetEvent }
      rearmMs := 0 }.NetworkWatched := by
  constructor
  · intro hListening
    rcases hListening with hPc | hPc <;> cases hPc
  · intro _ _
    refine ⟨rfl, ?_⟩
    change _ ≤ (s.shell.requestRestart kNetworkChangeCooldownMs).remaining + 0
    rw [Shell.remaining_requestRestart]
    omega

theorem Step.networkWatched {e : DetectionEvent} (hStep : Step L s e s') (hInTime : s.RegistersInTime e)
    (hShell : ∀ {a e t}, s.shell.step L a = some (e, t) → Shell.Step L s.shell e t)
    (hControl : s.shell.Control) (hCoherent : s.addr.Coherent) (h : s.NetworkWatched) :
    s'.NetworkWatched := by
  cases hStep with
  | shell a e t _ hStep => exact h.shell (hShell hStep) hControl
  | thread e s' hThread =>
    cases hThread with
    | createAddrThread =>
      constructor
      · intro hListening
        rcases hListening with hPc | hPc <;> cases hPc
      · intro hRearming
        rcases hRearming with hPc | hPc <;> cases hPc
    | _ => exact h.congr rfl rfl rfl rfl
  | addr e w hNe hStep => exact h.addr hStep hNe hInTime
  | addrRestart => exact networkWatched_addrRestart s
  | config => exact h.congr rfl rfl rfl rfl
  | configRestart => exact (h.requestRestart 0).congr rfl rfl rfl rfl
  | addrChange => exact h.addrChange hCoherent

/-- Nothing is on its way to the broker: the addresses are watched, no restart is asked for
or under way, and the service is not on its way down. -/
structure NetworkQuiescent (s : Detection) : Prop where
  watching : s.listening
  notSignalled : s.addr.event ≠ .opened true
  notRequested : s.shell.restartRequested = false
  notRestarting : s.shell.pc ≠ .restartShutdown
  notShuttingDown : s.shell.shutdownRequested = false

end Detection

section Runs

variable {L : Libraries} {defaultCid : Uuid} {tr : List DetectionEvent} {s : Detection}

theorem run_networkWatched (h : ((brokerDetection L defaultCid).guard Detection.RegistersInTime).Run tr s) :
    s.NetworkWatched := by
  refine h.invariant (I := fun _ s => s.NetworkWatched) ?_ ?_
  · rintro s ⟨-, -, hAddr, -⟩
    constructor
    · intro hListening
      rcases hListening with hPc | hPc <;> rw [hAddr] at hPc <;> cases hPc
    · intro hRearming
      rcases hRearming with hPc | hPc <;> rw [hAddr] at hPc <;> cases hPc
  · rintro tr s e s' hRun ih ⟨hInTime, a, hStep⟩
    have hShell := detection_shell hRun.of_guard
    exact (Detection.step_cases hStep).networkWatched hInTime (fun hNext => run_step hShell ⟨_, hNext⟩)
      (run_control hShell) (run_coherent hRun.of_guard) ih

/-- When the registrations come in time, a broker that runs in a quiescent state has asked for
the network interfaces since the address table last changed. -/
theorem network_caughtUp
    (h : ((brokerDetection L defaultCid).guard Detection.RegistersInTime).Run tr s)
    (hQuiescent : s.NetworkQuiescent) (hStarted : s.shell.brokerStarted = true) :
    s.unrefreshed = false := by
  rw [Bool.eq_false_iff]
  intro hUnrefreshed
  rcases (run_networkWatched h).seen hQuiescent.watching hUnrefreshed (.inl hStarted) with
    hSignalled | hRequested | hPc | hShutdown
  · exact hQuiescent.notSignalled hSignalled
  · rw [hQuiescent.notRequested] at hRequested
    cases hRequested
  · exact hQuiescent.notRestarting hPc
  · rw [hQuiescent.notShuttingDown] at hShutdown
    cases hShutdown

end Runs

namespace Detection

def registersInTime (s : Detection) : DetectionEvent → Bool
  | .addr (.notifyFirst true) => !s.unrefreshed
  | .addr (.notifyNext true) => s.rearmMs < kNetworkChangeCooldownMs.toNat
  | _ => true

theorem registersInTime_of_check (s : Detection) (e : DetectionEvent) (h : s.registersInTime e = true) :
    s.RegistersInTime e := by
  unfold RegistersInTime
  split
  · intro hUnrefreshed
    simp [registersInTime, hUnrefreshed] at h
  · exact of_decide_eq_true h
  · exact trivial

def isNetworkQuiescent (s : Detection) : Bool :=
  s.addr.pc == .stopCheck && s.addr.event != .opened true && !s.shell.restartRequested &&
    s.shell.pc != .restartShutdown && !s.shell.shutdownRequested

theorem networkQuiescent_of_check {s : Detection} (h : s.isNetworkQuiescent = true) :
    s.NetworkQuiescent := by
  simp only [isNetworkQuiescent, Bool.and_eq_true, beq_iff_eq, bne_iff_ne, Bool.not_eq_true'] at h
  exact ⟨.inl h.1.1.1.1, h.1.1.1.2, h.1.1.2, h.1.2, h.2⟩

end Detection

def DetectionEvent.isAddrChange : DetectionEvent → Bool
  | .addrChange => true
  | _ => false

/-- A change while the broker runs, the restart that it leads to, and the quiet after it. -/
theorem network_caughtUp_restarted : ∃ (tr : List DetectionEvent) (s : Detection),
    s.NetworkQuiescent ∧ s.shell.brokerStarted = true ∧ tr.any DetectionEvent.isAddrChange = true ∧
      s.unrefreshed = false := by
  obtain ⟨tr, s, hRun, hQuiescent, hStarted, hChange⟩ := System.Run.exists_of_exec_guard
    (S := brokerDetection .sample sampleConfig.defaultCid) (G := Detection.RegistersInTime)
    (P := fun tr s => s.isNetworkQuiescent = true ∧ s.shell.brokerStarted = true ∧
      tr.any DetectionEvent.isAddrChange = true)
    (fun _ a _ _ hStep => ⟨a, hStep⟩) Detection.registersInTime Detection.registersInTime_of_check
    (startActs ++ shellActs 4 ++ .addrChange :: addrActs 5 ++ shellActs 3 ++ .shell (.tick 5001) ::
      shellActs 11)
    (sampleDetection_initial "\x7b\x7d") (by decide +kernel)
  have hQuiet := Detection.networkQuiescent_of_check hQuiescent
  exact ⟨tr, s, hQuiet, hStarted, hChange, network_caughtUp hRun hQuiet hStarted⟩

end RdmnetBroker
