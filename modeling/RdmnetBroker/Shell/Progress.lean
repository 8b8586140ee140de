import RdmnetBroker.Shell.Cooldown
import RdmnetBroker.Shell.Shutdown

/-! # The loop of `Run` makes progress

Every other thread may call into the shell as often as it likes between two steps
of the main thread. The steps that the main thread itself can still take before it
looks at `shutdown_requested_`, asks `TimeToRestartBroker` or ends are bounded by
its program point alone, so no caller can keep it from either of them.
-/

namespace RdmnetBroker

open Library

set_option autoImplicit false

def Event.isMain : Event → Bool
  | .requestRestart _ | .handleScopeChanged _ | .asyncShutdown | .tick _ | .writeConf _ => false
  | _ => true

/-- Where the main thread takes no further step. -/
def Pc.ended : Pc → Bool
  | .deinitReturned | .escaped _ => true
  | _ => false

/-- The most steps that the main thread can take, when it takes `check` from the
shutdown check on and `poll` from `TimeToRestartBroker` on. -/
def Pc.stepsLeft (check poll : Nat) : Pc → Nat
  | .openLogFile => check + 10
  | .logStartup => check + 9
  | .load .init .setDefaults => check + 8
  | .load .init .getConfFile => check + 7
  | .load .init (.read _) => check + 6
  | .setLogMask => check + 5
  | .initReturned => check + 4
  | .rdmnetInit => check + 3
  | .restartShutdown => check + 8
  | .load .restart .setDefaults => check + 7
  | .load .restart .getConfFile => check + 6
  | .load .restart (.read _) => check + 5
  | .applySettings => check + 4
  | .sleep => check + 3
  | .loopHead => check + 2
  | .startup => check + 1
  | .shutdownCheck => check
  | .timeToRestart => poll
  | .finalShutdown => 3
  | .rdmnetDeinit => 2
  | .runReturned _ => 1
  | .deinitReturned | .escaped _ => 0

theorem Pc.stepsLeft_le {check poll : Nat} (hPoll : poll ≤ check + 10) (pc : Pc) :
    pc.stepsLeft check poll ≤ check + 10 := by
  unfold stepsLeft
  split <;> omega

theorem Pc.ended_of_stepsLeft {pc : Pc} (h : pc.stepsLeft 4 13 = 0) : pc.ended = true := by
  cases pc with
  | deinitReturned | escaped => rfl
  | load site stage => cases site <;> cases stage <;> cases h
  | _ => cases h

namespace Shell

variable {L : Libraries} {s s' : Shell} {e : Event}

/-- What the two numbers must allow for, at the steps that are counted. -/
structure Allows (check poll : Nat) (e : Event) : Prop where
  checked : e = .shutdownCheck true → 4 ≤ check
  notChecked : e = .shutdownCheck false → poll + 1 ≤ check
  polled : ∀ result, e = .timeToRestart result → check + 9 ≤ poll

theorem Step.stepsLeft_le {check poll : Nat} (hStep : Step L s e s') (h : Allows check poll e) :
    e.isMain.toNat + s'.pc.stepsLeft check poll ≤ s.pc.stepsLeft check poll := by
  cases hStep with
  | requestRestart | handleScopeChanged | asyncShutdown | tick | writeConf =>
    exact (Nat.zero_add _).le
  | loadReturn site file messages hPc =>
    rw [hPc]
    cases site <;> simp only [Pc.stepsLeft, afterLoad, Event.isMain, Bool.toNat_true] <;> omega
  | loadBegin site messages hPc =>
    rw [hPc]
    cases site <;> simp only [Pc.stepsLeft, Event.isMain, Bool.toNat_true] <;> omega
  | confFileRead site hPc =>
    rw [hPc]
    cases site <;> simp only [Pc.stepsLeft, Event.isMain, Bool.toNat_true] <;> omega
  | loadThrow site file x config messages hPc =>
    rw [hPc]
    cases site <;> simp only [Pc.stepsLeft, Event.isMain, Bool.toNat_true] <;> omega
  | shutdownSeen hPc =>
    have hCheck := h.checked rfl
    simp only [hPc, Pc.stepsLeft, Event.isMain, Bool.toNat_true]
    omega
  | shutdownNotSeen hPc =>
    have hCheck := h.notChecked rfl
    simp only [hPc, Pc.stepsLeft, Event.isMain, Bool.toNat_true]
    omega
  | timeToRestart _ hPc | notTimeToRestart hPc =>
    have hPoll := h.polled _ rfl
    simp only [hPc, Pc.stepsLeft, Event.isMain, Bool.toNat_true]
    omega
  | _ =>
    simp only [*, Pc.stepsLeft, Event.isMain, Bool.toNat_true]
    omega

/-- A caller that does not let `Run` return into `Deinit` never sees it return. -/
theorem Step.pc_ne_deinitReturned (hStep : Step L s e s') (h : s.pc ≠ .deinitReturned)
    (hReturned : ∀ ok, s.pc = .runReturned ok → s'.pc = s.pc) : s'.pc ≠ .deinitReturned := by
  cases hStep with
  | deinit ok hPc =>
    have hSame := hReturned ok hPc
    rw [hPc] at hSame
    cases hSame
  | requestRestart | handleScopeChanged | asyncShutdown | tick | writeConf => exact h
  | loadReturn site => cases site <;> intro hPc <;> cases hPc
  | _ =>
    intro hPc
    cases hPc

theorem exists_main_step (h : s.pc.ended = false) (ok : Bool) (reason : Bytes) :
    ∃ e s', s.step L (.main ok reason) = some (e, s') := by
  have hSome : (s.stepMain L ok reason).isSome = true := by
    unfold stepMain
    split
    case h_19 hPc =>
      rw [hPc] at h
      cases h
    case h_20 site hPc =>
      rw [hPc] at h
      cases h
    all_goals first | rfl | (split <;> rfl)
  obtain ⟨⟨e, s'⟩, hStep⟩ := Option.isSome_iff_exists.mp hSome
  exact ⟨e, s', hStep⟩

end Shell

section Runs

variable {L : Libraries} {defaultCid : Uuid} {pre post : List Event} {s : Shell}

/-- In a stretch of a run whose steps the two numbers allow for. -/
theorem main_steps_le {check poll : Nat} (hPoll : poll ≤ check + 10)
    (h : (brokerShell L defaultCid).Run (post ++ pre) s)
    (hAllows : ∀ e ∈ post, Shell.Allows check poll e) :
    post.countP Event.isMain + s.pc.stepsLeft check poll ≤ check + 10 := by
  refine h.countP_add_rank_le (fun s => s.pc.stepsLeft check poll)
    (fun s _ => s.pc.stepsLeft_le hPoll) ?_ hAllows
  intro post s e s' hRun hAllowed hNext
  exact (run_step hRun hNext).stepsLeft_le hAllowed

theorem shutdownRequested_of_asyncShutdown
    (h : (brokerShell L defaultCid).Run (post ++ .asyncShutdown :: pre) s) :
    s.shutdownRequested = true := by
  refine h.since (J := fun _ s => s.shutdownRequested = true) ?_ ?_
  · intro s hRun
    cases hRun with
    | step hPre hNext =>
      have hStep := run_step hPre hNext
      cases hStep with
      | asyncShutdown => rfl
  · intro post s e s' hRun hShutdown hNext
    exact (run_step hRun hNext).shutdownRequested hShutdown

theorem no_false_check_after_asyncShutdown
    (h : (brokerShell L defaultCid).Run (post ++ .asyncShutdown :: pre) s) :
    .shutdownCheck false ∉ post := by
  intro hMem
  obtain ⟨late, early, rfl⟩ := List.append_of_mem hMem
  rw [List.append_assoc] at h
  obtain ⟨s₁, s₂, hRun, hStep⟩ := run_at h
  have hShutdown := shutdownRequested_of_asyncShutdown hRun
  cases hStep with
  | shutdownNotSeen _ hNot =>
    rw [hShutdown] at hNot
    cases hNot

theorem main_steps_after_asyncShutdown
    (h : (brokerShell L defaultCid).Run (post ++ .asyncShutdown :: pre) s) :
    post.countP Event.isMain + s.pc.stepsLeft 4 13 ≤ 14 := by
  refine main_steps_le (by decide) h fun e hMem => ⟨fun _ => le_refl 4, ?_, fun _ _ => le_refl 13⟩
  rintro rfl
  exact absurd hMem (no_false_check_after_asyncShutdown h)

/-- What AsyncShutdown brings about, whatever the other threads do after it. -/
structure ShutdownCompletes (L : Libraries) (post : List Event) (s : Shell) : Prop where
  bounded : post.countP Event.isMain ≤ 14
  enabled : s.pc.ended = false → ∀ ok reason, ∃ e s', s.step L (.main ok reason) = some (e, s')
  ended : post.countP Event.isMain = 14 → s.pc.ended = true
  stopped : s.pc.ended = true → s.brokerStarted = false

theorem shutdown_completes (h : (brokerShell L defaultCid).Run (post ++ .asyncShutdown :: pre) s) :
    ShutdownCompletes L post s := by
  have hLeft := main_steps_after_asyncShutdown h
  refine ⟨by omega, fun hPc => Shell.exists_main_step hPc, fun hCount => ?_, fun hPc => ?_⟩
  · apply Pc.ended_of_stepsLeft
    omega
  · rw [(run_control h).started_eq]
    unfold Pc.ended at hPc
    unfold Shell.startedAt
    split at hPc
    · rename_i hAt
      rw [hAt]
    · rename_i hAt
      rw [hAt]
    · cases hPc

/-- The bound is reached: a shell that is told to shut down before it is initialized. -/
theorem shutdown_completes_before_init : ∃ post s,
    (brokerShell .sample sampleConfig.defaultCid).Run (post ++ .asyncShutdown :: []) s ∧
      post.countP Event.isMain = 14 ∧ ShutdownCompletes .sample post s := by
  have hPre : (brokerShell .sample sampleConfig.defaultCid).Run [.asyncShutdown]
      (sampleShell "\x7b\x7d").asyncShutdown :=
    .step (.start (sampleShell_constructed _)) ⟨.asyncShutdown, rfl⟩
  have hNext : ∀ s a e s', Shell.step .sample s a = some (e, s') →
      (brokerShell .sample sampleConfig.defaultCid).next s e s' := fun s a e s' hStep => ⟨a, hStep⟩
  obtain ⟨post, s, hRun, hCount⟩ := hPre.exists_append_exec hNext (mainSteps 14)
    (P := fun post _ => post.countP Event.isMain = 14) (by decide +kernel)
  exact ⟨post, s, hRun, hCount, shutdown_completes hRun⟩

theorem exists_poll (h : (brokerShell L defaultCid).Run (post ++ pre) s)
    (hSteps : 14 < post.countP Event.isMain) : ∃ result, .timeToRestart result ∈ post := by
  by_contra hNone
  have hLeft : post.countP Event.isMain + s.pc.stepsLeft 4 0 ≤ 14 := by
    refine main_steps_le (by decide) h fun e hMem => ⟨fun _ => le_refl 4, fun _ => by decide, ?_⟩
    rintro result rfl
    exact absurd ⟨result, hMem⟩ hNone
  omega

/-- How long the main thread can go without looking at `shutdown_requested_`, and
without asking `TimeToRestartBroker`, in its own steps. -/
theorem main_never_starves (h : (brokerShell L defaultCid).Run (post ++ pre) s) :
    ((∀ requested, .shutdownCheck requested ∉ post) → post.countP Event.isMain ≤ 10) ∧
      ((∀ result, .timeToRestart result ∉ post) → post.countP Event.isMain ≤ 14) := by
  constructor
  · intro hNone
    have hLeft : post.countP Event.isMain + s.pc.stepsLeft 0 9 ≤ 10 := by
      refine main_steps_le (by decide) h fun e hMem => ⟨?_, ?_, fun _ _ => le_refl 9⟩
      · rintro rfl
        exact absurd hMem (hNone true)
      · rintro rfl
        exact absurd hMem (hNone false)
    omega
  · intro hNone
    by_contra hSteps
    obtain ⟨result, hMem⟩ := exists_poll h (Nat.lt_of_not_le hSteps)
    exact hNone result hMem

theorem main_never_starves_at_start : ∃ post s,
    (brokerShell .sample sampleConfig.defaultCid).Run (post ++ []) s ∧ post.countP Event.isMain = 10 ∧
      ((∀ requested, .shutdownCheck requested ∉ post) → post.countP Event.isMain ≤ 10) ∧
      ((∀ result, .timeToRestart result ∉ post) → post.countP Event.isMain ≤ 14) := by
  obtain ⟨post, s, hRun, hCount⟩ := exists_sample_run
    (P := fun post _ => post.countP Event.isMain = 10) "\x7b\x7d" (mainSteps 10) (by decide +kernel)
  rw [← List.append_nil post] at hRun
  exact ⟨post, s, hRun, hCount, main_never_starves hRun⟩

end Runs

namespace Shell

variable {s s' : Shell} {e : Event}

theorem timeToRestartBroker_fst (s : Shell) :
    s.timeToRestartBroker.1 = (s.restartRequested && s.restartTimer.isExpired s.now) := by
  unfold timeToRestartBroker
  split
  · rename_i hBoth
    exact hBoth.symm
  · rename_i hBoth
    exact (Bool.eq_false_iff.mpr hBoth).symm

theorem timeToRestartBroker_clock (s : Shell) :
    s.timeToRestartBroker.2.restartTimer = s.restartTimer ∧ s.timeToRestartBroker.2.now = s.now := by
  unfold timeToRestartBroker
  split <;> exact ⟨rfl, rfl⟩

theorem RestartStep.requested_of_cooldown (h : RestartStep s e s') {c : Nat}
    (hCooldown : e.cooldown? = some c) : s'.restartRequested = true := by
  cases h with
  | requestRestart cooldownMs _ hSame => exact hSame.restartRequested_eq
  | handleScopeChanged scope _ hSame => exact hSame.restartRequested_eq
  | timeToRestartBroker | tick => cases hCooldown
  | other e _ hNone =>
    rw [hNone] at hCooldown
    cases hCooldown

theorem RestartStep.requested_of_requested (h : RestartStep s e s') (hNotPoll : e ≠ .timeToRestart true)
    (hRequested : s.restartRequested = true) : s'.restartRequested = true := by
  cases h with
  | requestRestart cooldownMs _ hSame => exact hSame.restartRequested_eq
  | handleScopeChanged scope _ hSame => exact hSame.restartRequested_eq
  | timeToRestartBroker _ hSame =>
    cases hResult : s.timeToRestartBroker.1 with
    | true =>
      rw [hResult] at hNotPoll
      exact absurd rfl hNotPoll
    | false =>
      rw [hSame.restartRequested_eq, timeToRestartBroker_false hResult]
      exact hRequested
  | tick ms _ hSame => exact hSame.restartRequested_eq.trans hRequested
  | other e _ _ _ _ hSame => exact hSame.restartRequested_eq.trans hRequested

/-- The timer after a step: as it was, or started with the cooldown of the step. -/
theorem RestartStep.restartTimer (h : RestartStep s e s') :
    s'.restartTimer = s.restartTimer ∨
      ∃ c, e.cooldown? = some c ∧ 0 < c ∧ s'.restartTimer.interval.toNat = c := by
  cases h with
  | requestRestart cooldownMs _ hSame =>
    have hTimer : s'.restartTimer = s.restartTimerAfter cooldownMs := hSame.restartTimer_eq
    rw [hTimer]
    unfold restartTimerAfter
    split
    · rename_i hLess
      exact .inr ⟨_, rfl, by bv_omega, rfl⟩
    · exact .inl rfl
  | handleScopeChanged scope _ hSame =>
    have hTimer : s'.restartTimer = s.restartTimerAfter 0 := hSame.restartTimer_eq
    rw [hTimer]
    unfold restartTimerAfter
    rw [if_neg (by bv_omega)]
    exact .inl rfl
  | timeToRestartBroker _ hSame =>
    exact .inl (hSame.restartTimer_eq.trans s.timeToRestartBroker_clock.1)
  | tick _ _ hSame => exact .inl hSame.restartTimer_eq
  | other _ _ _ _ _ hSame => exact .inl hSame.restartTimer_eq

theorem RestartStep.now_eq (h : RestartStep s e s') : s'.now = s.now + BitVec.ofNat 32 e.ms := by
  cases h with
  | requestRestart cooldownMs _ hSame => exact hSame.now_eq.trans (BitVec.add_zero _).symm
  | handleScopeChanged scope _ hSame => exact hSame.now_eq.trans (BitVec.add_zero _).symm
  | timeToRestartBroker _ hSame =>
    rw [hSame.now_eq, s.timeToRestartBroker_clock.2]
    exact (BitVec.add_zero _).symm
  | tick ms _ hSame => simpa [Event.ms] using hSame.now_eq
  | other e _ _ hMs _ hSame => simpa [hMs] using hSame.now_eq

theorem RestartStep.poll {result : Bool} (h : RestartStep s (.timeToRestart result) s') :
    result = (s.restartRequested && s.restartTimer.isExpired s.now) := by
  generalize hEvent : Event.timeToRestart result = e at h
  cases h with
  | timeToRestartBroker _ hSame =>
    rw [Event.timeToRestart.inj hEvent, timeToRestartBroker_fst]
  | other e _ _ _ hNotPoll => exact absurd hEvent.symm (hNotPoll result)
  | _ => cases hEvent

end Shell

variable {tr pre post : List Event} {s : Shell}

theorem restartRequested_of_pending (h : restartCalls.Run tr s) (hPending : RequestPending tr) :
    s.restartRequested = true := by
  revert hPending
  refine h.invariant (I := fun tr s => RequestPending tr → s.restartRequested = true) ?_ ?_
  · rintro s - ⟨mid, e, rest, c, hTrace, -⟩
    cases mid <;> cases hTrace
  · rintro tr s e s' - ih hStep ⟨mid, e', rest, c, hTrace, hCooldown, hNone⟩
    cases mid with
    | nil =>
      obtain ⟨rfl, rfl⟩ := List.cons.inj hTrace
      exact Shell.RestartStep.requested_of_cooldown hStep hCooldown
    | cons head mid =>
      obtain ⟨rfl, rfl⟩ := List.cons.inj hTrace
      obtain ⟨hNotPoll, hNone⟩ := List.ne_and_not_mem_of_not_mem_cons hNone
      refine Shell.RestartStep.requested_of_requested hStep hNotPoll.symm ?_
      exact ih ⟨mid, e', rest, c, rfl, hCooldown, hNone⟩

theorem interval_le {C : Nat} (h : restartCalls.Run tr s)
    (hCooldowns : ∀ e ∈ tr, ∀ c, e.cooldown? = some c → c ≤ C) : s.restartTimer.interval.toNat ≤ C := by
  induction h with
  | start h0 =>
    rw [h0.1]
    exact Nat.zero_le C
  | step hRun hStep ih =>
    obtain ⟨hFirst, hRest⟩ := List.forall_mem_cons.mp hCooldowns
    rcases Shell.RestartStep.restartTimer hStep with hSame | ⟨c, hCooldown, -, hInterval⟩
    · rw [hSame]
      exact ih hRest
    · rw [hInterval]
      exact hFirst c hCooldown

/-- A stretch without a positive cooldown and without a restart leaves the timer alone,
and takes the clock as far as it says. -/
theorem restart_waits (h : restartCalls.Run (post ++ pre) s)
    (hQuiet : ∀ e ∈ post, ∀ c, e.cooldown? = some c → c = 0) :
    ∃ s₁, restartCalls.Run pre s₁ ∧ s.restartTimer = s₁.restartTimer ∧
      s.now = s₁.now + BitVec.ofNat 32 (elapsedMs post) := by
  induction post generalizing s with
  | nil => exact ⟨s, h, rfl, (BitVec.add_zero _).symm⟩
  | cons e post ih =>
    cases h with
    | step hRun hStep =>
      obtain ⟨hFirst, hRest⟩ := List.forall_mem_cons.mp hQuiet
      obtain ⟨s₁, hPre, hTimer, hNow⟩ := ih hRun hRest
      refine ⟨s₁, hPre, ?_, ?_⟩
      · rcases Shell.RestartStep.restartTimer hStep with hSame | ⟨c, hCooldown, hPos, -⟩
        · exact hSame.trans hTimer
        · have := hFirst c hCooldown
          omega
      · rw [Shell.RestartStep.now_eq hStep, hNow, elapsedMs_cons, BitVec.ofNat_add, BitVec.add_assoc,
          BitVec.add_comm (BitVec.ofNat 32 (elapsedMs post))]

theorem RequestPending.append (h : RequestPending pre) (hNone : .timeToRestart true ∉ post) :
    RequestPending (post ++ pre) := by
  obtain ⟨mid, e, rest, c, rfl, hCooldown, hMid⟩ := h
  refine ⟨post ++ mid, e, rest, c, (List.append_assoc _ _ _).symm, hCooldown, ?_⟩
  rw [List.mem_append]
  exact not_or.mpr ⟨hNone, hMid⟩

theorem Timer.isExpired_of_not_isExpired {t : Timer} {now : BitVec 32} {ms C : Nat}
    (h : t.isExpired now = false) (hInterval : t.interval.toNat ≤ C) (hLate : C < ms)
    (hWrap : ms + C < 2 ^ 32) : t.isExpired (now + BitVec.ofNat 32 ms) = true := by
  obtain ⟨-, hElapsed⟩ := Bool.or_eq_false_iff.mp h
  have hElapsed := of_decide_eq_false hElapsed
  apply Bool.or_eq_true_iff.mpr
  right
  apply decide_eq_true
  unfold Timer.elapsed at hElapsed ⊢
  bv_omega

/-- Between two polls, the first of which found a request that had to wait. -/
theorem poll_after_wait {C : Nat} {result : Bool}
    (h : restartCalls.Run (.timeToRestart result :: post ++ .timeToRestart false :: pre) s)
    (hPending : RequestPending pre)
    (hCooldowns : ∀ e ∈ pre, ∀ c, e.cooldown? = some c → c ≤ C)
    (hQuiet : ∀ e ∈ post, ∀ c, e.cooldown? = some c → c = 0) (hNone : .timeToRestart true ∉ post)
    (hLate : C < elapsedMs post) (hWrap : elapsedMs post + C < 2 ^ 32) : result = true := by
  cases h with
  | step hRun hPoll =>
    rename_i s₂
    obtain ⟨s₁, hRun₁, hTimer, hNow⟩ := restart_waits hRun hQuiet
    cases hRun₁ with
    | step hRun₀ hFirst =>
      rename_i s₀
      have hWaits : s₀.restartTimer.isExpired s₀.now = false := by
        have hResult := Shell.RestartStep.poll hFirst
        rw [restartRequested_of_pending hRun₀ hPending, Bool.true_and] at hResult
        exact hResult.symm
      have hTimer₁ : s₁.restartTimer = s₀.restartTimer := by
        rcases Shell.RestartStep.restartTimer hFirst with hSame | ⟨c, hCooldown, -⟩
        · exact hSame
        · cases hCooldown
      have hNow₁ : s₁.now = s₀.now := (Shell.RestartStep.now_eq hFirst).trans (BitVec.add_zero _)
      have hPending₂ : RequestPending ((post ++ [.timeToRestart false]) ++ pre) := by
        refine hPending.append fun hMem => ?_
        rcases List.mem_append.mp hMem with hPost | hHead
        · exact hNone hPost
        · cases List.mem_singleton.mp hHead
      rw [List.append_assoc, List.singleton_append] at hPending₂
      rw [Shell.RestartStep.poll hPoll, restartRequested_of_pending hRun hPending₂, Bool.true_and,
        hTimer, hNow, hTimer₁, hNow₁]
      exact Timer.isExpired_of_not_isExpired hWaits (interval_le hRun₀ hCooldowns) hLate hWrap

section Served

variable {L : Libraries} {defaultCid : Uuid}

/-- A restart that is due is not put off: once the main thread has seen that a request has to
wait and more than the longest cooldown has passed, it restarts within 14 of its own steps.
Requests without a cooldown may arrive in any number meanwhile. -/
theorem pending_restart_served {C : Nat} {late wait early : List Event}
    (h : (brokerShell L defaultCid).Run (late ++ (wait ++ (early ++ pre))) s)
    (hPending : RequestPending pre)
    (hCooldowns : ∀ e ∈ pre, ∀ c, e.cooldown? = some c → c ≤ C)
    (hQuiet : ∀ e ∈ late ++ (wait ++ early), ∀ c, e.cooldown? = some c → c = 0)
    (hEarly : 14 < early.countP Event.isMain) (hWait : C < elapsedMs wait)
    (hLate : 14 < late.countP Event.isMain)
    (hWrap : elapsedMs (late ++ (wait ++ early)) + C < 2 ^ 32) :
    .timeToRestart true ∈ late ++ (wait ++ early) := by
  by_contra hNone
  obtain ⟨hNoneLate, hNoneRest⟩ := not_or.mp (mt List.mem_append.mpr hNone)
  obtain ⟨hNoneWait, hNoneEarly⟩ := not_or.mp (mt List.mem_append.mpr hNoneRest)
  obtain ⟨s₁, hRun₁⟩ := h.suffix
  obtain ⟨s₂, hRun₂⟩ := hRun₁.suffix
  obtain ⟨first, hFirst⟩ := exists_poll hRun₂ hEarly
  obtain ⟨second, hSecond⟩ := exists_poll h hLate
  obtain ⟨early₁, early₂, rfl⟩ := List.append_of_mem hFirst
  obtain ⟨late₁, late₂, rfl⟩ := List.append_of_mem hSecond
  have hFalse : first = false := by
    cases first with
    | true => exact absurd hFirst hNoneEarly
    | false => rfl
  subst hFalse
  have hRun : ∃ s, (brokerShell L defaultCid).Run (.timeToRestart second ::
      (late₂ ++ (wait ++ early₁)) ++ .timeToRestart false :: (early₂ ++ pre)) s := by
    rw [List.append_assoc] at h
    obtain ⟨s, hRun⟩ := h.suffix
    exact ⟨s, by simpa using hRun⟩
  obtain ⟨s₃, hRun⟩ := hRun
  have hTrue : second = true := by
    apply poll_after_wait (C := C) (run_restartCalls hRun)
    · apply hPending.append
      intro hMem
      exact hNoneEarly (by simp [hMem])
    · intro e hMem c hCooldown
      rcases List.mem_append.mp hMem with hPost | hPre
      · have := hQuiet e (by simp [hPost]) c hCooldown
        omega
      · exact hCooldowns e hPre c hCooldown
    · intro e hMem c hCooldown
      apply hQuiet e _ c hCooldown
      simp only [List.mem_append, List.mem_cons] at hMem ⊢
      tauto
    · intro hMem
      apply hNone
      simp only [List.mem_append, List.mem_cons] at hMem ⊢
      tauto
    · simp only [elapsedMs_append]
      omega
    · simp only [elapsedMs_append, elapsedMs_cons] at hWrap ⊢
      omega
  subst hTrue
  exact hNoneLate hSecond

/-- A network change that is handled once its cooldown has passed. -/
theorem pending_restart_served_network : ∃ late wait early pre s,
    (brokerShell .sample sampleConfig.defaultCid).Run (late ++ (wait ++ (early ++ pre))) s ∧
      RequestPending pre ∧ 14 < early.countP Event.isMain ∧ 5000 < elapsedMs wait ∧
      .timeToRestart true ∈ late ++ (wait ++ early) := by
  obtain ⟨tr, s, hRun, hRequest, hCooldowns, hQuiet, hEarly, hWait, hLate, hWrap⟩ := exists_sample_run
    (P := fun tr _ => (tr.drop 31).head?.bind Event.cooldown? = some 5000 ∧
      (tr.drop 31).all (fun e => e.cooldown?.all (· ≤ 5000)) = true ∧
      (tr.take 31).all (fun e => e.cooldown?.all (· = 0)) = true ∧
      14 < ((tr.drop 16).take 15).countP Event.isMain ∧ 5000 < elapsedMs ((tr.drop 15).take 1) ∧
      14 < (tr.take 15).countP Event.isMain ∧ elapsedMs (tr.take 31) + 5000 < 2 ^ 32) "\x7b\x7d"
    (mainSteps 11 ++ .requestRestart 5000 :: mainSteps 15 ++ .tick 5001 :: mainSteps 15)
    (by decide +kernel)
  have hSplit : tr.take 15 ++ ((tr.drop 15).take 1 ++ ((tr.drop 16).take 15 ++ tr.drop 31)) = tr := by
    have hEarlyEnd : (tr.drop 16).take 15 ++ tr.drop 31 = tr.drop 16 := by
      simpa using List.take_append_drop 15 (tr.drop 16)
    have hWaitEnd : (tr.drop 15).take 1 ++ tr.drop 16 = tr.drop 15 := by
      simpa using List.take_append_drop 1 (tr.drop 15)
    rw [hEarlyEnd, hWaitEnd, List.take_append_drop]
  have hTake : tr.take 15 ++ ((tr.drop 15).take 1 ++ (tr.drop 16).take 15) = tr.take 31 := by
    apply (List.append_left_inj (tr.drop 31)).mp
    simpa using hSplit
  have hPending : RequestPending (tr.drop 31) := by
    obtain ⟨e, hHead, hCooldown⟩ := Option.bind_eq_some_iff.mp hRequest
    obtain ⟨rest, hRest⟩ := List.head?_eq_some_iff.mp hHead
    exact ⟨[], e, rest, 5000, hRest, hCooldown, List.not_mem_nil⟩
  rw [← hSplit] at hRun
  refine ⟨_, _, _, _, s, hRun, hPending, hEarly, hWait, ?_⟩
  refine pending_restart_served (C := 5000) hRun hPending ?_ ?_ hEarly hWait hLate ?_
  · intro e hMem c hCooldown
    simpa [hCooldown] using List.all_eq_true.mp hCooldowns e hMem
  · intro e hMem c hCooldown
    rw [hTake] at hMem
    simpa [hCooldown] using List.all_eq_true.mp hQuiet e hMem
  · rw [hTake]
    exact hWrap

end Served

end RdmnetBroker
