import RdmnetBroker.Shell.Steps

/-! # Cooldowns of restart requests

Time is the sum of all ticks, while the shell only sees it modulo `2 ^ 32`. The
time left on the restart timer, added to the time that has passed, never goes
back: a tick moves at most its own length from the one to the other, also where
the clock wraps around, and a request only raises it. So the deadline of every
request that was ever made is at most their sum, and the timer can only count as
expired when nothing is left.
-/

namespace RdmnetBroker

open Library

set_option autoImplicit false

namespace Timer

theorem getRemaining_le_tick (t : Timer) (now ms : BitVec 32) :
    (t.getRemaining now).toNat ≤ (t.getRemaining (now + ms)).toNat + ms.toNat := by
  unfold getRemaining elapsed
  split
  · split
    · bv_omega
    · bv_omega
  · exact Nat.zero_le _

theorem getRemaining_of_isExpired {t : Timer} {now : BitVec 32} (h : t.isExpired now = true) :
    t.getRemaining now = 0 := by
  unfold isExpired at h
  unfold getRemaining
  rcases Bool.or_eq_true_iff.mp h with hZero | hLate
  · rw [beq_iff_eq.mp hZero, if_neg (by bv_omega)]
  · have hLate := of_decide_eq_true hLate
    rw [if_neg (by bv_omega)]

theorem getRemaining_start (now interval : BitVec 32) :
    (start now interval).getRemaining now = interval := by
  unfold getRemaining elapsed start
  simp only [BitVec.sub_self]
  split <;> bv_omega

end Timer

def Event.cooldown? : Event → Option Nat
  | .requestRestart cooldownMs => some cooldownMs.toNat
  | .handleScopeChanged _ => some 0
  | _ => none

def Event.ms : Event → Nat
  | .tick ms => ms.toNat
  | _ => 0

def elapsedMs : List Event → Nat
  | [] => 0
  | e :: tr => e.ms + elapsedMs tr

namespace Shell

/-- The members that decide on a restart, and the tick. -/
structure SameRestart (s t : Shell) : Prop where
  restartTimer_eq : s.restartTimer = t.restartTimer
  restartRequested_eq : s.restartRequested = t.restartRequested
  now_eq : s.now = t.now

/-- The calls that concern a restart, in any order. Whatever else happens may change
every other member. -/
inductive RestartStep (s : Shell) : Event → Shell → Prop
  | requestRestart (cooldownMs : BitVec 32) (s' : Shell) : s'.SameRestart (s.requestRestart cooldownMs) →
      RestartStep s (.requestRestart cooldownMs) s'
  | handleScopeChanged (scope : Bytes) (s' : Shell) : s'.SameRestart (s.handleScopeChanged scope) →
      RestartStep s (.handleScopeChanged scope) s'
  | timeToRestartBroker (s' : Shell) : s'.SameRestart s.timeToRestartBroker.2 →
      RestartStep s (.timeToRestart s.timeToRestartBroker.1) s'
  | tick (ms : BitVec 32) (s' : Shell) : s'.SameRestart { s with now := s.now + ms } →
      RestartStep s (.tick ms) s'
  | other (e : Event) (s' : Shell) : e.cooldown? = none → e.ms = 0 →
      (∀ result, e ≠ .timeToRestart result) → s'.SameRestart s → RestartStep s e s'

def remaining (s : Shell) : Nat := (s.restartTimer.getRemaining s.now).toNat

theorem SameRestart.remaining_eq {s t : Shell} (h : s.SameRestart t) : s.remaining = t.remaining := by
  rw [remaining, remaining, h.restartTimer_eq, h.now_eq]

theorem remaining_lockedRequestRestart (s : Shell) (cooldownMs : BitVec 32) :
    (s.lockedRequestRestart cooldownMs).remaining = max s.remaining cooldownMs.toNat := by
  unfold lockedRequestRestart remaining restartTimerAfter
  split
  · rw [Timer.getRemaining_start]
    bv_omega
  · bv_omega

theorem remaining_requestRestart (s : Shell) (cooldownMs : BitVec 32) :
    (s.requestRestart cooldownMs).remaining = max s.remaining cooldownMs.toNat :=
  remaining_lockedRequestRestart s cooldownMs

theorem remaining_handleScopeChanged (s : Shell) (scope : Bytes) :
    (s.handleScopeChanged scope).remaining = s.remaining :=
  (remaining_lockedRequestRestart { s with newScope := scope } 0).trans (Nat.max_zero _)

theorem timeToRestartBroker_true {s : Shell} (h : s.timeToRestartBroker.1 = true) :
    s.restartRequested = true ∧ s.remaining = 0 ∧ s.timeToRestartBroker.2.restartRequested = false := by
  unfold timeToRestartBroker at h ⊢
  split at h
  · rename_i hBoth
    obtain ⟨hRequested, hExpired⟩ := Bool.and_eq_true_iff.mp hBoth
    refine ⟨hRequested, ?_, by rw [if_pos hBoth]⟩
    rw [remaining, Timer.getRemaining_of_isExpired hExpired]
    rfl
  · cases h

theorem timeToRestartBroker_false {s : Shell} (h : s.timeToRestartBroker.1 = false) :
    s.timeToRestartBroker.2 = s := by
  unfold timeToRestartBroker at h ⊢
  split at h
  · cases h
  · rename_i hBoth
    rw [if_neg hBoth]

theorem remaining_timeToRestartBroker (s : Shell) : s.timeToRestartBroker.2.remaining = s.remaining := by
  unfold timeToRestartBroker
  split <;> rfl

variable {s s' : Shell} {e : Event}

theorem RestartStep.remaining_le (h : RestartStep s e s') : s.remaining ≤ s'.remaining + e.ms := by
  cases h with
  | requestRestart cooldownMs _ hSame =>
    rw [hSame.remaining_eq, remaining_requestRestart]
    exact Nat.le_max_left _ _
  | handleScopeChanged scope _ hSame =>
    rw [hSame.remaining_eq, remaining_handleScopeChanged]
    exact Nat.le_refl _
  | timeToRestartBroker _ hSame =>
    rw [hSame.remaining_eq, remaining_timeToRestartBroker]
    exact Nat.le_refl _
  | tick ms _ hSame =>
    rw [hSame.remaining_eq]
    exact s.restartTimer.getRemaining_le_tick s.now ms
  | other e _ _ _ _ hSame =>
    rw [hSame.remaining_eq]
    exact Nat.le_add_right _ _

theorem RestartStep.cooldown_le (h : RestartStep s e s') {c : Nat} (hCooldown : e.cooldown? = some c) :
    c ≤ s'.remaining := by
  cases h with
  | requestRestart cooldownMs _ hSame =>
    cases hCooldown
    rw [hSame.remaining_eq, remaining_requestRestart]
    exact Nat.le_max_right _ _
  | handleScopeChanged scope _ hSame =>
    cases hCooldown
    exact Nat.zero_le _
  | timeToRestartBroker | tick => cases hCooldown
  | other e _ hNone =>
    rw [hNone] at hCooldown
    cases hCooldown

/-- What is requested after a step: it was requested by the step, or it was before and
`TimeToRestartBroker` did not return true. -/
theorem RestartStep.requested (h : RestartStep s e s') (hRequested : s'.restartRequested = true) :
    (∃ c, e.cooldown? = some c) ∨ s.restartRequested = true ∧ e ≠ .timeToRestart true := by
  cases h with
  | requestRestart | handleScopeChanged => exact .inl ⟨_, rfl⟩
  | timeToRestartBroker _ hSame =>
    rw [hSame.restartRequested_eq] at hRequested
    cases hResult : s.timeToRestartBroker.1 with
    | true =>
      rw [(timeToRestartBroker_true hResult).2.2] at hRequested
      cases hRequested
    | false =>
      rw [timeToRestartBroker_false hResult] at hRequested
      exact .inr ⟨hRequested, nofun⟩
  | tick _ _ hSame => exact .inr ⟨hSame.restartRequested_eq ▸ hRequested, nofun⟩
  | other e _ _ _ hNotPoll hSame =>
    exact .inr ⟨hSame.restartRequested_eq ▸ hRequested, hNotPoll true⟩

theorem RestartStep.poll_true (h : RestartStep s (.timeToRestart true) s') :
    s.restartRequested = true ∧ s.remaining = 0 := by
  generalize hEvent : Event.timeToRestart true = e at h
  cases h with
  | timeToRestartBroker _ hSame =>
    have hResult := timeToRestartBroker_true (Event.timeToRestart.inj hEvent).symm
    exact ⟨hResult.1, hResult.2.1⟩
  | other e _ _ _ hNotPoll => exact absurd hEvent.symm (hNotPoll true)
  | _ => cases hEvent

end Shell

/-- The calls on a shell whose restart members are as constructed. -/
def restartCalls : System Shell Event where
  initial s := s.restartTimer.interval = 0 ∧ s.restartRequested = false
  next := Shell.RestartStep

/-- Some request is in the history, and no true return of `TimeToRestartBroker` after it. -/
def RequestPending (tr : List Event) : Prop :=
  ∃ mid e rest c, tr = mid ++ e :: rest ∧ e.cooldown? = some c ∧ .timeToRestart true ∉ mid

/-- What must hold of the history when `TimeToRestartBroker` returns true. -/
structure CooldownsOver (pre : List Event) : Prop where
  pending : RequestPending pre
  elapsed : ∀ mid e rest c, pre = mid ++ e :: rest → e.cooldown? = some c →
    elapsedMs rest + c ≤ elapsedMs pre
  apart : ∀ mid rest C, pre = mid ++ .timeToRestart true :: rest → .timeToRestart true ∉ mid →
    (∀ e ∈ mid, ∀ c, e.cooldown? = some c → C ≤ c) → elapsedMs rest + C ≤ elapsedMs pre

structure Deadlines (tr : List Event) (s : Shell) : Prop where
  within : ∀ mid e rest c, tr = mid ++ e :: rest → e.cooldown? = some c →
    elapsedMs rest + c ≤ elapsedMs tr + s.remaining
  pending : s.restartRequested = true → RequestPending tr

theorem elapsedMs_cons (e : Event) (tr : List Event) : elapsedMs (e :: tr) = e.ms + elapsedMs tr := rfl

theorem elapsedMs_append (mid rest : List Event) :
    elapsedMs (mid ++ rest) = elapsedMs mid + elapsedMs rest := by
  induction mid with
  | nil => exact (Nat.zero_add _).symm
  | cons e mid ih => rw [List.cons_append, elapsedMs_cons, elapsedMs_cons, ih, Nat.add_assoc]

theorem Shell.RestartStep.deadlines {tr : List Event} {s s' : Shell} {e : Event}
    (hStep : RestartStep s e s') (h : Deadlines tr s) : Deadlines (e :: tr) s' where
  within mid e' rest c hTrace hCooldown := by
    rw [elapsedMs_cons]
    cases mid with
    | nil =>
      obtain ⟨rfl, rfl⟩ := List.cons.inj hTrace
      have := hStep.cooldown_le hCooldown
      omega
    | cons head mid =>
      obtain ⟨rfl, rfl⟩ := List.cons.inj hTrace
      have := h.within mid e' rest c rfl hCooldown
      have := hStep.remaining_le
      omega
  pending hRequested := by
    rcases hStep.requested hRequested with ⟨c, hCooldown⟩ | ⟨hBefore, hNotPoll⟩
    · exact ⟨[], e, tr, c, rfl, hCooldown, nofun⟩
    · obtain ⟨mid, e', rest, c, rfl, hCooldown, hNone⟩ := h.pending hBefore
      refine ⟨e :: mid, e', rest, c, rfl, hCooldown, fun hMem => ?_⟩
      rcases List.mem_cons.mp hMem with hHead | hTail
      · exact hNotPoll hHead.symm
      · exact hNone hTail

theorem restartCalls_deadlines {tr : List Event} {s : Shell} (h : restartCalls.Run tr s) :
    Deadlines tr s := by
  refine h.invariant (I := Deadlines) ?_ ?_
  · intro s h0
    refine ⟨fun mid e rest c hTrace => ?_, fun hRequested => ?_⟩
    · cases mid <;> cases hTrace
    · rw [h0.2] at hRequested
      cases hRequested
  · intro tr s e s' _ ih hStep
    exact Shell.RestartStep.deadlines hStep ih

/-- The request that makes the second of two true returns lies between them. -/
theorem apart_of_elapsed {pre : List Event} (hPending : RequestPending pre)
    (hElapsed : ∀ mid e rest c, pre = mid ++ e :: rest → e.cooldown? = some c →
      elapsedMs rest + c ≤ elapsedMs pre)
    {mid rest : List Event} {C : Nat} (hPre : pre = mid ++ .timeToRestart true :: rest)
    (hLeast : ∀ e ∈ mid, ∀ c, e.cooldown? = some c → C ≤ c) : elapsedMs rest + C ≤ elapsedMs pre := by
  obtain ⟨mid', e, rest', c, hPre', hCooldown, hNone⟩ := hPending
  have hNotPoll : e ≠ .timeToRestart true := by
    rintro rfl
    cases hCooldown
  have hBetween : ∃ before, mid = mid' ++ e :: before ∧ rest' = before ++ .timeToRestart true :: rest := by
    rcases List.append_eq_append_iff.mp (hPre.symm.trans hPre') with ⟨a, hMid, hRest⟩ | ⟨a, hMid, hRest⟩
    · cases a with
      | nil => exact absurd (List.cons.inj hRest).1.symm hNotPoll
      | cons head a =>
        rw [hMid, ← (List.cons.inj hRest).1] at hNone
        exact absurd (by simp) hNone
    · cases a with
      | nil => exact absurd (List.cons.inj hRest).1 hNotPoll
      | cons head a =>
        rw [← (List.cons.inj hRest).1] at hMid
        exact ⟨a, hMid, (List.cons.inj hRest).2⟩
  obtain ⟨before, rfl, rfl⟩ := hBetween
  have hDue := hElapsed mid' e _ c hPre' hCooldown
  have hC := hLeast e (by simp) c hCooldown
  rw [elapsedMs_append, elapsedMs_cons] at hDue
  omega

theorem cooldowns_never_cut_short (post pre : List Event) (s : Shell)
    (h : restartCalls.Run (post ++ .timeToRestart true :: pre) s) : CooldownsOver pre := by
  obtain ⟨s₁, s₂, hRun, hStep⟩ := h.at_label
  obtain ⟨hRequested, hRemaining⟩ := Shell.RestartStep.poll_true hStep
  have hDeadlines := restartCalls_deadlines hRun
  have hPending := hDeadlines.pending hRequested
  have hElapsed : ∀ mid e rest c, pre = mid ++ e :: rest → e.cooldown? = some c →
      elapsedMs rest + c ≤ elapsedMs pre := by
    intro mid e rest c hPre hCooldown
    have := hDeadlines.within mid e rest c hPre hCooldown
    omega
  exact ⟨hPending, hElapsed, fun _ _ _ hPre _ hLeast => apart_of_elapsed hPending hElapsed hPre hLeast⟩

theorem Shell.Step.restartStep {L : Libraries} {s s' : Shell} {e : Event} (h : Step L s e s') :
    RestartStep s e s' := by
  cases h with
  | requestRestart cooldownMs => exact .requestRestart cooldownMs _ ⟨rfl, rfl, rfl⟩
  | handleScopeChanged scope => exact .handleScopeChanged scope _ ⟨rfl, rfl, rfl⟩
  | tick ms => exact .tick ms _ ⟨rfl, rfl, rfl⟩
  | timeToRestart messages _ hRequested hExpired =>
    have hPoll : s.timeToRestartBroker = (true, { s with restartRequested := false }) := by
      rw [timeToRestartBroker, hRequested, hExpired]
      rfl
    have hStep := RestartStep.timeToRestartBroker (s := s)
      { s with messages := messages, restartRequested := false, pc := .restartShutdown }
    rw [hPoll] at hStep
    exact hStep ⟨rfl, rfl, rfl⟩
  | notTimeToRestart _ hNot =>
    have hPoll : s.timeToRestartBroker = (false, s) := by
      rw [timeToRestartBroker, if_neg fun hBoth => hNot (Bool.and_eq_true_iff.mp hBoth)]
    have hStep := RestartStep.timeToRestartBroker (s := s) { s with pc := .sleep }
    rw [hPoll] at hStep
    exact hStep ⟨rfl, rfl, rfl⟩
  | _ => exact .other _ _ rfl rfl nofun ⟨rfl, rfl, rfl⟩

theorem run_restartCalls {L : Libraries} {defaultCid : Uuid} {tr : List Event} {s : Shell}
    (h : (brokerShell L defaultCid).Run tr s) : restartCalls.Run tr s := by
  induction h with
  | start h0 => exact .start ⟨h0.interval_eq, h0.restartRequested_eq⟩
  | step hRun hNext ih => exact .step ih (run_step hRun hNext).restartStep

/-- The history ends in a true return, after the clock wrapped around. -/
def wrappedRestart : List Event → Bool
  | .timeToRestart true :: pre => 2 ^ 32 ≤ elapsedMs pre
  | _ => false

theorem cooldowns_never_cut_short_at_wrap :
    ∃ pre s, restartCalls.Run ([] ++ .timeToRestart true :: pre) s ∧ 2 ^ 32 ≤ elapsedMs pre ∧
      CooldownsOver pre := by
  obtain ⟨tr, s, hRun, hWrapped⟩ := exists_sample_run (P := fun tr _ => wrappedRestart tr = true) "\x7b\x7d"
    (mainSteps 11 ++ [.tick 0xFFFFFFF0, .requestRestart 1000, .tick 1001] ++ mainSteps 1)
    (by decide +kernel)
  unfold wrappedRestart at hWrapped
  split at hWrapped
  · rename_i pre
    have hCalls := run_restartCalls hRun
    exact ⟨pre, s, hCalls, of_decide_eq_true hWrapped, cooldowns_never_cut_short [] pre s hCalls⟩
  · cases hWrapped

end RdmnetBroker
