import RdmnetBroker.Shell.History

/-! # When the running broker refreshes the interfaces

`Run` asks for the network interfaces again just before each `Startup`, and nowhere
else. A broker that works with interfaces of an older refresh is brought up to date
by the restart that stops it first.
-/

namespace RdmnetBroker

open Library

set_option autoImplicit false

namespace Shell

variable {L : Libraries} {s s' : Shell} {e : Event}

/-- The broker works, or is being started, with the interfaces of the last refresh. -/
def Exposed (s : Shell) : Prop := s.brokerStarted = true ∨ s.pc = .startup

/-- The broker will be stopped before anything else happens to it. -/
def WillStop (s : Shell) : Prop :=
  s.restartRequested = true ∨ s.pc = .restartShutdown ∨ s.shutdownRequested = true

theorem Step.exposed (hStep : Step L s e s') (h : s'.Exposed) :
    s.Exposed ∨ ∃ settings logMask, e = .startup settings logMask := by
  cases hStep with
  | startup => exact .inr ⟨_, _, rfl⟩
  | startupReturn hPc => exact .inl (.inr hPc)
  | startupFailed messages hPc => exact .inl (.inr hPc)
  | requestRestart | handleScopeChanged | asyncShutdown | tick | writeConf => exact .inl h
  | restartShutdown | finalShutdown => rcases h with hStarted | hPc <;> cases ‹_›
  | loadReturn site =>
    refine .inl (.inl (h.resolve_right ?_))
    cases site <;> intro hPc <;> cases hPc
  | _ =>
    refine .inl (.inl (h.resolve_right ?_))
    intro hPc
    cases hPc

theorem Step.willStop (hStep : Step L s e s') (hControl : s.Control) (h : s.WillStop)
    (hExposed : s'.Exposed) : s'.WillStop := by
  rcases h with hRequested | hPc | hShutdown
  · cases hStep with
    | timeToRestart => exact .inr (.inl rfl)
    | _ => exact .inl (by first | rfl | exact hRequested)
  · cases hStep with
    | restartShutdown => rcases hExposed with hStarted | hStartup <;> cases ‹_›
    | restartNoShutdown _ hEnable =>
      rcases hExposed with hStarted | hStartup
      · have hEq := hControl.started_eq
        simp only [startedAt, hPc, hEnable] at hEq
        change s.brokerStarted = true at hStarted
        rw [hEq] at hStarted
        cases hStarted
      · cases hStartup
    | requestRestart | handleScopeChanged | asyncShutdown | tick | writeConf => exact .inr (.inl hPc)
    | _ => simp_all
  · exact .inr (.inr (by cases hStep <;> first | rfl | exact hShutdown))

end Shell

end RdmnetBroker
