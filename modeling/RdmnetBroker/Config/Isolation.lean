import RdmnetBroker.Config.Contract

/-! # Settings do not reach each other

What a document holds for one setting decides that setting's field and no other one, so a
mistake in one place of the file leaves the rest of it in force. A value that is absent, null
or rejected leaves the same field behind. The one exception is the default of the service
instance name, which carries the CID.
-/

namespace RdmnetBroker

open Library

set_option autoImplicit false

/-- The two documents configure the setting alike: with the same value, or not at all. The
default of the service instance name asks the same of the CID. -/
structure ConfiguredAlike (L : Libraries) (slot : Slot) (doc doc' : Json) : Prop where
  same : slot.setting.configured doc = slot.setting.configured doc'
  cid : slot.entry.pointer = (serviceInstanceNameEntry L).pointer → slot.setting.configured doc = none →
    (Setting.cid L).configured doc = (Setting.cid L).configured doc'

/-- What is left in a field by a read on top of `c`. -/
theorem field_eq_of_configuredAlike {L : Libraries} {slot : Slot} {doc doc' : Json} (c : BrokerConfig)
    (hMem : slot ∈ slots L) (h : ConfiguredAlike L slot doc doc') :
    slot.field.get ((slots L).foldl (fun c slot => slot.store doc c) { c with current := doc }) =
      slot.field.get ((slots L).foldl (fun c slot => slot.store doc' c) { c with current := doc' }) := by
  obtain ⟨hSame, hCid⟩ := h
  rw [slots_store_append, slots_store_append]
  simp only [slots, List.mem_cons, List.not_mem_nil, or_false] at hMem
  rcases hMem with rfl | rfl | rfl | rfl | rfl | rfl | rfl | rfl | rfl | hLimit
  case inr.inr.inl =>
    -- The service instance name falls back on the CID.
    change (Setting.serviceInstanceName L).configured doc =
      (Setting.serviceInstanceName L).configured doc' at hSame
    change ((Setting.serviceInstanceName L).configured doc).getD _ =
      ((Setting.serviceInstanceName L).configured doc').getD _
    rw [← hSame]
    cases hName : (Setting.serviceInstanceName L).configured doc with
    | some name => rfl
    | none =>
      have hSameCid := hCid rfl hName
      exact congrArg (fun o => defaultServiceInstanceName L (Option.getD o c.defaultCid)) hSameCid
  case inr.inr.inr.inr.inr.inr.inr.inl =>
    have hInterfaces : Setting.listenInterfaces.configured doc =
      Setting.listenInterfaces.configured doc' := hSame
    exact congrArg (fun o => o.elim [] (c.settings.listenInterfaces ++ ·)) hInterfaces
  case inr.inr.inr.inr.inr.inr.inr.inr.inr =>
    rcases hLimit with rfl | rfl | rfl | rfl | rfl | rfl | rfl <;>
      exact congrArg (fun o => Option.getD o _) hSame
  all_goals exact congrArg (fun o => Option.getD o _) hSame

/-- Two reads on top of the same configuration leave the same value in the field of every setting
that the two documents configure alike, whatever else they hold. -/
theorem settings_isolated (L : Libraries) (log : Bool) (s : ConfigState) (text text' : Bytes)
    (doc doc' : Json) (rest rest' : Bytes) (hExtract : L.extract text = .value doc rest)
    (hExtract' : L.extract text' = .value doc' rest') (hObject : doc.isObject = true)
    (hObject' : doc'.isObject = true) :
    ∃ res res' s₁ s₂, read L text log s = .ok res s₁ ∧ read L text' log s = .ok res' s₂ ∧
      ∀ slot ∈ slots L, ConfiguredAlike L slot doc doc' →
        slot.field.get s₁.config = slot.field.get s₂.config := by
  obtain ⟨s₁, hRun, hConfig⟩ := read_yields_of_value (c := s.config) hExtract
    (validateCurrent_yields_store L log { s.config with current := doc } hObject) s rfl
  obtain ⟨s₂, hRun', hConfig'⟩ := read_yields_of_value (c := s.config) hExtract'
    (validateCurrent_yields_store L log { s.config with current := doc' } hObject') s rfl
  refine ⟨_, _, s₁, s₂, hRun, hRun', fun slot hMem hAlike => ?_⟩
  rw [hConfig, hConfig']
  exact field_eq_of_configuredAlike s.config hMem hAlike

/-- A port that is rejected beside a scope: the port is that of the empty document. -/
theorem settings_isolated_bad_port : ∃ res res' s₁ s₂,
    read .sample (bytes "\x7b\"scope\": \"stage\", \"listen_port\": 80\x7d") true ⟨sampleConfig, []⟩ =
        .ok res s₁ ∧
      read .sample (bytes "\x7b\x7d") true ⟨sampleConfig, []⟩ = .ok res' s₂ ∧
      Field.listenPort.get s₁.config = Field.listenPort.get s₂.config := by
  obtain ⟨res, res', s₁, s₂, hRun, hRun', hFields⟩ := settings_isolated .sample true ⟨sampleConfig, []⟩
    (bytes "\x7b\"scope\": \"stage\", \"listen_port\": 80\x7d") (bytes "\x7b\x7d")
    (.object [(bytes "listen_port", .numberUnsigned 80#64), (bytes "scope", .string (bytes "stage"))])
    (.object []) [] [] rfl rfl rfl rfl
  refine ⟨res, res', s₁, s₂, hRun, hRun', hFields listenPortSlot (by simp [slots]) ⟨rfl, ?_⟩⟩
  intro hPointer
  exact absurd hPointer (by decide)

end RdmnetBroker
