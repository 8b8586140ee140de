import Mathlib.Data.List.Forall2
import RdmnetBroker.Config.Load

/-! # The contract of the configuration reader

The complete meaning of a load, field by field and from every prior
configuration, and the exact texts on which a read returns.
-/

namespace RdmnetBroker

open Library

set_option autoImplicit false

structure Validator.Decides (entry : Validator) (setting : Setting Unit) : Prop where
  pointer_eq : entry.pointer = setting.pointer
  type_eq : entry.type = setting.type
  verdict : ∀ v log c, v.type = setting.type →
    ∃ c', ConfigYields (entry.validateAndStore v log) c (setting.decode v).isSome c'

theorem Slot.decides (slot : Slot) : slot.entry.Decides slot.setting.erase where
  pointer_eq := slot.pointer_eq
  type_eq := slot.type_eq
  verdict v log c hv := by
    cases hDecode : slot.setting.decode v with
    | some a => exact ⟨_, by simpa [Setting.erase, hDecode] using slot.accepts v log c a hv hDecode⟩
    | none =>
      obtain ⟨b, h⟩ := slot.rejects v log c hv hDecode
      exact ⟨_, by simpa [Setting.erase, hDecode] using h⟩

theorem kSettingsValidatorArray_decides (L : Libraries) :
    List.Forall₂ Validator.Decides (kSettingsValidatorArray L) (Setting.all L) := by
  rw [← slots_entries, ← slots_settings, List.forall₂_map_left_iff, List.forall₂_map_right_iff,
    List.forall₂_same]
  exact fun slot _ => slot.decides

/-- The file could be opened and its text is that of the document `doc`, an object. -/
def ConfFile.Holds (file : ConfFile) (L : Libraries) (doc : Json) : Prop :=
  ∃ text rest, file.content = some text ∧ L.extract text = .value doc rest ∧ doc.isObject = true

structure LoadMeaning (L : Libraries) (file : ConfFile) (c c' : BrokerConfig) : Prop where
  yields : ConfigYields (loadBrokerConfig L file) c () c'
  no_document : (∀ doc, ¬ file.Holds L doc) →
    c'.settings = defaultSettings L c.defaultCid ∧ c'.logMask = L.logUpto .info ∧
      c'.enableBroker = false
  document : ∀ doc, file.Holds L doc →
    c'.settings = documentSettings L c.defaultCid doc ∧ c'.logMask = documentLogMask L doc ∧
      c'.enableBroker = documentEnableBroker doc ∧
      ConfigYields (read L (file.content.getD []) true) (defaultConfig L c) (documentResult L doc) c'

theorem ConfFile.Holds.document {file : ConfFile} {L : Libraries} {doc : Json} (h : file.Holds L doc) :
    fileDocument? L file = some doc := by
  obtain ⟨text, rest, hContent, hExtract, hObject⟩ := h
  simp [fileDocument?, hContent, hExtract, hObject]

theorem ConfFile.Holds.not_escapes {file : ConfFile} {L : Libraries} {doc : Json}
    (h : file.Holds L doc) : fileEscapes L file = false := by
  obtain ⟨text, rest, hContent, hExtract, _⟩ := h
  simp [fileEscapes, hContent, hExtract]

theorem fileDocument?_eq_none {file : ConfFile} {L : Libraries}
    (hClosed : (L.extract []).throwsKind .parseError) (hNone : ∀ doc, ¬ file.Holds L doc) :
    fileDocument? L file = none := by
  cases hContent : file.content with
  | none =>
    obtain ⟨what, v, hExtract⟩ := hClosed
    simp [fileDocument?, hContent, hExtract]
  | some text =>
    cases hExtract : L.extract text with
    | throws e v => simp [fileDocument?, hContent, hExtract]
    | value doc rest =>
      cases hObject : doc.isObject with
      | false => simp [fileDocument?, hContent, hExtract, hObject]
      | true => exact absurd ⟨text, rest, hContent, hExtract, hObject⟩ (hNone doc)

/-- Every load of a text that the library parses, or rejects with `parse_error`,
ends with the settings of its document, or with the defaults and a disabled
broker when there is none; the validators of the table decide which values count. -/
theorem loadBrokerConfig_meaning (L : Libraries) (file : ConfFile) (c : BrokerConfig)
    (hClosed : (L.extract []).throwsKind .parseError)
    (hText : (∃ v rest, L.extract (file.content.getD []) = .value v rest) ∨
      (L.extract (file.content.getD [])).throwsKind .parseError) :
    (∃ c', LoadMeaning L file c c') ∧
      List.Forall₂ Validator.Decides (kSettingsValidatorArray L) (Setting.all L) := by
  refine ⟨⟨fileConfig L file c, ?_, ?_, ?_⟩, kSettingsValidatorArray_decides L⟩
  · apply loadBrokerConfig_yields
    rcases hText with ⟨v, rest, hExtract⟩ | ⟨what, v, hExtract⟩ <;> simp [fileEscapes, hExtract]
  · intro hNone
    have hDocument := fileDocument?_eq_none hClosed hNone
    simp [fileConfig, fileSettings, fileLogMask, fileEnableBroker, hDocument]
  · intro doc hDoc
    have hDocument := hDoc.document
    refine ⟨?_, ?_, ?_, ?_⟩
    · simp [fileConfig, fileSettings, hDocument]
    · simp [fileConfig, fileLogMask, hDocument]
    · simp [fileConfig, fileEnableBroker, hDocument]
    · have hEmpty : (defaultConfig L c).settings.listenInterfaces = [] := rfl
      have hRead := read_yields_of_load hEmpty hDoc.not_escapes
      have hFile : fileConfig L file c =
          documentConfig L doc { defaultConfig L c with current := doc } := by
        simp [fileConfig, fileSettings, fileLogMask, fileEnableBroker, hDocument, documentConfig,
          defaultConfig, fileCurrent_of_document hDocument]
      rw [hDocument] at hRead
      rw [hFile]
      exact hRead

def sampleConfig : BrokerConfig where
  settings := ⟨⟨0⟩, ⟨0, 0⟩, ⟨[], [], []⟩, [], 0, [bytes "eth0"], ⟨0, 0, 0, 0, 0, 0⟩⟩
  logMask := 0
  enableBroker := false
  current := .null
  defaultCid := ⟨0x4958ac8fcd5e42cdab7e9797b0efd3ac#128⟩

def sampleFile (text : String) : ConfFile :=
  ⟨bytes "/usr/local/etc/RDMnetBroker/broker.conf", some (bytes text)⟩

theorem loadBrokerConfig_meaning_stage :
    ∃ c', LoadMeaning .sample (sampleFile "\x7b\"scope\": \"stage\", \"listen_port\": 80\x7d")
        sampleConfig c' ∧
      c'.settings.scope = bytes "stage" ∧ c'.settings.listenPort = 0 ∧
      c'.settings.listenInterfaces = [] := by
  obtain ⟨⟨c', hMeaning⟩, _⟩ := loadBrokerConfig_meaning .sample
    (sampleFile "\x7b\"scope\": \"stage\", \"listen_port\": 80\x7d") sampleConfig ⟨_, _, rfl⟩
    (.inl ⟨_, _, rfl⟩)
  obtain ⟨hSettings, _⟩ := hMeaning.document _ ⟨_, _, rfl, rfl, rfl⟩
  refine ⟨c', hMeaning, ?_, ?_, ?_⟩ <;> rw [hSettings] <;> decide

/-- `Read` returns, and an unparsable text leaves what was configured. -/
def ReadsSafely (L : Libraries) (stream : Bytes) (log : Bool) (c : BrokerConfig) : Prop :=
  ∃ res c', ConfigYields (read L stream log) c res c' ∧
    (res = .jsonParseErr → c'.settings = c.settings ∧ c'.logMask = c.logMask ∧
      c'.enableBroker = c.enableBroker)

/-- A read returns exactly on the texts on which the JSON library does not throw
`out_of_range`: the one catch clause is for `parse_error`, and nothing else is thrown. -/
theorem readsSafely_iff (L : Libraries) (hL : L.Documented) (stream : Bytes) (log : Bool)
    (c : BrokerConfig) :
    ReadsSafely L stream log c ↔ ¬ (L.extract stream).throwsKind .outOfRange := by
  constructor
  · rintro ⟨res, c', hYields, _⟩ ⟨what, v, hExtract⟩
    exact hYields.not_throws (read_throws hExtract nofun)
  · intro hRange
    cases hExtract : L.extract stream with
    | value v rest =>
      obtain ⟨res, c', hYields, hKept⟩ := validateCurrent_returns L log { c with current := v }
      refine ⟨res, c', read_yields_of_value hExtract hYields, fun hRes => ?_⟩
      rw [hKept hRes]
      exact ⟨rfl, rfl, rfl⟩
    | throws e v =>
      have hKind : e.kind = .parseError := by
        rcases hL.extract_throws stream e v hExtract with hKind | hKind
        · exact hKind
        · exact absurd ⟨e.what, v, by rw [hExtract, ← hKind]⟩ hRange
      exact ⟨_, _, read_yields_of_parseError hExtract hKind, fun _ => ⟨rfl, rfl, rfl⟩⟩

theorem readsSafely_empty_object :
    ReadsSafely .sample (bytes "\x7b\x7d") true sampleConfig :=
  (readsSafely_iff .sample Libraries.sample_documented _ true sampleConfig).mpr (by
    rintro ⟨what, v, h⟩
    cases h)

theorem not_readsSafely_overflow :
    ¬ ReadsSafely .sample (bytes "\x7b\"listen_port\": 1e999\x7d") true sampleConfig := by
  rintro ⟨res, c', hYields, _⟩
  obtain ⟨s, hRun, _⟩ := hYields ⟨sampleConfig, []⟩ rfl
  cases hRun

/-- An access to a JSON value that can throw. -/
inductive JsonAccess
  | pointer (tokens : List Bytes)
  | key (k : Bytes)
  | getString
  | getInt64
  | getBool
  | getVector

namespace JsonAccess

/-- The value exists and has a type that the access is for. -/
def Defined : JsonAccess → Json → Prop
  | .pointer tokens, v => (v.lookup tokens).isSome = true
  | .key k, v => v.isObject = true ∧ v.contains k = true
  | .getString, v => v.type = .string
  | .getInt64, v => v.isNumberInteger = true ∨ v.type = .numberFloat
  | .getBool, v => v.type = .boolean
  | .getVector, v => v.type = .array

def run : JsonAccess → Json → ConfigM Unit
  | .pointer tokens, v => do let _ ← v.indexPointer tokens
  | .key k, v => do let _ ← v.index k
  | .getString, v => do let _ ← v.getString
  | .getInt64, v => do let _ ← v.getInt64
  | .getBool, v => do let _ ← v.getBool
  | .getVector, v => do let _ ← v.getVector

theorem run_throws_iff (a : JsonAccess) (v : Json) (s : ConfigState) :
    (∃ e, a.run v s = .error e s) ↔ ¬ a.Defined v := by
  cases a with
  | pointer tokens =>
    cases hLookup : v.lookup tokens <;> simp [run, Defined, Json.indexPointer, hLookup]
  | key k =>
    cases v with
    | object ms => cases hLookup : ms.lookup k <;>
        simp [run, Defined, Json.index, Json.contains, Json.isObject, Json.type, hLookup]
    | _ => simp [run, Defined, Json.index, Json.contains]
  | _ => cases v <;> simp [run, Defined, Json.getString, Json.getInt64, Json.getBool, Json.getVector,
      Json.typeError, Json.type, Json.isNumberInteger]

/-- From the state `s` the program comes to the access `a` of the value `v`: it is a part that
ends there, or with the result of the whole on the paths that do not lead there, then the
access, then a rest. -/
def MadeBy {β : Type} (a : JsonAccess) (v : Json) (program : ConfigM β) (s : ConfigState) : Prop :=
  ∃ (α : Type) (m : ConfigM (β ⊕ α)) (f : α → Json) (k : α → ConfigM β) (x : α) (s₁ : ConfigState),
    program = (m >>= Sum.elim pure fun x => a.run (f x) >>= fun _ => k x) ∧
      m s = .ok (.inr x) s₁ ∧ f x = v

/-- A program that returns has made only accesses that are defined, wherever it made them. -/
theorem MadeBy.defined {β : Type} {a : JsonAccess} {v : Json} {program : ConfigM β} {s s' : ConfigState}
    {b : β} (h : a.MadeBy v program s) (hReturn : program s = .ok b s') : a.Defined v := by
  obtain ⟨α, m, f, k, x, s₁, rfl, hReached, rfl⟩ := h
  by_contra hMisread
  obtain ⟨e, hThrow⟩ := (a.run_throws_iff (f x) s₁).mpr hMisread
  rw [bind_run, hReached] at hReturn
  simp [hThrow] at hReturn

end JsonAccess

theorem Slot.validator_returns (slot : Slot) (log : Bool) (v : Json) (c : BrokerConfig)
    (hType : v.type = slot.entry.type) :
    ∃ accepted c', ConfigYields (slot.entry.validateAndStore v log) c accepted c' ∧
      c'.current = c.current := by
  have hType := hType.trans slot.type_eq
  cases hDecode : slot.setting.decode v with
  | some a => exact ⟨true, _, slot.accepts v log c a hType hDecode, slot.current_frame _ c⟩
  | none =>
    obtain ⟨b, hYields⟩ := slot.rejects v log c hType hDecode
    exact ⟨false, _, hYields, slot.current_frame b c⟩

theorem foldl_store_current (slots : List Slot) (doc : Json) (c : BrokerConfig) :
    (slots.foldl (fun c slot => slot.store doc c) c).current = c.current := by
  induction slots generalizing c with
  | nil => rfl
  | cons slot slots ih => exact (ih (slot.store doc c)).trans (slot.current_frame _ c)

/-- `ValidateCurrent` returns and keeps the document, and so does each validator on a value of
the type that the table demands; no access that they come to is a misreading. -/
theorem validation_never_misreads (L : Libraries) (log : Bool) (c : BrokerConfig)
    (hObject : c.current.isObject = true) :
    (∃ res c', ConfigYields (validateCurrent L log) c res c' ∧ c'.current = c.current) ∧
    (∀ entry ∈ kSettingsValidatorArray L, ∀ v c₀, v.type = entry.type →
      ∃ accepted c', ConfigYields (entry.validateAndStore v log) c₀ accepted c' ∧
        c'.current = c₀.current) ∧
    (∀ s a v, s.config = c → JsonAccess.MadeBy a v (validateCurrent L log) s → a.Defined v) ∧
    ∀ entry ∈ kSettingsValidatorArray L, ∀ w s a v, w.type = entry.type →
      JsonAccess.MadeBy a v (entry.validateAndStore w log) s → a.Defined v := by
  have hValidate := validateCurrent_yields_store L log c hObject
  have hEntries : ∀ entry ∈ kSettingsValidatorArray L, ∀ v c₀, v.type = entry.type →
      ∃ accepted c', ConfigYields (entry.validateAndStore v log) c₀ accepted c' ∧
        c'.current = c₀.current := by
    intro entry hEntry v c₀ hType
    rw [← slots_entries] at hEntry
    obtain ⟨slot, -, rfl⟩ := List.mem_map.mp hEntry
    exact slot.validator_returns log v c₀ hType
  refine ⟨⟨_, _, hValidate, foldl_store_current _ _ c⟩, hEntries, ?_, ?_⟩
  · intro s a v hConfig hMade
    obtain ⟨s', hReturn, -⟩ := hValidate s hConfig
    exact hMade.defined hReturn
  · intro entry hEntry w s a v hType hMade
    obtain ⟨accepted, c', hYields, -⟩ := hEntries entry hEntry w s.config hType
    obtain ⟨s', hReturn, -⟩ := hYields s rfl
    exact hMade.defined hReturn

/-- A document whose values all have the wrong type, `dns_sd` among them. -/
def misshapenDocument : Json :=
  .object [(bytes "cid", .numberFloat 0), (bytes "dns_sd", .array [.null]),
    (bytes "listen_interfaces", .array [.numberInteger 0]),
    (bytes "uid", .object [(bytes "type", .null)])]

theorem validation_never_misreads_misshapen :
    ∃ res c', ConfigYields (validateCurrent .sample true) { sampleConfig with current := misshapenDocument }
      res c' ∧ c'.current = misshapenDocument :=
  (validation_never_misreads .sample true { sampleConfig with current := misshapenDocument } rfl).1

end RdmnetBroker
