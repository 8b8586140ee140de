import Mathlib.Data.List.Induction
import RdmnetBroker.Config.Load

/-! # Reading again into the same configuration

Every setting but one is overwritten by a read, whatever was there. An accepted
list of interfaces is appended to the list that is there, so a read depends on
the documents read before it, back to the last one that cleared the list.
-/

namespace RdmnetBroker

open Library

set_option autoImplicit false

/-- A `BrokerConfig` into which nothing was read: its list of interfaces is empty. -/
def BrokerConfig.Fresh (c : BrokerConfig) : Prop := c.settings.listenInterfaces = []

/-- What a read leaves, whether it returns or throws. -/
def readNext (L : Libraries) (log : Bool) (s : ConfigState) (text : Bytes) : ConfigState :=
  match read L text log s with
  | .ok _ s' => s'
  | .error _ s' => s'

/-- After the reads of `texts`, reading `last` gives what it gives in a fresh configuration. -/
def ReadsAsFresh (L : Libraries) (log : Bool) (texts : List Bytes) (last : Bytes) (c : BrokerConfig) : Prop :=
  ∀ fresh : BrokerConfig, fresh.Fresh → fresh.defaultCid = c.defaultCid →
    ∃ res s s', read L last log (texts.foldl (readNext L log) ⟨c, []⟩) = .ok res s ∧
      read L last log ⟨fresh, []⟩ = .ok res s' ∧ s.config.settings = s'.config.settings ∧
      s.config.logMask = s'.config.logMask ∧ s.config.enableBroker = s'.config.enableBroker

def textDocument? (L : Libraries) (text : Bytes) : Option Json :=
  match L.extract text with
  | .value doc _ => if doc.isObject then some doc else none
  | .throws _ _ => none

/-- The document has no acceptable list of interfaces, or no document read before it, back to
the latest that has none, has an acceptable list that is not empty. -/
def InterfacesCleared (docs : List Json) (doc : Json) : Prop :=
  Setting.listenInterfaces.configured doc = none ∨
    ∀ earlier ∈ docs.reverse.takeWhile fun d => (Setting.listenInterfaces.configured d).isSome,
      Setting.listenInterfaces.configured earlier = some []

section Read

variable {L : Libraries} (log : Bool) {text : Bytes} {doc : Json}

theorem read_document (hDoc : textDocument? L text = some doc) (c : BrokerConfig) :
    ConfigYields (read L text log) c (documentResult L doc)
      (Field.listenInterfaces.set (appendInterfaces c.settings.listenInterfaces doc)
        (documentConfig L doc { c with current := doc })) := by
  unfold textDocument? at hDoc
  split at hDoc
  · rename_i v rest hExtract
    split at hDoc
    · rename_i hObject
      cases hDoc
      have hStore := validateCurrent_yields_store L log { c with current := doc } hObject
      rw [slots_store_append] at hStore
      exact read_yields_of_value hExtract hStore
    · cases hDoc
  · cases hDoc

theorem readNext_of_yields {s : ConfigState} {res : ParseResult} {c : BrokerConfig}
    (h : ConfigYields (read L text log) s.config res c) : (readNext L log s text).config = c := by
  obtain ⟨s', hRun, hConfig⟩ := h s rfl
  rw [readNext, hRun]
  exact hConfig

theorem readNext_document (hDoc : textDocument? L text = some doc) (s : ConfigState) :
    (readNext L log s text).config.settings.listenInterfaces =
        appendInterfaces s.config.settings.listenInterfaces doc ∧
      (readNext L log s text).config.defaultCid = s.config.defaultCid := by
  rw [readNext_of_yields log (read_document log hDoc s.config)]
  exact ⟨rfl, rfl⟩

/-- A text that is no object document changes the parsed value only. -/
theorem readNext_none (hDoc : textDocument? L text = none) (s : ConfigState) :
    ∃ v, (readNext L log s text).config = { s.config with current := v } := by
  cases hExtract : L.extract text with
  | value v rest =>
    have hObject : v.isObject = false := by
      simpa [textDocument?, hExtract] using hDoc
    have hYields : ConfigYields (read L text log) s.config .jsonParseErr { s.config with current := v } :=
      read_yields_of_not_object hExtract hObject
    exact ⟨v, readNext_of_yields log hYields⟩
  | throws e v =>
    by_cases hKind : e.kind = .parseError
    · have hYields : ConfigYields (read L text log) s.config .jsonParseErr { s.config with current := v } :=
        read_yields_of_parseError hExtract hKind
      exact ⟨v, readNext_of_yields log hYields⟩
    · have hThrows : Throws ConfigState.config (read L text log) s.config e
          { s.config with current := v } := read_throws hExtract hKind
      obtain ⟨s', hRun, hConfig⟩ := hThrows s rfl
      refine ⟨v, ?_⟩
      rw [readNext, hRun]
      exact hConfig

end Read

theorem foldl_readNext (L : Libraries) (log : Bool) (texts : List Bytes) (s : ConfigState) :
    (texts.foldl (readNext L log) s).config.settings.listenInterfaces =
        (texts.filterMap (textDocument? L)).foldl appendInterfaces s.config.settings.listenInterfaces ∧
      (texts.foldl (readNext L log) s).config.defaultCid = s.config.defaultCid := by
  induction texts generalizing s with
  | nil => exact ⟨rfl, rfl⟩
  | cons text texts ih =>
    obtain ⟨hInterfaces, hCid⟩ := ih (readNext L log s text)
    rw [List.foldl_cons, hInterfaces, hCid]
    cases hDoc : textDocument? L text with
    | none =>
      obtain ⟨v, hConfig⟩ := readNext_none log hDoc s
      rw [List.filterMap_cons_none hDoc, hConfig]
      exact ⟨rfl, rfl⟩
    | some doc =>
      obtain ⟨hOne, hOneCid⟩ := readNext_document log hDoc s
      rw [List.filterMap_cons_some hDoc, List.foldl_cons, hOne, hOneCid]
      exact ⟨rfl, rfl⟩

theorem appendInterfaces_eq_nil_iff (interfaces : List Bytes) (doc : Json) :
    appendInterfaces interfaces doc = [] ↔ Setting.listenInterfaces.configured doc = none ∨
      Setting.listenInterfaces.configured doc = some [] ∧ interfaces = [] := by
  unfold appendInterfaces
  cases Setting.listenInterfaces.configured doc with
  | none => simp
  | some names => simp [and_comm]

/-- The list is empty when no list was accepted that is not, since it was last cleared. -/
theorem foldl_appendInterfaces_eq_nil_iff (docs : List Json) :
    docs.foldl appendInterfaces [] = [] ↔
      ∀ earlier ∈ docs.reverse.takeWhile fun d => (Setting.listenInterfaces.configured d).isSome,
        Setting.listenInterfaces.configured earlier = some [] := by
  induction docs using List.reverseRecOn with
  | nil => simp
  | append_singleton docs doc ih =>
    rw [List.foldl_append, List.foldl_cons, List.foldl_nil, appendInterfaces_eq_nil_iff,
      List.reverse_append, List.reverse_singleton, List.singleton_append, ih]
    cases hDoc : Setting.listenInterfaces.configured doc with
    | none => simp [hDoc]
    | some names => simp [hDoc]

theorem appendInterfaces_eq_iff (interfaces : List Bytes) (doc : Json) :
    appendInterfaces interfaces doc = appendInterfaces [] doc ↔
      Setting.listenInterfaces.configured doc = none ∨ interfaces = [] := by
  unfold appendInterfaces
  cases Setting.listenInterfaces.configured doc with
  | none => simp
  | some names => simp

theorem settings_set_interfaces (L : Libraries) (doc : Json) (c : BrokerConfig) (interfaces : List Bytes) :
    (Field.listenInterfaces.set interfaces (documentConfig L doc c)).settings =
      { documentSettings L c.defaultCid doc with listenInterfaces := interfaces } := rfl

/-- The last read leaves what its document says, with the interfaces of the earlier ones. -/
theorem read_after_texts {L : Libraries} (log : Bool) (texts : List Bytes) {last : Bytes} {doc : Json}
    (hDoc : textDocument? L last = some doc) {c : BrokerConfig} (hFresh : c.Fresh) :
    ∃ s, read L last log (texts.foldl (readNext L log) ⟨c, []⟩) = .ok (documentResult L doc) s ∧
      s.config.settings = { documentSettings L c.defaultCid doc with
        listenInterfaces := appendInterfaces
          ((texts.filterMap (textDocument? L)).foldl appendInterfaces []) doc } ∧
      s.config.logMask = documentLogMask L doc ∧ s.config.enableBroker = documentEnableBroker doc := by
  obtain ⟨hInterfaces, hCid⟩ := foldl_readNext L log texts ⟨c, []⟩
  obtain ⟨s, hRun, hConfig⟩ := read_document log hDoc _ (texts.foldl (readNext L log) ⟨c, []⟩) rfl
  refine ⟨s, hRun, ?_, by rw [hConfig]; rfl, by rw [hConfig]; rfl⟩
  rw [hConfig, hInterfaces, show c.settings.listenInterfaces = [] from hFresh, settings_set_interfaces,
    hCid]

theorem readsAsFresh_iff (L : Libraries) (log : Bool) (texts : List Bytes) (last : Bytes) (doc : Json)
    (c : BrokerConfig) (hDoc : textDocument? L last = some doc) (hFresh : c.Fresh) :
    ReadsAsFresh L log texts last c ↔ InterfacesCleared (texts.filterMap (textDocument? L)) doc := by
  rw [InterfacesCleared, ← foldl_appendInterfaces_eq_nil_iff, ← appendInterfaces_eq_iff]
  obtain ⟨s, hRun, hSettings, hMask, hEnable⟩ := read_after_texts log texts hDoc hFresh
  constructor
  · intro h
    obtain ⟨res, s₁, s₂, hRun₁, hRun₂, hSame, -⟩ := h c hFresh rfl
    obtain ⟨s', hRun', hSettings', -⟩ := read_after_texts log [] hDoc hFresh
    cases hRun.symm.trans hRun₁
    cases hRun'.symm.trans hRun₂
    rw [hSettings, hSettings'] at hSame
    exact congrArg Settings.listenInterfaces hSame
  · intro hCleared fresh hFresh' hCid
    obtain ⟨s', hRun', hSettings', hMask', hEnable'⟩ := read_after_texts log [] hDoc hFresh'
    refine ⟨documentResult L doc, s, s', hRun, hRun', ?_, hMask.trans hMask'.symm,
      hEnable.trans hEnable'.symm⟩
    rw [hSettings, hSettings', hCid, hCleared]
    rfl

/-- Libraries to which a text with one interface is added. -/
def Libraries.sampleInterfaces : Libraries :=
  { Libraries.sample with
    extract := fun text =>
      if text = bytes "\x7b\"listen_interfaces\": [\"eth0\"]\x7d" then
        .value (.object [(bytes "listen_interfaces", .array [.string (bytes "eth0")])]) []
      else Libraries.sample.extract text }

def freshConfig : BrokerConfig where
  settings := ⟨⟨0⟩, ⟨0, 0⟩, ⟨[], [], []⟩, [], 0, [], ⟨0, 0, 0, 0, 0, 0⟩⟩
  logMask := 0
  enableBroker := true
  current := .null
  defaultCid := ⟨0x4958ac8fcd5e42cdab7e9797b0efd3ac#128⟩

theorem readsAsFresh_after_empty_object :
    ReadsAsFresh .sampleInterfaces true
      [bytes "\x7b\"listen_interfaces\": [\"eth0\"]\x7d", bytes "\x7b\x7d"]
      (bytes "\x7b\"listen_interfaces\": [\"eth0\"]\x7d") freshConfig :=
  (readsAsFresh_iff .sampleInterfaces true _ _ _ freshConfig rfl rfl).mpr (.inr (by decide))

/-- Reading the same text twice keeps its interface twice. -/
theorem not_readsAsFresh_twice :
    ¬ ReadsAsFresh .sampleInterfaces true [bytes "\x7b\"listen_interfaces\": [\"eth0\"]\x7d"]
      (bytes "\x7b\"listen_interfaces\": [\"eth0\"]\x7d") freshConfig := by
  intro h
  obtain ⟨res, s, s', hRun, hRun', hSame, -⟩ := h freshConfig rfl rfl
  cases hRun
  cases hRun'
  have hInterfaces := congrArg (fun settings => settings.listenInterfaces.length) hSame
  revert hInterfaces
  decide

end RdmnetBroker
