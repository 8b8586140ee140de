import Mathlib.Data.List.Basic
import RdmnetBroker.Config.Contract
import RdmnetBroker.Config.Grammar

/-! # What stands after the configuration

`operator>>` takes the first JSON value from the stream, and `Read` does not look at
what is left in it. So a text that goes on after its first object is read as if it ended there.
-/

namespace RdmnetBroker

set_option autoImplicit false

/-- The whitespace of JSON. -/
def isWhitespace (b : UInt8) : Bool := b == 0x20 || b == 0x09 || b == 0x0a || b == 0x0d

def byteOrderMark : Bytes := [0xef, 0xbb, 0xbf]

/-- A byte order mark is no part of the text. -/
inductive IsLead : Bytes → Prop
  | plain (ws : Bytes) : ws.all isWhitespace = true → IsLead ws
  | marked (ws : Bytes) : ws.all isWhitespace = true → IsLead (byteOrderMark ++ ws)

/-- The text of a JSON object, and nothing else but whitespace. `grammar body v` says that
`body` is a text of the value `v`. -/
def SingleObject (grammar : Bytes → Json → Prop) (text : Bytes) : Prop :=
  ∃ lead body trail v, text = lead ++ (body ++ trail) ∧ IsLead lead ∧ trail.all isWhitespace = true ∧
    grammar body v ∧ v.isObject = true

/-- The documented behaviour of `operator>>` on objects: it reads the first value of the
stream, and leaves the rest. -/
structure Libraries.ReadsFirst (L : Libraries) (grammar : Bytes → Json → Prop) : Prop where
  split : ∀ text v rest, L.extract text = .value v rest → v.isObject = true →
    ∃ lead body, text = lead ++ (body ++ rest) ∧ IsLead lead ∧ grammar body v
  first : ∀ lead body rest v, IsLead lead → grammar body v → v.isObject = true →
    L.extract (lead ++ (body ++ rest)) = .value v rest

/-- Only an object that is the whole text is accepted, and no text that goes on after its
first value. -/
structure ReadsWholeText (L : Libraries) (grammar : Bytes → Json → Prop) (text : Bytes) (log : Bool)
    (c : BrokerConfig) : Prop where
  accepted : ∀ res c', ConfigYields (read L text log) c res c' → res = .ok ∨ res = .invalidSetting →
    SingleObject grammar text
  rejected : ∀ v rest, L.extract text = .value v rest → rest.all isWhitespace = false →
    ∃ c', ConfigYields (read L text log) c .jsonParseErr c'

section Read

variable {L : Libraries} {text rest : Bytes} {log : Bool} {c c' : BrokerConfig} {v : Json}
  {res : ParseResult}

theorem read_yields_of_object (log : Bool) (c : BrokerConfig) (hExtract : L.extract text = .value v rest)
    (hObject : v.isObject = true) :
    ∃ c', ConfigYields (read L text log) c (documentResult L v) c' :=
  ⟨_, read_yields_of_value hExtract (validateCurrent_yields_store L log { c with current := v } hObject)⟩

/-- An object is never a parse error, whatever follows it. -/
theorem not_yields_jsonParseErr (hExtract : L.extract text = .value v rest) (hObject : v.isObject = true) :
    ¬ ConfigYields (read L text log) c .jsonParseErr c' := by
  intro hYields
  obtain ⟨c₁, hResult⟩ := read_yields_of_object log c hExtract hObject
  exact documentResult_ne_jsonParseErr L v (hResult.unique hYields).1

theorem object_of_accepted (hYields : ConfigYields (read L text log) c res c')
    (hAccepted : res = .ok ∨ res = .invalidSetting) :
    ∃ v rest, L.extract text = .value v rest ∧ v.isObject = true := by
  have hRes : res ≠ .jsonParseErr := by
    rintro rfl
    rcases hAccepted with h | h <;> cases h
  cases hExtract : L.extract text with
  | value v rest =>
    cases hObject : v.isObject with
    | true => exact ⟨v, rest, rfl, hObject⟩
    | false => exact absurd (hYields.unique (read_yields_of_not_object hExtract hObject)).1 hRes
  | throws e v =>
    by_cases hKind : e.kind = .parseError
    · exact absurd (hYields.unique (read_yields_of_parseError hExtract hKind)).1 hRes
    · exact absurd (read_throws hExtract hKind) hYields.not_throws

end Read

/-- A text is read as a whole exactly if it does not go on after an object at its start. -/
theorem readsWholeText_iff (L : Libraries) (grammar : Bytes → Json → Prop) (hL : L.ReadsFirst grammar)
    (text : Bytes) (log : Bool) (c : BrokerConfig) :
    ReadsWholeText L grammar text log c ↔
      ∀ lead body rest v, text = lead ++ (body ++ rest) → IsLead lead → grammar body v →
        v.isObject = true → rest.all isWhitespace = true := by
  constructor
  · rintro hReads lead body rest v rfl hLead hBody hObject
    have hExtract := hL.first lead body rest v hLead hBody hObject
    by_contra hRest
    obtain ⟨c', hYields⟩ := hReads.rejected v rest hExtract (Bool.eq_false_iff.mpr hRest)
    exact not_yields_jsonParseErr hExtract hObject hYields
  · intro hEnds
    constructor
    · intro res c' hYields hAccepted
      obtain ⟨v, rest, hExtract, hObject⟩ := object_of_accepted hYields hAccepted
      obtain ⟨lead, body, hText, hLead, hBody⟩ := hL.split text v rest hExtract hObject
      exact ⟨lead, body, rest, v, hText, hLead, hEnds lead body rest v hText hLead hBody hObject, hBody,
        hObject⟩
    · intro v rest hExtract hRest
      cases hObject : v.isObject with
      | false => exact ⟨_, read_yields_of_not_object hExtract hObject⟩
      | true =>
        obtain ⟨lead, body, hText, hLead, hBody⟩ := hL.split text v rest hExtract hObject
        rw [hEnds lead body rest v hText hLead hBody hObject] at hRest
        cases hRest

def skipLead (text : Bytes) : Bytes :=
  (if byteOrderMark.isPrefixOf text then text.drop 3 else text).dropWhile isWhitespace

/-- The only value that is read is `doc`, from the text `body`. -/
def Libraries.ofObject (body : Bytes) (doc : Json) : Libraries :=
  { Libraries.sample with
    extract := fun text =>
      if body.isPrefixOf (skipLead text) then .value doc ((skipLead text).drop body.length)
      else .throws ⟨.parseError, bytes "[json.exception.parse_error.101] parse error"⟩ .null }

def ObjectText (body : Bytes) (doc : Json) (text : Bytes) (v : Json) : Prop := text = body ∧ v = doc

theorem exists_lead (text : Bytes) : ∃ lead, text = lead ++ skipLead text ∧ IsLead lead := by
  have hSkip (t : Bytes) : t = t.takeWhile isWhitespace ++ t.dropWhile isWhitespace :=
    List.takeWhile_append_dropWhile.symm
  have hSpace (t : Bytes) : (t.takeWhile isWhitespace).all isWhitespace = true :=
    List.all_takeWhile
  unfold skipLead
  cases hMark : byteOrderMark.isPrefixOf text with
  | false => exact ⟨_, hSkip text, .plain _ (hSpace text)⟩
  | true =>
    obtain ⟨t, rfl⟩ := List.isPrefixOf_iff_prefix.mp hMark
    refine ⟨byteOrderMark ++ t.takeWhile isWhitespace, ?_, .marked _ (hSpace t)⟩
    rw [List.append_assoc]
    exact congrArg (byteOrderMark ++ ·) (hSkip t)

theorem skipLead_append {lead : Bytes} (h : IsLead lead) (text : Bytes) :
    skipLead (lead ++ (0x7b :: text)) = 0x7b :: text := by
  have hSkip {ws : Bytes} (hSpace : ws.all isWhitespace = true) :
      (ws ++ (0x7b :: text)).dropWhile isWhitespace = 0x7b :: text := by
    rw [List.dropWhile_append_of_pos (List.all_eq_true.mp hSpace)]
    rfl
  cases h with
  | plain _ hSpace =>
    have hMark : byteOrderMark.isPrefixOf (lead ++ (0x7b :: text)) = false := by
      cases lead with
      | nil => rfl
      | cons b ws =>
        have hByte : b ≠ 0xef := by
          rintro rfl
          rw [List.all_cons] at hSpace
          cases hSpace
        rw [byteOrderMark, List.cons_append, List.isPrefixOf, beq_false_of_ne hByte.symm, Bool.false_and]
    rw [skipLead, hMark]
    exact hSkip hSpace
  | marked ws hSpace =>
    have hMark : byteOrderMark.isPrefixOf (byteOrderMark ++ ws ++ (0x7b :: text)) = true := by
      rw [List.isPrefixOf_iff_prefix, List.append_assoc]
      exact List.prefix_append _ _
    rw [skipLead, hMark]
    exact hSkip hSpace

theorem Libraries.ofObject_readsFirst (tail : Bytes) (doc : Json) :
    (Libraries.ofObject (0x7b :: tail) doc).ReadsFirst (ObjectText (0x7b :: tail) doc) where
  split text v rest hExtract _ := by
    obtain ⟨lead, hText, hLead⟩ := exists_lead text
    cases hPrefix : (0x7b :: tail).isPrefixOf (skipLead text) with
    | false =>
      simp only [Libraries.ofObject, hPrefix, Bool.false_eq_true, if_false] at hExtract
      cases hExtract
    | true =>
      simp only [Libraries.ofObject, hPrefix, if_true] at hExtract
      cases hExtract
      obtain ⟨rest, hRest⟩ := List.isPrefixOf_iff_prefix.mp hPrefix
      refine ⟨lead, 0x7b :: tail, ?_, hLead, rfl, rfl⟩
      rw [← hRest, List.drop_left, hRest]
      exact hText
  first lead body rest v hLead hBody _ := by
    obtain ⟨rfl, rfl⟩ := hBody
    have hSkip : skipLead (lead ++ (0x7b :: tail ++ rest)) = 0x7b :: tail ++ rest :=
      skipLead_append hLead (tail ++ rest)
    have hPrefix : (0x7b :: tail).isPrefixOf (0x7b :: tail ++ rest) = true :=
      List.isPrefixOf_iff_prefix.mpr (List.prefix_append _ _)
    simp only [Libraries.ofObject, hSkip, hPrefix, if_true, List.drop_left]

def sampleObject : Json := .object [(bytes "enable_broker", .boolean false)]

def sampleBody : Bytes := bytes "\x7b\"enable_broker\": false\x7d"

theorem readsWholeText_object : ReadsWholeText (.ofObject sampleBody sampleObject)
    (ObjectText sampleBody sampleObject) (sampleBody ++ bytes "\n") true sampleConfig := by
  have hFirst := Libraries.ofObject_readsFirst (sampleBody.drop 1) sampleObject
  refine (readsWholeText_iff _ _ hFirst _ true sampleConfig).mpr ?_
  intro lead body rest v hText hLead hBody hObject
  have hRest := hFirst.first lead body rest v hLead hBody hObject
  rw [← hText] at hRest
  cases hRest
  rfl

/-- The outer brace is closed too early: the port after it is not read. -/
theorem not_readsWholeText_closed_early : (∃ c',
    ConfigYields (read (.ofObject sampleBody sampleObject)
      (bytes "\x7b\"enable_broker\": false\x7d, \"listen_port\": 8889\x7d") true) sampleConfig .ok c') ∧
    ¬ ReadsWholeText (.ofObject sampleBody sampleObject) (ObjectText sampleBody sampleObject)
      (bytes "\x7b\"enable_broker\": false\x7d, \"listen_port\": 8889\x7d") true sampleConfig := by
  have hExtract : (Libraries.ofObject sampleBody sampleObject).extract
      (bytes "\x7b\"enable_broker\": false\x7d, \"listen_port\": 8889\x7d") =
        .value sampleObject (bytes ", \"listen_port\": 8889\x7d") := rfl
  constructor
  · exact read_yields_of_object true sampleConfig hExtract rfl
  · intro hReads
    obtain ⟨c', hYields⟩ := hReads.rejected _ _ hExtract rfl
    exact not_yields_jsonParseErr hExtract rfl hYields

end RdmnetBroker
