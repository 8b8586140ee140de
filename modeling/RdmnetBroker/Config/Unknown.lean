import RdmnetBroker.Config.Report

/-! # Keys that the configuration does not know

The loop over the table sees a document only through its own pointers, and
`ValidateAndStoreUid` sees the `uid` object only through three keys. Two documents
that agree there are read alike, down to the log, whatever else they hold.
-/

namespace RdmnetBroker

open Library

set_option autoImplicit false

def ConfigState.withCurrent (v : Json) (s : ConfigState) : ConfigState :=
  { s with config := { s.config with current := v } }

/-- The program does not depend on `current_` and leaves it alone. -/
abbrev Blind {α : Type} (m : ConfigM α) : Prop := ∀ v, Mirrors (ConfigState.withCurrent v) m m

section Programs

variable {α : Type} {field : FieldRef BrokerConfig α}

theorem setField_blind (h : KeepsCurrent field) (a : α) : Blind (setField field a) := by
  intro v s
  exact congrArg (fun c => EStateM.Result.ok () (ConfigState.mk c s.messages)) (h.set_current a s.config v)

theorem getField_blind (h : KeepsCurrent field) : Blind (getField field) := by
  intro v s
  exact congrArg (fun a => EStateM.Result.ok a (s.withCurrent v)) (h.get_current s.config v)

theorem logMessage_blind (log : Bool) (priority : LogPriority) (format : String) (args : List LogArg) :
    Blind (logMessage log priority format args) := by
  intro v s
  simp only [logMessage_run, mapState]
  cases log <;> rfl

theorem getString_blind (v : Json) : Blind v.getString := by
  intro w
  cases v <;> first | exact .pure _ | exact .throw _

theorem getInt64_blind (v : Json) : Blind v.getInt64 := by
  intro w
  cases v <;> first | exact .pure _ | exact .throw _

theorem getBool_blind (v : Json) : Blind v.getBool := by
  intro w
  cases v <;> first | exact .pure _ | exact .throw _

theorem getVector_blind (v : Json) : Blind v.getVector := by
  intro w
  cases v <;> first | exact .pure _ | exact .throw _

theorem index_blind (v : Json) (key : Bytes) : Blind (v.index key) := by
  intro w s
  cases v with
  | object ms =>
    cases hLookup : ms.lookup key with
    | some x => simp [Json.index, hLookup, mapState]
    | none => simp [Json.index, hLookup, mapState]
  | _ => rfl

theorem reject_blind (log : Bool) (format : String) (args : List LogArg) :
    Blind do
      logParseError log format args
      return false :=
  fun w => (logMessage_blind _ _ _ _ w).bind fun _ => .pure _

theorem take_blind (h : KeepsCurrent field) (a : α) :
    Blind do
      setField field a
      return true :=
  fun w => (setField_blind h a w).bind fun _ => .pure _

end Programs

structure BlindEntry (e : Validator) : Prop where
  store : ∀ val log, Blind (e.validateAndStore val log)
  default : Blind e.storeDefault

theorem Field.ofSettings_keepsCurrent {α : Type} {get : Settings → α} {set : α → Settings → Settings}
    {get_set : ∀ a s, get (set a s) = a} {set_get : ∀ s, set (get s) s = s}
    {set_set : ∀ a b s, set a (set b s) = set a s} :
    KeepsCurrent (ofSettings get set get_set set_get set_set) :=
  ⟨fun _ _ _ => rfl, fun _ _ => rfl⟩

theorem cidEntry_blind (L : Libraries) : BlindEntry (cidEntry L) where
  store val log v := by
    refine (getString_blind val v).bind fun str => ?_
    refine (setField_blind Field.ofSettings_keepsCurrent _ v).bind fun _ => ?_
    refine (getField_blind Field.ofSettings_keepsCurrent v).bind fun cid => .ite (.pure _) ?_
    exact (getString_blind val v).bind fun text => reject_blind _ _ _ v
  default v s := rfl

theorem uidEntry_blind : BlindEntry uidEntry where
  store val log v := by
    change Mirrors _ (validateAndStoreUid val log) (validateAndStoreUid val log)
    unfold validateAndStoreUid
    refine .ite (reject_blind _ _ _ v) ?_
    refine (index_blind val _ v).bind fun type => .ite ?_ ?_
    · exact (index_blind val _ v).bind fun _ => reject_blind _ _ _ v
    refine .ite (reject_blind _ _ _ v) ?_
    refine (index_blind val _ v).bind fun manufacturer => .ite ?_ ?_
    · exact (index_blind val _ v).bind fun _ => reject_blind _ _ _ v
    refine (index_blind val _ v).bind fun type => (getString_blind type v).bind fun _ => ?_
    refine (index_blind val _ v).bind fun manufacturer => (getInt64_blind manufacturer v).bind fun _ => ?_
    refine .ite (reject_blind _ _ _ v) (.ite ?_ ?_)
    · refine .ite (reject_blind _ _ _ v) ((index_blind val _ v).bind fun device => .ite ?_ ?_)
      · exact (index_blind val _ v).bind fun _ => reject_blind _ _ _ v
      refine (index_blind val _ v).bind fun device => (getInt64_blind device v).bind fun _ => ?_
      exact .ite (reject_blind _ _ _ v) (take_blind Field.ofSettings_keepsCurrent _ v)
    · refine .ite (.ite (reject_blind _ _ _ v) ?_) (reject_blind _ _ _ v)
      exact take_blind Field.ofSettings_keepsCurrent _ v
  default := setField_blind Field.ofSettings_keepsCurrent _

theorem stringEntry_blind {key : String} {pointer : List Bytes} {field : FieldRef BrokerConfig Bytes}
    {maxSize : Nat} {truncationAllowed : Bool} {storeDefault : ConfigM Unit} (h : KeepsCurrent field)
    (default : Blind storeDefault) :
    BlindEntry (stringEntry key pointer field maxSize truncationAllowed storeDefault) where
  store val log v := by
    refine (getString_blind val v).bind fun str => .ite (reject_blind _ _ _ v) (.ite ?_ ?_)
    · refine .ite ?_ (reject_blind _ _ _ v)
      refine (setField_blind h _ v).bind fun _ => (getField_blind h v).bind fun _ => ?_
      exact (logMessage_blind _ _ _ _ v).bind fun _ => .pure _
    · exact take_blind h _ v
  default := default

theorem intEntry_blind {w : Nat} {key : String} {pointer : List Bytes}
    {field : FieldRef BrokerConfig (BitVec w)} {limits : BitVec w × BitVec w} {default : BitVec w}
    (h : KeepsCurrent field) : BlindEntry (intEntry key pointer field limits default) where
  store val _ v :=
    (getInt64_blind val v).bind fun _ => .ite (reject_blind _ _ _ v) (take_blind h _ v)
  default := setField_blind h _

theorem storeInterfaces_blind (log : Bool) (xs : List Json) : Blind (storeInterfaces log xs) := by
  intro v
  induction xs with
  | nil => exact .pure _
  | cons x xs ih =>
    refine .ite ?_ ?_
    · refine (logMessage_blind _ _ _ _ v).bind fun _ => ?_
      exact (setField_blind Field.ofSettings_keepsCurrent _ v).bind fun _ => .pure _
    · refine (getField_blind Field.ofSettings_keepsCurrent v).bind fun names => ?_
      refine (getString_blind x v).bind fun str => ?_
      exact (setField_blind Field.ofSettings_keepsCurrent _ v).bind fun _ => ih

theorem logLevelEntry_blind (L : Libraries) : BlindEntry (logLevelEntry L) where
  store val log v := by
    refine (getString_blind val v).bind fun level => ?_
    split
    · exact reject_blind _ _ _ v
    · exact take_blind ⟨fun _ _ _ => rfl, fun _ _ => rfl⟩ _ v
  default := setField_blind ⟨fun _ _ _ => rfl, fun _ _ => rfl⟩ _

theorem table_blind (L : Libraries) : ∀ e ∈ kSettingsValidatorArray L, BlindEntry e := by
  have hSettings : ∀ {α : Type} {get : Settings → α} {set : α → Settings → Settings} {h₁ h₂ h₃},
      KeepsCurrent (Field.ofSettings get set h₁ h₂ h₃) := Field.ofSettings_keepsCurrent
  have hBroker : KeepsCurrent Field.enableBroker := ⟨fun _ _ _ => rfl, fun _ _ => rfl⟩
  simp only [kSettingsValidatorArray, List.forall_mem_cons, List.not_mem_nil, false_implies,
    implies_true, and_true]
  refine ⟨cidEntry_blind L, uidEntry_blind, stringEntry_blind hSettings fun _ _ => rfl,
    stringEntry_blind hSettings (setField_blind hSettings _),
    stringEntry_blind hSettings (setField_blind hSettings _),
    stringEntry_blind hSettings (setField_blind hSettings _), intEntry_blind hSettings,
    ⟨fun val log v => (getVector_blind val v).bind fun xs => storeInterfaces_blind log xs v,
      setField_blind hSettings _⟩, logLevelEntry_blind L, intEntry_blind hSettings,
    intEntry_blind hSettings, intEntry_blind hSettings, intEntry_blind hSettings,
    intEntry_blind hSettings, intEntry_blind hSettings,
    ⟨fun val log v => (getBool_blind val v).bind fun _ => take_blind hBroker _ v,
      setField_blind hBroker _⟩⟩

/-- The entry cannot tell the two values apart. -/
def SameFor (e : Validator) : Option Json → Option Json → Prop
  | none, none => True
  | some v, some w => v.type = w.type ∧ ∀ log, e.validateAndStore v log = e.validateAndStore w log
  | _, _ => False

theorem SameFor.refl (e : Validator) (v : Option Json) : SameFor e v v := by
  cases v with
  | none => exact trivial
  | some v => exact ⟨rfl, fun _ => rfl⟩

theorem typeName_eq {v w : Json} (h : v.type = w.type) : v.typeName = w.typeName := by
  rw [Json.typeName, Json.typeName, h]

theorem isNull_eq {v w : Json} (h : v.type = w.type) : v.isNull = w.isNull := by
  rw [Json.isNull, Json.isNull, h]

/-- The loop body once the value, if any, is found. -/
def validateValue (log : Bool) (res : ParseResult) (setting : Validator) : Option Json → ConfigM ParseResult
  | some val =>
    if val.isNull then do
      setting.storeDefault
      return res
    else if val.type ≠ setting.type then do
      logParseError log "The value for setting \"%s\" was of invalid type \"%s\""
        [.str setting.pointerText, .str val.typeName]
      setting.storeDefault
      return .invalidSetting
    else do
      if !(← setting.validateAndStore val log) then
        setting.storeDefault
        return .invalidSetting
      else
        return res
  | none => do
    setting.storeDefault
    logMessage log .debug "Configuration file: No value present for \"%s\", using default."
      [.str setting.pointerText]
    return res

theorem validateEntry_eq_validateValue (log : Bool) (res : ParseResult) (e : Validator) (s : ConfigState) :
    validateEntry log res e s = validateValue log res e (s.config.current.lookup e.pointer) s := by
  cases hLookup : s.config.current.lookup e.pointer with
  | none => simp [validateEntry, validateValue, Json.containsPointer, hLookup]
  | some v =>
    have hIndex : s.config.current.indexPointer e.pointer s = .ok v s := by
      simp [Json.indexPointer, hLookup]
    simp [validateEntry, validateValue, Json.containsPointer, hLookup, hIndex]

theorem validateValue_mirrors {e : Validator} (log : Bool) (res : ParseResult) (doc : Json)
    (hBlind : BlindEntry e) {v w : Option Json} (hSame : SameFor e v w) :
    Mirrors (ConfigState.withCurrent doc) (validateValue log res e v) (validateValue log res e w) := by
  cases v with
  | none =>
    cases w with
    | none =>
      refine (hBlind.default doc).bind fun _ => (logMessage_blind _ _ _ _ doc).bind fun _ => .pure _
    | some w => exact hSame.elim
  | some v =>
    cases w with
    | none => exact hSame.elim
    | some w =>
      obtain ⟨hType, hStore⟩ := hSame
      simp only [validateValue, ← isNull_eq hType, ← hType, ← typeName_eq hType, ← hStore]
      refine .ite ((hBlind.default doc).bind fun _ => .pure _) (.ite ?_ ?_)
      · refine (logMessage_blind _ _ _ _ doc).bind fun _ => ?_
        exact (hBlind.default doc).bind fun _ => .pure _
      · refine (hBlind.store v log doc).bind fun taken => .ite ?_ (.pure _)
        exact (hBlind.default doc).bind fun _ => .pure _

theorem validateEntry_mirrors {e : Validator} {doc doc' : Json} (log : Bool) (res : ParseResult)
    (hBlind : BlindEntry e) (hSame : SameFor e (doc.lookup e.pointer) (doc'.lookup e.pointer))
    {s : ConfigState} (hDoc : s.config.current = doc) :
    validateEntry log res e (s.withCurrent doc') =
      mapState (ConfigState.withCurrent doc') (validateEntry log res e s) := by
  rw [validateEntry_eq_validateValue, validateEntry_eq_validateValue, hDoc]
  exact validateValue_mirrors log res doc' hBlind hSame s

/-- The two documents agree wherever the table looks. In the `uid` object that is at three keys. -/
structure SameSettings (L : Libraries) (doc doc' : Json) : Prop where
  uid : doc.lookup [bytes "uid"] = doc'.lookup [bytes "uid"] ∨
    ∃ ms ms', doc.lookup [bytes "uid"] = some (.object ms) ∧ doc'.lookup [bytes "uid"] = some (.object ms') ∧
      ∀ key ∈ [bytes "type", bytes "manufacturer_id", bytes "device_id"], ms.lookup key = ms'.lookup key
  others : ∀ setting ∈ Setting.all L, setting.pointer ≠ [bytes "uid"] →
    doc.lookup setting.pointer = doc'.lookup setting.pointer

theorem validateAndStoreUid_congr {ms ms' : List (Bytes × Json)}
    (h : ∀ key ∈ [bytes "type", bytes "manufacturer_id", bytes "device_id"], ms.lookup key = ms'.lookup key)
    (log : Bool) : validateAndStoreUid (.object ms) log = validateAndStoreUid (.object ms') log := by
  have hContains : ∀ key, ms.lookup key = ms'.lookup key →
      (Json.object ms).contains key = (Json.object ms').contains key := by
    intro key hKey
    rw [Json.contains, hKey]
    rfl
  have hIndex : ∀ key, ms.lookup key = ms'.lookup key →
      ((Json.object ms).index key : ConfigM Json) = (Json.object ms').index key := by
    intro key hKey
    simp only [Json.index, hKey]
  simp only [List.forall_mem_cons, List.not_mem_nil, false_implies, implies_true, and_true] at h
  obtain ⟨hType, hManufacturer, hDevice⟩ := h
  simp only [validateAndStoreUid, hContains _ hType, hIndex _ hType, hContains _ hManufacturer,
    hIndex _ hManufacturer, hContains _ hDevice, hIndex _ hDevice]

theorem eq_uidSlot_or (L : Libraries) :
    ∀ slot ∈ slots L, slot = uidSlot ∨ slot.entry.pointer ≠ [bytes "uid"] := by
  have hRest : ∀ pointer ∈ ((slots L).eraseIdx 1).map (·.entry.pointer), pointer ≠ [bytes "uid"] := by
    change ∀ pointer ∈ [[bytes "cid"], [bytes "dns_sd", bytes "service_instance_name"],
      [bytes "dns_sd", bytes "manufacturer"], [bytes "dns_sd", bytes "model"], [bytes "scope"],
      [bytes "listen_port"], [bytes "listen_interfaces"], [bytes "log_level"], [bytes "max_connections"],
      [bytes "max_controllers"], [bytes "max_controller_messages"], [bytes "max_devices"],
      [bytes "max_device_messages"], [bytes "max_reject_connections"], [bytes "enable_broker"]],
      pointer ≠ [bytes "uid"]
    decide
  intro slot hMem
  rcases List.mem_cons.mp hMem with rfl | hMem
  · exact .inr (hRest _ (List.mem_cons_self ..))
  rcases List.mem_cons.mp hMem with rfl | hMem
  · exact .inl rfl
  · exact .inr (hRest _ (List.mem_map_of_mem (List.mem_cons_of_mem _ hMem)))

theorem SameSettings.sameFor {L : Libraries} {doc doc' : Json} (h : SameSettings L doc doc') :
    ∀ slot ∈ slots L,
      SameFor slot.entry (doc.lookup slot.entry.pointer) (doc'.lookup slot.entry.pointer) := by
  intro slot hMem
  rcases eq_uidSlot_or L slot hMem with rfl | hPointer
  · change SameFor uidEntry (doc.lookup [bytes "uid"]) (doc'.lookup [bytes "uid"])
    rcases h.uid with hLookup | ⟨ms, ms', hLookup, hLookup', hKeys⟩
    · rw [hLookup]
      exact SameFor.refl _ _
    · rw [hLookup, hLookup']
      exact ⟨rfl, validateAndStoreUid_congr hKeys⟩
  · have hSetting : slot.setting.erase ∈ Setting.all L := by
      rw [← slots_settings]
      exact List.mem_map_of_mem hMem
    have hErase : slot.setting.erase.pointer = slot.entry.pointer := slot.pointer_eq.symm
    have hLookup := h.others _ hSetting (by rwa [hErase])
    rw [hErase] at hLookup
    rw [hLookup]
    exact SameFor.refl _ _

theorem validateLoop_mirrors (ss : List Slot) (log : Bool) (doc doc' : Json)
    (hBlind : ∀ slot ∈ ss, BlindEntry slot.entry)
    (hSame : ∀ slot ∈ ss,
      SameFor slot.entry (doc.lookup slot.entry.pointer) (doc'.lookup slot.entry.pointer))
    (res : ParseResult) (s : ConfigState) (hDoc : s.config.current = doc) :
    (ss.map (·.entry)).foldlM (validateEntry log) res (s.withCurrent doc') =
      mapState (ConfigState.withCurrent doc') ((ss.map (·.entry)).foldlM (validateEntry log) res s) := by
  induction ss generalizing res s with
  | nil => rfl
  | cons slot ss ih =>
    obtain ⟨hBlindHead, hBlindTail⟩ := List.forall_mem_cons.mp hBlind
    obtain ⟨hSameHead, hSameTail⟩ := List.forall_mem_cons.mp hSame
    obtain ⟨s₁, hEntry, hConfig⟩ := slot.validateEntry_yields log res s.config s rfl
    have hDoc₁ : s₁.config.current = doc := by
      rw [hConfig, ← hDoc]
      exact slot.current_frame _ _
    have hEntry' := validateEntry_mirrors log res hBlindHead hSameHead hDoc
    rw [hEntry] at hEntry'
    rw [List.map_cons, List.foldlM_cons, bind_run, bind_run, hEntry, hEntry']
    exact ih hBlindTail hSameTail _ s₁ hDoc₁

/-- Two texts whose documents agree wherever the table looks are read alike: the same result,
the same settings and the same messages. -/
theorem read_eq_of_sameSettings (L : Libraries) (log : Bool) (s : ConfigState) (text text' : Bytes)
    (doc doc' : Json) (rest rest' : Bytes) (hExtract : L.extract text = .value doc rest)
    (hExtract' : L.extract text' = .value doc' rest') (hObject : doc.isObject = true)
    (hObject' : doc'.isObject = true) (hSame : SameSettings L doc doc') :
    ∃ res s', read L text log s = .ok res s' ∧ read L text' log s = .ok res (s'.withCurrent doc') := by
  have hBlind : ∀ slot ∈ slots L, BlindEntry slot.entry := by
    intro slot hMem
    apply table_blind L
    rw [← slots_entries]
    exact List.mem_map_of_mem hMem
  have hLoop := validateLoop_mirrors (slots L) log doc doc' hBlind hSame.sameFor .ok (s.withCurrent doc) rfl
  obtain ⟨res, c', hYields, -⟩ := validateCurrent_returns L log { s.config with current := doc }
  obtain ⟨s', hRun, -⟩ := hYields (s.withCurrent doc) rfl
  have hRun' : validateCurrent L log (s.withCurrent doc') = .ok res (s'.withCurrent doc') := by
    simp only [validateCurrent, validateCurrentWith, bind_run, get_run, ConfigState.withCurrent, hObject,
      hObject', Bool.not_true, Bool.false_eq_true, if_false] at hRun ⊢
    rw [← slots_entries] at hRun ⊢
    simp only [ConfigState.withCurrent] at hLoop
    rw [hRun] at hLoop
    exact hLoop
  have hRead : ∀ {text v rest s₁}, L.extract text = .value v rest →
      validateCurrent L log (s.withCurrent v) = .ok res s₁ → read L text log s = .ok res s₁ := by
    intro text v rest s₁ hExtract hValidate
    simp only [read, extractCurrent, hExtract, tryCatch_run, bind_run, setCurrent_run]
    rw [ConfigState.withCurrent] at hValidate
    rw [hValidate]
  exact ⟨res, s', hRead hExtract hRun, hRead hExtract' hRun'⟩

/-- A member under a name that starts no pointer of the table, anywhere in the document. -/
theorem sameSettings_insert (L : Libraries) {key : Bytes} (v : Json) (before after : List (Bytes × Json))
    (hKey : ∀ setting ∈ Setting.all L, setting.pointer.head? ≠ some key) :
    SameSettings L (.object (before ++ after)) (.object (before ++ (key, v) :: after)) := by
  have hLookup : ∀ setting ∈ Setting.all L, setting.pointer ≠ [] →
      (Json.object (before ++ after)).lookup setting.pointer =
        (Json.object (before ++ (key, v) :: after)).lookup setting.pointer := by
    intro setting hMem hPointer
    have hHead := hKey setting hMem
    cases hTokens : setting.pointer with
    | nil => exact absurd hTokens hPointer
    | cons token tokens =>
      rw [hTokens] at hHead
      have hNe : (token == key) = false := by
        simpa using hHead
      have hMembers : (before ++ (key, v) :: after).lookup token = (before ++ after).lookup token := by
        rw [List.lookup_append, List.lookup_append, List.lookup_cons, hNe]
      simp only [Json.lookup, hMembers]
  constructor
  · exact .inl (hLookup Setting.uid.erase (.tail _ (.head _)) nofun)
  · intro setting hMem _
    refine hLookup setting hMem fun hNil => ?_
    have hPointers : ∀ pointer ∈ (Setting.all L).map (·.pointer), pointer ≠ [] := by
      simp only [Setting.all, List.map_cons, List.map_nil, List.forall_mem_cons]
      and_intros
      all_goals nofun
    exact hPointers _ (List.mem_map_of_mem hMem) hNil

/-- Libraries that know one more text, with a key that no setting has. -/
def commentLibraries : Libraries :=
  { Libraries.sample with
    extract := fun text =>
      if text = bytes "\x7b\"comment\": 1\x7d" then .value (.object [(bytes "comment", .numberUnsigned 1)]) []
      else Libraries.sample.extract text }

theorem read_eq_of_sameSettings_comment : ∃ res s',
    read commentLibraries (bytes "\x7b\x7d") true ⟨sampleConfig, []⟩ = .ok res s' ∧
      read commentLibraries (bytes "\x7b\"comment\": 1\x7d") true ⟨sampleConfig, []⟩ =
        .ok res (s'.withCurrent (.object [(bytes "comment", .numberUnsigned 1)])) := by
  refine read_eq_of_sameSettings commentLibraries true ⟨sampleConfig, []⟩ _ _ (.object []) _ [] []
    rfl rfl rfl rfl (sameSettings_insert _ _ [] [] ?_)
  have hHeads : ∀ head ∈ (Setting.all commentLibraries).map (·.pointer.head?),
      head ≠ some (bytes "comment") := by
    decide +kernel
  intro setting hMem
  exact hHeads _ (List.mem_map_of_mem hMem)

end RdmnetBroker
