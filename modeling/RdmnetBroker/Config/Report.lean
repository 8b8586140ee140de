import RdmnetBroker.Config.Notices

/-! # What a read tells the log

Every setting of the document is accounted for in the log, in the order of the
table: one notice for a value that is not used, one for a string that is cut, one
debug message for a setting that is not there, and nothing for the rest. A load that
finds no document logs at most that the file was not opened or not parsed.
-/

namespace RdmnetBroker

open Library

set_option autoImplicit false

/-- A slot with what it tells the log: of a value that it takes, and of one that it refuses. -/
structure Reporter where
  slot : Slot
  kept : Json → List LogMessage
  refusal : Json → LogMessage
  judges : ∀ v log, Judges log (kept v) (refusal v) (slot.entry.validateAndStore v log)
  silent : ConfigSilent slot.entry.storeDefault
  kept_subject : ∀ v, ∀ m ∈ kept v, m.subject? = none
  refusal_subject : ∀ v, (refusal v).subject? = some slot.entry.pointerText

namespace Reporter

/-- What the log must hold of one setting after a read with a logger. -/
def reports (r : Reporter) (doc : Json) : List LogMessage :=
  match doc.lookup r.slot.setting.pointer with
  | none => [missing r.slot.entry.pointerText]
  | some v =>
    if v.isNull then []
    else if v.type ≠ r.slot.setting.type then [mistyped r.slot.entry.pointerText v]
    else if (r.slot.setting.decode v).isSome then r.kept v
    else [r.refusal v]

theorem validateAndStore_reports (r : Reporter) (log : Bool) {v : Json}
    (hType : v.type = r.slot.setting.type) (s : ConfigState) :
    ∃ s₁, r.slot.entry.validateAndStore v log s = .ok (r.slot.setting.decode v).isSome s₁ ∧
      s₁.messages = s.messages ++
        logged log (if (r.slot.setting.decode v).isSome then r.kept v else [r.refusal v]) := by
  have hRun : ∃ s₁, r.slot.entry.validateAndStore v log s = .ok (r.slot.setting.decode v).isSome s₁ := by
    cases hDecode : r.slot.setting.decode v with
    | some a =>
      obtain ⟨s₁, hRun, -⟩ := r.slot.accepts v log s.config a hType hDecode s rfl
      exact ⟨s₁, hRun⟩
    | none =>
      obtain ⟨b, hYields⟩ := r.slot.rejects v log s.config hType hDecode
      obtain ⟨s₁, hRun, -⟩ := hYields s rfl
      exact ⟨s₁, hRun⟩
  obtain ⟨s₁, hRun⟩ := hRun
  obtain ⟨_, hOut, rfl⟩ := r.judges v log s _ s₁ hRun
  exact ⟨s₁, hRun, hOut⟩

theorem validateEntry_reports (r : Reporter) {log : Bool} {res res' : ParseResult} {s s' : ConfigState}
    (hRun : validateEntry log res r.slot.entry s = .ok res' s') :
    s'.messages = s.messages ++ logged log (r.reports s.config.current) := by
  obtain ⟨sd, hDefaultRun, -⟩ := r.slot.store_default s.config s rfl
  have hDefault : sd.messages = s.messages := r.silent.out_eq hDefaultRun
  cases hLookup : s.config.current.lookup r.slot.setting.pointer with
  | none =>
    simp only [validateEntry, Json.containsPointer, r.slot.pointer_eq, hLookup, bind_run, get_run,
      Option.isSome_none, Bool.false_eq_true, if_false, hDefaultRun, logMessage_run, pure_run] at hRun
    cases hRun
    rw [logged_messages, hDefault, reports, hLookup]
    rfl
  | some v =>
    have hIndex : s.config.current.indexPointer r.slot.setting.pointer s = .ok v s := by
      simp [Json.indexPointer, hLookup]
    by_cases hNull : v.isNull = true
    · simp only [validateEntry, Json.containsPointer, r.slot.pointer_eq, hLookup, hIndex, hNull, bind_run,
        get_run, Option.isSome_some, if_true, hDefaultRun, pure_run, ite_run] at hRun
      cases hRun
      cases log <;> simp [reports, hLookup, hNull, logged, hDefault]
    · by_cases hType : v.type = r.slot.setting.type
      · obtain ⟨s₁, hStore, hOut⟩ := r.validateAndStore_reports log hType s
        have hReports : r.reports s.config.current =
            if (r.slot.setting.decode v).isSome then r.kept v else [r.refusal v] := by
          simp [reports, hLookup, hNull, hType]
        rw [hReports, ← hOut]
        cases hDecode : r.slot.setting.decode v with
        | some a =>
          rw [hDecode] at hStore
          simp only [validateEntry, Json.containsPointer, r.slot.pointer_eq, r.slot.type_eq, hLookup, hIndex,
            hNull, hType, hStore, bind_run, get_run, ite_run, pure_run, Option.isSome_some, if_true,
            ne_eq, not_true_eq_false, Bool.not_true, Bool.false_eq_true, if_false] at hRun
          cases hRun
          rfl
        | none =>
          rw [hDecode] at hStore
          obtain ⟨s₂, hDefaultRun₂, -⟩ := r.slot.store_default s₁.config s₁ rfl
          simp only [validateEntry, Json.containsPointer, r.slot.pointer_eq, r.slot.type_eq, hLookup, hIndex,
            hNull, hType, hStore, hDefaultRun₂, bind_run, get_run, ite_run, pure_run, Option.isSome_some,
            Option.isSome_none, if_true, ne_eq, not_true_eq_false, Bool.not_false, Bool.false_eq_true,
            if_false] at hRun
          cases hRun
          exact r.silent.out_eq hDefaultRun₂
      · obtain ⟨s₂, hDefaultRun₂, -⟩ := r.slot.store_default s.config
          (s.logged log (mistyped r.slot.entry.pointerText v)) (logged_config _ _ _)
        have hReports : r.reports s.config.current = [mistyped r.slot.entry.pointerText v] := by
          simp [reports, hLookup, hNull, hType]
        rw [hReports, ← logged_messages]
        simp only [mistyped, rejection] at hDefaultRun₂
        simp only [validateEntry, Json.containsPointer, r.slot.pointer_eq, r.slot.type_eq, hLookup, hIndex,
          hNull, hType, hDefaultRun₂, logParseError_run, bind_run, get_run, ite_run, pure_run,
          Option.isSome_some, if_true, ne_eq, not_false_eq_true, Bool.false_eq_true, if_false] at hRun
        cases hRun
        exact r.silent.out_eq hDefaultRun₂

theorem validateLoop_reports (rs : List Reporter) (log : Bool) (res : ParseResult) (s : ConfigState) :
    ∃ res' s', (rs.map (·.slot.entry)).foldlM (validateEntry log) res s = .ok res' s' ∧
      s'.messages = s.messages ++ logged log (rs.flatMap (·.reports s.config.current)) := by
  induction rs generalizing res s with
  | nil => exact ⟨res, s, rfl, by cases log <;> exact (List.append_nil _).symm⟩
  | cons r rs ih =>
    obtain ⟨s₁, hEntry, hConfig⟩ := r.slot.validateEntry_yields log res s.config s rfl
    have hMessages := r.validateEntry_reports hEntry
    have hCurrent : s₁.config.current = s.config.current := by
      rw [hConfig]
      exact r.slot.current_frame _ _
    obtain ⟨res', s', hRun, hRest⟩ := ih _ s₁
    rw [hCurrent] at hRest
    refine ⟨res', s', ?_, ?_⟩
    · rw [List.map_cons, List.foldlM_cons, bind_run, hEntry]
      exact hRun
    · rw [hRest, hMessages, List.flatMap_cons, logged_append, List.append_assoc]

/-- Of what the log holds of one setting, a reader finds the setting exactly if its value was
rejected. -/
theorem reports_subjects (r : Reporter) (doc : Json) :
    (r.reports doc).filterMap LogMessage.subject? =
      if r.slot.setting.rejected doc then [r.slot.entry.pointerText] else [] := by
  unfold reports
  cases hLookup : doc.lookup r.slot.setting.pointer with
  | none => simp [Setting.rejected, hLookup, missing_subject]
  | some v =>
    cases hNull : v.isNull with
    | true => simp [Setting.rejected, hLookup, hNull]
    | false =>
      by_cases hType : v.type = r.slot.setting.type
      · cases hDecode : r.slot.setting.decode v with
        | some a =>
          have hNone : (r.kept v).filterMap LogMessage.subject? = [] :=
            List.filterMap_eq_nil_iff.mpr (r.kept_subject v)
          simp [Setting.rejected, hLookup, hNull, hType, hDecode, hNone]
        | none => simp [Setting.rejected, hLookup, hNull, hType, hDecode, r.refusal_subject]
      · simp [Setting.rejected, hLookup, hNull, hType, mistyped_subject]

theorem flatMap_reports_subjects (rs : List Reporter) (doc : Json) :
    (rs.flatMap (·.reports doc)).filterMap LogMessage.subject? =
      ((rs.map (·.slot)).filter (·.setting.rejected doc)).map (·.entry.pointerText) := by
  induction rs with
  | nil => rfl
  | cons r rs ih =>
    rw [List.flatMap_cons, List.filterMap_append, r.reports_subjects, ih]
    cases hRejected : r.slot.setting.rejected doc <;> simp [hRejected]

def plain (slot : Slot) (refusal : Json → LogMessage)
    (judges : ∀ v log, Judges log [] (refusal v) (slot.entry.validateAndStore v log))
    (silent : ConfigSilent slot.entry.storeDefault)
    (refusal_subject : ∀ v, (refusal v).subject? = some slot.entry.pointerText) : Reporter where
  slot := slot
  kept _ := []
  refusal := refusal
  judges := judges
  silent := silent
  kept_subject _ _ h := absurd h List.not_mem_nil
  refusal_subject := refusal_subject

theorem truncated_subject (key : String) (maxSize : Nat) (truncationAllowed : Bool) (v : Json) :
    ∀ m ∈ truncated key maxSize truncationAllowed v, m.subject? = none := by
  intro m hMem
  unfold truncated at hMem
  split at hMem
  · split at hMem
    · cases List.mem_singleton.mp hMem
      exact truncation_subject _ _ _
    · cases hMem
  · cases hMem

def cutting (slot : Slot) (key : String) (field : FieldRef BrokerConfig Bytes) (maxSize : Nat)
    (truncationAllowed : Bool) (store_eq : slot.entry.validateAndStore = fun v log =>
      validateAndStoreString (some key) v field maxSize log truncationAllowed)
    (silent : ConfigSilent slot.entry.storeDefault) (key_eq : slot.entry.pointerText = bytes key) :
    Reporter where
  slot := slot
  kept := truncated key maxSize truncationAllowed
  refusal := stringRefusal key maxSize
  judges v log := by
    rw [store_eq]
    exact validateAndStoreString_judges key v field maxSize truncationAllowed
  silent := silent
  kept_subject := truncated_subject key maxSize truncationAllowed
  refusal_subject v := by rw [stringRefusal_subject, key_eq]

end Reporter

def cidReporter (L : Libraries) : Reporter :=
  .plain (cidSlot L) cidRefusal (fun v _ => validateAndStoreCid_judges L v)
    (get_silent.bind fun _ => setField_silent _ _) cidRefusal_subject

def uidReporter : Reporter :=
  .plain uidSlot uidRefusal (fun v _ => validateAndStoreUid_judges v) (setField_silent _ _)
    uidRefusal_subject

def serviceInstanceNameReporter (L : Libraries) : Reporter :=
  .cutting (serviceInstanceNameSlot L) "/dns_sd/service_instance_name" Field.serviceInstanceName
    (L.e133ServiceNameStringPaddedLength - 1) true rfl
    ((getField_silent _).bind fun _ => setField_silent _ _) rfl

def manufacturerReporter (L : Libraries) : Reporter :=
  .cutting (manufacturerSlot L) "/dns_sd/manufacturer" Field.manufacturer
    (L.e133ManufacturerStringPaddedLength - 1) true rfl (setField_silent _ _) rfl

def modelReporter (L : Libraries) : Reporter :=
  .cutting (modelSlot L) "/dns_sd/model" Field.model (L.e133ModelStringPaddedLength - 1) true rfl
    (setField_silent _ _) rfl

def scopeReporter (L : Libraries) : Reporter :=
  .cutting (scopeSlot L) "/scope" Field.scope (L.e133ScopeStringPaddedLength - 1) false rfl
    (setField_silent _ _) rfl

def listenPortReporter : Reporter :=
  .plain listenPortSlot (intRefusal "/listen_port" (1024#16, 65535#16))
    (fun v _ => validateAndStoreInt_judges _ v _ _) (setField_silent _ _)
    fun v => intRefusal_subject (.inl rfl) _ v

def listenInterfacesReporter : Reporter :=
  .plain listenInterfacesSlot (fun _ => interfacesRefusal)
    (fun v _ => (getVector_silent v).bind fun xs => storeInterfaces_judges xs) (setField_silent _ _)
    fun _ => interfacesRefusal_subject

def logLevelReporter (L : Libraries) : Reporter :=
  .plain (logLevelSlot L) (fun _ => logLevelRefusal L) (fun v _ => validateAndStoreLogLevel_judges L v)
    (setField_silent _ _) fun _ => logLevelRefusal_subject L

/-- The field is no part of `current_`. -/
structure KeepsCurrent {α : Type} (field : FieldRef BrokerConfig α) : Prop where
  set_current : ∀ a c v, field.set a { c with current := v } = { field.set a c with current := v }
  get_current : ∀ c v, field.get { c with current := v } = field.get c

theorem KeepsCurrent.current_eq {α : Type} {field : FieldRef BrokerConfig α} (h : KeepsCurrent field)
    (a : α) (c : BrokerConfig) : (field.set a c).current = c.current := by
  have hSet := congrArg BrokerConfig.current (h.set_current a c c.current)
  exact hSet

def limitReporter (name : String) (field : FieldRef BrokerConfig (BitVec 32)) (default : BitVec 32)
    (h : KeepsCurrent field) : Reporter :=
  .plain (limitSlot name field default h.current_eq) (intRefusal ("/" ++ name) (0, BitVec.allOnes 32))
    (fun v _ => validateAndStoreInt_judges _ v _ _) (setField_silent _ _) fun v => by
      rw [intRefusal_subject (.inr rfl), bytes_append]
      simp [limitSlot, intSlot, Slot.ofYields, intEntry, Validator.pointerText]

/-- A boolean is always taken, so the message is never given. -/
def enableBrokerReporter : Reporter :=
  .plain enableBrokerSlot (mistyped (bytes "/enable_broker"))
    (fun v _ => (getBool_silent v).bind fun _ => judges_take _ _)
    (setField_silent _ _) fun v => mistyped_subject _ v

def reporters (L : Libraries) : List Reporter :=
  [cidReporter L, uidReporter, serviceInstanceNameReporter L, manufacturerReporter L, modelReporter L,
    scopeReporter L, listenPortReporter, listenInterfacesReporter, logLevelReporter L,
    limitReporter "max_connections" Field.connections 0 ⟨fun _ _ _ => rfl, fun _ _ => rfl⟩,
    limitReporter "max_controllers" Field.controllers 0 ⟨fun _ _ _ => rfl, fun _ _ => rfl⟩,
    limitReporter "max_controller_messages" Field.controllerMessages 500 ⟨fun _ _ _ => rfl, fun _ _ => rfl⟩,
    limitReporter "max_devices" Field.devices 0 ⟨fun _ _ _ => rfl, fun _ _ => rfl⟩,
    limitReporter "max_device_messages" Field.deviceMessages 500 ⟨fun _ _ _ => rfl, fun _ _ => rfl⟩,
    limitReporter "max_reject_connections" Field.rejectConnections 1000 ⟨fun _ _ _ => rfl, fun _ _ => rfl⟩,
    enableBrokerReporter]

theorem reporters_slots (L : Libraries) : (reporters L).map (·.slot) = slots L := rfl

/-- The messages of a read account for the document, setting by setting and in the order of the
table; they name the settings whose value was rejected, and no others, and the result was
`kInvalidSetting` if there are any. -/
structure ReadReport (L : Libraries) (doc : Json) (res : ParseResult) (ms : List LogMessage) : Prop where
  accounted : ms = (reporters L).flatMap (·.reports doc)
  named : ms.filterMap LogMessage.subject? =
    ((slots L).filter (·.setting.rejected doc)).map (·.entry.pointerText)
  verdict : res = .invalidSetting ↔ ∃ m ∈ ms, m.subject?.isSome = true

theorem documentResult_eq_invalidSetting_iff (L : Libraries) (doc : Json) :
    documentResult L doc = .invalidSetting ↔ (slots L).filter (·.setting.rejected doc) ≠ [] := by
  have hAny : (Setting.all L).any (·.rejected doc) = (slots L).any (·.setting.rejected doc) := by
    rw [← slots_settings, List.any_map]
    exact congrArg (slots L).any (funext fun slot => Slot.rejected_erase slot.setting doc)
  rw [documentResult, hAny, Ne, List.filter_eq_nil_iff]
  simp

theorem readReport (L : Libraries) (doc : Json) :
    ReadReport L doc (documentResult L doc) ((reporters L).flatMap (·.reports doc)) := by
  have hNamed : ((reporters L).flatMap (·.reports doc)).filterMap LogMessage.subject? =
      ((slots L).filter (·.setting.rejected doc)).map (·.entry.pointerText) :=
    Reporter.flatMap_reports_subjects (reporters L) doc
  have hNone : ((reporters L).flatMap (·.reports doc)).filterMap LogMessage.subject? = [] ↔
      (slots L).filter (·.setting.rejected doc) = [] := by
    rw [hNamed, List.map_eq_nil_iff]
  refine ⟨rfl, hNamed, ?_⟩
  rw [documentResult_eq_invalidSetting_iff, Ne, ← hNone, List.filterMap_eq_nil_iff]
  simp only [not_forall, exists_prop, Option.isSome_iff_ne_none, ne_eq]

theorem validateCurrent_reports (L : Libraries) (log : Bool) (s : ConfigState)
    (hObject : s.config.current.isObject = true) :
    ∃ res s' ms, validateCurrent L log s = .ok res s' ∧ s'.messages = s.messages ++ logged log ms ∧
      ReadReport L s.config.current res ms := by
  obtain ⟨res, s', hLoop, hMessages⟩ := Reporter.validateLoop_reports (reporters L) log .ok s
  have hRun : validateCurrent L log s = .ok res s' := by
    simp only [validateCurrent, validateCurrentWith, bind_run, get_run, hObject, Bool.not_true,
      Bool.false_eq_true, if_false]
    exact hLoop
  obtain ⟨s₁, hYields, -⟩ := validateCurrent_yields_store L log s.config hObject s rfl
  have hResult : res = documentResult L s.config.current := by
    rw [hRun] at hYields
    cases hYields
    rfl
  subst hResult
  exact ⟨_, s', _, hRun, hMessages, readReport L s.config.current⟩

theorem read_reports (L : Libraries) (stream : Bytes) (log : Bool) (s : ConfigState) (doc : Json)
    (rest : Bytes) (hExtract : L.extract stream = .value doc rest) (hObject : doc.isObject = true) :
    ∃ res s' ms, read L stream log s = .ok res s' ∧ s'.messages = s.messages ++ logged log ms ∧
      ReadReport L doc res ms := by
  obtain ⟨res, s', ms, hRun, hMessages, hReport⟩ :=
    validateCurrent_reports L log ⟨{ s.config with current := doc }, s.messages⟩ hObject
  refine ⟨res, s', ms, ?_, hMessages, hReport⟩
  simp [read, extractCurrent, hExtract, hRun]

/-- A port below the range and a scope that is taken: one notice, about the port. -/
theorem read_reports_sample : ∃ res s' ms,
    read .sample (bytes "\x7b\"scope\": \"stage\", \"listen_port\": 80\x7d") true ⟨sampleConfig, []⟩ =
        .ok res s' ∧ s'.messages = [] ++ logged true ms ∧
      ReadReport .sample (.object [(bytes "listen_port", .numberUnsigned 80#64),
        (bytes "scope", .string (bytes "stage"))]) res ms ∧
      ms.filterMap LogMessage.subject? = [bytes "/listen_port"] := by
  obtain ⟨res, s', ms, hRun, hMessages, hReport⟩ := read_reports .sample
    (bytes "\x7b\"scope\": \"stage\", \"listen_port\": 80\x7d") true ⟨sampleConfig, []⟩ _ [] rfl rfl
  refine ⟨res, s', ms, hRun, hMessages, hReport, ?_⟩
  rw [hReport.named]
  decide +kernel

theorem setDefaults_silent (L : Libraries) : ConfigSilent (setDefaults L) := by
  have hTable : ∀ rs : List Reporter, ConfigSilent (setDefaultsFrom (rs.map (·.slot.entry))) := by
    intro rs
    induction rs with
    | nil => exact .pure rfl
    | cons r rs ih => exact r.silent.bind fun _ => ih
  exact hTable (reporters L)

theorem setDefaults_run (L : Libraries) (s : ConfigState) :
    setDefaults L s = .ok () ⟨defaultConfig L s.config, s.messages⟩ := by
  obtain ⟨s₀, hRun, hConfig⟩ := setDefaults_yields L s.config s rfl
  rw [hRun, ← hConfig, ← (setDefaults_silent L).out_eq hRun]

def openingNotice (file : ConfFile) : LogMessage :=
  if file.path.isEmpty then ⟨.notice, "Error opening configuration file.", []⟩
  else ⟨.notice, "Error opening configuration file located at path \"%s\".", [.str file.path]⟩

def readingInfo (file : ConfFile) : LogMessage :=
  ⟨.info, "Reading configuration file at %s...", [.str file.path]⟩

def parseNotice (e : JsonException) : LogMessage :=
  ⟨.notice, "Could not parse configuration file: %s", [.str e.what]⟩

def openingLog (file : ConfFile) : List LogMessage :=
  if file.content.isNone then [openingNotice file] else []

/-- What the log holds of a text that is not that of an object: nothing, but for a parse error. -/
def parseLog (L : Libraries) (file : ConfFile) : List LogMessage :=
  match L.extract (file.content.getD []) with
  | .value _ _ => []
  | .throws e _ => if e.kind = .parseError then [parseNotice e] else []

/-- The log of a load that finds no document. -/
def noDocumentLog (L : Libraries) (file : ConfFile) : List LogMessage :=
  openingLog file ++ readingInfo file :: parseLog L file

theorem checkOpen_run (file : ConfFile) (s : ConfigState) :
    checkOpen file s = .ok () ⟨if file.content.isNone then Field.enableBroker.set false s.config
      else s.config, s.messages ++ openingLog file⟩ := by
  cases hContent : file.content with
  | some text => simp [checkOpen, openingLog, hContent]
  | none =>
    cases hPath : file.path.isEmpty <;>
      simp [checkOpen, openingLog, openingNotice, hContent, hPath, ConfigState.logged]

/-- A load of a file that gives no document: how it ends, what it leaves of `enable_broker`, and
the whole of what it logs. -/
structure NoDocument (L : Libraries) (file : ConfFile) (s : ConfigState) : Prop where
  returns : fileEscapes L file = false → ∃ s', loadBrokerConfig L file s = .ok () s' ∧
    s'.config.enableBroker = false ∧ s'.messages = s.messages ++ noDocumentLog L file
  escapes : fileEscapes L file = true → ∃ e s', loadBrokerConfig L file s = .error e s' ∧
    s'.config.enableBroker = file.content.isSome ∧ s'.messages = s.messages ++ noDocumentLog L file
  noticed : (∃ m ∈ noDocumentLog L file, m.priority = .notice) ↔
    file.content = none ∨ (L.extract (file.content.getD [])).throwsKind .parseError

theorem noDocumentLog_notice_iff (L : Libraries) (file : ConfFile) :
    (∃ m ∈ noDocumentLog L file, m.priority = .notice) ↔
      file.content = none ∨ (L.extract (file.content.getD [])).throwsKind .parseError := by
  have hOpening : (∃ m ∈ openingLog file, m.priority = .notice) ↔ file.content = none := by
    cases hContent : file.content with
    | some text => simp [openingLog, hContent]
    | none => cases hPath : file.path.isEmpty <;> simp [openingLog, openingNotice, hContent, hPath]
  have hParse : (∃ m ∈ parseLog L file, m.priority = .notice) ↔
      (L.extract (file.content.getD [])).throwsKind .parseError := by
    cases hExtract : L.extract (file.content.getD []) with
    | value v rest => simp [parseLog, hExtract, Extraction.throwsKind]
    | throws e v =>
      obtain ⟨kind, what⟩ := e
      by_cases hKind : kind = .parseError <;>
        simp [parseLog, parseNotice, hExtract, Extraction.throwsKind, hKind]
  have hInfo : (readingInfo file).priority ≠ .notice := nofun
  rw [← hOpening, ← hParse]
  simp [noDocumentLog, or_and_right, exists_or, hInfo]

/-- The state in which a load reads the text. -/
def readingState (L : Libraries) (file : ConfFile) (s : ConfigState) : ConfigState where
  config :=
    if file.content.isNone then Field.enableBroker.set false (defaultConfig L s.config)
    else defaultConfig L s.config
  messages := s.messages ++ openingLog file ++ [readingInfo file]

theorem loadBrokerConfig_run (L : Libraries) (file : ConfFile) (s : ConfigState) :
    loadBrokerConfig L file s = (do
      let parseRes ← read L (file.content.getD []) true
      if parseRes ≠ ParseResult.ok ∧ parseRes ≠ ParseResult.invalidSetting then
        setField Field.enableBroker false : ConfigM Unit) (readingState L file s) := by
  simp only [loadBrokerConfig, loadFrom, bind_run, setDefaults_run, checkOpen_run, logMessage_run,
    ConfigState.logged, if_true, readingState, readingInfo]

theorem readingState_enableBroker (L : Libraries) (file : ConfFile) (s : ConfigState) :
    (readingState L file s).config.enableBroker = file.content.isSome := by
  unfold readingState
  cases file.content <;> rfl

/-- Whenever the file gives no JSON object, the broker is turned off and the log holds what
`noDocumentLog` says, unless the library throws what `Read` does not catch. -/
theorem load_off_noticed_iff (L : Libraries) (file : ConfFile) (s : ConfigState)
    (hDocument : fileDocument? L file = none) : NoDocument L file s := by
  refine ⟨fun hReturns => ?_, fun hEscapes => ?_, noDocumentLog_notice_iff L file⟩
  · rw [loadBrokerConfig_run]
    cases hExtract : L.extract (file.content.getD []) with
    | value v rest =>
      have hObject : v.isObject = false := by simpa [fileDocument?, hExtract] using hDocument
      simp [read, extractCurrent, hExtract, validateCurrent, validateCurrentWith, hObject, noDocumentLog,
        parseLog, readingState, Field.enableBroker]
    | throws e v =>
      have hKind : e.kind = .parseError := by simpa [fileEscapes, hExtract] using hReturns
      simp [read, extractCurrent, hExtract, catchParseError, hKind, ConfigState.logged, noDocumentLog,
        parseLog, parseNotice, readingState, Field.enableBroker]
  · cases hExtract : L.extract (file.content.getD []) with
    | value v rest => simp [fileEscapes, hExtract] at hEscapes
    | throws e v =>
      have hKind : e.kind ≠ .parseError := by simpa [fileEscapes, hExtract] using hEscapes
      have hCatch : catchParseError true e = throw e := by
        unfold catchParseError
        split
        · contradiction
        · rfl
      refine ⟨e, ⟨{ (readingState L file s).config with current := v }, (readingState L file s).messages⟩,
        ?_, readingState_enableBroker L file s, ?_⟩
      · rw [loadBrokerConfig_run]
        simp [read, extractCurrent, hExtract, hCatch]
      · simp [readingState, noDocumentLog, parseLog, hExtract, hKind]

/-- Libraries that know one more text, that of an empty array. -/
def arrayLibraries : Libraries :=
  { Libraries.sample with
    extract := fun text =>
      if text = bytes "[]" then .value (.array []) [] else Libraries.sample.extract text }

/-- An array turns the broker off and an overflowing number leaves it on, both without a notice. -/
theorem load_off_unnoticed : NoDocument arrayLibraries (sampleFile "[]") ⟨sampleConfig, []⟩ ∧
    NoDocument .sample (sampleFile "\x7b\"listen_port\": 1e999\x7d") ⟨sampleConfig, []⟩ ∧
      (∀ m ∈ noDocumentLog arrayLibraries (sampleFile "[]"), m.priority ≠ .notice) ∧
      ∀ m ∈ noDocumentLog .sample (sampleFile "\x7b\"listen_port\": 1e999\x7d"), m.priority ≠ .notice :=
  ⟨load_off_noticed_iff _ _ _ rfl, load_off_noticed_iff _ _ _ rfl, by decide, by decide⟩

end RdmnetBroker
