import RdmnetBroker.Config.Table

/-! # The meaning of a load

`ValidateCurrent`, `Read` and `LoadBrokerConfig` from every prior
configuration. A load leaves settings that depend on the document and on
`defaultCid` alone; a read appends to the list of interfaces that it finds.
-/

namespace RdmnetBroker

open Library

set_option autoImplicit false

def documentConfig (L : Libraries) (doc : Json) (c : BrokerConfig) : BrokerConfig :=
  { c with
    settings := documentSettings L c.defaultCid doc
    logMask := documentLogMask L doc
    enableBroker := documentEnableBroker doc }

def defaultConfig (L : Libraries) (c : BrokerConfig) : BrokerConfig :=
  { c with
    settings := defaultSettings L c.defaultCid
    logMask := L.logUpto .info
    enableBroker := true }

theorem setDefaults_yields (L : Libraries) (c : BrokerConfig) :
    ConfigYields (setDefaults L) c () (defaultConfig L c) :=
  Slot.defaultLoop_yields (slots L) c

theorem getD_eq_elim {α : Type} (o : Option α) (d : α) : o.getD d = o.elim d fun a => a := by
  cases o <;> rfl

/-- The interfaces after a document that is read on top of `interfaces`. -/
def appendInterfaces (interfaces : List Bytes) (doc : Json) : List Bytes :=
  (Setting.listenInterfaces.configured doc).elim [] (interfaces ++ ·)

/-- The slots store the settings of the document, but append to the interfaces. -/
theorem slots_store_append (L : Libraries) (doc : Json) (c : BrokerConfig) :
    (slots L).foldl (fun c slot => slot.store doc c) c =
      Field.listenInterfaces.set (appendInterfaces c.settings.listenInterfaces doc)
        (documentConfig L doc c) := by
  simp only [documentConfig, documentSettings, documentLogMask, documentEnableBroker, getD_eq_elim]
  rfl

theorem slots_store (L : Libraries) (doc : Json) (c : BrokerConfig)
    (hEmpty : c.settings.listenInterfaces = []) :
    (slots L).foldl (fun c slot => slot.store doc c) c = documentConfig L doc c := by
  have hInterfaces : appendInterfaces c.settings.listenInterfaces doc =
      Field.listenInterfaces.get (documentConfig L doc c) := by
    rw [appendInterfaces, hEmpty]
    exact (getD_eq_elim _ _).symm
  rw [slots_store_append, hInterfaces, FieldRef.set_get]

theorem validateCurrentWith_yields_store (slots : List Slot) (log : Bool) (c : BrokerConfig)
    (hObject : c.current.isObject = true) :
    ConfigYields (validateCurrentWith (slots.map (·.entry)) log) c
      (if (slots.map (·.setting.erase)).any (·.rejected c.current) then .invalidSetting else .ok)
      (slots.foldl (fun c' slot => slot.store c.current c') c) := by
  have hLoop := Slot.validateLoop_yields slots log c.current .ok c rfl
  rintro s rfl
  obtain ⟨s', hRun, hConfig⟩ := hLoop s rfl
  exact ⟨s', by simpa [validateCurrentWith, hObject] using hRun, hConfig⟩

theorem validateCurrent_yields_store (L : Libraries) (log : Bool) (c : BrokerConfig)
    (hObject : c.current.isObject = true) :
    ConfigYields (validateCurrent L log) c (documentResult L c.current)
      ((slots L).foldl (fun c' slot => slot.store c.current c') c) :=
  validateCurrentWith_yields_store (slots L) log c hObject

theorem validateCurrent_yields (L : Libraries) (log : Bool) (c : BrokerConfig)
    (hObject : c.current.isObject = true) (hEmpty : c.settings.listenInterfaces = []) :
    ConfigYields (validateCurrent L log) c (documentResult L c.current)
      (documentConfig L c.current c) := by
  have h := validateCurrent_yields_store L log c hObject
  rwa [slots_store L c.current c hEmpty] at h

theorem validateCurrent_yields_of_not_object (L : Libraries) (log : Bool) (c : BrokerConfig)
    (hObject : c.current.isObject = false) :
    ConfigYields (validateCurrent L log) c .jsonParseErr c := by
  rintro s rfl
  exact ⟨s, by simp [validateCurrent, validateCurrentWith, hObject], rfl⟩

theorem documentResult_ne_jsonParseErr (L : Libraries) (doc : Json) :
    documentResult L doc ≠ .jsonParseErr := by
  unfold documentResult
  split <;> nofun

theorem validateCurrent_returns (L : Libraries) (log : Bool) (c : BrokerConfig) :
    ∃ res c', ConfigYields (validateCurrent L log) c res c' ∧ (res = .jsonParseErr → c' = c) := by
  cases hObject : c.current.isObject with
  | false => exact ⟨_, _, validateCurrent_yields_of_not_object L log c hObject, fun _ => rfl⟩
  | true =>
    exact ⟨_, _, validateCurrent_yields_store L log c hObject,
      fun hRes => absurd hRes (documentResult_ne_jsonParseErr L c.current)⟩

@[simp] theorem throw_run {α : Type} (e : JsonException) (s : ConfigState) :
    (throw e : ConfigM α) s = .error e s := rfl

@[simp] theorem tryCatch_run {α : Type} (m : ConfigM α) (handler : JsonException → ConfigM α)
    (s : ConfigState) :
    (tryCatch m handler : ConfigM α) s = match m s with
      | .ok a s' => .ok a s'
      | .error e s' => handler e s' := by
  change EStateM.tryCatch m handler s = _
  unfold EStateM.tryCatch
  cases m s <;> rfl

section Read

variable {L : Libraries} {stream : Bytes} {log : Bool} {c : BrokerConfig}

theorem read_yields_of_value {v : Json} {rest : Bytes} (hExtract : L.extract stream = .value v rest)
    {res : ParseResult} {c' : BrokerConfig}
    (h : ConfigYields (validateCurrent L log) { c with current := v } res c') :
    ConfigYields (read L stream log) c res c' := by
  rintro s rfl
  obtain ⟨s', hRun, hConfig⟩ := h ⟨{ s.config with current := v }, s.messages⟩ rfl
  exact ⟨s', by simp [read, extractCurrent, hExtract, hRun], hConfig⟩

theorem read_yields_of_not_object {v : Json} {rest : Bytes} (hExtract : L.extract stream = .value v rest)
    (hObject : v.isObject = false) :
    ConfigYields (read L stream log) c .jsonParseErr { c with current := v } :=
  read_yields_of_value hExtract (validateCurrent_yields_of_not_object L log { c with current := v } hObject)

theorem read_yields_of_parseError {e : JsonException} {v : Json}
    (hExtract : L.extract stream = .throws e v) (hKind : e.kind = .parseError) :
    ConfigYields (read L stream log) c .jsonParseErr { c with current := v } := by
  rintro s rfl
  simp [read, extractCurrent, hExtract, catchParseError, hKind, throw_run]

theorem read_throws {e : JsonException} {v : Json}
    (hExtract : L.extract stream = .throws e v) (hKind : e.kind ≠ .parseError) :
    Throws ConfigState.config (read L stream log) c e { c with current := v } := by
  rintro s rfl
  have hCatch : catchParseError log e = throw e := by
    unfold catchParseError
    split
    · contradiction
    · rfl
  simp [read, extractCurrent, hExtract, hCatch, throw_run]

end Read

theorem ConfigYields.not_throws {α : Type} {m : ConfigM α} {c c₁ c₂ : BrokerConfig} {a : α}
    {e : JsonException} (h : ConfigYields m c a c₁) : ¬ Throws ConfigState.config m c e c₂ := by
  intro hThrows
  obtain ⟨s₁, hRun₁, _⟩ := h ⟨c, []⟩ rfl
  obtain ⟨s₂, hRun₂, _⟩ := hThrows ⟨c, []⟩ rfl
  cases hRun₁.symm.trans hRun₂

/-- The document that a load reads, if the text is that of an object. An unopened
file reads as an empty text. -/
def fileDocument? (L : Libraries) (file : ConfFile) : Option Json :=
  match L.extract (file.content.getD []) with
  | .value doc _ => if doc.isObject then some doc else none
  | .throws _ _ => none

/-- The text makes the JSON library throw what `Read` does not catch. -/
def fileEscapes (L : Libraries) (file : ConfFile) : Bool :=
  match L.extract (file.content.getD []) with
  | .value _ _ => false
  | .throws e _ => e.kind != .parseError

def fileSettings (L : Libraries) (defaultCid : Uuid) (file : ConfFile) : Settings :=
  (fileDocument? L file).elim (defaultSettings L defaultCid) (documentSettings L defaultCid)

def fileLogMask (L : Libraries) (file : ConfFile) : Int :=
  (fileDocument? L file).elim (L.logUpto .info) (documentLogMask L)

def fileEnableBroker (L : Libraries) (file : ConfFile) : Bool :=
  (fileDocument? L file).elim false documentEnableBroker

def fileCurrent (L : Libraries) (file : ConfFile) : Json :=
  match L.extract (file.content.getD []) with
  | .value v _ => v
  | .throws _ v => v

def fileConfig (L : Libraries) (file : ConfFile) (c : BrokerConfig) : BrokerConfig where
  settings := fileSettings L c.defaultCid file
  logMask := fileLogMask L file
  enableBroker := fileEnableBroker L file
  current := fileCurrent L file
  defaultCid := c.defaultCid

section Load

variable {L : Libraries} {file : ConfFile} {c : BrokerConfig}

theorem read_yields_of_load (hInterfaces : c.settings.listenInterfaces = [])
    (hEscapes : fileEscapes L file = false) :
    ConfigYields (read L (file.content.getD []) true) c
      ((fileDocument? L file).elim .jsonParseErr (documentResult L))
      ((fileDocument? L file).elim { c with current := fileCurrent L file }
        fun doc => documentConfig L doc { c with current := doc }) := by
  cases hExtract : L.extract (file.content.getD []) with
  | value v rest =>
    cases hObject : v.isObject with
    | true =>
      simp only [fileDocument?, hExtract, hObject, if_true, Option.elim]
      exact read_yields_of_value hExtract
        (validateCurrent_yields L true { c with current := v } hObject hInterfaces)
    | false =>
      simp only [fileDocument?, fileCurrent, hExtract, hObject, Bool.false_eq_true, if_false, Option.elim]
      exact read_yields_of_not_object hExtract hObject
  | throws e v =>
    have hKind : e.kind = .parseError := by simpa [fileEscapes, hExtract] using hEscapes
    simp only [fileDocument?, fileCurrent, hExtract, Option.elim]
    exact read_yields_of_parseError hExtract hKind

theorem checkOpen_yields (file : ConfFile) (c : BrokerConfig) :
    ConfigYields (checkOpen file) c ()
      (if file.content.isNone then Field.enableBroker.set false c else c) := by
  rintro s rfl
  cases hContent : file.content with
  | some text => simp [checkOpen, hContent]
  | none => cases hPath : file.path.isEmpty <;> simp [checkOpen, hContent, hPath]

theorem logMessage_yields (log : Bool) (priority : LogPriority) (format : String) (args : List LogArg)
    (c : BrokerConfig) : ConfigYields (logMessage log priority format args) c () c := by
  rintro s rfl
  exact ⟨_, logMessage_run s log priority format args, logged_config s log _⟩

theorem documentResult_cases (L : Libraries) (doc : Json) :
    ¬ (documentResult L doc ≠ .ok ∧ documentResult L doc ≠ .invalidSetting) := by
  unfold documentResult
  split <;> simp

theorem fileCurrent_of_document {doc : Json} (h : fileDocument? L file = some doc) :
    fileCurrent L file = doc := by
  unfold fileDocument? at h
  unfold fileCurrent
  split at h
  · split at h
    · exact Option.some.inj h
    · cases h
  · cases h

theorem loadFrom_yields (hDefault : defaultConfig L c = c) (hEscapes : fileEscapes L file = false) :
    ConfigYields (loadFrom L file) c () (fileConfig L file c) := by
  obtain ⟨c₁, hOpen, hSettings, hMask, hCid⟩ : ∃ c₁, ConfigYields (checkOpen file) c () c₁ ∧
      c₁.settings = defaultSettings L c.defaultCid ∧ c₁.logMask = L.logUpto .info ∧
      c₁.defaultCid = c.defaultCid := by
    refine ⟨_, checkOpen_yields file c, ?_⟩
    rw [← hDefault]
    split <;> exact ⟨rfl, rfl, rfl⟩
  have hRead := read_yields_of_load (by rw [hSettings]; rfl) hEscapes
  refine hOpen.bind ((logMessage_yields _ _ _ _ c₁).bind (hRead.bind ?_))
  cases hDoc : fileDocument? L file with
  | none =>
    have hFile : fileConfig L file c =
        Field.enableBroker.set false { c₁ with current := fileCurrent L file } := by
      simp [fileConfig, fileSettings, fileLogMask, fileEnableBroker, hDoc, Field.enableBroker, hSettings,
        hMask, hCid]
    rw [hFile]
    exact setField_yields Field.enableBroker false _
  | some doc =>
    have hFile : fileConfig L file c = documentConfig L doc { c₁ with current := doc } := by
      simp [fileConfig, fileSettings, fileLogMask, fileEnableBroker, hDoc, documentConfig, hCid,
        fileCurrent_of_document hDoc]
    rw [hFile]
    simp only [Option.elim, documentResult_cases, if_false]
    exact Yields.pure ()

theorem loadFrom_throws (hEscapes : fileEscapes L file = true) :
    ∃ e c', Throws ConfigState.config (loadFrom L file) c e c' ∧ c'.defaultCid = c.defaultCid := by
  cases hExtract : L.extract (file.content.getD []) with
  | value v rest => simp [fileEscapes, hExtract] at hEscapes
  | throws e v =>
    have hKind : e.kind ≠ .parseError := by simpa [fileEscapes, hExtract] using hEscapes
    refine ⟨e, _, .bind (checkOpen_yields file c) (.bind (logMessage_yields _ _ _ _ _)
      (Throws.bind_left (read_throws hExtract hKind))), ?_⟩
    cases file.content <;> rfl

theorem loadBrokerConfig_yields (hEscapes : fileEscapes L file = false) :
    ConfigYields (loadBrokerConfig L file) c () (fileConfig L file c) :=
  (setDefaults_yields L c).bind (loadFrom_yields rfl hEscapes)

end Load

end RdmnetBroker
