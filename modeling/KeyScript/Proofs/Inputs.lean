import KeyScript.Report

/-!
What a request takes from outside. For its settings it reads one file or none, and for its text it
has its own, or reads one file, or else standard input. Nothing else can matter: requests that are
given the same have the same settings, the same text and the same outcome, whatever the files are
called and whatever else could be read.
-/

namespace KeyScript

theorem decodeText_toUTF8 (content : String) : decodeText content.toUTF8 = .ok content := by
  have hdecode : String.fromUTF8? content.toUTF8 = some content := by
    rw [String.fromUTF8?, String.toUTF8_eq_toByteArray, dif_pos content.isValidUTF8]
    rfl
  rw [decodeText, hdecode]

/-! ### Settings -/

/-- What the bytes of a settings file give, or what there is without one. -/
def Settings.load : Option (Except ReadFault ByteArray) → Except Failure Settings
  | none => .ok {}
  | some bytes => ((bytes.bind decodeText).mapError .reading).bind
      fun content => (ofDocument content.toList).mapError .settings

/-- The settings that the input gives before a request puts its own into them: the defaults, or
those that the file describes and that pass the check by themselves. -/
inductive Settings.Given (input : Option (Except ReadFault ByteArray)) : Settings → Prop
  | defaults (hinput : input = none) : Given input {}
  | described {bytes : Except ReadFault ByteArray} {content : String} {settings : Settings}
      (hinput : input = some bytes) (hread : bytes.bind decodeText = .ok content)
      (hdocument : (Json.parse? content.toList).bind ofJson? = some settings)
      (hcheck : settings.validate = .ok ()) : Given input settings

/-- What is wrong with the input if it gives no settings: its bytes cannot be read as a text, or the
document that they hold is refused by itself. -/
inductive Settings.Refused (input : Option (Except ReadFault ByteArray)) : Failure → Prop
  | unread {bytes : Except ReadFault ByteArray} {fault : ReadFault} (hinput : input = some bytes)
      (hread : bytes.bind decodeText = .error fault) : Refused input (.reading fault)
  | document {bytes : Except ReadFault ByteArray} {content : String} {fault : Fault}
      (hinput : input = some bytes) (hread : bytes.bind decodeText = .ok content)
      (hdocument : ofDocument content.toList = .error fault) : Refused input (.settings fault)

namespace Settings

variable {input : Option (Except ReadFault ByteArray)} {base : Settings} {failure : Failure}

theorem load_of_read {bytes : Except ReadFault ByteArray} {content : String}
    (hread : bytes.bind decodeText = .ok content) :
    load (some bytes) = (ofDocument content.toList).mapError .settings := by
  rw [load, hread]
  rfl

theorem Given.load_eq (hbase : Given input base) : load input = .ok base := by
  cases hbase with
  | defaults hinput => rw [hinput, load]
  | described hinput hread hdocument hcheck =>
      rw [hinput, load_of_read hread, ofDocument_of_validate_eq_ok hdocument hcheck]
      rfl

theorem Refused.load_eq (hrefused : Refused input failure) : load input = .error failure := by
  cases hrefused with
  | unread hinput hread =>
      rw [hinput, load, hread]
      rfl
  | document hinput hread hdocument =>
      rw [hinput, load_of_read hread, hdocument]
      rfl

/-- Every input gives settings or is refused. -/
theorem given_or_refused (input : Option (Except ReadFault ByteArray)) :
    (∃ base, Given input base) ∨ ∃ failure, Refused input failure := by
  cases input with
  | none => exact Or.inl ⟨_, .defaults rfl⟩
  | some bytes =>
      cases hread : bytes.bind decodeText with
      | error fault => exact Or.inr ⟨_, .unread rfl hread⟩
      | ok content =>
          cases hdocument : ofDocument content.toList with
          | error fault => exact Or.inr ⟨_, .document rfl hread hdocument⟩
          | ok settings =>
              obtain ⟨hdescribed, hcheck⟩ := ofDocument_eq_ok_iff.mp hdocument
              exact Or.inl ⟨_, .described rfl hread hdescribed hcheck⟩

theorem load_eq_ok_iff : load input = .ok base ↔ Given input base := by
  refine ⟨fun hload => ?_, Given.load_eq⟩
  rcases given_or_refused input with ⟨other, hother⟩ | ⟨failure, hrefused⟩
  · cases hother.load_eq.symm.trans hload
    exact hother
  · cases hrefused.load_eq.symm.trans hload

theorem load_eq_error_iff : load input = .error failure ↔ Refused input failure := by
  refine ⟨fun hload => ?_, Refused.load_eq⟩
  rcases given_or_refused input with ⟨base, hbase⟩ | ⟨other, hother⟩
  · cases hbase.load_eq.symm.trans hload
  · cases hother.load_eq.symm.trans hload
    exact hother

end Settings

/-! ### Text -/

/-- Where a text comes from: the request itself, or bytes that are read. -/
inductive TextInput
  | given (text : String)
  | read (bytes : Except ReadFault ByteArray)

namespace TextInput

def load : TextInput → Except Failure String
  | .given text => .ok text
  | .read bytes => ((bytes.bind decodeText).mapError .reading).map
      fun content => String.ofList (dropLineEnd content.toList)

/-- A text of the request is the text as it is, and one that is read loses its last line end. -/
def Gives (text : String) : TextInput → Prop
  | .given own => text = own
  | .read bytes => ∃ content,
      bytes.bind decodeText = .ok content ∧ text = String.ofList (dropLineEnd content.toList)

theorem load_eq_ok_iff {input : TextInput} {text : String} :
    input.load = .ok text ↔ input.Gives text := by
  cases input with
  | given own =>
      rw [load, Gives, Except.ok.injEq]
      exact eq_comm
  | read bytes =>
      rw [load, Gives]
      cases bytes.bind decodeText with
      | error fault =>
          show Except.error (Failure.reading fault) = .ok text ↔ _
          simp
      | ok content =>
          show Except.ok (String.ofList (dropLineEnd content.toList)) = .ok text ↔ _
          simp [eq_comm]

end TextInput

/-! ### Requests -/

namespace Request

/-- The bytes of the settings file, if the request names one. -/
def settingsInput (request : Request) (sources : Sources) :
    Option (Except ReadFault ByteArray) :=
  request.config.map sources.file

def textInput (request : Request) (sources : Sources) : TextInput :=
  match request.text, request.textFile with
  | some text, _ => .given text
  | none, some path => .read (sources.file path)
  | none, none => .read sources.stdin

/-- The settings that the session is run under. -/
def HasSettings (request : Request) (sources : Sources) (settings : Settings) : Prop :=
  ∃ base, Settings.Given (request.settingsInput sources) base ∧ settings = request.override base ∧
    settings.validate = .ok ()

variable {request other : Request} {sources others : Sources}

theorem settings_eq_bind_load :
    request.settings sources = (Settings.load (request.settingsInput sources)).bind fun base =>
      ((request.override base).validate.mapError .settings).map fun _ => request.override base := by
  rw [settings, fileSettings, settingsInput]
  cases request.config <;> rfl

theorem settings_eq_override {base : Settings}
    (hload : Settings.load (request.settingsInput sources) = .ok base)
    (hcheck : (request.override base).validate = .ok ()) :
    request.settings sources = .ok (request.override base) := by
  rw [settings_eq_bind_load, hload, Except.bind, hcheck]
  rfl

theorem HasSettings.settings_eq {settings : Settings}
    (hsettings : request.HasSettings sources settings) :
    request.settings sources = .ok settings := by
  obtain ⟨base, hbase, rfl, hcheck⟩ := hsettings
  exact settings_eq_override hbase.load_eq hcheck

/-- Without settings to use, the input is at fault, or else what the request puts into them. -/
theorem settings_eq_error_iff {failure : Failure} :
    request.settings sources = .error failure ↔
      Settings.Refused (request.settingsInput sources) failure ∨
      ∃ base fault, Settings.Given (request.settingsInput sources) base ∧
        (request.override base).validate = .error fault ∧ failure = .settings fault := by
  rw [settings_eq_bind_load]
  constructor
  · intro hsettings
    cases hload : Settings.load (request.settingsInput sources) with
    | error other =>
        rw [hload] at hsettings
        cases hsettings
        exact Or.inl (Settings.load_eq_error_iff.mp hload)
    | ok base =>
        rw [hload, Except.bind] at hsettings
        cases hcheck : (request.override base).validate with
        | ok =>
            rw [hcheck] at hsettings
            cases hsettings
        | error fault =>
            rw [hcheck] at hsettings
            cases hsettings
            exact Or.inr ⟨base, fault, Settings.load_eq_ok_iff.mp hload, hcheck, rfl⟩
  · rintro (hrefused | ⟨base, fault, hbase, hcheck, rfl⟩)
    · rw [hrefused.load_eq]
      rfl
    · rw [hbase.load_eq, Except.bind, hcheck]
      rfl

theorem settings_congr (hinput : other.settingsInput others = request.settingsInput sources)
    (hcount : other.maxCount = request.maxCount)
    (hlimit : other.historyLimit = request.historyLimit) :
    other.settings others = request.settings sources := by
  have hoverride : other.override = request.override := by
    funext settings
    rw [override, override, hcount, hlimit]
  rw [settings_eq_bind_load, settings_eq_bind_load, hinput, hoverride]

theorem initialText_eq_load :
    request.initialText sources = (request.textInput sources).load := by
  unfold initialText textInput
  cases request.text with
  | some text => rfl
  | none => cases request.textFile <;> rfl

theorem initialText_congr (hinput : other.textInput others = request.textInput sources) :
    other.initialText others = request.initialText sources := by
  rw [initialText_eq_load, initialText_eq_load, hinput]

theorem initialText_eq_ok_iff {text : String} :
    request.initialText sources = .ok text ↔ (request.textInput sources).Gives text := by
  rw [initialText_eq_load, TextInput.load_eq_ok_iff]

theorem session_eq_run {settings : Settings} {text : String}
    (hsettings : request.settings sources = .ok settings)
    (htext : request.initialText sources = .ok text) :
    request.session sources = (Session.run settings text request.script).mapError .script := by
  rw [session, hsettings, htext]
  rfl

theorem session_congr (hsettings : other.settings others = request.settings sources)
    (htext : other.initialText others = request.initialText sources)
    (hscript : other.script = request.script) :
    other.session others = request.session sources := by
  rw [session, session, hsettings, htext, hscript]

end Request

end KeyScript
