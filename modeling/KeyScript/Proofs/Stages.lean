import KeyScript.Proofs.Inputs

/-!
The stages of a request. The settings come first: their file is read, described settings are taken
from it and checked, the request's own are put into them and the result is checked again. Then comes
the text, and last the script. A request either fails at a stage, which is then the first whose part
is not in order, or goes through them all. Where it fails nothing is printed, what the later stages
would have read does not matter, and the exit code tells a fault in the script from the others.
-/

namespace KeyScript

/-- The stages of a request, in their order. -/
inductive Stage
  /-- The settings file is read. -/
  | settingsFile
  /-- What the file holds is taken for a description of settings. -/
  | document
  /-- The settings described are checked by themselves. -/
  | documentCheck
  /-- The settings are checked with the request's own put into them. -/
  | overrideCheck
  /-- The text to edit is read. -/
  | text
  /-- The script is read. -/
  | script
  deriving DecidableEq, Repr

/-- The kind of failure that a stage has. -/
def Stage.Raises : Stage → Failure → Prop
  | .settingsFile, .reading _ | .text, .reading _ => True
  | .document, .settings .malformed => True
  | .documentCheck, .settings (.invalid _ _) | .overrideCheck, .settings (.invalid _ _) => True
  | .script, .script _ => True
  | _, _ => False

/-- Only the last stage has the exit code of a fault in the script. -/
theorem Stage.Raises.exitCode_eq {stage : Stage} {failure : Failure}
    (hraises : stage.Raises failure) :
    failure.exitCode = if stage = .script then 2 else 1 := by
  cases stage <;> cases failure
  all_goals first
    | rfl
    | exact False.elim hraises

namespace Request

/-- A request fails at a stage if it has gone through the stages before, and what this one looks at
is not in order. -/
inductive FailsAt (request : Request) (sources : Sources) : Stage → Failure → Prop
  | settingsFile {bytes : Except ReadFault ByteArray} {fault : ReadFault}
      (hinput : request.settingsInput sources = some bytes)
      (hread : bytes.bind decodeText = .error fault) :
      FailsAt request sources .settingsFile (.reading fault)
  | document {bytes : Except ReadFault ByteArray} {content : String}
      (hinput : request.settingsInput sources = some bytes)
      (hread : bytes.bind decodeText = .ok content)
      (hdocument : (Json.parse? content.toList).bind Settings.ofJson? = none) :
      FailsAt request sources .document (.settings .malformed)
  | documentCheck {bytes : Except ReadFault ByteArray} {content : String} {settings : Settings}
      {fault : Settings.Fault} (hinput : request.settingsInput sources = some bytes)
      (hread : bytes.bind decodeText = .ok content)
      (hdocument : (Json.parse? content.toList).bind Settings.ofJson? = some settings)
      (hcheck : settings.validate = .error fault) :
      FailsAt request sources .documentCheck (.settings fault)
  | overrideCheck {base : Settings} {fault : Settings.Fault}
      (hbase : Settings.Given (request.settingsInput sources) base)
      (hcheck : (request.override base).validate = .error fault) :
      FailsAt request sources .overrideCheck (.settings fault)
  | text {settings : Settings} {bytes : Except ReadFault ByteArray} {fault : ReadFault}
      (hsettings : request.HasSettings sources settings)
      (hinput : request.textInput sources = .read bytes)
      (hread : bytes.bind decodeText = .error fault) :
      FailsAt request sources .text (.reading fault)
  | script {settings : Settings} {text : String} {fault : Script.Fault}
      (hsettings : request.HasSettings sources settings)
      (htext : (request.textInput sources).Gives text)
      (hscript : Script.read settings.script.maxCount request.script.toList = .error fault) :
      FailsAt request sources .script (.script fault)

/-- A request completes with a session if it goes through all stages, and the session is that of the
commands, run on the text under the settings. -/
def Completes (request : Request) (sources : Sources) (session : Session) : Prop :=
  ∃ settings text, request.HasSettings sources settings ∧
    (request.textInput sources).Gives text ∧
    Script.read settings.script.maxCount request.script.toList = .ok session.commands ∧
    (Editor.start (.ofString text) settings.history).run session.commands = session.editor

/-- The two requests have the same settings file, or none, and the same settings of their own. -/
def SameSettings (request : Request) (sources : Sources) (other : Request) (others : Sources) :
    Prop :=
  other.settingsInput others = request.settingsInput sources ∧
    other.maxCount = request.maxCount ∧ other.historyLimit = request.historyLimit

/-- All that the two requests have looked at by the end of the stage is the same. What only later
stages look at may differ. -/
def SameUpTo (request : Request) (sources : Sources) (other : Request) (others : Sources) :
    Stage → Prop
  | .settingsFile | .document | .documentCheck =>
    other.settingsInput others = request.settingsInput sources
  | .overrideCheck => request.SameSettings sources other others
  | .text => request.SameSettings sources other others ∧
      other.textInput others = request.textInput sources
  | .script => request.SameSettings sources other others ∧
      other.textInput others = request.textInput sources ∧ other.script = request.script

variable {request other : Request} {sources others : Sources}

/-! ### Every request fails or completes -/

theorem fails_or_given (request : Request) (sources : Sources) :
    (∃ stage failure, request.FailsAt sources stage failure) ∨
      ∃ base, Settings.Given (request.settingsInput sources) base := by
  cases hinput : request.settingsInput sources with
  | none => exact Or.inr ⟨_, .defaults rfl⟩
  | some bytes =>
      cases hread : bytes.bind decodeText with
      | error fault => exact Or.inl ⟨_, _, .settingsFile hinput hread⟩
      | ok content =>
          cases hdocument : (Json.parse? content.toList).bind Settings.ofJson? with
          | none => exact Or.inl ⟨_, _, .document hinput hread hdocument⟩
          | some settings =>
              cases hcheck : settings.validate with
              | error fault => exact Or.inl ⟨_, _, .documentCheck hinput hread hdocument hcheck⟩
              | ok => exact Or.inr ⟨_, .described rfl hread hdocument hcheck⟩

theorem fails_or_hasSettings (request : Request) (sources : Sources) :
    (∃ stage failure, request.FailsAt sources stage failure) ∨
      ∃ settings, request.HasSettings sources settings := by
  rcases request.fails_or_given sources with hfails | ⟨base, hbase⟩
  · exact Or.inl hfails
  · cases hcheck : (request.override base).validate with
    | error fault => exact Or.inl ⟨_, _, .overrideCheck hbase hcheck⟩
    | ok => exact Or.inr ⟨_, base, hbase, rfl, hcheck⟩

theorem fails_or_gives {settings : Settings} (hsettings : request.HasSettings sources settings) :
    (∃ stage failure, request.FailsAt sources stage failure) ∨
      ∃ text, (request.textInput sources).Gives text := by
  cases hinput : request.textInput sources with
  | given text => exact Or.inr ⟨text, rfl⟩
  | read bytes =>
      cases hread : bytes.bind decodeText with
      | error fault => exact Or.inl ⟨_, _, .text hsettings hinput hread⟩
      | ok content => exact Or.inr ⟨_, content, hread, rfl⟩

theorem fails_or_completes (request : Request) (sources : Sources) :
    (∃ stage failure, request.FailsAt sources stage failure) ∨
      ∃ session, request.Completes sources session := by
  rcases request.fails_or_hasSettings sources with hfails | ⟨settings, hsettings⟩
  · exact Or.inl hfails
  · rcases fails_or_gives hsettings with hfails | ⟨text, htext⟩
    · exact Or.inl hfails
    · cases hrun : Session.run settings text request.script with
      | error fault =>
          exact Or.inl ⟨_, _, .script hsettings htext (Session.run_eq_error_iff.mp hrun)⟩
      | ok session =>
          exact Or.inr ⟨session, settings, text, hsettings, htext, Session.run_eq_ok_iff.mp hrun⟩

/-! ### What comes of it -/

theorem Completes.session_eq {session : Session} (hcompletes : request.Completes sources session) :
    request.session sources = .ok session := by
  obtain ⟨settings, text, hsettings, htext, hrun⟩ := hcompletes
  rw [session_eq_run hsettings.settings_eq (initialText_eq_ok_iff.mpr htext),
    Session.run_eq_ok_iff.mpr hrun]
  rfl

theorem FailsAt.session_eq {stage : Stage} {failure : Failure}
    (hfails : request.FailsAt sources stage failure) :
    request.session sources = .error failure := by
  have hsession (hsettings : request.settings sources = .error failure) :
      request.session sources = .error failure := by
    rw [session, hsettings]
    rfl
  cases hfails with
  | settingsFile hinput hread =>
      exact hsession (settings_eq_error_iff.mpr (Or.inl (.unread hinput hread)))
  | document hinput hread hdocument =>
      have hrefused := Settings.ofDocument_of_undescribed hdocument
      exact hsession (settings_eq_error_iff.mpr (Or.inl (.document hinput hread hrefused)))
  | documentCheck hinput hread hdocument hcheck =>
      have hrefused := Settings.ofDocument_of_validate_eq_error hdocument hcheck
      exact hsession (settings_eq_error_iff.mpr (Or.inl (.document hinput hread hrefused)))
  | overrideCheck hbase hcheck =>
      exact hsession (settings_eq_error_iff.mpr (Or.inr ⟨_, _, hbase, hcheck, rfl⟩))
  | text hsettings hinput hread =>
      rw [session, hsettings.settings_eq, initialText_eq_load, hinput, TextInput.load, hread]
      rfl
  | script hsettings htext hscript =>
      rw [session_eq_run hsettings.settings_eq (initialText_eq_ok_iff.mpr htext),
        Session.run_eq_error_iff.mpr hscript]
      rfl

theorem FailsAt.raises {stage : Stage} {failure : Failure}
    (hfails : request.FailsAt sources stage failure) : stage.Raises failure := by
  cases hfails with
  | documentCheck hinput hread hdocument hcheck =>
      obtain ⟨key, rfl⟩ := Settings.exists_invalid_of_validate_eq_error hcheck
      trivial
  | overrideCheck hbase hcheck =>
      obtain ⟨key, rfl⟩ := Settings.exists_invalid_of_validate_eq_error hcheck
      trivial
  | _ => trivial

/-! ### What does not matter -/

theorem HasSettings.of_same {settings : Settings} (hsettings : request.HasSettings sources settings)
    (hsame : request.SameSettings sources other others) : other.HasSettings others settings := by
  obtain ⟨base, hbase, rfl, hcheck⟩ := hsettings
  obtain ⟨hinput, hcount, hlimit⟩ := hsame
  refine ⟨base, hinput ▸ hbase, ?_, hcheck⟩
  rw [override, override, hcount, hlimit]

theorem FailsAt.of_sameUpTo {stage : Stage} {failure : Failure}
    (hfails : request.FailsAt sources stage failure)
    (hsame : request.SameUpTo sources other others stage) : other.FailsAt others stage failure := by
  cases hfails with
  | settingsFile hinput hread => exact .settingsFile (hsame.trans hinput) hread
  | document hinput hread hdocument => exact .document (hsame.trans hinput) hread hdocument
  | documentCheck hinput hread hdocument hcheck =>
      exact .documentCheck (hsame.trans hinput) hread hdocument hcheck
  | overrideCheck hbase hcheck =>
      obtain ⟨hinput, hcount, hlimit⟩ := hsame
      refine .overrideCheck (hinput ▸ hbase) ?_
      rw [override, hcount, hlimit]
      exact hcheck
  | text hsettings hinput hread =>
      obtain ⟨hsame, htext⟩ := hsame
      exact .text (hsettings.of_same hsame) (htext.trans hinput) hread
  | script hsettings htext hscript =>
      obtain ⟨hsame, hinput, hkeys⟩ := hsame
      refine .script (hsettings.of_same hsame) (hinput ▸ htext) ?_
      rw [hkeys]
      exact hscript

/-! ### Reports -/

theorem report_of_session_eq_error {failure : Failure}
    (hsession : request.session sources = .error failure) :
    (request.report sources).stdout = "" ∧
      (request.report sources).exitCode = failure.exitCode := by
  rw [report, hsession]
  exact ⟨rfl, rfl⟩

theorem report_of_session_eq_ok {session : Session}
    (hsession : request.session sources = .ok session) :
    (request.report sources).exitCode = 0 ∧
      (request.report sources).stdout =
        String.ofList session.editor.text.chars ++ "\nCursor: " ++
          String.ofList (Numeral.digits session.editor.cursor) ++ "\n" := by
  constructor
  · rw [report, hsession]
    rfl
  · apply String.toList_inj.mp
    rw [toList_stdout_of_session_eq_ok hsession]
    simp [Editor.snapshot, Snapshot.printout]

/-- A request fails at a stage or completes. Where it fails, the failure is one of that stage,
nothing is printed, and the outcome is the same for every other request that has looked at the same
by then. Where it completes, the final text and cursor are printed. The exit code is 2 exactly where
the script is at fault, 1 where an earlier stage fails, and 0 where none does. -/
theorem report_of_stages (request : Request) (sources : Sources) :
    ((∃ stage failure, request.FailsAt sources stage failure) ∨
      ∃ session, request.Completes sources session) ∧
    (∀ stage failure, request.FailsAt sources stage failure →
      request.session sources = .error failure ∧ stage.Raises failure ∧
      (request.report sources).stdout = "" ∧
      (request.report sources).exitCode = (if stage = .script then 2 else 1) ∧
      ∀ other others, request.SameUpTo sources other others stage →
        other.session others = .error failure ∧
          other.report others = request.report sources) ∧
    (∀ session, request.Completes sources session →
      request.session sources = .ok session ∧
      (request.report sources).exitCode = 0 ∧
      (request.report sources).stdout =
        String.ofList session.editor.text.chars ++ "\nCursor: " ++
          String.ofList (Numeral.digits session.editor.cursor) ++ "\n") ∧
    ((request.report sources).exitCode = 2 ↔
      ∃ failure, request.FailsAt sources .script failure) := by
  have hcode {stage : Stage} {failure : Failure} (hfails : request.FailsAt sources stage failure) :
      (request.report sources).exitCode = if stage = .script then 2 else 1 :=
    (report_of_session_eq_error hfails.session_eq).2.trans hfails.raises.exitCode_eq
  refine ⟨request.fails_or_completes sources, fun stage failure hfails => ?_,
    fun session hcompletes => ?_, fun hexit => ?_, fun hfails => ?_⟩
  · refine ⟨hfails.session_eq, hfails.raises,
      (report_of_session_eq_error hfails.session_eq).1, hcode hfails, fun other others hsame => ?_⟩
    have hsession := (hfails.of_sameUpTo hsame).session_eq
    exact ⟨hsession, congrArg Report.ofOutcome (hsession.trans hfails.session_eq.symm)⟩
  · exact ⟨hcompletes.session_eq, report_of_session_eq_ok hcompletes.session_eq⟩
  · rcases request.fails_or_completes sources with ⟨stage, failure, hfails⟩ | ⟨session, hcompletes⟩
    · rw [hcode hfails] at hexit
      cases stage with
      | script => exact ⟨failure, hfails⟩
      | _ => cases hexit
    · rw [(report_of_session_eq_ok hcompletes.session_eq).1] at hexit
      cases hexit
  · obtain ⟨failure, hfails⟩ := hfails
    exact hcode hfails

/-- The settings described allow no literal count. That is reported although the request puts
another count in its place, the text is no UTF-8 and the script is no script, and nothing of this
matters. A request that names no file and has its own text completes. -/
theorem report_of_stages_zero_count :
    let document := "\x7b\"parser\":\x7b\"max_count\":0\x7d\x7d"
    let request : Request := { config := some "settings", maxCount := some 5, script := "q" }
    let sources : Sources := { file := fun _ => .ok document.toUTF8, stdin := .ok ⟨#[0xff]⟩ }
    request.FailsAt sources .documentCheck (.settings (.invalid "parser.max_count" "0")) ∧
    (request.report sources).stdout = "" ∧ (request.report sources).exitCode = 1 ∧
    (∀ text script stdin, ({ text, config := some "other", script } : Request).report
      { file := sources.file, stdin } = request.report sources) ∧
    (({ text := some "ab", script := "x" } : Request).report sources).stdout =
      "b\nCursor: 0\n" := by
  intro document request sources
  have hread : (sources.file "settings").bind decodeText = .ok document :=
    decodeText_toUTF8 document
  have hdocument : (Json.parse? document.toList).bind Settings.ofJson? =
      some { script := { maxCount := 0 } } := by decide +kernel
  have hfails :
      request.FailsAt sources .documentCheck (.settings (.invalid "parser.max_count" "0")) :=
    .documentCheck rfl hread hdocument rfl
  have hcompletes : ({ text := some "ab", script := "x" } : Request).Completes sources
      ⟨[.delete .one], (Editor.start (.ofString "ab") {}).run [.delete .one]⟩ :=
    ⟨{}, "ab", ⟨{}, .defaults rfl, rfl, rfl⟩, rfl, rfl, rfl⟩
  obtain ⟨-, -, hstdout, hexit, hsame⟩ := (report_of_stages request sources).2.1 _ _ hfails
  obtain ⟨-, -, hprinted⟩ := (report_of_stages _ sources).2.2.1 _ hcompletes
  refine ⟨hfails, hstdout, hexit, fun text script stdin => ?_, ?_⟩
  · exact (hsame { text, config := some "other", script } { file := sources.file, stdin } rfl).2
  · rw [hprinted]
    decide +kernel

end Request

end KeyScript
