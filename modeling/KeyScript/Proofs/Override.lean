import KeyScript.Proofs.Inputs
import KeyScript.Proofs.RoundTrip

/-!
Settings of a request and settings of its file. What the request names goes before what its file
describes, and that before the defaults, but the file has to be in order by itself: nothing that the
request names makes up for a fault in it. So the same settings may be named, or described in a file,
or named in place of those that any file in order describes, and the request comes to the same.
-/

namespace KeyScript

namespace Settings

variable {sources : Sources} {path : String}

/-- A file that holds the JSON form of settings gives these settings, if they pass the check. -/
theorem load_compact {settings : Settings}
    (hfile : sources.file path = .ok (String.ofList settings.toJson.compact).toUTF8)
    (hcheck : settings.validate = .ok ()) : load (some (sources.file path)) = .ok settings := by
  have htext : sources.fileText path = .ok (String.ofList settings.toJson.compact) := by
    rw [Sources.fileText, hfile]
    exact decodeText_toUTF8 _
  rw [load_of_read htext, String.toList_ofList, ofDocument_compact, hcheck]
  rfl

theorem validate_eq_ok_of_one_le {maxCount limit : UInt64} (hcount : 1 ≤ maxCount)
    (hlimit : 1 ≤ limit) :
    validate { script := { maxCount }, history := { limit := some limit } } = .ok () := by
  refine validate_eq_ok_iff.mpr ⟨one_le_iff_ne_zero.mp hcount, ?_⟩
  rintro ⟨⟩
  exact one_le_iff_ne_zero.mp hlimit rfl

end Settings

namespace Request

/-! ### What the settings are -/

section

variable {request : Request} {base : Settings}

end

/-- The request with another settings file, or none, and other settings of its own. -/
def withSettings (request : Request) (config : Option String)
    (maxCount historyLimit : Option UInt64) : Request :=
  { request with config, maxCount, historyLimit }

/-- Under the same settings, the outcome is a matter of the text and the script. -/
theorem session_withSettings_congr {request : Request} {sources others : Sources}
    {config other : Option String} {maxCount count historyLimit limit : Option UInt64}
    {settings : Settings}
    (hsettings :
      (request.withSettings config maxCount historyLimit).settings sources = .ok settings)
    (hothers : (request.withSettings other count limit).settings others = .ok settings)
    (htext : request.textInput others = request.textInput sources) :
    (request.withSettings other count limit).session others =
      (request.withSettings config maxCount historyLimit).session sources :=
  session_congr (hothers.trans hsettings.symm) (initialText_congr htext) rfl

/-- Three requests that differ in their settings alone, and not in what comes of them: the first has
no settings file and names both settings, the second names none and has a file that describes the
same, and the third names both again and has any file that is in order. -/
theorem report_withSettings (request : Request) {maxCount limit : UInt64} (hcount : 1 ≤ maxCount)
    (hlimit : 1 ≤ limit) {path other document : String} {settings : Settings}
    {named described overridden : Sources}
    (hpath : described.file path = .ok (String.ofList (Settings.toJson
      { script := { maxCount }, history := { limit := some limit } }).compact).toUTF8)
    (hother : overridden.fileText other = .ok document)
    (haccepted : Settings.ofDocument document.toList = .ok settings)
    (hdescribed : request.textInput described = request.textInput named)
    (hoverridden : request.textInput overridden = request.textInput named) :
    (request.withSettings (some path) none none).session described =
      (request.withSettings none (some maxCount) (some limit)).session named ∧
    (request.withSettings (some path) none none).report described =
      (request.withSettings none (some maxCount) (some limit)).report named ∧
    (request.withSettings (some other) (some maxCount) (some limit)).session overridden =
      (request.withSettings none (some maxCount) (some limit)).session named ∧
    (request.withSettings (some other) (some maxCount) (some limit)).report overridden =
      (request.withSettings none (some maxCount) (some limit)).report named := by
  have hcheck := Settings.validate_eq_ok_of_one_le hcount hlimit
  have hnamedSettings : (request.withSettings none (some maxCount) (some limit)).settings named =
      .ok { script := { maxCount }, history := { limit := some limit } } :=
    settings_eq_override rfl hcheck
  have hdescribedSettings : (request.withSettings (some path) none none).settings described =
      .ok { script := { maxCount }, history := { limit := some limit } } :=
    settings_eq_override (Settings.load_compact hpath hcheck) hcheck
  have hoverriddenSettings :
      (request.withSettings (some other) (some maxCount) (some limit)).settings overridden =
        .ok { script := { maxCount }, history := { limit := some limit } } := by
    have hload := Settings.load_of_read hother
    rw [haccepted] at hload
    exact settings_eq_override hload hcheck
  have hsecond := session_withSettings_congr hnamedSettings hdescribedSettings hdescribed
  have hthird := session_withSettings_congr hnamedSettings hoverriddenSettings hoverridden
  exact ⟨hsecond, congrArg Report.ofOutcome hsecond, hthird, congrArg Report.ofOutcome hthird⟩

/-- The largest count and the smallest limit, the latter also in place of a larger one that a file
describes. With a single snapshot kept, two undos asked for are one. -/
theorem report_withSettings_one_snapshot :
    let request : Request := { text := some "abc", script := "lxx2u" }
    let described : Sources :=
      { file := fun _ => .ok (String.ofList (Settings.toJson
          { script := { maxCount := 18446744073709551615 }
            history := { limit := some 1 } }).compact).toUTF8
        stdin := .ok .empty }
    let document := "\x7b\"history\":\x7b\"limit\":5\x7d\x7d"
    let overridden : Sources := { file := fun _ => .ok document.toUTF8, stdin := .ok .empty }
    Settings.ofDocument document.toList = .ok { history := { limit := some 5 } } ∧
    (request.withSettings (some "a") none none).report described = ⟨0, "ac\nCursor: 1\n", ""⟩ ∧
    (request.withSettings (some "b") (some 18446744073709551615) (some 1)).report overridden =
      ⟨0, "ac\nCursor: 1\n", ""⟩ := by
  intro request described document overridden
  have haccepted :
      Settings.ofDocument document.toList = .ok { history := { limit := some 5 } } := by
    decide +kernel
  have hnamed :
      (request.withSettings none (some 18446744073709551615) (some 1)).report described =
        ⟨0, "ac\nCursor: 1\n", ""⟩ := by
    decide +kernel
  have hpath : described.file "a" = .ok (String.ofList (Settings.toJson
      { script := { maxCount := 18446744073709551615 }
        history := { limit := some 1 } }).compact).toUTF8 := rfl
  have hother : overridden.fileText "b" = .ok document := decodeText_toUTF8 document
  have htext : request.textInput described = .given "abc" := rfl
  have hothers : request.textInput overridden = .given "abc" := rfl
  obtain ⟨-, hdescribed, -, hoverridden⟩ := report_withSettings request (by decide) (by decide)
    hpath hother haccepted rfl (hothers.trans htext.symm)
  exact ⟨haccepted, hdescribed.trans hnamed, hoverridden.trans hnamed⟩

end Request

end KeyScript
