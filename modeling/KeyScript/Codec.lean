import KeyScript.Json.Fields
import KeyScript.Json.Parser
import KeyScript.Settings
import KeyScript.Snapshot
import KeyScript.Command

/-!
The JSON forms of counts, commands, snapshots and settings. Writing gives the fields of a record in
one order; reading takes them in any order and passes over members it does not know. Fields of
settings may be absent and then have their default, those of a snapshot may not.
-/

namespace KeyScript

namespace Count

def toJson : Count → Json
  | .times number => .ofMembers [("Times", .ofNat number.toNat)]
  | .unbounded => .ofString "Unbounded"

def ofJson? (json : Json) : Option Count :=
  match json.variant? with
  | some ("Times", some number) => number.word?.map .times
  | some ("Unbounded", none) | some ("Unbounded", some .null) => some .unbounded
  | _ => none

end Count

namespace Command

def toJson : Command → Json
  | .moveLeft count => .ofMembers [("MoveLeft", count.toJson)]
  | .moveRight count => .ofMembers [("MoveRight", count.toJson)]
  | .replace count character =>
    .ofMembers [("Replace", .array [count.toJson, .ofChars [character]])]
  | .moveToNext character => .ofMembers [("MoveToNext", .ofChars [character])]
  | .delete count => .ofMembers [("Delete", count.toJson)]
  | .undo count => .ofMembers [("Undo", count.toJson)]

def ofJson? (json : Json) : Option Command :=
  match json.variant? with
  | some ("MoveLeft", some count) => (Count.ofJson? count).map .moveLeft
  | some ("MoveRight", some count) => (Count.ofJson? count).map .moveRight
  | some ("Replace", some (.array [count, character])) => do
    return .replace (← Count.ofJson? count) (← character.char?)
  | some ("MoveToNext", some character) => character.char?.map .moveToNext
  | some ("Delete", some count) => (Count.ofJson? count).map .delete
  | some ("Undo", some count) => (Count.ofJson? count).map .undo
  | _ => none

def listToJson (commands : List Command) : Json := .array (commands.map toJson)

def listOfJson? : Json → Option (List Command)
  | .array items => items.mapM ofJson?
  | _ => none

end Command

namespace Snapshot

def toJson (snapshot : Snapshot) : Json :=
  .ofMembers [("cursor", .ofNat snapshot.cursor), ("text", .ofChars snapshot.text.chars)]

def ofJson? (json : Json) : Option Snapshot :=
  match json.fields? ["cursor", "text"] with
  | some [some cursor, some text] => do
    return { cursor := (← cursor.word?).toNat, text := ⟨← text.text?⟩ }
  | _ => none

end Snapshot

namespace ScriptSettings

def toJson (settings : ScriptSettings) : Json :=
  .ofMembers [("max_count", .ofNat settings.maxCount.toNat)]

def ofJson? (json : Json) : Option ScriptSettings :=
  match json.fields? ["max_count"] with
  | some [maxCount] => do
    return { maxCount := ← Json.orDefault ({} : ScriptSettings).maxCount Json.word? maxCount }
  | _ => none

end ScriptSettings

namespace HistorySettings

def limitToJson : Option UInt64 → Json
  | none => .null
  | some limit => .ofNat limit.toNat

def limitOfJson? : Json → Option (Option UInt64)
  | .null => some none
  | json => json.word?.map some

def toJson (settings : HistorySettings) : Json :=
  .ofMembers [("limit", limitToJson settings.limit)]

def ofJson? (json : Json) : Option HistorySettings :=
  match json.fields? ["limit"] with
  | some [limit] => do
    return { limit := ← Json.orDefault ({} : HistorySettings).limit limitOfJson? limit }
  | _ => none

end HistorySettings

namespace Settings

def toJson (settings : Settings) : Json :=
  .ofMembers [("parser", settings.script.toJson), ("history", settings.history.toJson)]

def ofJson? (json : Json) : Option Settings :=
  match json.fields? ["parser", "history"] with
  | some [script, history] => do
    return {
      script := ← Json.orDefault {} ScriptSettings.ofJson? script
      history := ← Json.orDefault {} HistorySettings.ofJson? history }
  | _ => none

/-- The settings a document describes, refused unless they pass `validate`. -/
def ofDocument (document : List Char) : Except Fault Settings :=
  match (Json.parse? document).bind ofJson? with
  | none => .error .malformed
  | some settings => settings.validate.map fun _ => settings

section

variable {document : List Char} {settings : Settings}

theorem ofDocument_of_undescribed (hdocument : (Json.parse? document).bind ofJson? = none) :
    ofDocument document = .error .malformed := by
  rw [ofDocument, hdocument]

theorem ofDocument_of_described
    (hdocument : (Json.parse? document).bind ofJson? = some settings) :
    ofDocument document = settings.validate.map fun _ => settings := by
  rw [ofDocument, hdocument]

theorem ofDocument_of_validate_eq_ok
    (hdocument : (Json.parse? document).bind ofJson? = some settings)
    (hcheck : settings.validate = .ok ()) : ofDocument document = .ok settings := by
  rw [ofDocument_of_described hdocument, hcheck]
  rfl

theorem ofDocument_of_validate_eq_error
    (hdocument : (Json.parse? document).bind ofJson? = some settings) {fault : Fault}
    (hcheck : settings.validate = .error fault) : ofDocument document = .error fault := by
  rw [ofDocument_of_described hdocument, hcheck]
  rfl

theorem ofDocument_eq_ok_iff :
    ofDocument document = .ok settings ↔
      (Json.parse? document).bind ofJson? = some settings ∧ settings.validate = .ok () := by
  constructor
  · intro hok
    cases hdocument : (Json.parse? document).bind ofJson? with
    | none => simp [ofDocument_of_undescribed hdocument] at hok
    | some described =>
      cases hcheck : described.validate with
      | error fault => simp [ofDocument_of_validate_eq_error hdocument hcheck] at hok
      | ok =>
        rw [ofDocument_of_validate_eq_ok hdocument hcheck] at hok
        cases hok
        exact ⟨rfl, hcheck⟩
  · rintro ⟨hdocument, hcheck⟩
    exact ofDocument_of_validate_eq_ok hdocument hcheck

/-- A document is refused as malformed only if it describes no settings at all, and for any other
fault only if the settings that it describes have this fault. -/
theorem ofDocument_eq_error_iff {fault : Fault} :
    ofDocument document = .error fault ↔
      (Json.parse? document).bind ofJson? = none ∧ fault = .malformed ∨
      ∃ settings, (Json.parse? document).bind ofJson? = some settings ∧
        settings.validate = .error fault := by
  constructor
  · intro herror
    cases hdocument : (Json.parse? document).bind ofJson? with
    | none =>
      rw [ofDocument_of_undescribed hdocument] at herror
      exact Or.inl ⟨rfl, (Except.error.inj herror).symm⟩
    | some described =>
      cases hcheck : described.validate with
      | ok => simp [ofDocument_of_validate_eq_ok hdocument hcheck] at herror
      | error other =>
        rw [ofDocument_of_validate_eq_error hdocument hcheck] at herror
        cases herror
        exact Or.inr ⟨described, rfl, hcheck⟩
  · rintro (⟨hdocument, rfl⟩ | ⟨described, hdocument, hcheck⟩)
    · exact ofDocument_of_undescribed hdocument
    · exact ofDocument_of_validate_eq_error hdocument hcheck

end

end Settings

end KeyScript
