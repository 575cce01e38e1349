import KeyScript.Codec
import KeyScript.Proofs.Compact
import Mathlib.Data.List.Nodup

/-!
Values that come back from their JSON form. The compact form of a value is read as the JSON it was
written from, and this JSON is what the value is made from again: a record has each of its fields
under its own name, a variant has the name of its case, and a number of 64 bits has a numeral that
fits. No control character stands in a compact form.
-/

namespace KeyScript

namespace Json

/-! ### Reading what was written -/

theorem chars?_pieces (chars : List Char) : chars? (pieces chars) = some chars := by
  induction chars with
  | nil => rfl
  | cons content chars ih =>
      rw [pieces, List.map_cons, chars?]
      exact congrArg (Option.map (content :: ·)) ih

theorem char?_ofChars (content : Char) : (ofChars [content]).char? = some content := rfl

theorem word?_ofNat {number : Nat} (hword : number ≤ maxWord) :
    (ofNat number).word? = some (.ofNat number) := by
  have hdigits := Numeral.word?_digits (.ofNat number)
  rw [toNat_ofNat_of_le_maxWord hword] at hdigits
  exact hdigits

theorem word?_ofNat_toNat (number : UInt64) : (ofNat number.toNat).word? = some number :=
  Numeral.word?_digits number

theorem variant?_ofString (name : String) : (ofString name).variant? = some (name, none) := by
  rw [ofString, ofChars, variant?, chars?_pieces, Option.map_some, String.ofList_toList]

theorem variant?_ofMembers (name : String) (value : Json) :
    (ofMembers [(name, value)]).variant? = some (name, some value) := by
  rw [ofMembers, List.map_singleton, variant?, chars?_pieces, Option.map_some,
    String.ofList_toList]

theorem mapM_eq_some_map {Item Value : Type} {read : Item → Option Value} {view : Item → Value}
    {items : List Item} (hread : ∀ item ∈ items, read item = some (view item)) :
    items.mapM read = some (items.map view) := by
  induction items with
  | nil => rfl
  | cons item rest ih =>
      rw [List.forall_mem_cons] at hread
      rw [List.mapM_cons, hread.1, ih hread.2]
      rfl

/-- Among members with different keys, each has its key for itself. -/
private theorem filter_key_eq_singleton {members : List (List Char × Json)}
    (hnodup : (members.map Prod.fst).Nodup) {key : List Char} {value : Json}
    (hmem : (key, value) ∈ members) : members.filter (·.1 = key) = [(key, value)] := by
  induction members with
  | nil => cases hmem
  | cons first rest ih =>
      rw [List.map_cons, List.nodup_cons] at hnodup
      obtain ⟨hfirst, hrest⟩ := hnodup
      rcases List.mem_cons.mp hmem with rfl | hmem
      · rw [List.filter_cons_of_pos (by simp)]
        refine congrArg ((key, value) :: ·) (List.filter_eq_nil_iff.mpr fun other hother heq => ?_)
        exact hfirst (List.mem_map.mpr ⟨other, hother, of_decide_eq_true heq⟩)
      · have hne : first.1 ≠ key := fun heq => hfirst (heq ▸ List.mem_map_of_mem hmem)
        rw [List.filter_cons_of_neg (by simpa using hne), ih hrest hmem]

theorem member?_of_mem {members : List (List Char × Json)}
    (hnodup : (members.map Prod.fst).Nodup) {name : String} {value : Json}
    (hmem : (name.toList, value) ∈ members) : member? name members = some (some value) := by
  rw [member?, filter_key_eq_singleton hnodup hmem]

theorem keyed?_ofMembers (members : List (String × Json)) :
    keyed? (members.map fun member => (pieces member.1.toList, member.2)) =
      some (members.map fun member => (member.1.toList, member.2)) := by
  rw [keyed?, List.mapM_map]
  exact mapM_eq_some_map fun member _ => by simp [chars?_pieces]

theorem nodup_keys {members : List (String × Json)} (hnodup : (members.map Prod.fst).Nodup) :
    ((members.map fun member => (member.1.toList, member.2)).map Prod.fst).Nodup := by
  have hinjective : Function.Injective String.toList := fun _ _ => String.toList_inj.mp
  have hnames := List.Nodup.map hinjective hnodup
  rw [List.map_map] at hnames ⊢
  exact hnames

/-- A record is read back field by field, if no two of its fields have one name. -/
theorem fields?_ofMembers {members : List (String × Json)}
    (hnodup : (members.map Prod.fst).Nodup) :
    (ofMembers members).fields? (members.map Prod.fst) =
      some (members.map fun member => some member.2) := by
  rw [ofMembers, fields?, keyed?_ofMembers, Option.bind_eq_bind, Option.bind_some, List.mapM_map]
  exact mapM_eq_some_map fun member hmem =>
    member?_of_mem (nodup_keys hnodup) (List.mem_map_of_mem hmem)

end Json

/-! ### Each kind of value -/

namespace Count

theorem plain_toJson (count : Count) : count.toJson.Plain := by
  cases count with
  | times number => exact Json.plain_ofMembers (by simp [Json.plain_ofNat])
  | unbounded => exact Json.plain_ofChars _

theorem ofJson?_toJson (count : Count) : ofJson? count.toJson = some count := by
  cases count with
  | times number =>
      rw [toJson, ofJson?, Json.variant?_ofMembers]
      simp [Json.word?_ofNat_toNat]
  | unbounded =>
      rw [toJson, ofJson?, Json.variant?_ofString]
      rfl

end Count

namespace Command

theorem plain_toJson (command : Command) : command.toJson.Plain := by
  cases command with
  | replace count character =>
      refine Json.plain_ofMembers ?_
      rw [List.forall_mem_singleton]
      exact Json.plain_array (by simp [count.plain_toJson, Json.plain_ofChars])
  | moveToNext character => exact Json.plain_ofMembers (by simp [Json.plain_ofChars])
  | moveLeft count | moveRight count | delete count | undo count =>
      exact Json.plain_ofMembers (by simp [count.plain_toJson])

theorem ofJson?_toJson (command : Command) : ofJson? command.toJson = some command := by
  cases command with
  | replace count character =>
      rw [toJson, ofJson?, Json.variant?_ofMembers]
      simp [count.ofJson?_toJson, Json.char?_ofChars]
  | moveToNext character =>
      rw [toJson, ofJson?, Json.variant?_ofMembers]
      simp [Json.char?_ofChars]
  | moveLeft count | moveRight count | delete count | undo count =>
      rw [toJson, ofJson?, Json.variant?_ofMembers]
      simp [count.ofJson?_toJson]

theorem plain_listToJson (commands : List Command) : (listToJson commands).Plain :=
  Json.plain_array fun _ hmem => by
    obtain ⟨command, -, rfl⟩ := List.mem_map.mp hmem
    exact command.plain_toJson

theorem listOfJson?_listToJson (commands : List Command) :
    listOfJson? (listToJson commands) = some commands := by
  rw [listToJson, listOfJson?, List.mapM_map]
  have hread := Json.mapM_eq_some_map fun command (_ : command ∈ commands) => command.ofJson?_toJson
  exact hread.trans (congrArg some (List.map_id commands))

end Command

namespace Snapshot

theorem plain_toJson (snapshot : Snapshot) : snapshot.toJson.Plain :=
  Json.plain_ofMembers (by simp [Json.plain_ofNat, Json.plain_ofChars])

theorem ofJson?_toJson {snapshot : Snapshot} (hcursor : snapshot.cursor ≤ maxWord) :
    ofJson? snapshot.toJson = some snapshot := by
  have hfields : snapshot.toJson.fields? ["cursor", "text"] =
      some [some (.ofNat snapshot.cursor), some (.ofChars snapshot.text.chars)] :=
    Json.fields?_ofMembers (by simp)
  have htext : (Json.ofChars snapshot.text.chars).text? = some snapshot.text.chars :=
    Json.chars?_pieces _
  rw [ofJson?, hfields]
  simp [Json.word?_ofNat hcursor, htext, toNat_ofNat_of_le_maxWord hcursor]

end Snapshot

namespace ScriptSettings

theorem plain_toJson (settings : ScriptSettings) : settings.toJson.Plain :=
  Json.plain_ofMembers (by simp [Json.plain_ofNat])

theorem ofJson?_toJson (settings : ScriptSettings) : ofJson? settings.toJson = some settings := by
  have hfields : settings.toJson.fields? ["max_count"] =
      some [some (.ofNat settings.maxCount.toNat)] :=
    Json.fields?_ofMembers (by simp)
  rw [ofJson?, hfields]
  simp [Json.orDefault, Json.word?_ofNat_toNat]

end ScriptSettings

namespace HistorySettings

theorem plain_limitToJson (limit : Option UInt64) : (limitToJson limit).Plain := by
  cases limit with
  | none => exact Json.plain_null
  | some limit => exact Json.plain_ofNat _

theorem limitOfJson?_limitToJson (limit : Option UInt64) :
    limitOfJson? (limitToJson limit) = some limit := by
  cases limit with
  | none => rfl
  | some limit => exact congrArg (Option.map some) (Json.word?_ofNat_toNat limit)

theorem plain_toJson (settings : HistorySettings) : settings.toJson.Plain :=
  Json.plain_ofMembers (by simp [plain_limitToJson])

theorem ofJson?_toJson (settings : HistorySettings) : ofJson? settings.toJson = some settings := by
  have hfields : settings.toJson.fields? ["limit"] = some [some (limitToJson settings.limit)] :=
    Json.fields?_ofMembers (by simp)
  rw [ofJson?, hfields]
  simp [Json.orDefault, limitOfJson?_limitToJson]

end HistorySettings

namespace Settings

theorem plain_toJson (settings : Settings) : settings.toJson.Plain :=
  Json.plain_ofMembers (by
    simp [settings.script.plain_toJson, settings.history.plain_toJson])

theorem ofJson?_toJson (settings : Settings) : ofJson? settings.toJson = some settings := by
  have hfields : settings.toJson.fields? ["parser", "history"] =
      some [some settings.script.toJson, some settings.history.toJson] :=
    Json.fields?_ofMembers (by simp)
  rw [ofJson?, hfields]
  simp [Json.orDefault, ScriptSettings.ofJson?_toJson, HistorySettings.ofJson?_toJson]

/-- A document that holds the JSON form of settings is refused for the same reason as the settings
themselves, and otherwise gives these settings. -/
theorem ofDocument_compact (settings : Settings) :
    ofDocument settings.toJson.compact = settings.validate.map fun _ => settings := by
  rw [ofDocument, Json.parse?_compact settings.plain_toJson, Option.bind_some, ofJson?_toJson]

end Settings

/-! ### All kinds together -/

/-- The value comes back from the compact form of its JSON, which holds no control character. -/
def Json.RoundTrips {Value : Type} (toJson : Value → Json) (ofJson? : Json → Option Value)
    (value : Value) : Prop :=
  (parse? (toJson value).compact).bind ofJson? = some value ∧
    ∀ char ∈ (toJson value).compact, 0x20 ≤ char.toNat

theorem Json.roundTrips_of_plain {Value : Type} {toJson : Value → Json}
    {ofJson? : Json → Option Value} {value : Value} (hplain : (toJson value).Plain)
    (hread : ofJson? (toJson value) = some value) : RoundTrips toJson ofJson? value := by
  refine ⟨?_, hplain.le_toNat_of_mem_compact⟩
  rw [parse?_compact hplain, Option.bind_some, hread]

/-- Every value that has a JSON form comes back from it: counts, commands, lists of commands,
snapshots whose cursor fits in 64 bits, and settings, whole or in part. -/
theorem Json.roundTrips_toJson :
    (∀ count, RoundTrips Count.toJson Count.ofJson? count) ∧
    (∀ command, RoundTrips Command.toJson Command.ofJson? command) ∧
    (∀ commands, RoundTrips Command.listToJson Command.listOfJson? commands) ∧
    (∀ snapshot : Snapshot, snapshot.cursor ≤ maxWord →
      RoundTrips Snapshot.toJson Snapshot.ofJson? snapshot) ∧
    (∀ settings, RoundTrips ScriptSettings.toJson ScriptSettings.ofJson? settings) ∧
    (∀ settings, RoundTrips HistorySettings.toJson HistorySettings.ofJson? settings) ∧
    ∀ settings, RoundTrips Settings.toJson Settings.ofJson? settings := by
  refine ⟨fun count => ?_, fun command => ?_, fun commands => ?_, fun snapshot hcursor => ?_,
    fun settings => ?_, fun settings => ?_, fun settings => ?_⟩
  · exact roundTrips_of_plain count.plain_toJson count.ofJson?_toJson
  · exact roundTrips_of_plain command.plain_toJson command.ofJson?_toJson
  · exact roundTrips_of_plain (Command.plain_listToJson commands)
      (Command.listOfJson?_listToJson commands)
  · exact roundTrips_of_plain snapshot.plain_toJson (Snapshot.ofJson?_toJson hcursor)
  · exact roundTrips_of_plain settings.plain_toJson settings.ofJson?_toJson
  · exact roundTrips_of_plain settings.plain_toJson settings.ofJson?_toJson
  · exact roundTrips_of_plain settings.plain_toJson settings.ofJson?_toJson

/-- The largest cursor, and one character of each way to be spelled. -/
theorem Json.roundTrips_toJson_all_spellings :
    let snapshot : Snapshot :=
      ⟨18446744073709551615, ⟨['"', '\\', '\n', '\x1f', '\x7f', 'ä', '😀']⟩⟩
    snapshot.cursor ≤ maxWord ∧ RoundTrips Snapshot.toJson Snapshot.ofJson? snapshot ∧
    snapshot.toJson.compact =
      "\x7b\"cursor\":18446744073709551615,\"text\":\"\\\"\\\\\\n\\u001f\x7fä😀\"\x7d".toList := by
  intro snapshot
  have hcursor : snapshot.cursor ≤ maxWord := by decide
  obtain ⟨-, -, -, hsnapshot, -⟩ := Json.roundTrips_toJson
  exact ⟨hcursor, hsnapshot snapshot hcursor, by decide +kernel⟩

end KeyScript
