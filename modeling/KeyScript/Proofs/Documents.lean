import KeyScript.Proofs.RoundTrip

/-!
Documents of settings. An object describes a record by the members that are named like its fields: a
field that no member names has its default, one that a single member names has the value of this
member, and no field may be named twice. The order of the members, members of other names and the
layout of the document do not matter. An array of the first fields describes what the object of
these fields describes.
-/

namespace KeyScript

namespace Json

variable {Value Record : Type} {members : List (List Piece × Json)} {name : String}

/-! ### What members say -/

/-- Whether every key is made of whole characters. -/
def WholeKeys (members : List (List Piece × Json)) : Prop :=
  ∀ member ∈ members, ∃ key, chars? member.1 = some key

/-- How many members have the name, whatever the spelling of their keys. -/
def occurrences (name : String) (members : List (List Piece × Json)) : Nat :=
  members.countP fun member => chars? member.1 = some name.toList

/-- What the members say about a field: nothing if none of them has its name, and if exactly one has
it, what is read from its value. -/
inductive SaysOf (members : List (List Piece × Json)) (name : String)
    (read : Json → Option Value) : Option Value → Prop
  | nothing (hnone : occurrences name members = 0) : SaysOf members name read none
  | once {key : List Piece} {json : Json} {value : Value} (honce : occurrences name members = 1)
      (hmem : (key, json) ∈ members) (hkey : chars? key = some name.toList)
      (hread : read json = some value) : SaysOf members name read (some value)

theorem exists_keyed?_iff : (∃ keyed, keyed? members = some keyed) ↔ WholeKeys members := by
  induction members with
  | nil => exact ⟨fun _ => List.forall_mem_nil _, fun _ => ⟨[], rfl⟩⟩
  | cons member rest ih =>
      obtain ⟨key, json⟩ := member
      rw [WholeKeys, List.forall_mem_cons, ← WholeKeys, ← ih, keyed?, List.mapM_cons, ← keyed?]
      cases hkey : chars? key with
      | none => simp [hkey]
      | some chars => cases keyed? rest <;> simp [hkey]

/-- Looking for a name among the keys finds the members whose keys spell it. -/
theorem filter_key_of_keyed? {keyed : List (List Char × Json)} (hkeyed : keyed? members = some keyed)
    (name : String) :
    keyed.filter (·.1 = name.toList) =
      (members.filter fun member => chars? member.1 = some name.toList).map
        fun member => (name.toList, member.2) := by
  induction members generalizing keyed with
  | nil =>
      cases hkeyed
      rfl
  | cons member rest ih =>
      obtain ⟨key, json⟩ := member
      rw [keyed?, List.mapM_cons, ← keyed?] at hkeyed
      obtain ⟨first, hfirst, hkeyed⟩ := Option.bind_eq_some_iff.mp hkeyed
      obtain ⟨others, hothers, hkeyed⟩ := Option.bind_eq_some_iff.mp hkeyed
      obtain ⟨chars, hchars, rfl⟩ := Option.map_eq_some_iff.mp hfirst
      cases hkeyed
      by_cases hname : chars = name.toList
      · simp [hname, hchars, ih hothers]
      · simp [hname, hchars, ih hothers]

theorem SaysOf.occurrences_le_one {read : Json → Option Value} {said : Option Value}
    (hsaid : SaysOf members name read said) : occurrences name members ≤ 1 := by
  cases hsaid with
  | nothing hnone => exact hnone ▸ Nat.zero_le 1
  | once honce => exact Nat.le_of_eq honce

theorem member?_bind_eq_some_iff {keyed : List (List Char × Json)}
    (hkeyed : keyed? members = some keyed) {read : Json → Option Value} {absent value : Value} :
    (member? name keyed).bind (orDefault absent read) = some value ↔
      ∃ said, SaysOf members name read said ∧ value = said.getD absent := by
  have hoccurrences : occurrences name members =
      (members.filter fun member => chars? member.1 = some name.toList).length :=
    List.countP_eq_length_filter
  have hnamed (member : List Piece × Json) :
      member ∈ members.filter (fun member => chars? member.1 = some name.toList) ↔
        member ∈ members ∧ chars? member.1 = some name.toList := by simp
  rw [member?, filter_key_of_keyed? hkeyed]
  cases hfilter : members.filter fun member => chars? member.1 = some name.toList with
  | nil =>
      rw [hfilter, List.length_nil] at hoccurrences
      change some absent = some value ↔ _
      constructor
      · rintro ⟨⟩
        exact ⟨none, .nothing hoccurrences, rfl⟩
      · rintro ⟨said, hsaid, rfl⟩
        cases hsaid with
        | nothing => rfl
        | once honce => omega
  | cons member rest =>
      rw [hfilter, List.length_cons] at hoccurrences
      simp only [hfilter] at hnamed
      cases rest with
      | nil =>
          obtain ⟨hmem, hkey⟩ := (hnamed member).mp List.mem_cons_self
          change read member.2 = some value ↔ _
          constructor
          · intro hread
            exact ⟨some value, .once hoccurrences hmem hkey hread, rfl⟩
          · rintro ⟨said, hsaid, rfl⟩
            cases hsaid with
            | nothing hnone => omega
            | once _ hother hkey hread =>
                have heq := List.mem_singleton.mp ((hnamed _).mpr ⟨hother, hkey⟩)
                rw [← heq]
                exact hread
      | cons other rest =>
          rw [List.length_cons] at hoccurrences
          constructor
          · rintro ⟨⟩
          · rintro ⟨said, hsaid, -⟩
            have hle := hsaid.occurrences_le_one
            omega

theorem map_member?_eq_some_iff {keyed : List (List Char × Json)}
    (hkeyed : keyed? members = some keyed) {read : Json → Option Value} {absent : Value}
    {make : Value → Record} {record : Record} :
    ((member? name keyed).bind (orDefault absent read)).map make = some record ↔
      ∃ said, SaysOf members name read said ∧ record = make (said.getD absent) := by
  rw [Option.map_eq_some_iff]
  constructor
  · rintro ⟨value, hvalue, rfl⟩
    obtain ⟨said, hsaid, rfl⟩ := (member?_bind_eq_some_iff hkeyed).mp hvalue
    exact ⟨said, hsaid, rfl⟩
  · rintro ⟨said, hsaid, rfl⟩
    exact ⟨_, (member?_bind_eq_some_iff hkeyed).mpr ⟨said, hsaid, rfl⟩, rfl⟩

/-! ### Arrays -/

theorem member?_cons_of_ne {other : String} (hne : other ≠ name) (json : Json)
    (keyed : List (List Char × Json)) :
    member? other ((name.toList, json) :: keyed) = member? other keyed := by
  have hkey : name.toList ≠ other.toList := fun heq => hne (String.toList_inj.mp heq).symm
  rw [member?, List.filter_cons_of_neg (by simpa using hkey), ← member?]

private theorem mapM_congr_of_mem {read other : Value → Option Record} {items : List Value}
    (hread : ∀ item ∈ items, read item = other item) : items.mapM read = items.mapM other := by
  induction items with
  | nil => rfl
  | cons item rest ih =>
      rw [List.forall_mem_cons] at hread
      rw [List.mapM_cons, List.mapM_cons, hread.1, ih hread.2]

/-- The first fields hold the items, in their order, and those left over hold nothing. -/
theorem mapM_member?_zip {names : List String} (hnodup : names.Nodup) {items : List Json}
    (hlength : items.length ≤ names.length) :
    names.mapM (member? · ((names.zip items).map fun member => (member.1.toList, member.2))) =
      some (items.map some ++ List.replicate (names.length - items.length) none) := by
  induction names generalizing items with
  | nil =>
      rw [List.length_nil, Nat.le_zero, List.length_eq_zero_iff] at hlength
      rw [hlength]
      rfl
  | cons name names ih =>
      rw [List.nodup_cons] at hnodup
      cases items with
      | nil =>
          have hnone := mapM_eq_some_map fun other (_ : other ∈ name :: names) =>
            (rfl : member? other [] = some none)
          rw [List.map_const'] at hnone
          exact hnone
      | cons item items =>
          rw [List.length_cons, List.length_cons, Nat.add_le_add_iff_right] at hlength
          have hfirst : ((names.zip items).map fun member => (member.1.toList, member.2)).filter
              (·.1 = name.toList) = [] := by
            refine List.filter_eq_nil_iff.mpr fun member hmem heq => ?_
            obtain ⟨original, horiginal, rfl⟩ := List.mem_map.mp hmem
            have hname : original.1 = name := String.toList_inj.mp (of_decide_eq_true heq)
            rw [← hname] at hnodup
            exact hnodup.1 (List.of_mem_zip horiginal).1
          have hrest (other : String) (hother : other ∈ names) :=
            member?_cons_of_ne (fun heq : other = name => hnodup.1 (heq ▸ hother)) item
              ((names.zip items).map fun member => (member.1.toList, member.2))
          rw [List.zip_cons_cons, List.map_cons, List.mapM_cons, mapM_congr_of_mem hrest,
            ih hnodup.2 hlength, member?, List.filter_cons_of_pos (by simp), hfirst,
            List.length_cons, List.length_cons, Nat.add_sub_add_right]
          rfl

/-- An array has the fields of the object of its items, each under the name of its place. -/
theorem fields?_array {names : List String} (hnodup : names.Nodup) {items : List Json}
    (hlength : items.length ≤ names.length) :
    fields? names (.array items) = fields? names (ofMembers (names.zip items)) := by
  rw [ofMembers, fields?, if_pos hlength, fields?, keyed?_ofMembers, Option.bind_eq_bind,
    Option.bind_some, mapM_member?_zip hnodup hlength]

/-! ### Records -/

/-- How a record with these fields is read from documents. What an object is read as is what its
members describe, an array is read as the object of its items, and no field may be named twice; the
layout never matters. -/
structure ReadsAnyLayout (names : List String) (ofJson? : Json → Option Record)
    (DescribedBy : Record → List (List Piece × Json) → Prop) : Prop where
  object : ∀ members chars record, (Json.object members).HasLayout chars →
    ((parse? chars).bind ofJson? = some record ↔ WholeKeys members ∧ DescribedBy record members)
  array : ∀ items chars others, items.length ≤ names.length →
    (Json.array items).HasLayout chars → (ofMembers (names.zip items)).HasLayout others →
    (parse? chars).bind ofJson? = (parse? others).bind ofJson?
  repeated : ∀ members chars, (Json.object members).HasLayout chars → ∀ name ∈ names,
    2 ≤ occurrences name members → (parse? chars).bind ofJson? = none

theorem readsAnyLayout_of_object {names : List String} {ofJson? : Json → Option Record}
    {DescribedBy : Record → List (List Piece × Json) → Prop} (hnodup : names.Nodup)
    (hobject : ∀ members record,
      ofJson? (.object members) = some record ↔ WholeKeys members ∧ DescribedBy record members)
    (hfields : ∀ json other, fields? names json = fields? names other →
      ofJson? json = ofJson? other)
    (honce : ∀ record members, DescribedBy record members → ∀ name ∈ names,
      occurrences name members ≤ 1) : ReadsAnyLayout names ofJson? DescribedBy where
  object members chars record hlayout := by
    rw [parse?_of_hasLayout hlayout, Option.bind_some, hobject]
  array items chars others hlength hlayout hother := by
    rw [parse?_of_hasLayout hlayout, parse?_of_hasLayout hother, Option.bind_some,
      Option.bind_some]
    exact hfields _ _ (fields?_array hnodup hlength)
  repeated members chars hlayout name hname htwice := by
    rw [parse?_of_hasLayout hlayout, Option.bind_some]
    cases hread : ofJson? (.object members) with
    | none => rfl
    | some record =>
        have hle := honce record members ((hobject _ _).mp hread).2 name hname
        omega

/-- An object is read if its keys are whole and its members are read. -/
theorem keyed?_bind_eq_some_iff {readMembers : List (List Char × Json) → Option Record}
    {record : Record} {Described : Prop}
    (hmembers : ∀ keyed, keyed? members = some keyed →
      (readMembers keyed = some record ↔ Described)) :
    (keyed? members).bind readMembers = some record ↔ WholeKeys members ∧ Described := by
  rw [← exists_keyed?_iff]
  cases hkeyed : keyed? members with
  | none => simp
  | some keyed => simp [hmembers keyed hkeyed]

/-- A record of a single field is read in any layout. -/
theorem readsAnyLayout_of_field {ofJson? : Json → Option Record} {read : Json → Option Value}
    {absent : Value} {make : Value → Record}
    (hofJson : ∀ json, ofJson? json = match json.fields? [name] with
      | some [held] => (orDefault absent read held).bind fun value => some (make value)
      | _ => none) :
    ReadsAnyLayout [name] ofJson? fun record members =>
      ∃ said, SaysOf members name read said ∧ record = make (said.getD absent) := by
  refine readsAnyLayout_of_object (List.nodup_singleton name) (fun members record => ?_)
    (fun json other hfields => ?_) (fun record members hdescribed other hname => ?_)
  · have hread : ofJson? (.object members) = (keyed? members).bind fun keyed =>
        ((member? name keyed).bind (orDefault absent read)).map make := by
      rw [hofJson, fields?]
      cases keyed? members with
      | none => rfl
      | some keyed => cases hmember : member? name keyed <;> simp [hmember, Option.map_eq_bind]
    rw [hread]
    exact keyed?_bind_eq_some_iff fun keyed hkeyed => map_member?_eq_some_iff hkeyed
  · rw [hofJson, hofJson, hfields]
  · obtain ⟨said, hsaid, -⟩ := hdescribed
    rw [List.mem_singleton.mp hname]
    exact hsaid.occurrences_le_one

end Json

/-! ### Settings -/

/-- The members describe the settings. -/
def ScriptSettings.DescribedBy (settings : ScriptSettings)
    (members : List (List Json.Piece × Json)) : Prop :=
  ∃ maxCount, Json.SaysOf members "max_count" Json.word? maxCount ∧
    settings = { maxCount := maxCount.getD ({} : ScriptSettings).maxCount }

/-- The members describe the settings. -/
def HistorySettings.DescribedBy (settings : HistorySettings)
    (members : List (List Json.Piece × Json)) : Prop :=
  ∃ limit, Json.SaysOf members "limit" limitOfJson? limit ∧
    settings = { limit := limit.getD ({} : HistorySettings).limit }

namespace Settings

/-- The members describe the settings. -/
def DescribedBy (settings : Settings) (members : List (List Json.Piece × Json)) : Prop :=
  ∃ script history, Json.SaysOf members "parser" ScriptSettings.ofJson? script ∧
    Json.SaysOf members "history" HistorySettings.ofJson? history ∧
    settings = { script := script.getD {}, history := history.getD {} }

theorem ofJson?_object_eq_some_iff (members : List (List Json.Piece × Json)) (settings : Settings) :
    ofJson? (.object members) = some settings ↔
      Json.WholeKeys members ∧ settings.DescribedBy members := by
  have hread : ofJson? (.object members) = (Json.keyed? members).bind fun keyed =>
      ((Json.member? "parser" keyed).bind (Json.orDefault {} ScriptSettings.ofJson?)).bind
        fun script => ((Json.member? "history" keyed).bind
          (Json.orDefault {} HistorySettings.ofJson?)).map (mk script) := by
    rw [ofJson?, Json.fields?]
    cases Json.keyed? members with
    | none => rfl
    | some keyed =>
        cases hscript : Json.member? "parser" keyed <;>
          cases hhistory : Json.member? "history" keyed <;>
          simp [hscript, hhistory, Option.map_eq_bind]
  rw [hread]
  refine Json.keyed?_bind_eq_some_iff fun keyed hkeyed => ?_
  rw [Option.bind_eq_some_iff]
  constructor
  · rintro ⟨script, hscript, hhistory⟩
    obtain ⟨said, hsaid, rfl⟩ := (Json.member?_bind_eq_some_iff hkeyed).mp hscript
    obtain ⟨other, hother, rfl⟩ := (Json.map_member?_eq_some_iff hkeyed).mp hhistory
    exact ⟨said, other, hsaid, hother, rfl⟩
  · rintro ⟨said, other, hsaid, hother, rfl⟩
    exact ⟨_, (Json.member?_bind_eq_some_iff hkeyed).mpr ⟨said, hsaid, rfl⟩,
      (Json.map_member?_eq_some_iff hkeyed).mpr ⟨other, hother, rfl⟩⟩

end Settings

/-- All three kinds of settings are read from their documents whatever these look like. -/
theorem Json.readsAnyLayout_settings :
    ReadsAnyLayout ["max_count"] ScriptSettings.ofJson? ScriptSettings.DescribedBy ∧
    ReadsAnyLayout ["limit"] HistorySettings.ofJson? HistorySettings.DescribedBy ∧
    ReadsAnyLayout ["parser", "history"] Settings.ofJson? Settings.DescribedBy := by
  refine ⟨readsAnyLayout_of_field fun _ => rfl, readsAnyLayout_of_field fun _ => rfl, ?_⟩
  refine readsAnyLayout_of_object (by decide) Settings.ofJson?_object_eq_some_iff
    (fun json other hfields => ?_) (fun settings members hdescribed name hname => ?_)
  · rw [Settings.ofJson?, Settings.ofJson?, hfields]
  · obtain ⟨script, history, hscript, hhistory, -⟩ := hdescribed
    rcases List.mem_cons.mp hname with rfl | hname
    · exact hscript.occurrences_le_one
    · rw [List.mem_singleton.mp hname]
      exact hhistory.occurrences_le_one

/-- An unknown member before the field, an escape in its name, and blanks outside and between. -/
theorem Json.readsAnyLayout_settings_escaped_name :
    let members : List (List Piece × Json) :=
      [(pieces ['z'], .array [.number ['-', '1', 'e', '5']]),
        (pieces ['l', 'i', 'm', 'i', 't'], .number ['7'])]
    let chars := " \x7b\"z\" :[-1e5],\"li\\u006dit\":7\x7d\n".toList
    (Json.object members).HasLayout chars ∧
    (parse? chars).bind HistorySettings.ofJson? = some { limit := some 7 } := by
  intro members chars
  have hitself {content : Char}
      (hcontent : content ≠ '"' ∧ content ≠ '\\' ∧ 0x20 ≤ content.toNat) :
      (Piece.char content).SpelledBy [content] := .itself hcontent.1 hcontent.2.1 hcontent.2.2
  have hunit : (Piece.char 'm').SpelledBy ['\\', 'u', '0', '0', '6', 'd'] :=
    @Piece.SpelledBy.unit '0' '0' '6' 'd' 0 0 6 13 rfl rfl rfl rfl
  have hz : (Token.text (pieces ['z'])).SpelledBy ['"', 'z', '"'] :=
    @Token.SpelledBy.text _ [['z']] (.cons (hitself (by decide)) .nil)
  have hlimit : (Token.text (pieces ['l', 'i', 'm', 'i', 't'])).SpelledBy
      ['"', 'l', 'i', '\\', 'u', '0', '0', '6', 'd', 'i', 't', '"'] :=
    @Token.SpelledBy.text _ [['l'], ['i'], ['\\', 'u', '0', '0', '6', 'd'], ['i'], ['t']]
      (.cons (hitself (by decide)) (.cons (hitself (by decide)) (.cons hunit
        (.cons (hitself (by decide)) (.cons (hitself (by decide)) .nil)))))
  have hnumber : IsNumber (['-'] ++ (['1'] ++ ([] ++ ('e' :: ([] ++ ['5']))))) :=
    .parts (by simp) (.run (by decide) (by simp)) .absent
      (.power (by simp) (by simp) ⟨by simp, by simp⟩)
  have hnone : ∀ char ∈ ([] : List Char), IsBlank char := List.forall_mem_nil _
  have hlayout : (Json.object members).HasLayout chars := by
    have hchars : chars = [' '] ++ ['\x7b'] ++ ([] ++ ['"', 'z', '"'] ++ ([' '] ++ [':'] ++
        ([] ++ ['['] ++ ([] ++ ['-', '1', 'e', '5'] ++ ([] ++ [']'] ++ ([] ++ [','] ++
          ([] ++ ['"', 'l', 'i', '\\', 'u', '0', '0', '6', 'd', 'i', 't', '"'] ++ ([] ++ [':'] ++
            ([] ++ ['7'] ++ ([] ++ ['\x7d'] ++ ['\n'])))))))))) := by decide +kernel
    have hmark {token : Token} {blanks rest : List Char} {tokens : List Token}
        (hfixed : token ∈ [.openObject, .openArray, .closeObject, .closeArray, .colon, .comma])
        (hblanks : ∀ char ∈ blanks, IsBlank char) (hrest : Token.LaidOut tokens rest) :
        Token.LaidOut (token :: tokens) (blanks ++ token.spelling ++ rest) := by
      refine .cons hblanks (.fixed ?_ ?_) hrest
      all_goals
        rintro _ rfl
        simp at hfixed
    rw [hchars]
    refine hmark (by simp) (by simp [IsBlank]) (.cons hnone hz ?_)
    refine hmark (by simp) (by simp [IsBlank]) (hmark (by simp) hnone ?_)
    refine .cons hnone (.number hnumber) (hmark (by simp) hnone (hmark (by simp) hnone ?_))
    refine .cons hnone hlimit (hmark (by simp) hnone ?_)
    refine .cons hnone (.number (isNumber_digits 7)) (hmark (by simp) hnone ?_)
    exact .nil (by simp [IsBlank])
  refine ⟨hlayout, (readsAnyLayout_settings.2.1.object members chars _ hlayout).mpr ⟨?_, ?_⟩⟩
  · simp [WholeKeys, members, chars?_pieces]
  · refine ⟨some (some 7), .once ?_ (List.mem_cons_of_mem _ List.mem_cons_self) rfl ?_, rfl⟩
    · decide +kernel
    · decide +kernel

/-! ### Checked documents -/

namespace Settings

/-- A document gives settings exactly if it describes them and they pass the check, and is refused
for a value exactly if it describes settings that are refused for this value. So settings written as
a document come back from it, unless they hold a zero; if they hold two, the count is named. -/
theorem ofDocument_eq_iff :
    (∀ document settings, ofDocument document = .ok settings ↔
      (Json.parse? document).bind ofJson? = some settings ∧ settings.validate = .ok ()) ∧
    (∀ document key value, ofDocument document = .error (.invalid key value) ↔
      ∃ settings, (Json.parse? document).bind ofJson? = some settings ∧
        settings.validate = .error (.invalid key value)) ∧
    ∀ settings : Settings,
      (ofDocument settings.toJson.compact = .ok settings ↔
        1 ≤ settings.script.maxCount ∧ settings.history.limit ≠ some 0) ∧
      (ofDocument settings.toJson.compact = .error (.invalid "parser.max_count" "0") ↔
        settings.script.maxCount = 0) ∧
      (ofDocument settings.toJson.compact = .error (.invalid "history.limit" "0") ↔
        1 ≤ settings.script.maxCount ∧ settings.history.limit = some 0) := by
  refine ⟨fun document settings => ofDocument_eq_ok_iff, fun document key value => ?_,
    fun settings => ?_⟩
  · rw [ofDocument_eq_error_iff]
    simp
  · have hdescribed : (Json.parse? settings.toJson.compact).bind ofJson? = some settings := by
      rw [Json.parse?_compact settings.plain_toJson, Option.bind_some, ofJson?_toJson]
    have hrefused (key : String) : ofDocument settings.toJson.compact = .error (.invalid key "0") ↔
        settings.validate = .error (.invalid key "0") := by
      rw [ofDocument_eq_error_iff, hdescribed]
      simp
    rw [ofDocument_eq_ok_iff, hrefused, hrefused, validate_eq_ok_iff, validate_eq_error_iff,
      validate_eq_error_iff, one_le_iff_ne_zero]
    simp [hdescribed]

end Settings

end KeyScript
