import KeyScript.Proofs.Effect

/-!
Searching forward. The search begins at the cursor, looks no further than the first place that holds
the character, and finds nothing only where no place from the cursor on holds it. So the cursor
never goes back, and it stays where it has been brought by the same search before: the place that
was found is also the first one from itself on.
-/

namespace KeyScript

namespace Text

/-- The place that was found is found again from there. -/
theorem find?_of_find?_eq_some {text : Text} {start index : Nat} {character : Char}
    (hfind : text.find? start character = some index) :
    text.find? index character = some index := by
  obtain ⟨-, hholds, -⟩ := find?_eq_some_iff.mp hfind
  refine find?_eq_some_iff.mpr ⟨Nat.le_refl index, hholds, ?_⟩
  intro place hindex hplace
  exact absurd hplace (Nat.not_lt_of_le hindex)

theorem find?_of_length_le {text : Text} {start : Nat} (hstart : text.length ≤ start)
    (character : Char) : text.find? start character = none := by
  rw [find?_eq_none_iff]
  intro place hplace
  rw [get?_eq_none (Nat.le_trans hstart hplace)]
  simp

end Text

namespace Command

variable (character : Char) (snapshot : Snapshot)

theorem le_cursor_effect_moveToNext :
    snapshot.cursor ≤ ((moveToNext character).effect snapshot).cursor := by
  rw [effect_moveToNext]
  cases hfind : snapshot.text.find? snapshot.cursor character with
  | none => exact Nat.le_refl _
  | some index => exact Text.le_of_find?_eq_some hfind

theorem effect_moveToNext_effect :
    (moveToNext character).effect ((moveToNext character).effect snapshot) =
      (moveToNext character).effect snapshot := by
  rw [effect_moveToNext, effect_moveToNext]
  cases hfind : snapshot.text.find? snapshot.cursor character with
  | none => simp only [Option.getD_none, hfind]
  | some index => simp only [Option.getD_some, Text.find?_of_find?_eq_some hfind]

end Command

namespace Editor

/-- A search finds a place if and only if this is the first one, from the start of the search on,
that holds the character; and it finds none if and only if there is none. Hence moving to a
character never moves the cursor back, keeps the text, leaves a cursor behind the text where it is,
and does nothing more to text and cursor the second time. -/
theorem moveToNext_reaches_first :
    (∀ (text : Text) (start : Nat) (character : Char) (index : Nat),
      text.find? start character = some index ↔
        (start ≤ index ∧ index < text.length) ∧ text.get? index = some character ∧
          ∀ place, start ≤ place → place < index → text.get? place ≠ some character) ∧
    (∀ (text : Text) (start : Nat) (character : Char),
      text.find? start character = none ↔
        ∀ place, start ≤ place → text.get? place ≠ some character) ∧
    ∀ (editor : Editor) (character : Char),
      let after := editor.apply (.moveToNext character)
      editor.cursor ≤ after.cursor ∧
      after.text = editor.text ∧
      (editor.text.length ≤ editor.cursor → after.cursor = editor.cursor) ∧
      (after.apply (.moveToNext character)).snapshot = after.snapshot := by
  refine ⟨?_, fun text start character => Text.find?_eq_none_iff, ?_⟩
  · intro text start character index
    constructor
    · intro hfind
      obtain ⟨hstart, hholds, hbefore⟩ := Text.find?_eq_some_iff.mp hfind
      exact ⟨⟨hstart, Text.lt_length_of_find?_eq_some hfind⟩, hholds, hbefore⟩
    · rintro ⟨⟨hstart, -⟩, hholds, hbefore⟩
      exact Text.find?_eq_some_iff.mpr ⟨hstart, hholds, hbefore⟩
  · intro editor character after
    have hsnapshot : after.snapshot = (Command.moveToNext character).effect editor.snapshot :=
      snapshot_apply rfl editor
    have hcursor : after.cursor = ((Command.moveToNext character).effect editor.snapshot).cursor :=
      congrArg Snapshot.cursor hsnapshot
    refine ⟨?_, congrArg Snapshot.text hsnapshot, ?_, ?_⟩
    · rw [hcursor]
      exact Command.le_cursor_effect_moveToNext character editor.snapshot
    · intro hbehind
      have hnone : editor.text.find? editor.cursor character = none :=
        Text.find?_of_length_le hbehind character
      rw [hcursor, Command.effect_moveToNext]
      exact congrArg (Option.getD · editor.cursor) hnone
    · rw [snapshot_apply_apply rfl rfl, hsnapshot]
      exact Command.effect_moveToNext_effect character editor.snapshot

/-- The character stands at two places, and the search that begins behind the first finds the
second. Behind the end there is none to find, also where the cursor has been left by a deletion. -/
theorem moveToNext_reaches_first_of_two :
    let text : Text := ⟨['b', 'a', 'b', 'b']⟩
    let editor := start text {}
    let behind := editor.run [.moveRight (.times 5), .delete .one]
    text.find? 1 'b' = some 2 ∧
    (text.get? 2 = some 'b' ∧ ∀ place, 1 ≤ place → place < 2 → text.get? place ≠ some 'b') ∧
    (∀ place, 7 ≤ place → text.get? place ≠ some 'b') ∧
    (editor.apply (.moveToNext 'a')).cursor = 1 ∧
    ((editor.apply (.moveToNext 'a')).apply (.moveToNext 'a')).snapshot =
      (editor.apply (.moveToNext 'a')).snapshot ∧
    behind.text.length ≤ behind.cursor ∧
    (behind.apply (.moveToNext 'b')).cursor = behind.cursor := by
  intro text editor behind
  obtain ⟨hsome, hnone, hmove⟩ := moveToNext_reaches_first
  obtain ⟨-, hholds, hbefore⟩ := (hsome text 1 'b' 2).mp (by decide)
  obtain ⟨-, -, -, hagain⟩ := hmove editor 'a'
  obtain ⟨-, -, hstays, -⟩ := hmove behind 'b'
  have hbehind : behind.text.length ≤ behind.cursor := by decide
  exact ⟨by decide, ⟨hholds, hbefore⟩, (hnone text 7 'b').mp (by decide), by decide, hagain,
    hbehind, hstays hbehind⟩

end Editor

end KeyScript
