import KeyScript.Proofs.Strokes
import KeyScript.Proofs.Trail

/-!
What the effects of the commands do to the length of a text and to the cursor in it. No command
makes a text longer, and only deleting makes it shorter; no command moves the cursor beyond the end
of the text it leaves behind.
-/

namespace KeyScript

namespace Text

/-- In a text whose length is a word the cap on the sum is never met. -/
theorem chars_delete {text : Text} (htext : text.length ≤ maxWord) (start count : Nat) :
    (text.delete start count).1.chars = text.chars.take start ++ text.chars.drop (start + count) := by
  unfold length at htext
  unfold delete length cappedSum
  split
  · rename_i hbehind
    rw [List.take_of_length_le hbehind, List.drop_of_length_le (by omega), List.append_nil]
  · dsimp only
    split
    · rw [List.drop_of_length_le (by omega), List.append_nil]
    · rw [Nat.min_eq_left (by omega)]

/-- What stands behind the characters removed moves up to where they began. -/
theorem get?_delete {text : Text} (htext : text.length ≤ maxWord) (start count place : Nat) :
    (text.delete start count).1.get? place =
      if place < start then text.get? place else text.get? (place + count) := by
  unfold get?
  rw [chars_delete htext, List.getElem?_append, List.length_take, List.getElem?_drop]
  by_cases hplace : place < start
  · rw [if_pos hplace]
    by_cases hlength : place < text.chars.length
    · rw [if_pos (by omega), List.getElem?_take_of_lt hplace]
    · rw [if_neg (by omega), List.getElem?_eq_none (by omega), List.getElem?_eq_none (by omega)]
  · rw [if_neg hplace, if_neg (by omega)]
    by_cases hlength : start ≤ text.chars.length
    · rw [Nat.min_eq_left hlength]
      exact congrArg (text.chars[·]?) (by omega)
    · rw [List.getElem?_eq_none (by omega), List.getElem?_eq_none (by omega)]

theorem length_delete {text : Text} (htext : text.length ≤ maxWord) (start count : Nat) :
    (text.delete start count).1.length =
      min start text.length + (text.length - (start + count)) := by
  rw [length, chars_delete htext, List.length_append, List.length_take, List.length_drop, length]

theorem length_delete_le {text : Text} (htext : text.length ≤ maxWord) (start count : Nat) :
    (text.delete start count).1.length ≤ text.length := by
  rw [length_delete htext]
  omega

/-- What stands before the first character removed stays where it is. -/
theorem le_length_delete {text : Text} (htext : text.length ≤ maxWord) {start : Nat}
    (hstart : start ≤ text.length) (count : Nat) : start ≤ (text.delete start count).1.length := by
  rw [length_delete htext]
  omega

/-- What is found is not before the place where the search begins. -/
theorem le_of_find?_eq_some {text : Text} {start index : Nat} {character : Char}
    (hfind : text.find? start character = some index) : start ≤ index :=
  (find?_eq_some_iff.mp hfind).1

theorem lt_length_of_find?_eq_some {text : Text} {start index : Nat} {character : Char}
    (hfind : text.find? start character = some index) : index < text.length := by
  obtain ⟨-, hholds, -⟩ := find?_eq_some_iff.mp hfind
  exact (List.getElem?_eq_some_iff.mp hholds).choose

end Text

/-- The cursor stands in the text or right behind it. -/
def Snapshot.Within (snapshot : Snapshot) : Prop := snapshot.cursor ≤ snapshot.text.length

theorem Snapshot.eq_of_get?_eq {left right : Snapshot} (hcursor : left.cursor = right.cursor)
    (htext : ∀ place, left.text.get? place = right.text.get? place) : left = right := by
  cases left
  cases right
  cases hcursor
  cases Text.eq_of_get?_eq htext
  rfl

namespace Command

theorem effect_moveLeft (count : Count) (snapshot : Snapshot) :
    (moveLeft count).effect snapshot = ⟨snapshot.cursor - count.get, snapshot.text⟩ := rfl

theorem effect_moveRight (count : Count) (snapshot : Snapshot) :
    (moveRight count).effect snapshot =
      ⟨min (cappedSum snapshot.cursor count.get) snapshot.text.lastIndex, snapshot.text⟩ := rfl

theorem effect_replace_one (character : Char) (snapshot : Snapshot) :
    (replace .one character).effect snapshot =
      ⟨snapshot.cursor, (snapshot.text.replace? snapshot.cursor character).getD snapshot.text⟩ := rfl

theorem effect_replace {count : Count} (hcount : count ≠ .one) (character : Char)
    (snapshot : Snapshot) :
    (replace count character).effect snapshot =
      ⟨(Editor.strokes character count.get snapshot.text snapshot.cursor).2,
        (Editor.strokes character count.get snapshot.text snapshot.cursor).1⟩ := by
  simp only [effect, Editor.perform, Editor.replace, if_neg hcount, Editor.snapshot]

theorem effect_moveToNext (character : Char) (snapshot : Snapshot) :
    (moveToNext character).effect snapshot =
      ⟨(snapshot.text.find? snapshot.cursor character).getD snapshot.cursor, snapshot.text⟩ := rfl

theorem effect_delete (count : Count) (snapshot : Snapshot) :
    (delete count).effect snapshot =
      ⟨snapshot.cursor, (snapshot.text.delete snapshot.cursor count.get).1⟩ := rfl

theorem effect_undo (count : Count) (snapshot : Snapshot) :
    (undo count).effect snapshot = snapshot := by
  have hnone : (([] : List Snapshot).take count.get).getLast? = none := by simp
  simp only [effect, Editor.perform, Editor.undo, History.takeBack, hnone, Editor.snapshot]

theorem length_effect {command : Command} (hdelete : ∀ count, command ≠ .delete count)
    (snapshot : Snapshot) : (command.effect snapshot).text.length = snapshot.text.length := by
  cases command with
  | moveLeft | moveRight | moveToNext => rfl
  | replace count character =>
      by_cases hcount : count = .one
      · rw [hcount, effect_replace_one]
        exact Text.length_getD_replace? _ _ _
      · rw [effect_replace hcount]
        exact Editor.length_strokes _ _ _ _
  | delete count => exact False.elim (hdelete count rfl)
  | undo count => rw [effect_undo]

/-- Whatever the count, the places filled are those from the cursor on, as many as asked for. -/
theorem get?_effect_replace (count : Count) (character : Char) (snapshot : Snapshot)
    (place : Nat) :
    ((replace count character).effect snapshot).text.get? place =
      if snapshot.cursor ≤ place ∧
          place < min (snapshot.cursor + count.get) snapshot.text.length then some character
      else snapshot.text.get? place := by
  by_cases hcount : count = .one
  · rw [hcount, effect_replace_one]
    exact Text.get?_getD_replace? _ _ _ _
  · rw [effect_replace hcount]
    exact Editor.get?_strokes _ _ _ _ _

/-- A count of one stays on the character it fills; any other moves behind those it fills, but not
off the text. -/
theorem cursor_effect_replace (count : Count) (character : Char) (snapshot : Snapshot) :
    ((replace count character).effect snapshot).cursor =
      if snapshot.text.length ≤ snapshot.cursor ∨ count = .one then snapshot.cursor
      else min (snapshot.cursor + count.get) snapshot.text.lastIndex := by
  by_cases hcount : count = .one
  · rw [if_pos (Or.inr hcount), hcount, effect_replace_one]
  · rw [effect_replace hcount]
    simp only [hcount, or_false]
    exact Editor.cursor_strokes _ _ _ _

theorem length_effect_le (command : Command) {snapshot : Snapshot}
    (htext : snapshot.text.length ≤ maxWord) :
    (command.effect snapshot).text.length ≤ snapshot.text.length := by
  cases command with
  | delete count =>
      rw [effect_delete]
      exact Text.length_delete_le htext _ _
  | _ => exact Nat.le_of_eq (length_effect (by simp) snapshot)

theorem within_effect (command : Command) {snapshot : Snapshot}
    (htext : snapshot.text.length ≤ maxWord) (hwithin : snapshot.Within) :
    (command.effect snapshot).Within := by
  unfold Snapshot.Within at hwithin ⊢
  cases command with
  | moveLeft count =>
      rw [effect_moveLeft]
      exact Nat.le_trans (Nat.sub_le _ _) hwithin
  | moveRight count =>
      rw [effect_moveRight]
      exact Nat.le_trans (Nat.min_le_right _ _) (Nat.sub_le _ _)
  | replace count character =>
      rw [length_effect (by simp), cursor_effect_replace]
      unfold Text.lastIndex
      split <;> omega
  | moveToNext character =>
      rw [effect_moveToNext]
      cases hfind : snapshot.text.find? snapshot.cursor character with
      | none => exact hwithin
      | some index => exact Nat.le_of_lt (Text.lt_length_of_find?_eq_some hfind)
  | delete count =>
      rw [effect_delete]
      exact Text.le_length_delete htext hwithin _
  | undo count =>
      rw [effect_undo]
      exact hwithin

end Command

namespace Editor

/-- Overwriting in closed form, for every state and every count. The text keeps its length. It holds
the character at the places from the cursor on, as many as asked for and as the text has, and what
it held before everywhere else. The cursor stays where it is behind the text, and under a count of
one; otherwise it moves behind the places filled, but no further than to the last character. -/
theorem apply_replace_fills (editor : Editor) (count : Count) (character : Char) :
    let after := editor.apply (.replace count character)
    after.text.length = editor.text.length ∧
    (∀ place, after.text.get? place =
      if editor.cursor ≤ place ∧ place < min (editor.cursor + count.get) editor.text.length then
        some character
      else editor.text.get? place) ∧
    after.cursor =
      if editor.text.length ≤ editor.cursor ∨ count = .times 1 then editor.cursor
      else min (editor.cursor + count.get) (editor.text.length - 1) := by
  intro after
  have hsnapshot : after.snapshot = (Command.replace count character).effect editor.snapshot :=
    snapshot_apply rfl editor
  have htext := congrArg Snapshot.text hsnapshot
  have hcursor := congrArg Snapshot.cursor hsnapshot
  change after.text = _ at htext
  change after.cursor = _ at hcursor
  refine ⟨?_, ?_, ?_⟩
  · rw [htext]
    exact Command.length_effect (by simp) editor.snapshot
  · intro place
    rw [htext]
    exact Command.get?_effect_replace count character editor.snapshot place
  · rw [hcursor]
    exact Command.cursor_effect_replace count character editor.snapshot

end Editor

end KeyScript
