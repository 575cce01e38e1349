import KeyScript.Editor
import Mathlib.Logic.Basic

/-!
Strokes in closed form. The loop that overwrites one character after the other has two ways to end,
after the last stroke and at the end of the text. What it comes to is a single formula: it fills the
places from the cursor on, as many as there are strokes and places for them, and leaves the cursor
behind the last of them, or on the last character where that would be behind the text.
-/

namespace KeyScript

namespace Text

theorem eq_of_get?_eq {text other : Text} (h : ∀ index, text.get? index = other.get? index) :
    text = other :=
  congrArg Text.mk (List.ext_getElem? h)

theorem get?_eq_none {text : Text} {index : Nat} (hindex : text.length ≤ index) :
    text.get? index = none :=
  List.getElem?_eq_none hindex

section

variable {text changed : Text} {index : Nat} {character : Char}

theorem length_of_replace?_eq_some (hreplace : text.replace? index character = some changed) :
    changed.length = text.length := by
  unfold replace? at hreplace
  split at hreplace
  · cases hreplace
    exact List.length_set
  · cases hreplace

theorem lt_length_of_replace?_eq_some (hreplace : text.replace? index character = some changed) :
    index < text.length := by
  unfold replace? at hreplace
  split at hreplace
  · assumption
  · cases hreplace

theorem length_le_of_replace?_eq_none (hreplace : text.replace? index character = none) :
    text.length ≤ index := by
  unfold replace? at hreplace
  split at hreplace
  · cases hreplace
  · exact Nat.le_of_not_lt ‹_›

theorem get?_of_replace?_eq_some (hreplace : text.replace? index character = some changed)
    (place : Nat) :
    changed.get? place = if place = index then some character else text.get? place := by
  have hindex := lt_length_of_replace?_eq_some hreplace
  unfold replace? at hreplace
  rw [if_pos hindex] at hreplace
  cases hreplace
  unfold length at hindex
  unfold get?
  by_cases hplace : place = index
  · rw [if_pos hplace, hplace, List.getElem?_set_self hindex]
  · rw [if_neg hplace, List.getElem?_set_ne (Ne.symm hplace)]

end

theorem length_getD_replace? (text : Text) (index : Nat) (character : Char) :
    ((text.replace? index character).getD text).length = text.length := by
  cases hreplace : text.replace? index character with
  | none => rfl
  | some changed => exact length_of_replace?_eq_some hreplace

/-- Overwriting in place fills one place, if the text has it. -/
theorem get?_getD_replace? (text : Text) (index : Nat) (character : Char) (place : Nat) :
    ((text.replace? index character).getD text).get? place =
      if index ≤ place ∧ place < min (index + 1) text.length then some character
      else text.get? place := by
  cases hreplace : text.replace? index character with
  | none =>
      have hindex := length_le_of_replace?_eq_none hreplace
      rw [Option.getD_none, if_neg (by omega)]
  | some changed =>
      have hindex := lt_length_of_replace?_eq_some hreplace
      rw [Option.getD_some, get?_of_replace?_eq_some hreplace]
      exact if_congr (by omega) rfl rfl

end Text

namespace Editor

theorem length_strokes (character : Char) (count : Nat) (text : Text) (cursor : Nat) :
    (strokes character count text cursor).1.length = text.length := by
  induction count generalizing text cursor with
  | zero => rfl
  | succ count ih =>
      rw [strokes]
      split
      · rfl
      · rename_i hreplace
        split
        · exact Text.length_of_replace?_eq_some hreplace
        · rw [ih]
          exact Text.length_of_replace?_eq_some hreplace

theorem get?_strokes (character : Char) (count : Nat) (text : Text) (cursor place : Nat) :
    (strokes character count text cursor).1.get? place =
      if cursor ≤ place ∧ place < min (cursor + count) text.length then some character
      else text.get? place := by
  induction count generalizing text cursor with
  | zero => rw [strokes, if_neg (by omega)]
  | succ count ih =>
      rw [strokes]
      cases hreplace : text.replace? cursor character with
      | none =>
          have hcursor := Text.length_le_of_replace?_eq_none hreplace
          rw [if_neg (by omega)]
      | some changed =>
          have hcursor := Text.lt_length_of_replace?_eq_some hreplace
          have hlength := Text.length_of_replace?_eq_some hreplace
          have hchanged := Text.get?_of_replace?_eq_some hreplace place
          dsimp only
          split
          · -- The stroke was made on the last character, and it is the only one.
            rw [hchanged]
            exact if_congr (by omega) rfl rfl
          · rw [ih, hchanged, hlength]
            by_cases hplace : place = cursor
            · rw [if_neg (by omega), if_pos hplace, if_pos (by omega)]
            · rw [if_neg hplace]
              exact if_congr (by omega) rfl rfl

theorem cursor_strokes (character : Char) (count : Nat) (text : Text) (cursor : Nat) :
    (strokes character count text cursor).2 =
      if text.length ≤ cursor then cursor else min (cursor + count) text.lastIndex := by
  unfold Text.lastIndex
  induction count generalizing text cursor with
  | zero =>
      rw [strokes]
      split
      · rfl
      · dsimp only
        omega
  | succ count ih =>
      rw [strokes]
      cases hreplace : text.replace? cursor character with
      | none => rw [if_pos (Text.length_le_of_replace?_eq_none hreplace)]
      | some changed =>
          have hcursor := Text.lt_length_of_replace?_eq_some hreplace
          have hlength := Text.length_of_replace?_eq_some hreplace
          rw [if_neg (Nat.not_le_of_lt hcursor)]
          dsimp only
          split
          · dsimp only
            omega
          · rw [ih, hlength, if_neg (by omega)]
            omega

end Editor

end KeyScript
