import KeyScript.Numeral

/-!
Texts as rows of characters. Positions count characters from zero, and every operation is total: a
position at or beyond the end names no character.
-/

namespace KeyScript

/-- A text that can be edited by position. -/
structure Text where
  chars : List Char
  deriving DecidableEq, Repr

namespace Text

def ofString (content : String) : Text := ⟨content.toList⟩

def empty : Text := ⟨[]⟩

def length (text : Text) : Nat := text.chars.length

def isEmpty (text : Text) : Bool := text.chars.isEmpty

/-- The position of the last character, or zero in an empty text. -/
def lastIndex (text : Text) : Nat := text.length - 1

def get? (text : Text) (index : Nat) : Option Char := text.chars[index]?

/-- The text with another character at a position, if there is one to overwrite. -/
def replace? (text : Text) (index : Nat) (character : Char) : Option Text :=
  if index < text.length then some ⟨text.chars.set index character⟩ else none

/-- Removes `count` characters from `start` on, or as many as there are, and says how many. -/
def delete (text : Text) (start count : Nat) : Text × Nat :=
  if text.length ≤ start then (text, 0)
  else
    let stop := cappedSum start count
    if text.length ≤ stop then (⟨text.chars.take start⟩, text.length - start)
    else (⟨text.chars.take start ++ text.chars.drop stop⟩, count)

/-- The first position at or after `start` that holds the character. -/
def find? (text : Text) (start : Nat) (character : Char) : Option Nat :=
  ((text.chars.drop start).findIdx? (· == character)).map (start + ·)

theorem get?_add (text : Text) (start offset : Nat) :
    text.get? (start + offset) = (text.chars.drop start)[offset]? :=
  List.getElem?_drop.symm

/-- What is found is the first place from `start` on that holds the character. -/
theorem find?_eq_some_iff {text : Text} {start index : Nat} {character : Char} :
    text.find? start character = some index ↔
      start ≤ index ∧ text.get? index = some character ∧
        ∀ place, start ≤ place → place < index → text.get? place ≠ some character := by
  rw [find?, Option.map_eq_some_iff]
  constructor
  · rintro ⟨offset, hoffset, rfl⟩
    obtain ⟨hlt, hholds, hbefore⟩ := List.findIdx?_eq_some_iff_getElem.mp hoffset
    refine ⟨Nat.le_add_right start offset, ?_, ?_⟩
    · rw [get?_add, List.getElem?_eq_getElem hlt, eq_of_beq hholds]
    · intro place hstart hplace heq
      obtain ⟨earlier, rfl⟩ := Nat.exists_eq_add_of_le hstart
      have hearlier : earlier < offset := Nat.lt_of_add_lt_add_left hplace
      rw [get?_add, List.getElem?_eq_getElem (Nat.lt_trans hearlier hlt), Option.some.injEq] at heq
      exact hbefore earlier hearlier (beq_iff_eq.mpr heq)
  · rintro ⟨hstart, hholds, hbefore⟩
    obtain ⟨offset, rfl⟩ := Nat.exists_eq_add_of_le hstart
    rw [get?_add] at hholds
    obtain ⟨hlt, heq⟩ := List.getElem?_eq_some_iff.mp hholds
    refine ⟨offset, List.findIdx?_eq_some_iff_getElem.mpr ⟨hlt, beq_iff_eq.mpr heq, ?_⟩, rfl⟩
    intro earlier hearlier hsame
    apply hbefore (start + earlier) (Nat.le_add_right start earlier)
      (Nat.add_lt_add_left hearlier start)
    rw [get?_add, List.getElem?_eq_getElem (Nat.lt_trans hearlier hlt), eq_of_beq hsame]

theorem find?_eq_none_iff {text : Text} {start : Nat} {character : Char} :
    text.find? start character = none ↔
      ∀ place, start ≤ place → text.get? place ≠ some character := by
  rw [find?, Option.map_eq_none_iff, List.findIdx?_eq_none_iff]
  constructor
  · intro hnone place hstart heq
    obtain ⟨offset, rfl⟩ := Nat.exists_eq_add_of_le hstart
    rw [get?_add] at heq
    exact absurd rfl (beq_eq_false_iff_ne.mp (hnone character (List.mem_of_getElem? heq)))
  · intro hall other hmem
    obtain ⟨offset, hoffset⟩ := List.mem_iff_getElem?.mp hmem
    rw [← get?_add] at hoffset
    exact beq_eq_false_iff_ne.mpr fun heq =>
      hall (start + offset) (Nat.le_add_right start offset) (heq ▸ hoffset)

end Text

end KeyScript
