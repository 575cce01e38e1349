import KeyScript.Numeral
import KeyScript.Quoted
import Mathlib.Data.List.Basic

/-!
What is quoted can be told apart and looked at. A character inside quotes is spelled in one of three
ways: as itself, by a letter behind a backslash, or by its number between braces. The three begin
differently, and each says by itself where it ends, so that quoted characters and texts are known
from their spelling, whatever follows; and no spelling has a character that is not seen.
-/

namespace KeyScript

/-- What stands before a mark can be told from what stands behind it, if the mark is not in it. -/
theorem append_cons_inj {left right rest more : List Char} {mark : Char} (hleft : mark ∉ left)
    (hright : mark ∉ right) (heq : left ++ mark :: rest = right ++ mark :: more) :
    left = right ∧ rest = more := by
  induction left generalizing right with
  | nil =>
      cases right with
      | nil => exact ⟨rfl, (List.cons.inj heq).2⟩
      | cons char others => exact absurd ((List.cons.inj heq).1 ▸ List.mem_cons_self) hright
  | cons char others ih =>
      cases right with
      | nil => exact absurd ((List.cons.inj heq).1 ▸ List.mem_cons_self) hleft
      | cons first chars =>
          obtain ⟨rfl, hothers⟩ := List.cons.inj heq
          rw [List.mem_cons, not_or] at hleft hright
          obtain ⟨rfl, hrest⟩ := ih hleft.2 hright.2 hothers
          exact ⟨rfl, hrest⟩

/-! ### Digits -/

namespace Numeral

variable {base : Nat} (hone : 1 < base)

theorem digitChar_inj : ∀ digit < 16, ∀ other < 16,
    digit.digitChar = other.digitChar → digit = other := by decide

include hone

theorem toDigits_eq_append (number : Nat) :
    Nat.toDigits base number =
      (if number < base then [] else Nat.toDigits base (number / base)) ++
        [(number % base).digitChar] := by
  rw [Nat.toDigits_eq_if hone]
  split
  · rename_i hlt
    rw [Nat.mod_eq_of_lt hlt, List.nil_append]
  · rfl

theorem toDigits_inj (hbase : base ≤ 16) {number other : Nat}
    (heq : Nat.toDigits base number = Nat.toDigits base other) : number = other := by
  induction number using Nat.strongRecOn generalizing other with
  | ind number ih =>
      have hdigit (number : Nat) : number % base < 16 :=
        Nat.lt_of_lt_of_le (Nat.mod_lt _ (by omega)) hbase
      rw [toDigits_eq_append hone number, toDigits_eq_append hone other] at heq
      obtain ⟨hfront, hlast⟩ := List.append_inj' heq rfl
      have hremainder : number % base = other % base :=
        digitChar_inj _ (hdigit number) _ (hdigit other) (List.singleton_inj.mp hlast)
      split at hfront <;> split at hfront
      · rename_i hnumber hother
        rwa [Nat.mod_eq_of_lt hnumber, Nat.mod_eq_of_lt hother] at hremainder
      · exact absurd hfront.symm Nat.toDigits_ne_nil
      · exact absurd hfront Nat.toDigits_ne_nil
      · have hquotient := ih _ (Nat.div_lt_self (by omega) hone) hfront
        rw [← Nat.div_add_mod number base, hquotient, hremainder, Nat.div_add_mod]

theorem exists_digitChar_of_mem {number : Nat} {char : Char}
    (hmem : char ∈ Nat.toDigits base number) : ∃ digit < base, digit.digitChar = char := by
  induction number using Nat.strongRecOn with
  | ind number ih =>
      rw [toDigits_eq_append hone, List.mem_append, List.mem_singleton] at hmem
      rcases hmem with hfront | rfl
      · split at hfront
        · cases hfront
        · exact ih _ (Nat.div_lt_self (by omega) hone) hfront
      · exact ⟨number % base, Nat.mod_lt _ (by omega), rfl⟩

/-- A number is known from its digits, up to a mark that is no digit. -/
theorem toDigits_append_cons_inj (hbase : base ≤ 16) {mark : Char}
    (hmark : ∀ digit < base, digit.digitChar ≠ mark) {number other : Nat} {rest more : List Char}
    (heq : Nat.toDigits base number ++ mark :: rest = Nat.toDigits base other ++ mark :: more) :
    number = other ∧ rest = more := by
  have hnotin (number : Nat) : mark ∉ Nat.toDigits base number := by
    intro hmem
    obtain ⟨digit, hdigit, hchar⟩ := exists_digitChar_of_mem hone hmem
    exact hmark digit hdigit hchar
  obtain ⟨hdigits, hrest⟩ := append_cons_inj (hnotin number) (hnotin other) heq
  exact ⟨toDigits_inj hone hbase hdigits, hrest⟩

theorem forall_mem_toDigits_isVisible (hbase : base ≤ 16) (number : Nat) :
    ∀ char ∈ Nat.toDigits base number, isVisible char := by
  have hascii : ∀ digit < 16, 0x20 ≤ digit.digitChar.toNat ∧ digit.digitChar.toNat < 0x7F := by
    decide
  intro char hmem
  obtain ⟨digit, hdigit, rfl⟩ := exists_digitChar_of_mem hone hmem
  obtain ⟨hspace, hdelete⟩ := hascii digit (Nat.lt_of_lt_of_le hdigit hbase)
  exact isVisible_of_ascii hspace hdelete

end Numeral

/-! ### Quotes -/

namespace Quoted

/-- The character that a letter behind a backslash stands for. -/
def named? : Char → Option Char
  | 'n' => some '\n'
  | 'r' => some '\r'
  | 't' => some '\t'
  | '0' => some '\x00'
  | '\\' => some '\\'
  | '\'' => some '\''
  | '"' => some '"'
  | _ => none

/-- The ways to spell a character inside quotes. -/
inductive Spells (quote character : Char) : List Char → Prop
  | plain (hslash : character ≠ '\\') (hquote : character ≠ quote)
      (hvisible : isVisible character) : Spells quote character [character]
  | letter {letter : Char} (hletter : named? letter = some character) :
      Spells quote character ['\\', letter]
  | number : Spells quote character
      ('\\' :: 'u' :: '\x7b' :: (Nat.toDigits 16 character.toNat ++ ['\x7d']))

section

variable {quote character other : Char}

theorem spells_escape (hquote : quote = '\'' ∨ quote = '"') (character : Char) :
    Spells quote character (escape quote character) := by
  unfold escape
  split
  · exact .letter rfl
  · exact .letter rfl
  · exact .letter rfl
  · exact .letter rfl
  · split
    · rename_i hsame
      rcases hsame with rfl | rfl
      · rcases hquote with rfl | rfl <;> exact .letter rfl
      · exact .letter rfl
    · rename_i hother
      rw [not_or] at hother
      split
      · exact .plain hother.2 hother.1 ‹_›
      · exact .number

variable {spelling others rest more : List Char}

theorem Spells.append_inj (hspells : Spells quote character spelling)
    (hothers : Spells quote other others) (heq : spelling ++ rest = others ++ more) :
    character = other ∧ rest = more := by
  cases hspells with
  | plain hslash =>
      cases hothers with
      | plain => exact List.cons.inj heq
      | letter | number => exact absurd (List.cons.inj heq).1 hslash
  | letter hletter =>
      cases hothers with
      | plain hslash => exact absurd (List.cons.inj heq).1.symm hslash
      | letter hother =>
          obtain ⟨hsame, hrest⟩ := List.cons.inj (List.cons.inj heq).2
          rw [hsame, hother] at hletter
          exact ⟨(Option.some.inj hletter).symm, hrest⟩
      | number =>
          obtain ⟨rfl, -⟩ := List.cons.inj (List.cons.inj heq).2
          cases hletter
  | number =>
      cases hothers with
      | plain hslash => exact absurd (List.cons.inj heq).1.symm hslash
      | letter hother =>
          obtain ⟨rfl, -⟩ := List.cons.inj (List.cons.inj heq).2
          cases hother
      | number =>
          simp only [List.cons_append, List.append_assoc, List.nil_append, List.cons.injEq,
            true_and] at heq
          obtain ⟨hnumber, hrest⟩ :=
            Numeral.toDigits_append_cons_inj (by decide) (by decide) (by decide) heq
          exact ⟨Char.toNat_inj.mp hnumber, hrest⟩

theorem Spells.append_ne (hquote : quote = '\'' ∨ quote = '"')
    (hspells : Spells quote character spelling) : spelling ++ rest ≠ quote :: more := by
  intro heq
  cases hspells with
  | plain _ hne => exact hne (List.cons.inj heq).1
  | letter | number =>
      have hslash := (List.cons.inj heq).1
      rcases hquote with rfl | rfl <;> exact absurd hslash (by decide)

theorem Spells.forall_mem_isVisible (hspells : Spells quote character spelling) :
    ∀ char ∈ spelling, isVisible char := by
  have hslash : isVisible '\\' := isVisible_of_ascii (by decide) (by decide)
  cases hspells with
  | plain _ _ hvisible => exact List.forall_mem_singleton.mpr hvisible
  | letter hletter =>
      refine List.forall_mem_cons.mpr ⟨hslash, List.forall_mem_singleton.mpr ?_⟩
      unfold named? at hletter
      split at hletter
      -- Every letter of the table is in ASCII.
      all_goals first | exact isVisible_of_ascii (by decide) (by decide) | cases hletter
  | number =>
      rw [List.forall_mem_cons, List.forall_mem_cons, List.forall_mem_cons, List.forall_mem_append,
        List.forall_mem_singleton]
      exact ⟨hslash, isVisible_of_ascii (by decide) (by decide),
        isVisible_of_ascii (by decide) (by decide),
        Numeral.forall_mem_toDigits_isVisible (by decide) (by decide) _,
        isVisible_of_ascii (by decide) (by decide)⟩

/-! ### Whole texts -/

theorem flatMap_escape_append_inj (hquote : quote = '\'' ∨ quote = '"') {content others : List Char}
    (heq : content.flatMap (escape quote) ++ quote :: rest =
      others.flatMap (escape quote) ++ quote :: more) : content = others ∧ rest = more := by
  induction content generalizing others with
  | nil =>
      cases others with
      | nil => exact ⟨rfl, (List.cons.inj heq).2⟩
      | cons other others =>
          rw [List.flatMap_cons, List.append_assoc] at heq
          exact absurd heq.symm ((spells_escape hquote other).append_ne hquote)
  | cons character content ih =>
      cases others with
      | nil =>
          rw [List.flatMap_cons, List.append_assoc] at heq
          exact absurd heq ((spells_escape hquote character).append_ne hquote)
      | cons other others =>
          rw [List.flatMap_cons, List.flatMap_cons, List.append_assoc, List.append_assoc] at heq
          obtain ⟨rfl, hbehind⟩ :=
            (spells_escape hquote character).append_inj (spells_escape hquote other) heq
          obtain ⟨rfl, hrest⟩ := ih hbehind
          exact ⟨rfl, hrest⟩

end

theorem toList_character (content : Char) :
    (character content).toList = '\'' :: (escape '\'' content ++ ['\'']) := String.toList_ofList

theorem toList_text (content : String) :
    (text content).toList = '"' :: (content.toList.flatMap (escape '"') ++ ['"']) :=
  String.toList_ofList

/-- A character is known from its spelling between quotes, and so is where this ends. -/
theorem character_append_inj {content other : Char} {rest more : List Char}
    (heq : (character content).toList ++ rest = (character other).toList ++ more) :
    content = other ∧ rest = more := by
  have hquote : '\'' = '\'' ∨ '\'' = '"' := Or.inl rfl
  rw [toList_character, toList_character, List.cons_append, List.cons_append, List.append_assoc,
    List.append_assoc] at heq
  obtain ⟨hcontent, hrest⟩ :=
    (spells_escape hquote content).append_inj (spells_escape hquote other) (List.cons.inj heq).2
  exact ⟨hcontent, (List.cons.inj hrest).2⟩

theorem text_injective : Function.Injective text := by
  intro content other heq
  have hspelling := congrArg String.toList heq
  rw [toList_text, toList_text] at hspelling
  obtain ⟨hcontent, -⟩ := flatMap_escape_append_inj (Or.inr rfl) (List.cons.inj hspelling).2
  exact String.toList_inj.mp hcontent

theorem forall_mem_character_isVisible (content : Char) :
    ∀ char ∈ (character content).toList, isVisible char := by
  have hquote : isVisible '\'' := isVisible_of_ascii (by decide) (by decide)
  rw [toList_character, List.forall_mem_cons, List.forall_mem_append, List.forall_mem_singleton]
  exact ⟨hquote, (spells_escape (Or.inl rfl) content).forall_mem_isVisible, hquote⟩

theorem forall_mem_text_isVisible (content : String) :
    ∀ char ∈ (text content).toList, isVisible char := by
  have hquote : isVisible '"' := isVisible_of_ascii (by decide) (by decide)
  rw [toList_text, List.forall_mem_cons, List.forall_mem_append, List.forall_mem_singleton]
  refine ⟨hquote, ?_, hquote⟩
  intro char hmem
  obtain ⟨character, -, hmem⟩ := List.mem_flatMap.mp hmem
  exact (spells_escape (Or.inr rfl) character).forall_mem_isVisible char hmem

end Quoted

end KeyScript
