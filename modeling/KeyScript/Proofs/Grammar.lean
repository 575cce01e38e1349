import KeyScript.Proofs.Phrase
import Mathlib.Control.Monad.Basic

/-!
The grammar of scripts and what it means. A row of keys is a script if and only if it can be split
into phrases and a run of digits behind the last of them, and its commands are those of the phrases,
each under the count that its digits write in decimal. No row of keys can be split in two ways: the
digits of a phrase end at its letter, which is no digit, and the letter tells whether one more key
belongs to it, whatever that key is.
-/

namespace KeyScript

namespace Count

/-- The count that a run of digits writes. Its number is taken in full, however long the run is; no
digits at all write one. -/
def written (maxCount : UInt64) (run : List Char) : Count :=
  if run = [] then .one
  else if Numeral.value run ≤ maxCount.toNat then .times (.ofNat (Numeral.value run))
  else .unbounded

theorem ofRun_eq_written {run : List Char} (hrun : ∀ digit ∈ run, digit.isDigit)
    (maxCount : UInt64) : ofRun maxCount run = written maxCount run := by
  by_cases hnil : run = []
  · rw [hnil, ofRun_nil, written, if_pos rfl]
  · rw [written, if_neg hnil]
    cases hword : Numeral.word? run with
    | some number =>
        obtain ⟨-, -, hvalue⟩ := Numeral.word?_eq_some_iff.mp hword
        rw [ofRun_of_word?_eq_some hword, hvalue, UInt64.ofNat_toNat]
        simp only [UInt64.le_iff_toNat_le]
    | none =>
        -- The run is not read because its number has more than 64 bits.
        have hbeyond : ¬Numeral.value run ≤ maxCount.toNat := by
          intro hle
          have hvalue := toNat_ofNat_of_le_maxWord (Nat.le_trans hle (toNat_le_maxWord maxCount))
          rw [Numeral.word?_eq_some_iff.mpr ⟨hnil, hrun, hvalue.symm⟩] at hword
          cases hword
        rw [ofRun_of_word?_eq_none hnil hword, if_neg hbeyond]

end Count

namespace Script

/-! ### Taking a phrase off the front -/

theorem Stem.exists_keys_eq_cons (stem : Stem) :
    ∃ (letter : Char) (argument : List Char),
      stem.keys = letter :: argument ∧ ¬letter.isDigit := by
  cases stem with
  | replace argument | moveToNext argument => exact ⟨_, [argument], rfl, by decide⟩
  | moveLeft | moveRight | delete | undo => exact ⟨_, [], rfl, by decide⟩

theorem Stem.keys_append_inj {stem other : Stem} {rest more : List Char}
    (heq : stem.keys ++ rest = other.keys ++ more) : stem = other ∧ rest = more := by
  cases stem <;> cases other <;> simp_all [keys]

namespace Phrase

theorem takeWhile_keys_append (phrase : Phrase) (rest : List Char) :
    (phrase.keys ++ rest).takeWhile Char.isDigit = phrase.run := by
  obtain ⟨letter, argument, hstem, hletter⟩ := phrase.stem.exists_keys_eq_cons
  rw [keys, List.append_assoc, List.takeWhile_append_of_pos phrase.run_digits, hstem,
    List.cons_append, List.takeWhile_cons_of_neg hletter, List.append_nil]

theorem dropWhile_keys_append (phrase : Phrase) (rest : List Char) :
    (phrase.keys ++ rest).dropWhile Char.isDigit = phrase.stem.keys ++ rest := by
  obtain ⟨letter, argument, hstem, hletter⟩ := phrase.stem.exists_keys_eq_cons
  rw [keys, List.append_assoc, List.dropWhile_append_of_pos phrase.run_digits, hstem,
    List.cons_append, List.dropWhile_cons_of_neg hletter]

theorem keys_append_inj {phrase other : Phrase} {rest more : List Char}
    (heq : phrase.keys ++ rest = other.keys ++ more) : phrase = other ∧ rest = more := by
  have hrun := congrArg (List.takeWhile Char.isDigit) heq
  have hbehind := congrArg (List.dropWhile Char.isDigit) heq
  rw [takeWhile_keys_append, takeWhile_keys_append] at hrun
  rw [dropWhile_keys_append, dropWhile_keys_append] at hbehind
  obtain ⟨hstem, hrest⟩ := Stem.keys_append_inj hbehind
  cases phrase
  cases other
  cases hrun
  cases hstem
  exact ⟨rfl, hrest⟩

/-- A phrase is more than digits. -/
theorem keys_append_ne {digits : List Char} (hdigits : ∀ key ∈ digits, key.isDigit)
    (phrase : Phrase) (rest : List Char) : phrase.keys ++ rest ≠ digits := by
  intro heq
  obtain ⟨letter, argument, hstem, hletter⟩ := phrase.stem.exists_keys_eq_cons
  have hmem : letter ∈ phrase.keys ++ rest := by
    rw [keys, hstem]
    simp
  rw [heq] at hmem
  exact hletter (hdigits letter hmem)

end Phrase

/-! ### Splitting a script -/

/-- A row of phrases, and the digits that stand behind the last of them. -/
structure Split where
  phrases : List Phrase
  digits : List Char
  digits_isDigit : ∀ key ∈ digits, key.isDigit

namespace Split

/-- The keys that are split. -/
def keys (split : Split) : List Char := split.phrases.flatMap Phrase.keys ++ split.digits

/-- One command for each phrase, in their order. The digits behind the last phrase mean nothing. -/
def commands (maxCount : UInt64) (split : Split) : List Command :=
  split.phrases.map fun phrase => phrase.stem.command (Count.written maxCount phrase.run)

theorem commands_eq (maxCount : UInt64) (split : Split) :
    split.commands maxCount = split.phrases.map (Phrase.command maxCount) :=
  List.map_congr_left fun phrase _ =>
    congrArg phrase.stem.command (Count.ofRun_eq_written phrase.run_digits maxCount).symm

theorem phrases_eq_of_keys_eq {phrases others : List Phrase} {digits more : List Char}
    (hdigits : ∀ key ∈ digits, key.isDigit) (hmore : ∀ key ∈ more, key.isDigit)
    (heq : phrases.flatMap Phrase.keys ++ digits = others.flatMap Phrase.keys ++ more) :
    phrases = others ∧ digits = more := by
  induction phrases generalizing others with
  | nil =>
      cases others with
      | nil => exact ⟨rfl, heq⟩
      | cons other others =>
          rw [List.flatMap_cons, List.append_assoc] at heq
          exact False.elim (other.keys_append_ne hdigits _ heq.symm)
  | cons phrase phrases ih =>
      rw [List.flatMap_cons, List.append_assoc] at heq
      cases others with
      | nil => exact False.elim (phrase.keys_append_ne hmore _ heq)
      | cons other others =>
          rw [List.flatMap_cons, List.append_assoc] at heq
          obtain ⟨rfl, hrest⟩ := Phrase.keys_append_inj heq
          obtain ⟨rfl, rfl⟩ := ih hrest
          exact ⟨rfl, rfl⟩

end Split

/-- Reading accepts exactly what the grammar describes, and takes it for what the grammar says it
means: a row of keys is read as certain commands if and only if it splits into phrases and digits
behind them such that these are the commands of the phrases. There is at most one such split. -/
theorem read_eq_ok_iff_split :
    (∀ (maxCount : UInt64) (keys : List Char) (commands : List Command),
      read maxCount keys = .ok commands ↔
        ∃ split : Split, split.keys = keys ∧ split.commands maxCount = commands) ∧
    Function.Injective Split.keys := by
  constructor
  · intro maxCount keys commands
    constructor
    · intro hread
      obtain ⟨phrases, digits, hdigits, rfl, rfl⟩ := spells_of_read_eq_ok hread
      exact ⟨⟨phrases, digits, hdigits⟩, rfl, Split.commands_eq _ _⟩
    · rintro ⟨split, rfl, rfl⟩
      rw [Split.commands_eq]
      exact read_phrases_append_digits maxCount split.phrases split.digits_isDigit
  · intro split other heq
    obtain ⟨phrases, digits, hdigits⟩ := split
    obtain ⟨others, more, hmore⟩ := other
    obtain ⟨rfl, rfl⟩ := Split.phrases_eq_of_keys_eq hdigits hmore heq
    rfl

/-- The argument of `r` is a digit, that of `f` a letter, and the count before `f` and the digits at
the end go unused. -/
example : read 9 "007r5012fh10u3".toList =
    .ok [.replace (.times 7) '5', .moveToNext 'h', .undo .unbounded] := by decide +kernel

end Script

end KeyScript
