/-!
Decimal numerals and the 64-bit bound. Numbers in scripts, documents and options are held to 64
bits: a numeral beyond `maxWord` is not read at all, whatever its length, and sums stop at `maxWord`
instead of wrapping. `word?_eq_some_iff` says exactly which runs are read, and as what.
-/

namespace KeyScript

/-- The largest number of 64 bits. -/
def maxWord : Nat := 18446744073709551615

/-- The sum of two numbers, or `maxWord` where the sum is larger. -/
def cappedSum (first second : Nat) : Nat := min (first + second) maxWord

theorem toNat_le_maxWord (number : UInt64) : number.toNat ≤ maxWord := by
  have h := number.toNat_lt
  unfold maxWord
  omega

theorem toNat_ofNat_of_le_maxWord {number : Nat} (h : number ≤ maxWord) :
    (UInt64.ofNat number).toNat = number := by
  rw [UInt64.toNat_ofNat']
  exact Nat.mod_eq_of_lt (by unfold maxWord at h; omega)

theorem one_le_iff_ne_zero {number : UInt64} : 1 ≤ number ↔ number ≠ 0 := by
  rw [UInt64.le_iff_toNat_le, ne_eq, ← UInt64.toNat_inj]
  exact Nat.one_le_iff_ne_zero

namespace Numeral

/-- The decimal digits of a number, the most significant first and without leading zeros. -/
def digits (number : Nat) : List Char := Nat.toDigits 10 number

/-- The number a run of digits denotes, however long it is. -/
def value (run : List Char) : Nat := Nat.ofDigitChars 10 run 0

/-- Appends one digit to the number read so far. Refuses other characters and results beyond
`maxWord`. -/
def extend? (read : UInt64) (digit : Char) : Option UInt64 :=
  let next := 10 * read.toNat + (digit.toNat - '0'.toNat)
  if digit.isDigit && next ≤ maxWord then some (.ofNat next) else none

/-- Reads a non-empty run of the digits `0` to `9` whose value fits in 64 bits. -/
def word? : List Char → Option UInt64
  | [] => none
  | run => run.foldlM extend? 0

theorem digits_ne_nil (number : Nat) : digits number ≠ [] := Nat.toDigits_ne_nil

theorem isDigit_of_mem_digits {number : Nat} {digit : Char} (h : digit ∈ digits number) :
    digit.isDigit := Nat.isDigit_of_mem_toDigits (by decide) (by decide) h

theorem value_digits (number : Nat) : value (digits number) = number :=
  Nat.ofDigitChars_ten_toDigits

/-- Zeros in front of a run do not count. -/
theorem value_zeros_append (zeros : Nat) (run : List Char) :
    value (List.replicate zeros '0' ++ run) = value run := by
  rw [value, Nat.ofDigitChars_append, Nat.ofDigitChars_replicate_zero, Nat.mul_zero, value]

/-- Reading further digits never makes a number smaller. -/
private theorem le_ofDigitChars (run : List Char) (start : Nat) :
    start ≤ Nat.ofDigitChars 10 run start := by
  rw [Nat.ofDigitChars_eq_ofDigitChars_zero]
  exact Nat.le_trans (Nat.le_mul_of_pos_left start (Nat.pow_pos (by decide))) (Nat.le_add_right _ _)

theorem extend?_eq_some_iff {read next : UInt64} {digit : Char} :
    extend? read digit = some next ↔
      digit.isDigit ∧ 10 * read.toNat + (digit.toNat - '0'.toNat) = next.toNat := by
  simp only [extend?]
  generalize 10 * read.toNat + (digit.toNat - '0'.toNat) = sum
  constructor
  · intro h
    split at h
    · rename_i hsum
      simp only [Bool.and_eq_true, decide_eq_true_eq] at hsum
      cases h
      exact ⟨hsum.1, (toNat_ofNat_of_le_maxWord hsum.2).symm⟩
    · cases h
  · rintro ⟨hdigit, rfl⟩
    simp [hdigit, toNat_le_maxWord]

theorem foldlM_extend?_eq_some_iff {run : List Char} {read number : UInt64} :
    run.foldlM extend? read = some number ↔
      (∀ digit ∈ run, digit.isDigit) ∧ Nat.ofDigitChars 10 run read.toNat = number.toNat := by
  induction run generalizing read with
  | nil => simp [UInt64.toNat_inj]
  | cons digit rest ih =>
    simp only [List.foldlM_cons, Option.bind_eq_bind, Option.bind_eq_some_iff,
      extend?_eq_some_iff, ih, List.forall_mem_cons, Nat.ofDigitChars_cons]
    generalize 10 * read.toNat + (digit.toNat - '0'.toNat) = sum
    constructor
    · rintro ⟨next, ⟨hdigit, rfl⟩, hrest, hvalue⟩
      exact ⟨⟨hdigit, hrest⟩, hvalue⟩
    · rintro ⟨⟨hdigit, hrest⟩, hvalue⟩
      have hsum : sum ≤ maxWord :=
        Nat.le_trans (le_ofDigitChars rest sum) (hvalue ▸ toNat_le_maxWord number)
      have hword := toNat_ofNat_of_le_maxWord hsum
      exact ⟨.ofNat sum, ⟨hdigit, hword.symm⟩, hrest, by rw [hword, hvalue]⟩

theorem word?_eq_some_iff {run : List Char} {number : UInt64} :
    word? run = some number ↔
      run ≠ [] ∧ (∀ digit ∈ run, digit.isDigit) ∧ value run = number.toNat := by
  cases run with
  | nil => simp [word?]
  | cons digit rest =>
    simp only [word?, value, ne_eq, reduceCtorEq, not_false_eq_true, true_and]
    exact foldlM_extend?_eq_some_iff

theorem word?_digits (number : UInt64) : word? (digits number.toNat) = some number :=
  word?_eq_some_iff.2
    ⟨digits_ne_nil _, fun _ h => isDigit_of_mem_digits h, value_digits number.toNat⟩

end Numeral

end KeyScript
