import KeyScript.Numeral

/-!
Repeat counts. A count is a literal number or unbounded; an unbounded count asks for `maxWord`
steps, more than any text or history can take.
-/

namespace KeyScript

/-- How often a command is repeated. -/
inductive Count
  | times (number : UInt64)
  | unbounded
  deriving DecidableEq, Repr

namespace Count

/-- The count of a command that is written without one. -/
def one : Count := .times 1

instance : Inhabited Count := ⟨one⟩

/-- The number of steps asked for. -/
def get : Count → Nat
  | .times number => number.toNat
  | .unbounded => maxWord

def isUnbounded : Count → Bool
  | .times _ => false
  | .unbounded => true

/-- A literal count is described by its digits. -/
def describe : Count → String
  | .times number => String.ofList (Numeral.digits number.toNat)
  | .unbounded => "unbounded"

/-- The count that a run of digits before a letter denotes. Without digits it is one, whatever
`maxCount` is; a value beyond `maxCount`, or beyond 64 bits, is unbounded. -/
def ofRun (maxCount : UInt64) : List Char → Count
  | [] => one
  | run =>
    match Numeral.word? run with
    | some number => if number ≤ maxCount then .times number else .unbounded
    | none => .unbounded

theorem get_le_maxWord (count : Count) : count.get ≤ maxWord := by
  cases count with
  | times number => exact toNat_le_maxWord number
  | unbounded => exact Nat.le_refl _

/-- Whether a count is a certain literal shows in the number of steps it asks for, unless that is as
many as an unbounded count asks for. -/
theorem eq_times_iff {number : UInt64} (hnumber : number.toNat ≠ maxWord) (count : Count) :
    count = .times number ↔ count.get = number.toNat := by
  cases count with
  | times other => rw [times.injEq, get, UInt64.toNat_inj]
  | unbounded => simp [get, hnumber.symm]

theorem eq_one_iff (count : Count) : count = .one ↔ count.get = 1 :=
  eq_times_iff (by decide) count

end Count

end KeyScript
