import KeyScript.Proofs.Effect

/-!
Removing characters at the limits of 64 bits. The end of the range is a capped sum, and three cases
are told apart: nothing stands behind the start, the range reaches the end of the text, or it lies
inside. They come to one formula in exact numbers, because the cap is only met where the range
reaches the end anyway. The steps that could go wrong, to take out a range and to subtract, are
written down a second time as partial ones: on every text that can exist, all of them have a result.
-/

namespace KeyScript

/-- A difference of numbers, unless it is below zero. -/
def difference? (larger smaller : Nat) : Option Nat :=
  if smaller ≤ larger then some (larger - smaller) else none

theorem le_cappedSum {start : Nat} (hstart : start ≤ maxWord) (count : Nat) :
    start ≤ cappedSum start count :=
  Nat.le_min.mpr ⟨Nat.le_add_right start count, hstart⟩

namespace Text

/-- The text without the range from `start` to `stop`, unless the ends are out of order or beyond
the text. -/
def cut? (text : Text) (start stop : Nat) : Option Text :=
  if start ≤ stop ∧ stop ≤ text.length then
    some ⟨text.chars.take start ++ text.chars.drop stop⟩
  else none

/-- Removal as `delete` does it, but without a result where a step has none. -/
def delete? (text : Text) (start count : Nat) : Option (Text × Nat) :=
  if text.length ≤ start then some (text, 0)
  else
    let stop := cappedSum start count
    if text.length ≤ stop then
      (difference? text.length start).map fun removed => (⟨text.chars.take start⟩, removed)
    else (text.cut? start stop).map fun left => (left, count)

theorem cut?_of_le {text : Text} {start stop : Nat} (hstart : start ≤ stop)
    (hstop : stop ≤ text.length) :
    text.cut? start stop = some ⟨text.chars.take start ++ text.chars.drop stop⟩ :=
  if_pos ⟨hstart, hstop⟩

/-- Every step of the removal has a result: a range that is taken out begins before the end of the
text, so its start is a word, and the capped sum is not below it. -/
theorem delete?_eq_some {text : Text} (htext : text.length ≤ maxWord) (start count : Nat) :
    text.delete? start count = some (text.delete start count) := by
  unfold delete? delete
  by_cases hbehind : text.length ≤ start
  · rw [if_pos hbehind, if_pos hbehind]
  · have hstart : start ≤ text.length := Nat.le_of_not_le hbehind
    rw [if_neg hbehind, if_neg hbehind]
    dsimp only
    by_cases hend : text.length ≤ cappedSum start count
    · rw [if_pos hend, if_pos hend, difference?, if_pos hstart, Option.map_some]
    · -- A place in the text is a word, so that the cap does not put the end below the start.
      have horder := le_cappedSum (Nat.le_trans hstart htext) count
      rw [if_neg hend, if_neg hend, cut?_of_le horder (Nat.le_of_not_le hend), Option.map_some]

/-- As many characters are reported as there are from the start on, up to the number asked for. -/
theorem delete_snd {text : Text} (htext : text.length ≤ maxWord) (start count : Nat) :
    (text.delete start count).2 =
      if start < text.length then min count (text.length - start) else 0 := by
  unfold delete cappedSum
  by_cases hbehind : text.length ≤ start
  · rw [if_pos hbehind, if_neg (Nat.not_lt_of_le hbehind)]
  · rw [if_neg hbehind, if_pos (Nat.lt_of_not_le hbehind)]
    dsimp only
    split <;> dsimp only <;> omega

theorem delete_of_length_le {text : Text} {start : Nat} (hbehind : text.length ≤ start)
    (count : Nat) : text.delete start count = (text, 0) := if_pos hbehind

/-- Removing `count` characters from `start` on, whatever these numbers are. The characters before
the start are left, and those from the exact sum of the two numbers on: none if the sum is not
within the text, and all if the start is not. The number reported is that by which the text gets
shorter. A range that is taken out of the text has its ends in order and within the text, and no
step of the removal is without a result. -/
theorem delete_leaves_exact_range {text : Text} (htext : text.length ≤ maxWord)
    (start count : Nat) :
    let left := (text.delete start count).1
    let removed := (text.delete start count).2
    let stop := cappedSum start count
    left.chars = text.chars.take start ++ text.chars.drop (start + count) ∧
    (text.length ≤ start + count → left.chars = text.chars.take start) ∧
    (text.length ≤ start → left = text) ∧
    left.length + removed = text.length ∧
    removed = (if start < text.length then min count (text.length - start) else 0) ∧
    (start < text.length → stop < text.length → start ≤ stop ∧ stop ≤ text.length) ∧
    text.delete? start count = some (left, removed) := by
  intro left removed stop
  have hchars : left.chars = text.chars.take start ++ text.chars.drop (start + count) :=
    chars_delete htext start count
  have hlength : left.length = min start text.length + (text.length - (start + count)) :=
    length_delete htext start count
  have hremoved : removed = if start < text.length then min count (text.length - start) else 0 :=
    delete_snd htext start count
  refine ⟨hchars, ?_, ?_, ?_, hremoved, ?_, delete?_eq_some htext start count⟩
  · intro hend
    rw [hchars, List.drop_of_length_le hend, List.append_nil]
  · intro hbehind
    exact congrArg Prod.fst (delete_of_length_le hbehind count)
  · rw [hlength, hremoved]
    split <;> omega
  · intro hstart hstop
    exact ⟨le_cappedSum (Nat.le_trans (Nat.le_of_lt hstart) htext) count, Nat.le_of_lt hstop⟩

/-- The sum of start and count is beyond 64 bits. A count of zero removes nothing, and a range may
end with the text. -/
theorem delete_leaves_exact_range_beyond_maxWord :
    let text : Text := ⟨['a', 'b', 'c', 'd']⟩
    text.length ≤ maxWord ∧
    text.delete 1 maxWord = (⟨['a']⟩, 3) ∧
    text.delete? 1 maxWord = some (text.delete 1 maxWord) ∧
    (text.delete 3 0).1.length + (text.delete 3 0).2 = text.length ∧
    (text.delete 2 2).2 = 2 ∧
    (1 ≤ cappedSum 1 2 ∧ cappedSum 1 2 ≤ text.length) := by
  intro text
  have htext : text.length ≤ maxWord := by decide
  obtain ⟨-, -, -, -, -, -, hresult⟩ := delete_leaves_exact_range htext 1 maxWord
  obtain ⟨-, -, -, hnone, -, -, -⟩ := delete_leaves_exact_range htext 3 0
  obtain ⟨-, -, -, -, hremoved, -, -⟩ := delete_leaves_exact_range htext 2 2
  obtain ⟨-, -, -, -, -, hrange, -⟩ := delete_leaves_exact_range htext 1 2
  exact ⟨htext, by decide, hresult, hnone, hremoved, hrange (by decide) (by decide)⟩

end Text

end KeyScript
