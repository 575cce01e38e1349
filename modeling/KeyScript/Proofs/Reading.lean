import KeyScript.Script

/-!
What one step of reading does. A digit lengthens the run; any other key ends it, and then either
completes a command by itself, or together with the next character, or is at fault. Later modules do
not unfold `readFrom`.
-/

namespace KeyScript

namespace Count

theorem ofRun_nil (maxCount : UInt64) : ofRun maxCount [] = one := rfl

theorem ofRun_of_word?_eq_some {run : List Char} {number : UInt64}
    (hword : Numeral.word? run = some number) (maxCount : UInt64) :
    ofRun maxCount run = if number ≤ maxCount then .times number else .unbounded := by
  cases run with
  | nil => cases hword
  | cons digit rest => simp only [ofRun, hword]

theorem ofRun_of_word?_eq_none {run : List Char} (hrun : run ≠ [])
    (hword : Numeral.word? run = none) (maxCount : UInt64) : ofRun maxCount run = .unbounded := by
  cases run with
  | nil => exact False.elim (hrun rfl)
  | cons digit rest => simp only [ofRun, hword]

end Count

namespace Script

variable (maxCount : UInt64) (offset : Nat) (run : List Char) {key : Char}

theorem readFrom_of_isDigit (hdigit : key.isDigit) (rest : List Char) :
    readFrom maxCount offset run (key :: rest) =
      readFrom maxCount (offset + 1) (key :: run) rest := by
  rw [readFrom, if_pos hdigit]

theorem readFrom_of_bare? (hdigit : ¬key.isDigit) {command : Command}
    (hbare : bare? (Count.ofRun maxCount run.reverse) key = some command) (rest : List Char) :
    readFrom maxCount offset run (key :: rest) =
      (readFrom maxCount (offset + 1) [] rest).map (command :: ·) := by
  rw [readFrom, if_neg hdigit]
  simp only [hbare]

section

variable (hdigit : ¬key.isDigit) (hbare : bare? (Count.ofRun maxCount run.reverse) key = none)

include hdigit hbare

theorem readFrom_of_withArgument?_eq_none
    (hnone : withArgument? (Count.ofRun maxCount run.reverse) key = none) (rest : List Char) :
    readFrom maxCount offset run (key :: rest) = .error (.unsupported key offset) := by
  rw [readFrom, if_neg hdigit]
  simp only [hbare, hnone]

theorem readFrom_of_missing {command : Char → Command}
    (hcommand : withArgument? (Count.ofRun maxCount run.reverse) key = some command) :
    readFrom maxCount offset run [key] = .error (.missingArgument key offset) := by
  rw [readFrom, if_neg hdigit]
  simp only [hbare, hcommand]

theorem readFrom_of_withArgument? {command : Char → Command}
    (hcommand : withArgument? (Count.ofRun maxCount run.reverse) key = some command)
    (argument : Char) (rest : List Char) :
    readFrom maxCount offset run (key :: argument :: rest) =
      (readFrom maxCount (offset + 2) [] rest).map (command argument :: ·) := by
  rw [readFrom, if_neg hdigit]
  simp only [hbare, hcommand]

end

end Script

end KeyScript
