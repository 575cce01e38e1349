import KeyScript.Proofs.Collapse
import KeyScript.Proofs.Phrase

/-!
Commands that are typed and read again. The keys of one command are not set apart from those of the
next, and need not be: the letter ends the digits of the count, and what follows `r` or `f` is an
argument, be it a digit or a letter. So the commands come back in their order, with their letters
and arguments. Only counts may come back as others, because an unbounded count is typed as the
digits of `maxWord`, and because the keys are read under a bound on literal counts that the commands
need not have been read under before.
-/

namespace KeyScript

namespace Count

/-- What a count comes back as when it is typed and read again. No digits are typed for one, so no
bound touches it; the digits of an unbounded count are a literal number where the bound is the
largest there is. -/
def reread (maxCount : UInt64) : Count → Count
  | .times number => if number = 1 ∨ number ≤ maxCount then .times number else .unbounded
  | .unbounded => if maxCount.toNat < maxWord then .unbounded else .times (.ofNat maxWord)

theorem word?_digits_maxWord : Numeral.word? (Numeral.digits maxWord) = some (.ofNat maxWord) := by
  have hword := Numeral.word?_digits (.ofNat maxWord)
  rw [toNat_ofNat_of_le_maxWord (Nat.le_refl _)] at hword
  exact hword

theorem ofRun_digits {count : Count} (hone : count ≠ .one) (maxCount : UInt64) :
    ofRun maxCount (Numeral.digits count.get) = count.reread maxCount := by
  cases count with
  | times number =>
      have hnumber : number ≠ 1 := fun heq => hone (congrArg times heq)
      rw [get, ofRun_of_word?_eq_some (Numeral.word?_digits number), reread]
      simp only [hnumber, false_or]
  | unbounded =>
      have hle : UInt64.ofNat maxWord ≤ maxCount ↔ ¬maxCount.toNat < maxWord := by
        rw [UInt64.le_iff_toNat_le, toNat_ofNat_of_le_maxWord (Nat.le_refl _), Nat.not_lt]
      rw [get, ofRun_of_word?_eq_some word?_digits_maxWord, reread]
      simp only [hle, ite_not]

end Count

namespace Command

/-- What a command comes back as when it is typed and read again. -/
def reread (maxCount : UInt64) : Command → Command := mapCount (Count.reread maxCount)

theorem isDigit_of_mem_countKeys {command : Command} {key : Char} (hmem : key ∈ command.countKeys) :
    key.isDigit := by
  unfold countKeys at hmem
  split at hmem
  · cases hmem
  · split at hmem
    · cases hmem
    · exact Numeral.isDigit_of_mem_digits hmem

theorem ofRun_countKeys {command : Command} {count : Count} (hcount : command.count? = some count)
    (maxCount : UInt64) : Count.ofRun maxCount command.countKeys = count.reread maxCount := by
  simp only [countKeys, hcount]
  split
  · rename_i hone
    rw [hone, Count.ofRun_nil, Count.one, Count.reread, if_pos (Or.inl rfl)]
  · rename_i hone
    exact Count.ofRun_digits hone maxCount

def stem : Command → Script.Stem
  | .moveLeft _ => .moveLeft
  | .moveRight _ => .moveRight
  | .replace _ character => .replace character
  | .moveToNext character => .moveToNext character
  | .delete _ => .delete
  | .undo _ => .undo

/-- The keys of the command, as the phrase they are. -/
def phrase (command : Command) : Script.Phrase where
  run := command.countKeys
  run_digits _ := isDigit_of_mem_countKeys
  stem := command.stem

theorem keys_phrase (command : Command) : command.phrase.keys = command.keys := by
  cases command <;> rfl

theorem command_stem (count : Count) (command : Command) :
    command.stem.command count = command.mapCount fun _ => count := by
  cases command <;> rfl

theorem command_phrase (maxCount : UInt64) (command : Command) :
    command.phrase.command maxCount = command.reread maxCount := by
  rw [Script.Phrase.command, phrase, command_stem]
  exact mapCount_congr fun count hcount => ofRun_countKeys hcount maxCount

end Command

namespace Script

theorem keys_eq_flatMap_phrase (commands : List Command) :
    keys commands = (commands.map Command.phrase).flatMap Phrase.keys := by
  rw [List.flatMap_map]
  exact congrArg (commands.flatMap ·) (funext fun command => command.keys_phrase.symm)

theorem map_command_phrase (maxCount : UInt64) (commands : List Command) :
    (commands.map Command.phrase).map (Phrase.command maxCount) =
      commands.map (Command.reread maxCount) := by
  rw [List.map_map]
  exact List.map_congr_left fun command _ => command.command_phrase maxCount

/-- Whatever commands are typed one after the other, under whatever bound on literal counts the keys
are read: they are read in full, and as the same commands in the same order, but for their counts,
which are the reread ones. -/
theorem read_keys (maxCount : UInt64) (commands : List Command) :
    read maxCount (keys commands) = .ok (commands.map (Command.reread maxCount)) := by
  rw [keys_eq_flatMap_phrase, read_phrases, map_command_phrase]

end Script

end KeyScript
