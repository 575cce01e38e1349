import KeyScript.Proofs.Reading

/-!
Phrases: the keys of one command each. A phrase is a run of digits and a stem, which is a letter
together with the argument that the letter wants. Reading takes phrases one after the other,
whatever keys follow them, and the digits of one never reach the next. Conversely the keys of every
script are phrases, and after the last of them at most a run of digits that no letter follows.
-/

namespace KeyScript.Script

/-- A letter that names a command, with the argument it wants. -/
inductive Stem
  | moveLeft
  | moveRight
  | replace (argument : Char)
  | moveToNext (argument : Char)
  | delete
  | undo
  deriving DecidableEq, Repr

namespace Stem

def keys : Stem → List Char
  | .moveLeft => ['h']
  | .moveRight => ['l']
  | .replace argument => ['r', argument]
  | .moveToNext argument => ['f', argument]
  | .delete => ['x']
  | .undo => ['u']

/-- The command that the stem names under a count; moving to a character takes none. -/
def command (count : Count) : Stem → Command
  | .moveLeft => .moveLeft count
  | .moveRight => .moveRight count
  | .replace argument => .replace count argument
  | .moveToNext argument => .moveToNext argument
  | .delete => .delete count
  | .undo => .undo count

theorem exists_of_bare? {count : Count} {key : Char} {command : Command}
    (hbare : bare? count key = some command) :
    ∃ stem : Stem, stem.keys = [key] ∧ stem.command count = command := by
  unfold bare? at hbare
  split at hbare
  · cases hbare
    exact ⟨.moveLeft, rfl, rfl⟩
  · cases hbare
    exact ⟨.moveRight, rfl, rfl⟩
  · cases hbare
    exact ⟨.delete, rfl, rfl⟩
  · cases hbare
    exact ⟨.undo, rfl, rfl⟩
  · cases hbare

theorem exists_of_withArgument? {count : Count} {key : Char} {command : Char → Command}
    (hcommand : withArgument? count key = some command) (argument : Char) :
    ∃ stem : Stem, stem.keys = [key, argument] ∧ stem.command count = command argument := by
  unfold withArgument? at hcommand
  split at hcommand
  · cases hcommand
    exact ⟨.replace argument, rfl, rfl⟩
  · cases hcommand
    exact ⟨.moveToNext argument, rfl, rfl⟩
  · cases hcommand

end Stem

/-- The keys of one command: the digits of its count, if any, and its stem. -/
structure Phrase where
  run : List Char
  run_digits : ∀ key ∈ run, key.isDigit
  stem : Stem

namespace Phrase

def keys (phrase : Phrase) : List Char := phrase.run ++ phrase.stem.keys

def command (maxCount : UInt64) (phrase : Phrase) : Command :=
  phrase.stem.command (Count.ofRun maxCount phrase.run)

end Phrase

/-- Keys that end where a command ends, or none at all: no digit is left to wait for a letter. -/
def Complete (keys : List Char) : Prop := ∃ phrases : List Phrase, keys = phrases.flatMap Phrase.keys

/-! ### Reading phrases -/

variable (maxCount : UInt64) (offset : Nat) (run : List Char)

theorem readFrom_digits {digits : List Char} (hdigits : ∀ key ∈ digits, key.isDigit)
    (rest : List Char) :
    readFrom maxCount offset run (digits ++ rest) =
      readFrom maxCount (offset + digits.length) (digits.reverse ++ run) rest := by
  induction digits generalizing offset run with
  | nil => rfl
  | cons digit digits ih =>
      rw [List.forall_mem_cons] at hdigits
      rw [List.cons_append, readFrom_of_isDigit _ _ _ hdigits.1, ih _ _ hdigits.2,
        List.reverse_cons, List.append_assoc, List.singleton_append, List.length_cons,
        Nat.add_right_comm, Nat.add_assoc]

theorem readFrom_stem (stem : Stem) (rest : List Char) :
    readFrom maxCount offset run (stem.keys ++ rest) =
      (readFrom maxCount (offset + stem.keys.length) [] rest).map
        (stem.command (Count.ofRun maxCount run.reverse) :: ·) := by
  cases stem with
  | replace argument | moveToNext argument =>
      exact readFrom_of_withArgument? _ _ _ (by decide) rfl rfl argument rest
  | moveLeft | moveRight | delete | undo => exact readFrom_of_bare? _ _ _ (by decide) rfl rest

theorem readFrom_phrase (phrase : Phrase) (rest : List Char) :
    readFrom maxCount offset [] (phrase.keys ++ rest) =
      (readFrom maxCount (offset + phrase.keys.length) [] rest).map
        (phrase.command maxCount :: ·) := by
  rw [Phrase.keys, List.append_assoc, readFrom_digits _ _ _ phrase.run_digits, List.append_nil,
    readFrom_stem, List.reverse_reverse, Nat.add_assoc, List.length_append]
  rfl

theorem readFrom_phrases (phrases : List Phrase) (rest : List Char) :
    readFrom maxCount offset [] (phrases.flatMap Phrase.keys ++ rest) =
      (readFrom maxCount (offset + (phrases.flatMap Phrase.keys).length) [] rest).map
        (phrases.map (Phrase.command maxCount) ++ ·) := by
  induction phrases generalizing offset with
  | nil =>
      change readFrom maxCount offset [] rest = (readFrom maxCount offset [] rest).map id
      rw [Except.map_id, id]
  | cons phrase phrases ih =>
      rw [List.flatMap_cons, List.append_assoc, readFrom_phrase, ih, Nat.add_assoc,
        List.length_append]
      cases readFrom maxCount _ [] rest <;> rfl

/-- Digits that no letter follows are dropped. -/
theorem read_phrases_append_digits (phrases : List Phrase) {digits : List Char}
    (hdigits : ∀ key ∈ digits, key.isDigit) :
    read maxCount (phrases.flatMap Phrase.keys ++ digits) =
      .ok (phrases.map (Phrase.command maxCount)) := by
  have hdropped := readFrom_digits maxCount (phrases.flatMap Phrase.keys).length [] hdigits []
  rw [List.append_nil, readFrom] at hdropped
  rw [read, readFrom_phrases, Nat.zero_add, hdropped, Except.map, List.append_nil]

theorem read_phrases (phrases : List Phrase) :
    read maxCount (phrases.flatMap Phrase.keys) = .ok (phrases.map (Phrase.command maxCount)) := by
  have hread := read_phrases_append_digits maxCount phrases (List.forall_mem_nil _)
  rw [List.append_nil] at hread
  exact hread

/-! ### The phrases of a script -/

/-- The keys are phrases and then at most digits, and the commands are those of the phrases. -/
def Spells (maxCount : UInt64) (keys : List Char) (commands : List Command) : Prop :=
  ∃ (phrases : List Phrase) (digits : List Char), (∀ key ∈ digits, key.isDigit) ∧
    keys = phrases.flatMap Phrase.keys ++ digits ∧ commands = phrases.map (Phrase.command maxCount)

namespace Spells

variable {maxCount : UInt64}

theorem of_digits {digits : List Char} (hdigits : ∀ key ∈ digits, key.isDigit) :
    Spells maxCount digits [] :=
  ⟨[], digits, hdigits, rfl, rfl⟩

theorem cons {run : List Char} (hrun : ∀ key ∈ run, key.isDigit) (stem : Stem) {rest : List Char}
    {commands : List Command} (hspells : Spells maxCount rest commands) :
    Spells maxCount (run ++ (stem.keys ++ rest))
      (stem.command (Count.ofRun maxCount run) :: commands) := by
  obtain ⟨phrases, digits, hdigits, rfl, rfl⟩ := hspells
  refine ⟨⟨run, hrun, stem⟩ :: phrases, digits, hdigits, ?_, rfl⟩
  rw [List.flatMap_cons, Phrase.keys, List.append_assoc, List.append_assoc]

end Spells

private theorem reverse_digits {run : List Char} (hrun : ∀ key ∈ run, key.isDigit) :
    ∀ key ∈ run.reverse, key.isDigit :=
  fun key hmem => hrun key (List.mem_reverse.mp hmem)

private theorem exists_of_map_cons_eq_ok {result : Except Fault (List Command)} {command : Command}
    {commands : List Command} (hmap : result.map (command :: ·) = .ok commands) :
    ∃ rest, result = .ok rest ∧ command :: rest = commands := by
  cases result with
  | error => cases hmap
  | ok rest => exact ⟨rest, rfl, Except.ok.inj hmap⟩

/-- A script spells its commands; `run` holds the digits passed before, the latest first. -/
theorem spells_of_readFrom_eq_ok (maxCount : UInt64) (offset : Nat) (run keys : List Char) :
    (∀ key ∈ run, key.isDigit) → ∀ commands, readFrom maxCount offset run keys = .ok commands →
      Spells maxCount (run.reverse ++ keys) commands := by
  fun_induction readFrom maxCount offset run keys with
  | case1 offset run =>
      rintro hrun _ ⟨⟩
      rw [List.append_nil]
      exact Spells.of_digits (reverse_digits hrun)
  | case2 offset run key rest hdigit ih =>
      intro hrun commands hread
      have hspells := ih (List.forall_mem_cons.mpr ⟨hdigit, hrun⟩) commands hread
      rw [List.reverse_cons, List.append_assoc] at hspells
      exact hspells
  | case3 offset run key rest hdigit count command hcommand ih =>
      intro hrun commands hread
      obtain ⟨stem, hkeys, rfl⟩ := Stem.exists_of_bare? hcommand
      obtain ⟨next, hnext, rfl⟩ := exists_of_map_cons_eq_ok hread
      have hspells := (ih (by simp) next hnext).cons (reverse_digits hrun) stem
      rw [hkeys] at hspells
      exact hspells
  | case4 => rintro - _ ⟨⟩
  | case5 => rintro - _ ⟨⟩
  | case6 offset run key hdigit count hnone command argument rest hcommand ih =>
      intro hrun commands hread
      obtain ⟨stem, hkeys, hstem⟩ := Stem.exists_of_withArgument? hcommand argument
      obtain ⟨next, hnext, rfl⟩ := exists_of_map_cons_eq_ok hread
      have hspells := (ih (by simp) next hnext).cons (reverse_digits hrun) stem
      rw [hkeys, hstem] at hspells
      exact hspells

theorem spells_of_read_eq_ok {maxCount : UInt64} {keys : List Char} {commands : List Command}
    (hread : read maxCount keys = .ok commands) : Spells maxCount keys commands :=
  spells_of_readFrom_eq_ok maxCount 0 [] keys (by simp) commands hread

end KeyScript.Script
