import KeyScript.Proofs.Phrase

/-!
Where reading stops. A fault names the first key that cannot be taken. The keys before it are a
script by themselves, and that alone says that it stands where a letter is wanted and not where an
argument is. Either it is no letter of a command, or it is the last key and wants an argument. An
offset is the number of keys before, arguments among them.
-/

namespace KeyScript.Script

theorem bare?_eq_none_iff {count : Count} {key : Char} :
    bare? count key = none ↔ key ∉ ['h', 'l', 'x', 'u'] := by
  unfold bare?
  split <;> simp_all

theorem withArgument?_eq_none_iff {count : Count} {key : Char} :
    withArgument? count key = none ↔ key ∉ ['r', 'f'] := by
  unfold withArgument?
  split <;> simp_all

/-- What makes a fault at its letter, where the letter is met in place of a command and followed by
the rest of the keys. -/
def Fault.Occurs (rest : List Char) : Fault → Prop
  | .unsupported letter _ => ¬letter.isDigit ∧ letter ∉ ['h', 'l', 'x', 'u', 'r', 'f']
  | .missingArgument letter _ => letter ∈ ['r', 'f'] ∧ rest = []

/-! ### Stopping at a fault -/

private theorem eq_error_of_map_cons_eq_error {result : Except Fault (List Command)}
    {command : Command} {fault : Fault} (hmap : result.map (command :: ·) = .error fault) :
    result = .error fault := by
  cases result with
  | error => exact hmap
  | ok => cases hmap

/-- Reading from the offset on takes a first part of the keys and is at fault at the next one. -/
def StopsAt (maxCount : UInt64) (offset : Nat) (run keys : List Char) (fault : Fault) : Prop :=
  ∃ front rest, keys = front ++ fault.letter :: rest ∧ fault.offset = offset + front.length ∧
    fault.Occurs rest ∧ ∃ commands, readFrom maxCount offset run front = .ok commands

/-- A fault stays where it is when more keys are put in front that reading takes. -/
theorem StopsAt.prepend {maxCount : UInt64} {offset : Nat} {run after rest : List Char}
    {fault : Fault} (taken : List Char)
    (htaken : ∀ front commands,
      readFrom maxCount (offset + taken.length) after front = .ok commands →
        ∃ more, readFrom maxCount offset run (taken ++ front) = .ok more)
    (hstops : StopsAt maxCount (offset + taken.length) after rest fault) :
    StopsAt maxCount offset run (taken ++ rest) fault := by
  obtain ⟨front, behind, rfl, hoffset, hoccurs, commands, hfront⟩ := hstops
  refine ⟨taken ++ front, behind, (List.append_assoc _ _ _).symm, ?_, hoccurs,
    htaken front commands hfront⟩
  rw [hoffset, List.length_append, Nat.add_assoc]

theorem stopsAt_of_readFrom_eq_error (maxCount : UInt64) (offset : Nat) (run keys : List Char) :
    ∀ fault, readFrom maxCount offset run keys = .error fault →
      StopsAt maxCount offset run keys fault := by
  -- The fault is met in `case4` and `case5`. The other cases take a digit or a whole command first.
  fun_induction readFrom maxCount offset run keys with
  | case1 => rintro _ ⟨⟩
  | case2 offset run key rest hdigit ih =>
      intro fault hread
      refine StopsAt.prepend [key] (fun front commands hfront => ⟨commands, ?_⟩) (ih fault hread)
      exact (readFrom_of_isDigit _ _ _ hdigit front).trans hfront
  | case3 offset run key rest hdigit count command hcommand ih =>
      intro fault hread
      refine StopsAt.prepend [key] (fun front commands hfront => ⟨command :: commands, ?_⟩)
        (ih fault (eq_error_of_map_cons_eq_error hread))
      exact (readFrom_of_bare? _ _ _ hdigit hcommand front).trans (congrArg _ hfront)
  | case4 offset run key rest hdigit count hnone hargument =>
      rintro _ ⟨⟩
      refine ⟨[], rest, rfl, rfl, ⟨hdigit, ?_⟩, [], rfl⟩
      have hbare := bare?_eq_none_iff.mp hnone
      have hwanting := withArgument?_eq_none_iff.mp hargument
      simp_all
  | case5 offset run key hdigit count hnone command hcommand =>
      rintro _ ⟨⟩
      have hletter : key ∈ ['r', 'f'] := by
        apply Decidable.byContradiction
        intro hletter
        rw [withArgument?_eq_none_iff.mpr hletter] at hcommand
        cases hcommand
      exact ⟨[], [], rfl, rfl, ⟨hletter, rfl⟩, [], rfl⟩
  | case6 offset run key hdigit count hnone command argument rest hcommand ih =>
      intro fault hread
      refine StopsAt.prepend [key, argument]
        (fun front commands hfront => ⟨command argument :: commands, ?_⟩)
        (ih fault (eq_error_of_map_cons_eq_error hread))
      exact (readFrom_of_withArgument? _ _ _ hdigit hnone hcommand argument front).trans
        (congrArg _ hfront)

/-! ### Reaching a fault -/

theorem readFrom_of_occurs {fault : Fault} {rest : List Char} (hoccurs : fault.Occurs rest)
    (maxCount : UInt64) (run : List Char) :
    readFrom maxCount fault.offset run (fault.letter :: rest) = .error fault := by
  cases fault with
  | unsupported letter offset =>
      obtain ⟨hdigit, hletter⟩ := hoccurs
      apply readFrom_of_withArgument?_eq_none _ _ _ hdigit
      · rw [bare?_eq_none_iff]
        simp_all
      · rw [withArgument?_eq_none_iff]
        simp_all
  | missingArgument letter offset =>
      obtain ⟨hletter, rfl⟩ := hoccurs
      change readFrom maxCount offset run [letter] = .error (.missingArgument letter offset)
      rw [List.mem_cons, List.mem_singleton] at hletter
      rcases hletter with rfl | rfl
      · exact readFrom_of_missing _ _ _ (by decide) rfl rfl
      · exact readFrom_of_missing _ _ _ (by decide) rfl rfl

/-- Whatever follows a script is read as if the script had just been taken; a run of digits may
still wait for its letter. -/
theorem exists_read_append_eq {maxCount : UInt64} {front : List Char} {commands : List Command}
    (hread : read maxCount front = .ok commands) :
    ∃ run, ∀ rest, read maxCount (front ++ rest) =
      (readFrom maxCount front.length run rest).map (commands ++ ·) := by
  obtain ⟨phrases, digits, hdigits, rfl, rfl⟩ := spells_of_read_eq_ok hread
  refine ⟨digits.reverse, fun rest => ?_⟩
  rw [read, List.append_assoc, readFrom_phrases, readFrom_digits _ _ _ hdigits, List.append_nil,
    Nat.zero_add, List.length_append]

/-! ### The first fault -/

/-- A fault is what reading stops at if and only if it occurs at its letter, which stands at its
offset, and the keys before are a script. -/
theorem read_eq_error_iff {maxCount : UInt64} {keys : List Char} {fault : Fault} :
    read maxCount keys = .error fault ↔
      keys[fault.offset]? = some fault.letter ∧ fault.Occurs (keys.drop (fault.offset + 1)) ∧
        ∃ commands, read maxCount (keys.take fault.offset) = .ok commands := by
  constructor
  · intro hread
    obtain ⟨front, rest, rfl, hoffset, hoccurs, hfront⟩ :=
      stopsAt_of_readFrom_eq_error maxCount 0 [] keys fault hread
    rw [Nat.zero_add] at hoffset
    rw [hoffset]
    refine ⟨by simp, ?_, ?_⟩
    · rw [List.drop_append, List.drop_eq_nil_of_le (Nat.le_succ _)]
      simpa using hoccurs
    · rw [List.take_left]
      exact hfront
  · rintro ⟨hletter, hoccurs, commands, hfront⟩
    obtain ⟨hlt, hkey⟩ := List.getElem?_eq_some_iff.mp hletter
    obtain ⟨run, happend⟩ := exists_read_append_eq hfront
    have hread := happend (keys.drop fault.offset)
    rw [List.take_append_drop, List.length_take_of_le (Nat.le_of_lt hlt),
      List.drop_eq_getElem_cons hlt, hkey, readFrom_of_occurs hoccurs] at hread
    exact hread

/-- Faults say exactly what is wrong first. Reading stops at an unsupported letter if and only if
that letter stands at the offset, is neither a digit nor a letter of a command, and the keys before
it are a script. It stops for want of an argument if and only if the letter is the last key, is `r`
or `f`, and the keys before it are a script. In any other case the keys are read. -/
theorem read_eq_error_iff_first_fault (maxCount : UInt64) (keys : List Char) :
    (∀ letter offset, read maxCount keys = .error (.unsupported letter offset) ↔
      keys[offset]? = some letter ∧ ¬letter.isDigit ∧
        letter ∉ ['h', 'l', 'x', 'u', 'r', 'f'] ∧
        ∃ commands, read maxCount (keys.take offset) = .ok commands) ∧
    (∀ letter offset, read maxCount keys = .error (.missingArgument letter offset) ↔
      keys.length = offset + 1 ∧ keys[offset]? = some letter ∧ letter ∈ ['r', 'f'] ∧
        ∃ commands, read maxCount (keys.take offset) = .ok commands) ∧
    ((∃ commands, read maxCount keys = .ok commands) ∨
      (∃ letter offset, read maxCount keys = .error (.unsupported letter offset)) ∨
      ∃ letter offset, read maxCount keys = .error (.missingArgument letter offset)) := by
  refine ⟨fun letter offset => ?_, fun letter offset => ?_, ?_⟩
  · rw [read_eq_error_iff]
    simp only [Fault.letter, Fault.offset, Fault.Occurs, and_assoc]
  · have hlast (hletter : keys[offset]? = some letter) :
        keys.drop (offset + 1) = [] ↔ keys.length = offset + 1 := by
      obtain ⟨hlt, -⟩ := List.getElem?_eq_some_iff.mp hletter
      rw [List.drop_eq_nil_iff]
      omega
    rw [read_eq_error_iff]
    simp only [Fault.letter, Fault.offset, Fault.Occurs]
    constructor
    · rintro ⟨hletter, ⟨hwanting, hrest⟩, hfront⟩
      exact ⟨(hlast hletter).mp hrest, hletter, hwanting, hfront⟩
    · rintro ⟨hlength, hletter, hwanting, hfront⟩
      exact ⟨hletter, ⟨hwanting, (hlast hletter).mpr hlength⟩, hfront⟩
  · cases hread : read maxCount keys with
    | ok commands => exact Or.inl ⟨commands, rfl⟩
    | error fault =>
        cases fault with
        | unsupported letter offset => exact Or.inr (Or.inl ⟨letter, offset, rfl⟩)
        | missingArgument letter offset => exact Or.inr (Or.inr ⟨letter, offset, rfl⟩)

/-- The digit behind `f` is its argument, and counts for the offset like any other key. -/
example : read 9 ['f', '7', '5', 'q', 'r'] = .error (.unsupported 'q' 3) := rfl

end KeyScript.Script
