import KeyScript.Proofs.Reading
import KeyScript.Settings
import Mathlib.Control.Monad.Basic

/-!
The largest literal count of the settings. A smaller one reads the same scripts, with the same
faults, and only collapses literal counts to unbounded ones. Nothing that is read has a larger
literal count than the settings allow.
-/

namespace KeyScript

namespace Count

/-- What is left of a count where no literal count may be larger than `maxCount`. -/
def collapse (maxCount : UInt64) : Count → Count
  | .times number => if number ≤ maxCount then .times number else .unbounded
  | .unbounded => .unbounded

theorem collapse_cases (maxCount : UInt64) (count : Count) :
    count.collapse maxCount = count ∨
      (count.collapse maxCount = .unbounded ∧ maxCount.toNat < count.get) := by
  cases count with
  | unbounded => exact Or.inl rfl
  | times number =>
      by_cases hle : number ≤ maxCount
      · exact Or.inl (if_pos hle)
      · refine Or.inr ⟨if_neg hle, ?_⟩
        rw [UInt64.le_iff_toNat_le] at hle
        exact Nat.lt_of_not_le hle

theorem le_of_collapse_eq_times {maxCount number : UInt64} {count : Count}
    (hcollapse : count.collapse maxCount = .times number) : number ≤ maxCount := by
  cases count with
  | unbounded => cases hcollapse
  | times original =>
      rw [collapse] at hcollapse
      split at hcollapse
      · cases hcollapse
        assumption
      · cases hcollapse

theorem collapse_collapse {maxCount larger : UInt64} (hle : maxCount ≤ larger) (count : Count) :
    (count.collapse larger).collapse maxCount = count.collapse maxCount := by
  cases count with
  | unbounded => rfl
  | times number =>
      by_cases hnumber : number ≤ larger
      · rw [collapse, if_pos hnumber]
      · have hbeyond : ¬number ≤ maxCount := fun h => hnumber (UInt64.le_trans h hle)
        rw [collapse, if_neg hnumber, collapse, collapse, if_neg hbeyond]

/-- A run of digits denotes under a smaller bound what is left of its count under a larger one. An
empty run denotes one under any bound, so the smaller one has to allow that. -/
theorem ofRun_eq_collapse {maxCount larger : UInt64} (hone : 1 ≤ maxCount)
    (hle : maxCount ≤ larger) (run : List Char) :
    ofRun maxCount run = (ofRun larger run).collapse maxCount := by
  by_cases hrun : run = []
  · rw [hrun, ofRun_nil, ofRun_nil]
    exact (if_pos hone).symm
  · cases hword : Numeral.word? run with
    | none => rw [ofRun_of_word?_eq_none hrun hword, ofRun_of_word?_eq_none hrun hword, collapse]
    | some number =>
        rw [ofRun_of_word?_eq_some hword, ofRun_of_word?_eq_some hword]
        exact (collapse_collapse hle (.times number)).symm

end Count

namespace Command

/-- The command with its count changed, if it has one. -/
def mapCount (change : Count → Count) : Command → Command
  | .moveLeft count => .moveLeft (change count)
  | .moveRight count => .moveRight (change count)
  | .replace count character => .replace (change count) character
  | .moveToNext character => .moveToNext character
  | .delete count => .delete (change count)
  | .undo count => .undo (change count)

theorem keepsSnapshot_mapCount (change : Count → Count) (command : Command) :
    (command.mapCount change).keepsSnapshot = command.keepsSnapshot := by
  cases command <;> rfl

theorem mapCount_congr {first second : Count → Count} {command : Command}
    (hchange : ∀ count, command.count? = some count → first count = second count) :
    command.mapCount first = command.mapCount second := by
  cases command with
  | moveToNext character => rfl
  | moveLeft count | moveRight count | replace count | delete count | undo count =>
      simp only [mapCount, hchange count rfl]

theorem count?_mapCount (change : Count → Count) (command : Command) :
    (command.mapCount change).count? = command.count?.map change := by
  cases command <;> rfl

/-- The command under a bound on literal counts. -/
def collapse (maxCount : UInt64) : Command → Command := mapCount (Count.collapse maxCount)

theorem countP_keepsSnapshot_collapse (maxCount : UInt64) (commands : List Command) :
    (commands.map (collapse maxCount)).countP keepsSnapshot = commands.countP keepsSnapshot := by
  rw [List.countP_map]
  apply congrArg (List.countP · commands)
  funext command
  exact keepsSnapshot_mapCount _ command

theorem collapse_cases (maxCount : UInt64) (command : Command) :
    command.collapse maxCount = command ∨
      (command.collapse maxCount = command.mapCount (fun _ => .unbounded) ∧
        ∀ count, command.count? = some count → maxCount.toNat < count.get) := by
  cases command with
  | moveToNext character => exact Or.inl rfl
  | moveLeft count | moveRight count | replace count | delete count | undo count =>
      rcases Count.collapse_cases maxCount count with hsame | ⟨hunbounded, hbeyond⟩
      · left
        simp only [collapse, mapCount, hsame]
      · right
        simp only [collapse, mapCount, hunbounded, true_and]
        rintro _ ⟨⟩
        exact hbeyond

end Command

/-! ### Reading -/

namespace Script

theorem bare?_change (change : Count → Count) (count : Count) (key : Char) :
    bare? (change count) key = (bare? count key).map (Command.mapCount change) := by
  unfold bare?
  split <;> rfl

theorem withArgument?_change (change : Count → Count) (count : Count) (key : Char) :
    withArgument? (change count) key =
      (withArgument? count key).map fun command argument =>
        (command argument).mapCount change := by
  unfold withArgument?
  split <;> rfl

private theorem map_cons_map (change : Command → Command) (command : Command)
    (result : Except Fault (List Command)) :
    (result.map (command :: ·)).map (List.map change) =
      (result.map (List.map change)).map (change command :: ·) := by
  cases result <;> rfl

theorem readFrom_eq_map_collapse {maxCount larger : UInt64} (hone : 1 ≤ maxCount)
    (hle : maxCount ≤ larger) (offset : Nat) (run keys : List Char) :
    readFrom maxCount offset run keys =
      (readFrom larger offset run keys).map (List.map (Command.collapse maxCount)) := by
  have hbare (run : List Char) (key : Char) :
      bare? (Count.ofRun maxCount run) key =
        (bare? (Count.ofRun larger run) key).map (Command.collapse maxCount) := by
    rw [Count.ofRun_eq_collapse hone hle]
    exact bare?_change _ _ _
  have hargument (run : List Char) (key : Char) :
      withArgument? (Count.ofRun maxCount run) key =
        (withArgument? (Count.ofRun larger run) key).map fun command argument =>
          (command argument).collapse maxCount := by
    rw [Count.ofRun_eq_collapse hone hle]
    exact withArgument?_change _ _ _
  -- Both readings take the same branch at every key: which one it is does not hang on the count.
  fun_induction readFrom larger offset run keys with
  | case1 => rfl
  | case2 offset run key rest hdigit ih =>
      rw [readFrom_of_isDigit _ _ _ hdigit]
      exact ih
  | case3 offset run key rest hdigit count command hcommand ih =>
      have hsmaller := hbare run.reverse key
      rw [hcommand] at hsmaller
      rw [readFrom_of_bare? _ _ _ hdigit hsmaller, ih, map_cons_map]
  | case4 offset run key rest hdigit count hnone hargument_none =>
      have hsmaller := hbare run.reverse key
      have hsmaller_argument := hargument run.reverse key
      rw [hnone] at hsmaller
      rw [hargument_none] at hsmaller_argument
      exact readFrom_of_withArgument?_eq_none _ _ _ hdigit hsmaller hsmaller_argument _
  | case5 offset run key hdigit count hnone command hcommand =>
      have hsmaller := hbare run.reverse key
      have hsmaller_argument := hargument run.reverse key
      rw [hnone] at hsmaller
      rw [hcommand] at hsmaller_argument
      exact readFrom_of_missing _ _ _ hdigit hsmaller hsmaller_argument
  | case6 offset run key hdigit count hnone command argument rest hcommand ih =>
      have hsmaller := hbare run.reverse key
      have hsmaller_argument := hargument run.reverse key
      rw [hnone] at hsmaller
      rw [hcommand] at hsmaller_argument
      rw [readFrom_of_withArgument? _ _ _ hdigit hsmaller hsmaller_argument, ih, map_cons_map]

theorem read_eq_map_collapse {maxCount larger : UInt64} (hone : 1 ≤ maxCount)
    (hle : maxCount ≤ larger) (keys : List Char) :
    read maxCount keys = (read larger keys).map (List.map (Command.collapse maxCount)) :=
  readFrom_eq_map_collapse hone hle 0 [] keys

/-- No literal count that is read is larger than the bound. The bound has to allow one, which is
what no digits at all denote. -/
theorem le_maxCount_of_mem {maxCount : UInt64} (hone : 1 ≤ maxCount) {keys : List Char}
    {commands : List Command} (hread : read maxCount keys = .ok commands) {command : Command}
    (hmem : command ∈ commands) {number : UInt64}
    (hcount : command.count? = some (.times number)) : number ≤ maxCount := by
  -- A reading under a bound is what the same bound leaves of it.
  have hsame := read_eq_map_collapse hone (UInt64.le_refl maxCount) keys
  rw [hread] at hsame
  change Except.ok commands = .ok (commands.map (Command.collapse maxCount)) at hsame
  rw [Except.ok.inj hsame] at hmem
  obtain ⟨original, -, rfl⟩ := List.mem_map.mp hmem
  rw [Command.collapse, Command.count?_mapCount] at hcount
  obtain ⟨count, -, hcollapse⟩ := Option.map_eq_some_iff.mp hcount
  exact Count.le_of_collapse_eq_times hcollapse

/-- Of two bounds the smaller one reads exactly the keys that the larger one reads, refuses all
others for the same fault, and turns the literal counts beyond it into unbounded ones; nothing else
about the commands changes. So under settings that pass the check no literal count is larger than
they allow. -/
theorem read_iff_read_larger :
    (∀ maxCount larger : UInt64, 1 ≤ maxCount → maxCount ≤ larger → ∀ keys : List Char,
      (∀ fault, read maxCount keys = .error fault ↔ read larger keys = .error fault) ∧
      ∀ commands, read maxCount keys = .ok commands ↔
        ∃ others, read larger keys = .ok others ∧
          commands = others.map (Command.collapse maxCount)) ∧
    ∀ settings : Settings, settings.validate = .ok () → ∀ keys commands,
      read settings.script.maxCount keys = .ok commands →
        ∀ command ∈ commands, ∀ number, command.count? = some (.times number) →
          number ≤ settings.script.maxCount := by
  refine ⟨fun maxCount larger hone hle keys => ?_, fun settings hcheck keys commands hread => ?_⟩
  · have hsmaller := read_eq_map_collapse hone hle keys
    cases hlarger : read larger keys with
    | error fault =>
        rw [hlarger] at hsmaller
        change read maxCount keys = .error fault at hsmaller
        rw [hsmaller]
        exact ⟨fun other => Iff.rfl, fun commands => by simp⟩
    | ok others =>
        rw [hlarger] at hsmaller
        change read maxCount keys = .ok (others.map (Command.collapse maxCount)) at hsmaller
        rw [hsmaller]
        exact ⟨fun fault => by simp, fun commands => by simp [eq_comm]⟩
  · have hone := one_le_iff_ne_zero.mpr (Settings.validate_eq_ok_iff.mp hcheck).1
    exact fun command hmem number hcount => le_maxCount_of_mem hone hread hmem hcount

/-- Under both bounds five stays a literal count and a numeral of more than 64 bits is unbounded.
What lies between the bounds collapses, and the fault at the end is found under both. -/
theorem read_iff_read_larger_six :
    let keys := "5h6l20000000000000000000x6r7".toList
    let collapsed : List Command :=
      [.moveLeft (.times 5), .moveRight .unbounded, .delete .unbounded, .replace .unbounded '7']
    read 18446744073709551615 keys =
      .ok [.moveLeft (.times 5), .moveRight (.times 6), .delete .unbounded,
        .replace (.times 6) '7'] ∧
    read 5 keys = .ok collapsed ∧ read 5 "6l6r".toList = .error (.missingArgument 'r' 3) ∧
    ∀ command ∈ collapsed, ∀ number, command.count? = some (.times number) → number ≤ 5 := by
  intro keys collapsed
  have hlarger : read 18446744073709551615 keys =
      .ok [.moveLeft (.times 5), .moveRight (.times 6), .delete .unbounded,
        .replace (.times 6) '7'] := by decide +kernel
  have hfault : read 18446744073709551615 "6l6r".toList = .error (.missingArgument 'r' 3) := by
    decide +kernel
  have hsmaller (keys : List Char) := read_iff_read_larger.1 5 18446744073709551615 (by decide)
    (by decide) keys
  have hread : read 5 keys = .ok collapsed := ((hsmaller keys).2 _).mpr ⟨_, hlarger, rfl⟩
  exact ⟨hlarger, hread, ((hsmaller _).1 _).mpr hfault,
    read_iff_read_larger.2 { script := { maxCount := 5 } } rfl keys _ hread⟩

end Script

end KeyScript
