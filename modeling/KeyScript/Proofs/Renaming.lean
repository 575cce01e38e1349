import KeyScript.Proofs.Effect
import Mathlib.Data.List.Basic
import Mathlib.Logic.Equiv.Basic

/-!
Renaming characters. An editor moves characters around, types some over others and forgets some, but
it looks at one only when it searches. So a run commutes with every renaming that keeps different
characters different, and a run without searches with every renaming at all. Under the renaming that
makes all characters the same, nothing is left of a text but its length and nothing of a command but
its letter and its count; hence cursor, length and depth depend on no more than that.
-/

namespace KeyScript

variable {names : Char → Char}

/-! ### Texts -/

/-- The text with every character renamed. -/
def Text.rename (names : Char → Char) (text : Text) : Text := ⟨text.chars.map names⟩

namespace Text

theorem length_rename (text : Text) : (text.rename names).length = text.length := List.length_map _

theorem lastIndex_rename (text : Text) : (text.rename names).lastIndex = text.lastIndex := by
  rw [lastIndex, length_rename, lastIndex]

theorem replace?_rename (text : Text) (index : Nat) (character : Char) :
    (text.rename names).replace? index (names character) =
      (text.replace? index character).map (rename names) := by
  unfold replace?
  rw [length_rename]
  split
  · rw [Option.map_some, rename, rename, List.map_set]
  · rfl

theorem getD_replace?_rename (text : Text) (index : Nat) (character : Char) :
    ((text.rename names).replace? index (names character)).getD (text.rename names) =
      ((text.replace? index character).getD text).rename names := by
  rw [replace?_rename, Option.getD_map]

theorem delete_rename (text : Text) (start count : Nat) :
    (text.rename names).delete start count =
      ((text.delete start count).1.rename names, (text.delete start count).2) := by
  unfold delete
  rw [length_rename]
  dsimp only
  split
  · rfl
  · split
    · rw [rename, rename, List.map_take]
    · rw [rename, rename, List.map_append, List.map_take, List.map_drop]

/-- The search compares characters, and finds the same place if no others have become the one that
is looked for. -/
theorem find?_rename (hinjective : Function.Injective names) (text : Text) (start : Nat)
    (character : Char) :
    (text.rename names).find? start (names character) = text.find? start character := by
  have hsame : ((· == names character) ∘ names) = (· == character) := by
    funext other
    exact beq_eq_beq.mpr hinjective.eq_iff
  rw [find?, rename, ← List.map_drop, List.findIdx?_map, hsame, find?]

/-- Where all characters have become the same, only the length is left. -/
theorem rename_const_eq {text other : Text} (hlength : text.length = other.length)
    (character : Char) : text.rename (fun _ => character) = other.rename fun _ => character := by
  unfold length at hlength
  rw [rename, rename, List.map_const', List.map_const', hlength]

end Text

theorem Editor.strokes_rename (character : Char) (count : Nat) (text : Text) (cursor : Nat) :
    strokes (names character) count (text.rename names) cursor =
      ((strokes character count text cursor).1.rename names,
        (strokes character count text cursor).2) := by
  induction count generalizing text cursor with
  | zero => rfl
  | succ count ih =>
      rw [strokes, strokes, Text.replace?_rename]
      cases text.replace? cursor character with
      | none => rfl
      | some changed =>
          rw [Option.map_some]
          dsimp only
          rw [Text.length_rename]
          split
          · rfl
          · exact ih changed (cursor + 1)

/-! ### Commands -/

/-- The command with its argument renamed, if it takes one. -/
def Command.rename (names : Char → Char) : Command → Command
  | .moveLeft count => .moveLeft count
  | .moveRight count => .moveRight count
  | .replace count character => .replace count (names character)
  | .moveToNext character => .moveToNext (names character)
  | .delete count => .delete count
  | .undo count => .undo count

/-- The snapshot with every character of its text renamed. -/
def Snapshot.rename (names : Char → Char) (snapshot : Snapshot) : Snapshot :=
  ⟨snapshot.cursor, snapshot.text.rename names⟩

namespace Command

/-- The renaming keeps different characters different, if the command is a search. -/
def Tolerates (names : Char → Char) (command : Command) : Prop :=
  ∀ character, command = .moveToNext character → Function.Injective names

theorem tolerates_of_injective (hinjective : Function.Injective names) (command : Command) :
    command.Tolerates names := fun _ _ => hinjective

theorem keepsSnapshot_rename (names : Char → Char) (command : Command) :
    (command.rename names).keepsSnapshot = command.keepsSnapshot := by
  cases command <;> rfl

theorem rename_const_eq {command other : Command} (hletter : command.letter = other.letter)
    (hcount : command.count? = other.count?) (character : Char) :
    command.rename (fun _ => character) = other.rename fun _ => character := by
  cases command <;> cases other <;> simp only [letter, Char.reduceEq] at hletter
  all_goals
    cases hcount
    rfl

theorem map_rename_const_eq {commands others : List Command}
    (hletters : commands.map letter = others.map letter)
    (hcounts : commands.map count? = others.map count?) (character : Char) :
    commands.map (rename fun _ => character) = others.map (rename fun _ => character) := by
  induction commands generalizing others with
  | nil =>
      rw [List.map_eq_nil_iff.mp hletters.symm]
  | cons command rest ih =>
      cases others with
      | nil => cases hletters
      | cons other others =>
          rw [List.map_cons, List.map_cons, List.cons.injEq] at hletters hcounts
          rw [List.map_cons, List.map_cons, rename_const_eq hletters.1 hcounts.1,
            ih hletters.2 hcounts.2]

theorem exists_eq_moveToNext {command : Command} (hletter : command.letter = 'f') :
    ∃ character, command = .moveToNext character := by
  cases command with
  | moveToNext character => exact ⟨character, rfl⟩
  | _ => simp [letter] at hletter

theorem effect_rename {command : Command} (htolerates : command.Tolerates names)
    (snapshot : Snapshot) :
    (command.rename names).effect (snapshot.rename names) =
      (command.effect snapshot).rename names := by
  cases command with
  | moveLeft count => rfl
  | moveRight count =>
      rw [rename, effect_moveRight, effect_moveRight, Snapshot.rename, Snapshot.rename,
        Text.lastIndex_rename]
  | replace count character =>
      rw [rename]
      by_cases hcount : count = .one
      · rw [hcount, effect_replace_one, effect_replace_one, Snapshot.rename, Snapshot.rename,
          Text.getD_replace?_rename]
      · rw [effect_replace hcount, effect_replace hcount, Snapshot.rename, Snapshot.rename,
          Editor.strokes_rename]
  | moveToNext character =>
      rw [rename, effect_moveToNext, effect_moveToNext, Snapshot.rename, Snapshot.rename,
        Text.find?_rename (htolerates character rfl)]
  | delete count =>
      rw [rename, effect_delete, effect_delete, Snapshot.rename, Snapshot.rename,
        Text.delete_rename]
  | undo count => rw [rename, effect_undo, effect_undo]

end Command

/-! ### Editors -/

/-- The history with every snapshot renamed. -/
def History.rename (names : Char → Char) (history : History) : History :=
  { history with stack := history.stack.map (Snapshot.rename names) }

theorem History.depth_rename (history : History) :
    (history.rename names).depth = history.depth := List.length_map _

theorem History.push_rename (history : History) (snapshot : Snapshot) :
    (history.rename names).push (snapshot.rename names) = (history.push snapshot).rename names := by
  apply eq_of_stack_eq
  · unfold push rename
    cases history.limit with
    | none => rfl
    | some limit => exact (List.map_take (l := snapshot :: history.stack)).symm
  · rfl

namespace Editor

/-- The editor with every character of its text and its history renamed. -/
def rename (names : Char → Char) (editor : Editor) : Editor where
  text := editor.text.rename names
  cursor := editor.cursor
  history := editor.history.rename names

theorem trail_rename (editor : Editor) :
    (editor.rename names).trail = editor.trail.map (Snapshot.rename names) := rfl

theorem start_rename (text : Text) (settings : HistorySettings) :
    start (text.rename names) settings = (start text settings).rename names :=
  eq_of_snapshot_eq rfl (History.push_rename (History.empty settings) ⟨0, text⟩)

theorem apply_rename_of_keepsSnapshot {command : Command} (htolerates : command.Tolerates names)
    (hkeeps : command.keepsSnapshot) (editor : Editor) :
    (editor.rename names).apply (command.rename names) = (editor.apply command).rename names := by
  have hrenamed : (command.rename names).keepsSnapshot :=
    (command.keepsSnapshot_rename names).trans hkeeps
  apply eq_of_snapshot_eq
  · calc ((editor.rename names).apply (command.rename names)).snapshot
        = (command.rename names).effect (editor.snapshot.rename names) :=
          snapshot_apply hrenamed _
      _ = (command.effect editor.snapshot).rename names := Command.effect_rename htolerates _
      _ = (editor.apply command).snapshot.rename names := by rw [snapshot_apply hkeeps]
  · calc ((editor.rename names).apply (command.rename names)).history
        = (editor.history.rename names).push (editor.snapshot.rename names) :=
          history_apply hrenamed _
      _ = (editor.history.push editor.snapshot).rename names := History.push_rename _ _
      _ = (editor.apply command).history.rename names := by rw [history_apply hkeeps]

theorem apply_undo_rename (editor : Editor) (count : Count) :
    (editor.rename names).apply (.undo count) = (editor.apply (.undo count)).rename names := by
  have hdepth : (editor.rename names).history.depth = editor.history.depth :=
    History.depth_rename _
  apply eq_of_trail_eq
  · rw [trail_undo, trail_rename, trail_rename, trail_undo, hdepth, List.map_drop]
  · rw [limit_apply]
    exact (limit_apply editor (.undo count)).symm

theorem apply_rename {command : Command} (htolerates : command.Tolerates names)
    (editor : Editor) :
    (editor.rename names).apply (command.rename names) = (editor.apply command).rename names := by
  cases command with
  | undo count => exact apply_undo_rename editor count
  | _ => exact apply_rename_of_keepsSnapshot htolerates rfl editor

theorem run_rename {commands : List Command}
    (htolerates : ∀ command ∈ commands, command.Tolerates names) (editor : Editor) :
    (editor.rename names).run (commands.map (Command.rename names)) =
      (editor.run commands).rename names := by
  induction commands generalizing editor with
  | nil => rfl
  | cons command rest ih =>
      rw [List.forall_mem_cons] at htolerates
      calc (editor.rename names).run ((command :: rest).map (Command.rename names))
          = ((editor.rename names).apply (command.rename names)).run
              (rest.map (Command.rename names)) := rfl
        _ = ((editor.apply command).rename names).run (rest.map (Command.rename names)) := by
          rw [apply_rename htolerates.1]
        _ = ((editor.apply command).run rest).rename names := ih htolerates.2 _

theorem run_start_rename {commands : List Command}
    (htolerates : ∀ command ∈ commands, command.Tolerates names) (text : Text)
    (settings : HistorySettings) :
    (start (text.rename names) settings).run (commands.map (Command.rename names)) =
      ((start text settings).run commands).rename names := by
  rw [start_rename]
  exact run_rename htolerates _

/-- Runs of the same letters and counts, without searches, on texts of the same length: where all
characters are made the same, they are one run. -/
theorem rename_const_run_eq {commands others : List Command}
    (hnone : ∀ character, .moveToNext character ∉ commands)
    (hletters : others.map Command.letter = commands.map Command.letter)
    (hcounts : others.map Command.count? = commands.map Command.count?) {text other : Text}
    (hlength : other.length = text.length) (settings : HistorySettings) (character : Char) :
    ((start other settings).run others).rename (fun _ => character) =
      ((start text settings).run commands).rename fun _ => character := by
  have htolerates {run : List Command}
      (hrun : run.map Command.letter = commands.map Command.letter) :
      ∀ command ∈ run, command.Tolerates fun _ => character := by
    rintro command hmem sought rfl
    have hletter : 'f' ∈ commands.map Command.letter := by
      rw [← hrun]
      exact List.mem_map.mpr ⟨_, hmem, rfl⟩
    obtain ⟨search, hsearch, hf⟩ := List.mem_map.mp hletter
    obtain ⟨found, rfl⟩ := Command.exists_eq_moveToNext hf
    exact absurd hsearch (hnone found)
  rw [← run_start_rename (htolerates hletters), ← run_start_rename (htolerates rfl),
    Text.rename_const_eq hlength, Command.map_rename_const_eq hletters hcounts]

/-- Characters are opaque to the editor. If every character of the text and of the commands is
renamed, and different ones stay different, then after each command the text and the snapshots of
the history are the renamed ones, and cursor and depth are the same. Without searches, cursor, depth
and the length of the text after each command are the same for every text of the same length and
all commands of the same letters and counts. -/
theorem run_independent_of_characters (text : Text) (settings : HistorySettings)
    (commands : List Command) :
    (∀ names : Char → Char, Function.Injective names → ∀ place,
      let editor := (start text settings).run (commands.take place)
      let renamed := (start (text.rename names) settings).run
        ((commands.map (Command.rename names)).take place)
      renamed.text = editor.text.rename names ∧
      renamed.cursor = editor.cursor ∧
      renamed.history.depth = editor.history.depth ∧
      renamed.history.stack = editor.history.stack.map (Snapshot.rename names)) ∧
    ((∀ character, .moveToNext character ∉ commands) →
      ∀ (other : Text) (others : List Command), other.length = text.length →
        others.map Command.letter = commands.map Command.letter →
        others.map Command.count? = commands.map Command.count? → ∀ place,
        let editor := (start text settings).run (commands.take place)
        let twin := (start other settings).run (others.take place)
        twin.cursor = editor.cursor ∧
        twin.text.length = editor.text.length ∧
        twin.history.depth = editor.history.depth) := by
  constructor
  · intro names hinjective place editor renamed
    have hrenamed : renamed = editor.rename names := by
      show (start (text.rename names) settings).run _ = _
      rw [← List.map_take]
      exact run_start_rename (fun command _ => command.tolerates_of_injective hinjective) text
        settings
    rw [hrenamed]
    exact ⟨rfl, rfl, History.depth_rename _, rfl⟩
  · intro hnone other others hlength hletters hcounts place editor twin
    have hsame : twin.rename (fun _ => ' ') = editor.rename fun _ => ' ' := by
      apply rename_const_run_eq _ _ _ hlength
      · exact fun character hmem => hnone character (List.mem_of_mem_take hmem)
      · rw [List.map_take, hletters, List.map_take]
      · rw [List.map_take, hcounts, List.map_take]
    refine ⟨?_, ?_, ?_⟩
    · show (twin.rename fun _ => ' ').cursor = (editor.rename fun _ => ' ').cursor
      rw [hsame]
    · calc twin.text.length
          = (twin.rename fun _ => ' ').text.length := (Text.length_rename _).symm
        _ = (editor.rename fun _ => ' ').text.length := by rw [hsame]
        _ = editor.text.length := Text.length_rename _
    · calc twin.history.depth
          = (twin.rename fun _ => ' ').history.depth := (History.depth_rename _).symm
        _ = (editor.rename fun _ => ' ').history.depth := by rw [hsame]
        _ = editor.history.depth := History.depth_rename _

/-- A character exchanged with the letter of a command: what is searched for is found at the same
place, deleted, brought back and typed over. Without the search, any text of three characters will
do. -/
theorem run_independent_of_characters_exchanged :
    let names : Char → Char := Equiv.swap 'a' 'x'
    let commands : List Command :=
      [.moveToNext 'a', .delete .one, .undo .one, .replace (.times 2) 'a']
    let editor := (start ⟨['b', 'a', 'c']⟩ {}).run commands
    let renamed := (start ⟨['b', 'x', 'c']⟩ {}).run
      [.moveToNext 'x', .delete .one, .undo .one, .replace (.times 2) 'x']
    let twin := (start ⟨['z', 'z', 'z']⟩ {}).run [.delete .one, .replace (.times 2) 'z']
    Function.Injective names ∧
    renamed.text = editor.text.rename names ∧ renamed.text = ⟨['b', 'x', 'x']⟩ ∧
    renamed.history.stack = editor.history.stack.map (Snapshot.rename names) ∧
    twin.cursor =
      ((start ⟨['b', 'a', 'c']⟩ {}).run [.delete .one, .replace (.times 2) 'a']).cursor ∧
    twin.cursor = 1 := by
  intro names commands editor renamed twin
  have hinjective : Function.Injective names := (Equiv.swap 'a' 'x').injective
  obtain ⟨htext, -, -, hstack⟩ :=
    (run_independent_of_characters ⟨['b', 'a', 'c']⟩ {} commands).1 names hinjective 4
  obtain ⟨hcursor, -, -⟩ :=
    (run_independent_of_characters ⟨['b', 'a', 'c']⟩ {} [.delete .one, .replace (.times 2) 'a']).2
      (by simp) ⟨['z', 'z', 'z']⟩ [.delete .one, .replace (.times 2) 'z'] rfl rfl rfl 2
  exact ⟨hinjective, htext, by decide, hstack, hcursor, by decide⟩

end Editor

end KeyScript
