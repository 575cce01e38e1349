import Mathlib.Control.Monad.Basic
import KeyScript.Proofs.Bounds
import KeyScript.Proofs.Collapse
import KeyScript.Session

/-!
Ample counts. A count beyond the length of the text and the depth of the history does what an
unbounded one does, for every command and in every state that a run can reach. So two sessions that
differ only in their largest literal count end alike, as long as both bounds are beyond the text and
the snapshots the script can leave behind.
-/

namespace KeyScript

theorem one_le_of_add_le {maxCount : UInt64} {number : Nat} (hle : 1 + number ≤ maxCount.toNat) :
    1 ≤ maxCount := by
  rw [UInt64.le_iff_toNat_le]
  exact Nat.le_trans (Nat.le_add_right _ _) hle

namespace Command

variable {count : Count} {snapshot : Snapshot}

theorem effect_moveLeft_of_le (hcount : snapshot.cursor ≤ count.get) :
    (moveLeft count).effect snapshot = ⟨0, snapshot.text⟩ := by
  rw [effect_moveLeft, Nat.sub_eq_zero_of_le hcount]

theorem effect_moveRight_of_le (hcount : snapshot.text.length ≤ count.get) :
    (moveRight count).effect snapshot = ⟨snapshot.text.lastIndex, snapshot.text⟩ := by
  have hword := count.get_le_maxWord
  rw [effect_moveRight, Nat.min_eq_right]
  unfold cappedSum Text.lastIndex
  omega

theorem effect_delete_of_le (hcount : snapshot.text.length ≤ count.get) :
    (delete count).effect snapshot =
      ⟨snapshot.cursor, ⟨snapshot.text.chars.take snapshot.cursor⟩⟩ := by
  have htext : snapshot.text.length ≤ maxWord := Nat.le_trans hcount count.get_le_maxWord
  have hchars := Text.chars_delete htext snapshot.cursor count.get
  rw [List.drop_of_length_le (Nat.le_trans hcount (Nat.le_add_left _ _)), List.append_nil] at hchars
  rw [effect_delete]
  exact congrArg (fun chars => Snapshot.mk snapshot.cursor ⟨chars⟩) hchars

theorem effect_replace_of_le {other : Count} (hcount : snapshot.text.length ≤ count.get)
    (hother : snapshot.text.length ≤ other.get) (hone : count ≠ .one) (hone_other : other ≠ .one)
    (character : Char) :
    (replace count character).effect snapshot = (replace other character).effect snapshot := by
  apply Snapshot.eq_of_get?_eq
  · rw [cursor_effect_replace, cursor_effect_replace]
    simp only [hone, hone_other, or_false]
    unfold Text.lastIndex
    split <;> omega
  · intro place
    rw [get?_effect_replace, get?_effect_replace]
    exact if_congr (by omega) rfl rfl

/-- A count beyond the text does what an unbounded one does. One is never such a count, so that
overwriting in place is not meant here. -/
theorem effect_unbounded {bound : Nat} (hpos : 1 ≤ bound) (hwithin : snapshot.Within)
    (htext : snapshot.text.length ≤ bound) {command : Command}
    (hbeyond : ∀ count, command.count? = some count → bound < count.get) :
    (command.mapCount fun _ => .unbounded).effect snapshot = command.effect snapshot := by
  have hample {count : Count} (hcount : command.count? = some count) :
      snapshot.text.length ≤ count.get ∧ snapshot.text.length ≤ Count.unbounded.get := by
    have hget := hbeyond count hcount
    have hword := count.get_le_maxWord
    exact ⟨by omega, by rw [Count.get]; omega⟩
  cases command with
  | moveToNext character => rfl
  | moveLeft count =>
      obtain ⟨hcount, hunbounded⟩ := hample rfl
      rw [mapCount, effect_moveLeft_of_le (Nat.le_trans hwithin hunbounded),
        effect_moveLeft_of_le (Nat.le_trans hwithin hcount)]
  | moveRight count =>
      obtain ⟨hcount, hunbounded⟩ := hample rfl
      rw [mapCount, effect_moveRight_of_le hunbounded, effect_moveRight_of_le hcount]
  | replace count character =>
      obtain ⟨hcount, hunbounded⟩ := hample rfl
      have hone : count ≠ .one := by
        intro heq
        have hget := hbeyond count rfl
        rw [heq] at hget
        exact absurd hget (Nat.not_lt_of_le hpos)
      exact effect_replace_of_le hunbounded hcount (by decide) hone character
  | delete count =>
      obtain ⟨hcount, hunbounded⟩ := hample rfl
      rw [mapCount, effect_delete_of_le hunbounded, effect_delete_of_le hcount]
  | undo count => rw [mapCount, effect_undo, effect_undo]

end Command

namespace Editor

/-- A count beyond the text and the history does what an unbounded one does. -/
theorem apply_unbounded {bound : Nat} (hpos : 1 ≤ bound) {editor : Editor}
    (hsound : editor.Sound bound) (hdepth : editor.history.depth ≤ bound) {command : Command}
    (hbeyond : ∀ count, command.count? = some count → bound < count.get) :
    editor.apply (command.mapCount fun _ => .unbounded) = editor.apply command := by
  by_cases hkeeps : command.keepsSnapshot
  · have hkeeps_unbounded : (command.mapCount fun _ => .unbounded).keepsSnapshot :=
      (Command.keepsSnapshot_mapCount _ command).trans hkeeps
    exact apply_congr hkeeps_unbounded hkeeps
      (Command.effect_unbounded hpos hsound.snapshot_within hsound.length_le hbeyond)
  · cases command with
    | undo count =>
        have hget := hbeyond count rfl
        have hword := count.get_le_maxWord
        exact apply_undo_congr (by rw [Count.get]; omega)
    | _ => exact False.elim (hkeeps rfl)

theorem apply_collapse {maxCount : UInt64} (hone : 1 ≤ maxCount) {editor : Editor}
    (hsound : editor.Sound maxCount.toNat) (hdepth : editor.history.depth ≤ maxCount.toNat)
    (command : Command) : editor.apply (command.collapse maxCount) = editor.apply command := by
  rcases command.collapse_cases maxCount with hsame | ⟨hunbounded, hbeyond⟩
  · rw [hsame]
  · rw [hunbounded]
    exact apply_unbounded (UInt64.le_iff_toNat_le.mp hone) hsound hdepth hbeyond

/-- Only a command that keeps its snapshot can make the history deeper, by that one. -/
theorem depth_apply_le_add {editor : Editor} {settings : HistorySettings}
    (hobeys : editor.history.Obeys settings) (command : Command) :
    (editor.apply command).history.depth ≤
      editor.history.depth + if command.keepsSnapshot then 1 else 0 := by
  cases command with
  | undo count =>
      rw [depth_undo]
      exact Nat.sub_le _ _
  | _ =>
      rw [history_apply rfl, History.depth_push hobeys]
      exact settings.capped_le _

/-- Collapsing makes no difference to a run for which the bound exceeds the text and the snapshots
that the history can come to hold. -/
theorem run_collapse {maxCount : UInt64} (hone : 1 ≤ maxCount) {editor : Editor}
    {settings : HistorySettings} (hobeys : editor.history.Obeys settings)
    (hsound : editor.Sound maxCount.toNat) {commands : List Command}
    (hdepth : editor.history.depth + commands.countP Command.keepsSnapshot ≤ maxCount.toNat) :
    editor.run (commands.map (Command.collapse maxCount)) = editor.run commands := by
  induction commands generalizing editor with
  | nil => rfl
  | cons command rest ih =>
      rw [List.countP_cons] at hdepth
      have hnext := depth_apply_le_add hobeys command
      have hcollapse := apply_collapse hone hsound (by omega) command
      change (editor.apply (command.collapse maxCount)).run _ = (editor.apply command).run rest
      rw [hcollapse]
      exact ih (obeys_apply hobeys command)
        (hsound.apply (toNat_le_maxWord maxCount) hobeys command) (by omega)

theorem run_start_collapse {maxCount : UInt64} (text : Text) (settings : HistorySettings)
    {commands : List Command} (hlength : text.length ≤ maxCount.toNat)
    (hdepth : 1 + commands.countP Command.keepsSnapshot ≤ maxCount.toNat) :
    (start text settings).run (commands.map (Command.collapse maxCount)) =
      (start text settings).run commands := by
  apply run_collapse (one_le_of_add_le hdepth) (obeys_start text settings)
    ((sound_start text settings).mono hlength)
  rw [depth_start]
  exact hdepth

end Editor

namespace Script

/-- Every reading collapses the one under the largest bound there is. -/
theorem read_eq_map_collapse_largest {maxCount : UInt64} (hone : 1 ≤ maxCount) (keys : List Char) :
    read maxCount keys =
      (read (.ofNat maxWord) keys).map (List.map (Command.collapse maxCount)) := by
  apply read_eq_map_collapse hone
  rw [UInt64.le_iff_toNat_le, toNat_ofNat_of_le_maxWord (Nat.le_refl _)]
  exact toNat_le_maxWord maxCount

end Script

namespace Session

theorem run_eq_of_read_largest {text script : String} {literal : List Command}
    (hread : Script.read (.ofNat maxWord) script.toList = .ok literal) {maxCount : UInt64}
    (hlength : text.toList.length ≤ maxCount.toNat)
    (hdepth : 1 + literal.countP Command.keepsSnapshot ≤ maxCount.toNat)
    (history : HistorySettings) :
    run { script := { maxCount }, history } text script =
      .ok { commands := literal.map (Command.collapse maxCount)
            editor := (Editor.start (.ofString text) history).run literal } := by
  have hcollapse :=
    Script.read_eq_map_collapse_largest (one_le_of_add_le hdepth) script.toList
  have heditor := Editor.run_start_collapse (.ofString text) history hlength hdepth
  rw [hread] at hcollapse
  rw [run, hcollapse]
  simp only [Except.map, heditor]

/-- Any two bounds on literal counts that are at least the length of the text, and greater than the
number of commands in the script that keep a snapshot, lead to the same editor: the same text, the
same cursor and the same history. Both read the script, though perhaps as different commands. -/
theorem editor_run_eq_of_ample (text script : String) (history : HistorySettings)
    (first second : UInt64) {commands : List Command}
    (hread : Script.read first script.toList = .ok commands)
    (hlength : text.toList.length ≤ first.toNat)
    (hlength_second : text.toList.length ≤ second.toNat)
    (hdepth : 1 + commands.countP Command.keepsSnapshot ≤ first.toNat)
    (hdepth_second : 1 + commands.countP Command.keepsSnapshot ≤ second.toNat) :
    ∃ left right : Session,
      run { script := { maxCount := first }, history } text script = .ok left ∧
      run { script := { maxCount := second }, history } text script = .ok right ∧
      left.editor = right.editor := by
  have hcollapse := Script.read_eq_map_collapse_largest (one_le_of_add_le hdepth) script.toList
  rw [hread] at hcollapse
  cases hlargest : Script.read (.ofNat maxWord) script.toList with
  | error fault =>
      rw [hlargest] at hcollapse
      cases hcollapse
  | ok literal =>
      rw [hlargest] at hcollapse
      cases hcollapse
      rw [Command.countP_keepsSnapshot_collapse] at hdepth hdepth_second
      exact ⟨_, _, run_eq_of_read_largest hlargest hlength hdepth history,
        run_eq_of_read_largest hlargest hlength_second hdepth_second history, rfl⟩

/-- The two readings differ in the count of the strokes and of the undo. -/
theorem editor_run_eq_of_ample_readings_differ :
    Script.read 6 "2l9r-7u5x".toList ≠ Script.read 20 "2l9r-7u5x".toList ∧
    ∃ left right : Session,
      run { script := { maxCount := 6 } } "abc" "2l9r-7u5x" = .ok left ∧
      run { script := { maxCount := 20 } } "abc" "2l9r-7u5x" = .ok right ∧
      left.editor = right.editor := by
  have hread : Script.read 6 "2l9r-7u5x".toList =
      .ok [.moveRight (.times 2), .replace .unbounded '-', .undo .unbounded,
        .delete (.times 5)] := by decide +kernel
  have hread_second : Script.read 20 "2l9r-7u5x".toList =
      .ok [.moveRight (.times 2), .replace (.times 9) '-', .undo (.times 7),
        .delete (.times 5)] := by decide +kernel
  refine ⟨?_, editor_run_eq_of_ample "abc" "2l9r-7u5x" {} 6 20 hread (by decide) (by decide)
    (by decide) (by decide)⟩
  rw [hread, hread_second]
  simp

end Session

end KeyScript
