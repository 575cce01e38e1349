import KeyScript.Proofs.Bounds

/-!
Commands with a count of zero. They are meant to do nothing but keep their snapshot, and so they do,
with one exception: moving right also draws back to the last character a cursor that an earlier
deletion left behind it, and does so whatever its count.
-/

namespace KeyScript

theorem get_times_zero : (Count.times 0).get = 0 := rfl

theorem Text.delete_zero {text : Text} (htext : text.length ≤ maxWord) (start : Nat) :
    (text.delete start 0).1 = text := by
  have hchars := chars_delete htext start 0
  rw [Nat.add_zero, List.take_append_drop] at hchars
  exact congrArg Text.mk hchars

namespace Command

theorem effect_zero {command : Command} (hzero : command.count? = some (.times 0))
    (hmove : command ≠ .moveRight (.times 0)) {snapshot : Snapshot}
    (htext : snapshot.text.length ≤ maxWord) : command.effect snapshot = snapshot := by
  cases command with
  | moveToNext => cases hzero
  | moveLeft count =>
      cases hzero
      rw [effect_moveLeft, get_times_zero, Nat.sub_zero]
  | moveRight count =>
      cases hzero
      exact False.elim (hmove rfl)
  | replace count character =>
      cases hzero
      rw [effect_replace (by decide), get_times_zero, Editor.strokes]
  | delete count =>
      cases hzero
      rw [effect_delete, get_times_zero, Text.delete_zero htext]
  | undo count => exact effect_undo count snapshot

theorem effect_moveRight_zero {snapshot : Snapshot} (hcursor : snapshot.cursor ≤ maxWord) :
    (moveRight (.times 0)).effect snapshot =
      ⟨min snapshot.cursor snapshot.text.lastIndex, snapshot.text⟩ := by
  rw [effect_moveRight, get_times_zero, cappedSum, Nat.add_zero, Nat.min_eq_left hcursor]

end Command

namespace Editor

theorem apply_undo_zero (editor : Editor) : editor.apply (.undo (.times 0)) = editor := by
  apply eq_of_snapshot_eq
  · rw [snapshot_undo, get_times_zero]
    rfl
  · rw [history_undo, get_times_zero]
    rfl

theorem history_apply_zero {command : Command} (hzero : command.count? = some (.times 0))
    (editor : Editor) :
    (editor.apply command).history =
      if command.keepsSnapshot then editor.history.push editor.snapshot else editor.history := by
  cases command with
  | undo count =>
      cases hzero
      rw [apply_undo_zero]
      rfl
  | _ => exact history_apply rfl editor

theorem snapshot_apply_zero {command : Command} (hzero : command.count? = some (.times 0))
    {editor : Editor} (htext : editor.text.length ≤ maxWord)
    (hwithin : editor.cursor ≤ editor.text.length) :
    (editor.apply command).snapshot =
      ⟨if command = .moveRight (.times 0) then min editor.cursor editor.text.lastIndex
        else editor.cursor, editor.text⟩ := by
  by_cases hmove : command = .moveRight (.times 0)
  · have hcursor : editor.snapshot.cursor ≤ maxWord := Nat.le_trans hwithin htext
    rw [if_pos hmove, hmove, snapshot_apply rfl]
    exact Command.effect_moveRight_zero hcursor
  · rw [if_neg hmove]
    by_cases hkeeps : command.keepsSnapshot
    · rw [snapshot_apply hkeeps]
      exact Command.effect_zero hzero hmove htext
    · cases command with
      | undo count =>
          cases hzero
          rw [apply_undo_zero]
          rfl
      | _ => exact False.elim (hkeeps rfl)

/-- A command with a count of zero keeps the text, and the history up to the snapshot that every
command but undo puts on it. It keeps the cursor too, unless it moves right while the cursor is right
behind the last character: then the cursor goes back onto that character. -/
theorem apply_zero_count {text : Text} (htext : text.length ≤ maxWord) (settings : HistorySettings)
    (commands : List Command) {command : Command} (hzero : command.count? = some (.times 0)) :
    let editor := (start text settings).run commands
    (editor.apply command).text = editor.text ∧
    (editor.apply command).history =
      (if command.keepsSnapshot then editor.history.push editor.snapshot else editor.history) ∧
    (editor.apply command).cursor =
      (if command = .moveRight (.times 0) then min editor.cursor editor.text.lastIndex
        else editor.cursor) ∧
    ((editor.apply command).cursor = editor.cursor ↔
      ¬(command = .moveRight (.times 0) ∧ editor.cursor = editor.text.length ∧
        0 < editor.text.length)) := by
  intro editor
  have hsound : editor.Sound text.length := sound_run htext settings commands
  have hwithin : editor.cursor ≤ editor.text.length := hsound.snapshot_within
  have hsnapshot := snapshot_apply_zero hzero (Nat.le_trans hsound.length_le htext) hwithin
  have hcursor := congrArg Snapshot.cursor hsnapshot
  refine ⟨congrArg Snapshot.text hsnapshot, history_apply_zero hzero editor, hcursor, ?_⟩
  change (editor.apply command).cursor = _ at hcursor
  rw [hcursor]
  unfold Text.lastIndex
  split
  · rename_i hmove
    simp only [hmove, true_and]
    omega
  · rename_i hmove
    simp only [hmove, false_and, not_false_eq_true]

/-- Moving right by nothing from behind the end. -/
theorem apply_zero_count_behind_the_end :
    let editor := (start ⟨['a', 'b']⟩ {}).run [.moveRight .one, .delete .one]
    (editor.apply (.moveRight (.times 0))).text = editor.text ∧
    (editor.apply (.moveRight (.times 0))).history = editor.history.push editor.snapshot ∧
    (editor.apply (.moveRight (.times 0))).cursor = 0 ∧
    (editor.apply (.moveRight (.times 0))).cursor ≠ editor.cursor := by
  intro editor
  obtain ⟨htext, hhistory, hcursor, hkept⟩ :=
    @apply_zero_count ⟨['a', 'b']⟩ (by decide) {} [.moveRight .one, .delete .one]
      (.moveRight (.times 0)) rfl
  exact ⟨htext, hhistory, hcursor, fun heq => hkept.mp heq ⟨rfl, by decide, by decide⟩⟩

/-- Not every command with a count of zero keeps text and cursor: with the cursor behind the one
character that is left, moving right by nothing goes back to it. -/
theorem not_snapshot_apply_zero_count :
    ¬∀ (text : Text) (settings : HistorySettings) (commands : List Command) (command : Command),
      text.length ≤ maxWord → command.count? = some (.times 0) →
        (((start text settings).run commands).apply command).snapshot =
          ((start text settings).run commands).snapshot := by
  intro hall
  exact absurd
    (hall ⟨['a', 'b']⟩ {} [.moveRight .one, .delete .one] (.moveRight (.times 0)) (by decide) rfl)
    (by decide)

end Editor

end KeyScript
