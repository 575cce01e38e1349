import KeyScript.Proofs.Bounds

/-!
Taking back a single command. Right after a command that keeps its snapshot an undo of one brings
back what was there before it, whatever the command did and wherever the cursor stood. Only the far
end of the history can tell: where the history was as deep as its limit allows, the snapshot of the
command has cost the oldest one, and the undo does not bring that one back.
-/

namespace KeyScript.Editor

section

variable {command : Command} (hkeeps : command.keepsSnapshot) {editor : Editor}
  {settings : HistorySettings} (hobeys : editor.history.Obeys settings)

include hkeeps hobeys

theorem snapshot_apply_undo_one :
    ((editor.apply command).apply (.undo .one)).snapshot = editor.snapshot := by
  rw [snapshot_undo, history_apply hkeeps, History.stack_push_eq_cons hobeys]
  rfl

theorem stack_apply_undo_one :
    ((editor.apply command).apply (.undo .one)).history.stack =
      editor.history.stack.take (settings.capped (editor.history.depth + 1) - 1) := by
  rw [history_undo, history_apply hkeeps, History.stack_push_eq_cons hobeys]
  rfl

/-- Where the history has room for one more snapshot, nothing is lost. -/
theorem stack_apply_undo_one_of_room
    (hroom : ∀ limit, settings.limit = some limit → editor.history.depth < max limit.toNat 1) :
    ((editor.apply command).apply (.undo .one)).history.stack = editor.history.stack := by
  have hcapped : settings.capped (editor.history.depth + 1) = editor.history.depth + 1 :=
    HistorySettings.capped_of_le hroom
  rw [stack_apply_undo_one hkeeps hobeys, hcapped, Nat.add_sub_cancel]
  exact List.take_length

/-- Where the history is as deep as its limit allows, its oldest snapshot is lost. -/
theorem stack_apply_undo_one_of_full {limit : UInt64} (hlimit : settings.limit = some limit)
    (hfull : editor.history.depth = max limit.toNat 1) :
    ((editor.apply command).apply (.undo .one)).history.stack =
      editor.history.stack.dropLast := by
  have hcapped : settings.capped (editor.history.depth + 1) = editor.history.depth := by
    rw [hfull]
    exact HistorySettings.capped_of_limit_le hlimit (Nat.le_succ _)
  rw [stack_apply_undo_one hkeeps hobeys, hcapped, List.dropLast_eq_take]
  rfl

end

/-- In every state that an editor can be brought to, an undo of one takes back the command right
before it: text and cursor are what they were, and so is the history as long as it had room for one
more snapshot. Where it had none, it is what it was without its oldest snapshot. -/
theorem apply_then_undo_one (text : Text) (settings : HistorySettings) (commands : List Command)
    {command : Command} (hkeeps : command.keepsSnapshot) :
    let before := (start text settings).run commands
    let undone := (before.apply command).apply (.undo (.times 1))
    undone.text = before.text ∧
    undone.cursor = before.cursor ∧
    ((∀ limit, settings.limit = some limit → before.history.depth < max limit.toNat 1) →
      undone.history = before.history) ∧
    (∀ limit, settings.limit = some limit → max limit.toNat 1 ≤ before.history.depth →
      undone.history = { before.history with stack := before.history.stack.dropLast }) := by
  intro before undone
  have hobeys : before.history.Obeys settings := obeys_run text settings commands
  have hsnapshot : undone.snapshot = before.snapshot := snapshot_apply_undo_one hkeeps hobeys
  have hlimit_eq : undone.history.limit = before.history.limit :=
    (limit_apply _ _).trans (limit_apply _ _)
  refine ⟨congrArg Snapshot.text hsnapshot, congrArg Snapshot.cursor hsnapshot, ?_, ?_⟩
  · intro hroom
    exact History.eq_of_stack_eq (stack_apply_undo_one_of_room hkeeps hobeys hroom) hlimit_eq
  · intro limit hlimit hdepth
    have hfull : before.history.depth = max limit.toNat 1 :=
      Nat.le_antisymm (depth_run_le hlimit text commands) hdepth
    exact History.eq_of_stack_eq (stack_apply_undo_one_of_full hkeeps hobeys hlimit hfull) hlimit_eq

/-- Moving right draws the cursor back from behind the end, and the undo puts it there again. A
limit of zero stands for one, so the history is left empty; under a limit of four it is not cut. -/
theorem apply_then_undo_one_behind_the_end :
    let commands := [.moveRight .unbounded, .delete .one]
    let before := (start ⟨['a', 'b']⟩ { limit := some 0 }).run commands
    let undone := (before.apply (.moveRight .one)).apply (.undo (.times 1))
    let roomy := (start ⟨['a', 'b']⟩ { limit := some 4 }).run commands
    (before.apply (.moveRight .one)).cursor ≠ before.cursor ∧
    undone.text = before.text ∧
    undone.cursor = before.cursor ∧
    before.history.depth = 1 ∧
    undone.history = { before.history with stack := [] } ∧
    ((roomy.apply (.moveRight .one)).apply (.undo (.times 1))).history = roomy.history := by
  intro commands before undone roomy
  have hkeeps : (Command.moveRight .one).keepsSnapshot := rfl
  obtain ⟨htext, hcursor, -, hfull⟩ :=
    apply_then_undo_one ⟨['a', 'b']⟩ { limit := some 0 } commands hkeeps
  obtain ⟨-, -, hroom, -⟩ :=
    apply_then_undo_one ⟨['a', 'b']⟩ { limit := some 4 } commands hkeeps
  refine ⟨by decide, htext, hcursor, by decide, hfull 0 rfl (by decide), hroom ?_⟩
  rintro limit ⟨⟩
  decide

end KeyScript.Editor
