import KeyScript.Proofs.Trail
import Mathlib.Data.List.Infix

/-!
What a limit on the history hides. An editor under a limit and one without a limit are given the
same commands. A command that keeps its snapshot extends both trails by the same snapshot at the
front, and the limit cuts at the far end only; an undo that finds all the snapshots it asks for
drops the same number of them from the front of both. So the one trail stays the near end of the
other, and the limit shows only once an undo asks for more than has been retained.
-/

namespace KeyScript

/-- How many snapshots a command takes back where there are enough of them. -/
def Command.undoes : Command → Nat
  | .undo count => count.get
  | _ => 0

namespace Editor

/-- Every undo among the commands finds all the snapshots it asks for. -/
def UndoesWithin (editor : Editor) : List Command → Prop
  | [] => True
  | command :: rest =>
    command.undoes ≤ editor.history.depth ∧ (editor.apply command).UndoesWithin rest

instance decidableUndoesWithin (editor : Editor) :
    (commands : List Command) → Decidable (editor.UndoesWithin commands)
  | [] => inferInstanceAs (Decidable True)
  | command :: rest =>
    have := (editor.apply command).decidableUndoesWithin rest
    inferInstanceAs (Decidable (_ ∧ _))

theorem UndoesWithin.of_append {editor : Editor} {before after : List Command}
    (hwithin : editor.UndoesWithin (before ++ after)) : editor.UndoesWithin before := by
  induction before generalizing editor with
  | nil => trivial
  | cons command rest ih => exact ⟨hwithin.1, ih hwithin.2⟩

/-- The trail of an editor under the limit of the settings is the near end of the trail of an editor
without a limit. -/
structure Retains (settings : HistorySettings) (limited unlimited : Editor) : Prop where
  obeys : limited.history.Obeys settings
  obeys_none : unlimited.history.Obeys { limit := none }
  trail_prefix : limited.trail <+: unlimited.trail

namespace Retains

variable {settings : HistorySettings} {limited unlimited : Editor}

theorem snapshot_eq (h : Retains settings limited unlimited) :
    limited.snapshot = unlimited.snapshot :=
  (List.cons_prefix_cons.mp h.trail_prefix).1

theorem stack_prefix (h : Retains settings limited unlimited) :
    limited.history.stack <+: unlimited.history.stack :=
  (List.cons_prefix_cons.mp h.trail_prefix).2

theorem depth_le (h : Retains settings limited unlimited) :
    limited.history.depth ≤ unlimited.history.depth :=
  h.stack_prefix.length_le

theorem start (text : Text) (settings : HistorySettings) :
    Retains settings (Editor.start text settings) (Editor.start text { limit := none }) where
  obeys := obeys_start text settings
  obeys_none := obeys_start text _
  trail_prefix := by rw [trail_start, trail_start]

theorem apply_of_keepsSnapshot (h : Retains settings limited unlimited) {command : Command}
    (hkeeps : command.keepsSnapshot) :
    Retains settings (limited.apply command) (unlimited.apply command) where
  obeys := obeys_apply h.obeys command
  obeys_none := obeys_apply h.obeys_none command
  trail_prefix := by
    rw [trail_apply hkeeps h.obeys, trail_apply hkeeps h.obeys_none,
      HistorySettings.capped_of_limit_none rfl, ← length_trail unlimited, List.take_length,
      h.snapshot_eq, List.prefix_cons_inj]
    exact (List.take_prefix _ _).trans h.trail_prefix

theorem apply_undo (h : Retains settings limited unlimited) {count : Count}
    (hcount : count.get ≤ limited.history.depth) :
    Retains settings (limited.apply (.undo count)) (unlimited.apply (.undo count)) where
  obeys := obeys_apply h.obeys _
  obeys_none := obeys_apply h.obeys_none _
  trail_prefix := by
    rw [trail_undo, trail_undo, Nat.min_eq_left hcount,
      Nat.min_eq_left (Nat.le_trans hcount h.depth_le)]
    exact h.trail_prefix.drop _

theorem apply (h : Retains settings limited unlimited) {command : Command}
    (hcommand : command.undoes ≤ limited.history.depth) :
    Retains settings (limited.apply command) (unlimited.apply command) := by
  cases command with
  | undo count => exact h.apply_undo hcommand
  | _ => exact h.apply_of_keepsSnapshot rfl

theorem run (h : Retains settings limited unlimited) {commands : List Command}
    (hwithin : limited.UndoesWithin commands) :
    Retains settings (limited.run commands) (unlimited.run commands) := by
  induction commands generalizing limited unlimited with
  | nil => exact h
  | cons command rest ih => exact ih (h.apply hwithin.1) hwithin.2

end Retains

/-- A limit on the history makes no difference as long as every undo finds, under the limit, all the
snapshots it asks for: after each of the commands text and cursor are what they are without a limit,
and the history holds the newest of the snapshots it holds without one, as many as its depth says,
in the same order. -/
theorem run_limited_eq_run_unlimited (text : Text) (limit : UInt64) {commands : List Command}
    (hwithin : (start text { limit := some limit }).UndoesWithin commands) :
    ∀ before, before <+: commands →
      let limited := (start text { limit := some limit }).run before
      let unlimited := (start text { limit := none }).run before
      limited.text = unlimited.text ∧
      limited.cursor = unlimited.cursor ∧
      limited.history.stack = unlimited.history.stack.take limited.history.depth := by
  rintro before ⟨after, rfl⟩ limited unlimited
  have hretains : Retains { limit := some limit } limited unlimited :=
    (Retains.start text _).run hwithin.of_append
  have hsnapshot := hretains.snapshot_eq
  exact ⟨congrArg Snapshot.text hsnapshot, congrArg Snapshot.cursor hsnapshot,
    List.prefix_iff_eq_take.mp hretains.stack_prefix⟩

/-- Three commands outgrow a limit of two, an undo takes back all that is retained, and the next undo
finds one snapshot that was kept since. -/
theorem run_limited_eq_run_unlimited_after_eviction :
    let commands := [.moveRight .one, .delete .one, .replace .one 'z', .undo (.times 2),
      .delete .one, .undo .one]
    let limited := (start ⟨['a', 'b', 'c']⟩ { limit := some 2 }).run commands
    let unlimited := (start ⟨['a', 'b', 'c']⟩ { limit := none }).run commands
    (start ⟨['a', 'b', 'c']⟩ { limit := some 2 }).UndoesWithin commands ∧
    limited.cursor = unlimited.cursor ∧
    limited.history.stack = unlimited.history.stack.take limited.history.depth ∧
    limited.history.depth = 0 ∧
    unlimited.history.depth = 2 := by
  intro commands limited unlimited
  have hwithin : (start ⟨['a', 'b', 'c']⟩ { limit := some 2 }).UndoesWithin commands := by decide
  obtain ⟨-, hcursor, hstack⟩ :=
    run_limited_eq_run_unlimited ⟨['a', 'b', 'c']⟩ 2 hwithin commands (List.prefix_refl _)
  exact ⟨hwithin, hcursor, hstack, by decide, by decide⟩

end Editor

end KeyScript
