import KeyScript.Proofs.Trail
import Mathlib.Data.List.DropRight

/-!
Undo elimination. Of the commands an editor was given some are still in force: an undo strikes out
the latest of them, as many as it can take snapshots from the history. The editor stands where the
commands in force alone lead, and every snapshot of its history where a first part of them leads.
The history begins with a snapshot of the fresh text that belongs to no command, so it may be one
deeper than there are commands in force, and a limit may make it less deep than that. Depths are
words as lengths are: an unbounded undo takes `maxWord` snapshots, and no history is deeper.
-/

namespace KeyScript

/-- The commands still in force, and the depth of the history. -/
structure Surviving where
  live : List Command
  depth : Nat
  deriving DecidableEq, Repr

namespace Surviving

/-- No command was given yet, and the history holds the snapshot it begins with. -/
def start : Surviving := { live := [], depth := 1 }

/-- An undo strikes out a command for every snapshot it takes, as long as there are commands; any
other command is in force from now on, and its snapshot counts up to the limit. -/
def step (settings : HistorySettings) (surviving : Surviving) : Command → Surviving
  | .undo count =>
    let taken := min count.get surviving.depth
    { live := surviving.live.rdrop taken, depth := surviving.depth - taken }
  | command =>
    { live := surviving.live ++ [command], depth := settings.capped (surviving.depth + 1) }

/-- What survives of a list of commands. -/
def ofCommands (settings : HistorySettings) (commands : List Command) : Surviving :=
  commands.foldl (step settings) start

theorem step_undo (settings : HistorySettings) (surviving : Surviving) (count : Count) :
    surviving.step settings (.undo count) =
      { live := surviving.live.rdrop (min count.get surviving.depth)
        depth := surviving.depth - min count.get surviving.depth } := rfl

theorem step_of_keepsSnapshot {command : Command} (hkeeps : command.keepsSnapshot)
    (settings : HistorySettings) (surviving : Surviving) :
    surviving.step settings command =
      { live := surviving.live ++ [command]
        depth := settings.capped (surviving.depth + 1) } := by
  cases command with
  | undo => cases hkeeps
  | _ => rfl

theorem ofCommands_concat (settings : HistorySettings) (commands : List Command)
    (command : Command) :
    ofCommands settings (commands ++ [command]) =
      (ofCommands settings commands).step settings command := by
  simp only [ofCommands, List.foldl_append, List.foldl_cons, List.foldl_nil]

/-- Without a limit no command in force has lost its snapshot. -/
theorem length_live_le_depth {settings : HistorySettings} (hlimit : settings.limit = none)
    (commands : List Command) :
    (ofCommands settings commands).live.length ≤ (ofCommands settings commands).depth := by
  induction commands using List.reverseRecOn with
  | nil => exact Nat.zero_le _
  | append_singleton commands command ih =>
      rw [ofCommands_concat]
      cases command with
      | undo count =>
          rw [step_undo, List.rdrop, List.length_take]
          dsimp only
          omega
      | _ =>
          rw [step_of_keepsSnapshot rfl, HistorySettings.capped_of_limit_none hlimit,
            List.length_append]
          exact Nat.succ_le_succ ih

end Surviving

/-- The snapshot that the effects of commands lead to on a fresh text, one after the other. -/
def Snapshot.after (text : Text) (commands : List Command) : Snapshot :=
  commands.foldl (fun snapshot command => command.effect snapshot) ⟨0, text⟩

namespace Editor

theorem snapshot_run {commands : List Command}
    (hkeeps : ∀ command ∈ commands, command.keepsSnapshot) (editor : Editor) :
    (editor.run commands).snapshot =
      commands.foldl (fun snapshot command => command.effect snapshot) editor.snapshot := by
  induction commands generalizing editor with
  | nil => rfl
  | cons command rest ih =>
      rw [List.forall_mem_cons] at hkeeps
      rw [List.foldl_cons, ← snapshot_apply hkeeps.1]
      exact ih hkeeps.2 _

/-- Without undo the limit of the history makes no difference to text and cursor. -/
theorem snapshot_run_start {commands : List Command}
    (hkeeps : ∀ command ∈ commands, command.keepsSnapshot) (text : Text)
    (settings : HistorySettings) :
    ((start text settings).run commands).snapshot = Snapshot.after text commands :=
  snapshot_run hkeeps (start text settings)

end Editor

namespace Surviving

/-- The snapshot that lies `back` steps back on the trail is the one that the commands in force lead
to without the last `back` of them. -/
structure Describes (text : Text) (settings : HistorySettings) (surviving : Surviving)
    (editor : Editor) : Prop where
  obeys : editor.history.Obeys settings
  live_keeps : ∀ command ∈ surviving.live, command.keepsSnapshot
  depth_eq : editor.history.depth = surviving.depth
  trail_eq : ∀ back ≤ surviving.depth,
    editor.trail[back]? = some (Snapshot.after text (surviving.live.rdrop back))

namespace Describes

variable {text : Text} {settings : HistorySettings} {surviving : Surviving} {editor : Editor}

theorem snapshot_eq (h : Describes text settings surviving editor) :
    editor.snapshot = Snapshot.after text surviving.live := by
  have hfront := h.trail_eq 0 (Nat.zero_le _)
  rw [List.rdrop_zero] at hfront
  exact Option.some.inj hfront

theorem rdrop_keeps (h : Describes text settings surviving editor) (back : Nat) :
    ∀ command ∈ surviving.live.rdrop back, command.keepsSnapshot :=
  fun command hmem => h.live_keeps command (List.mem_of_mem_take hmem)

theorem start (text : Text) (settings : HistorySettings) :
    Describes text settings Surviving.start (Editor.start text settings) where
  obeys := Editor.obeys_start text settings
  live_keeps := by simp [Surviving.start]
  depth_eq := Editor.depth_start text settings
  trail_eq back hback := by
    rw [Editor.trail_start, Surviving.start, List.rdrop_nil]
    match back, hback with
    | 0, _ => rfl
    | 1, _ => rfl

theorem apply_of_keepsSnapshot (h : Describes text settings surviving editor) {command : Command}
    (hkeeps : command.keepsSnapshot) :
    Describes text settings (surviving.step settings command) (editor.apply command) := by
  rw [step_of_keepsSnapshot hkeeps]
  refine ⟨Editor.obeys_apply h.obeys command, ?_, ?_, ?_⟩
  · intro other hmem
    rcases List.mem_append.mp hmem with hlive | hnew
    · exact h.live_keeps other hlive
    · rw [List.mem_singleton.mp hnew]
      exact hkeeps
  · rw [Editor.history_apply hkeeps, History.depth_push h.obeys, h.depth_eq]
  · intro back hback
    rw [Editor.trail_apply hkeeps h.obeys, h.depth_eq]
    cases back with
    | zero =>
        rw [h.snapshot_eq, List.rdrop_zero, Snapshot.after, Snapshot.after, List.foldl_append]
        rfl
    | succ back =>
        dsimp only at hback
        have hle := settings.capped_le (surviving.depth + 1)
        rw [List.getElem?_cons_succ, List.getElem?_take_of_lt (by omega), List.rdrop_concat_succ]
        exact h.trail_eq back (by omega)

theorem apply_undo (h : Describes text settings surviving editor) (count : Count) :
    Describes text settings (surviving.step settings (.undo count))
      (editor.apply (.undo count)) := by
  rw [step_undo]
  refine ⟨Editor.obeys_apply h.obeys _, h.rdrop_keeps _, ?_, ?_⟩
  · rw [Editor.depth_undo, h.depth_eq]
  · intro back hback
    dsimp only at hback
    rw [Editor.trail_undo, h.depth_eq, List.getElem?_drop, List.rdrop_add]
    exact h.trail_eq _ (by omega)

theorem apply (h : Describes text settings surviving editor) (command : Command) :
    Describes text settings (surviving.step settings command) (editor.apply command) := by
  cases command with
  | undo count => exact h.apply_undo count
  | _ => exact h.apply_of_keepsSnapshot rfl

theorem run (text : Text) (settings : HistorySettings) (commands : List Command) :
    Describes text settings (ofCommands settings commands)
      ((Editor.start text settings).run commands) := by
  induction commands using List.reverseRecOn with
  | nil => exact start text settings
  | append_singleton commands command ih =>
      rw [ofCommands_concat, Editor.run_append]
      exact ih.apply command

theorem snapshot_stack (h : Describes text settings surviving editor) {back : Nat}
    (hpos : 1 ≤ back) (hback : back ≤ surviving.depth) :
    editor.history.stack[back - 1]? = some (Snapshot.after text (surviving.live.rdrop back)) := by
  obtain ⟨back, rfl⟩ := Nat.exists_eq_add_of_le' hpos
  exact h.trail_eq _ hback

end Describes

/-- Without a limit an unbounded undo strikes out everything. -/
theorem live_undo_unbounded {settings : HistorySettings} (hlimit : settings.limit = none)
    {commands : List Command} (hdepth : (ofCommands settings commands).depth ≤ maxWord) :
    (ofCommands settings (commands ++ [.undo .unbounded])).live = [] := by
  rw [ofCommands_concat, step_undo]
  dsimp only
  rw [Count.get, Nat.min_eq_right hdepth, List.rdrop,
    Nat.sub_eq_zero_of_le (length_live_le_depth hlimit commands), List.take_zero]

/-- Undo can be eliminated from any run. The commands in force are free of undo and lead, on a fresh
editor of any limit, to the same text and cursor; the depth is the one counted along; and the
snapshots of the history, from the newest on, are where the commands in force lead without the last
one, the last two, and so on. Without a limit an unbounded undo leads back to the fresh text. -/
theorem run_eq_run_live (text : Text) (settings fresh : HistorySettings)
    (commands : List Command) :
    let editor := (Editor.start text settings).run commands
    let surviving := ofCommands settings commands
    let reached := fun live => ((Editor.start text fresh).run live).snapshot
    (∀ command ∈ surviving.live, command.keepsSnapshot) ∧
    editor.snapshot = reached surviving.live ∧
    editor.history.depth = surviving.depth ∧
    (∀ back, 1 ≤ back → back ≤ surviving.depth →
      editor.history.stack[back - 1]? = some (reached (surviving.live.rdrop back))) ∧
    (settings.limit = none → editor.history.depth ≤ maxWord →
      ((Editor.start text settings).run (commands ++ [.undo .unbounded])).snapshot = ⟨0, text⟩) := by
  intro editor surviving reached
  have hrun : Describes text settings surviving editor := Describes.run text settings commands
  have hreached {live : List Command} (hkeeps : ∀ command ∈ live, command.keepsSnapshot) :
      reached live = Snapshot.after text live := Editor.snapshot_run_start hkeeps text fresh
  refine ⟨hrun.live_keeps, ?_, hrun.depth_eq, ?_, ?_⟩
  · rw [hreached hrun.live_keeps]
    exact hrun.snapshot_eq
  · intro back hpos hback
    rw [hreached (hrun.rdrop_keeps back)]
    exact hrun.snapshot_stack hpos hback
  · intro hlimit hdepth
    rw [hrun.depth_eq] at hdepth
    rw [(Describes.run text settings _).snapshot_eq, live_undo_unbounded hlimit hdepth]
    rfl

/-- The first undo also takes the snapshot that belongs to no command, so that each of the two
commands after it is in force with a snapshot of its own. -/
theorem run_eq_run_live_after_drain :
    let commands := [.delete .one, .moveRight .one, .undo (.times 3), .moveRight .one, .delete .one]
    ofCommands {} commands = ⟨[.moveRight .one, .delete .one], 2⟩ ∧
    ((Editor.start ⟨['a', 'b', 'c']⟩ {}).run commands).history.stack[1]? =
      some ⟨0, ⟨['a', 'b', 'c']⟩⟩ ∧
    ((Editor.start ⟨['a', 'b', 'c']⟩ {}).run (commands ++ [.undo .unbounded])).snapshot =
      ⟨0, ⟨['a', 'b', 'c']⟩⟩ := by
  intro commands
  obtain ⟨-, -, -, hstack, hundo⟩ := run_eq_run_live ⟨['a', 'b', 'c']⟩ {} {} commands
  exact ⟨by decide, hstack 2 (by decide) (by decide), hundo rfl (by decide)⟩

end Surviving

end KeyScript
