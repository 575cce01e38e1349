import KeyScript.Editor

/-!
The trail of an editor: its present snapshot in front of those in its history. A command other than
undo has an effect on text and cursor that does not depend on the history; it puts the snapshot it
leads to in front of the trail and may cut off the far end. An undo drops snapshots from the front
and does nothing else. What one command does to an editor is said here once, and later modules do
not unfold `apply`.
-/

namespace KeyScript

/-- What a command does to a text and a cursor where there is no history to go back to. -/
def Command.effect (command : Command) (snapshot : Snapshot) : Snapshot :=
  (Editor.perform ⟨snapshot.text, snapshot.cursor, {}⟩ command).snapshot

/-- The depth that remains of a depth under the limit, where a limit of zero stands for one. -/
def HistorySettings.capped (settings : HistorySettings) (depth : Nat) : Nat :=
  match settings.limit with
  | none => depth
  | some limit => min depth (max limit.toNat 1)

theorem HistorySettings.capped_le (settings : HistorySettings) (depth : Nat) :
    settings.capped depth ≤ depth := by
  unfold capped
  split
  · exact Nat.le_refl depth
  · exact Nat.min_le_left _ _

theorem HistorySettings.capped_le_limit {settings : HistorySettings} {limit : UInt64}
    (hlimit : settings.limit = some limit) (depth : Nat) :
    settings.capped depth ≤ max limit.toNat 1 := by
  unfold capped
  rw [hlimit]
  exact Nat.min_le_right _ _

theorem HistorySettings.capped_of_limit_none {settings : HistorySettings}
    (hlimit : settings.limit = none) (depth : Nat) : settings.capped depth = depth := by
  unfold capped
  rw [hlimit]

theorem HistorySettings.capped_of_le {settings : HistorySettings} {depth : Nat}
    (hroom : ∀ limit, settings.limit = some limit → depth ≤ max limit.toNat 1) :
    settings.capped depth = depth := by
  unfold capped
  split
  · rfl
  · rename_i limit hlimit
    exact Nat.min_eq_left (hroom limit hlimit)

theorem HistorySettings.capped_of_limit_le {settings : HistorySettings} {limit : UInt64}
    (hlimit : settings.limit = some limit) {depth : Nat} (hfull : max limit.toNat 1 ≤ depth) :
    settings.capped depth = max limit.toNat 1 := by
  unfold capped
  rw [hlimit]
  exact Nat.min_eq_right hfull

/-- The new snapshot always finds room. -/
theorem HistorySettings.capped_succ_pos (settings : HistorySettings) (depth : Nat) :
    0 < settings.capped (depth + 1) := by
  unfold capped
  split <;> omega

/-- The limit of the history is the one that the settings ask for. -/
def History.Obeys (history : History) (settings : HistorySettings) : Prop :=
  history.limit = (History.empty settings).limit

namespace History

theorem eq_of_stack_eq {left right : History} (hstack : left.stack = right.stack)
    (hlimit : left.limit = right.limit) : left = right := by
  cases left
  cases right
  cases hstack
  cases hlimit
  rfl

theorem obeys_empty (settings : HistorySettings) : (empty settings).Obeys settings := rfl

theorem Obeys.push {history : History} {settings : HistorySettings}
    (hobeys : history.Obeys settings) (snapshot : Snapshot) :
    (history.push snapshot).Obeys settings := hobeys

theorem stack_push {history : History} {settings : HistorySettings}
    (hobeys : history.Obeys settings) (snapshot : Snapshot) :
    (history.push snapshot).stack =
      (snapshot :: history.stack).take (settings.capped (history.depth + 1)) := by
  have hall : (snapshot :: history.stack).take (history.depth + 1) = snapshot :: history.stack :=
    List.take_of_length_le (Nat.le_refl _)
  unfold Obeys empty at hobeys
  unfold History.push HistorySettings.capped
  rw [hobeys]
  cases settings.limit with
  | none => exact hall.symm
  | some limit =>
      simp only [Option.map_some]
      rw [Nat.min_comm, ← List.take_take, hall]

/-- The new snapshot is on top, and below it what the limit leaves beside it. -/
theorem stack_push_eq_cons {history : History} {settings : HistorySettings}
    (hobeys : history.Obeys settings) (snapshot : Snapshot) :
    (history.push snapshot).stack =
      snapshot :: history.stack.take (settings.capped (history.depth + 1) - 1) := by
  rw [stack_push hobeys, List.take_cons (settings.capped_succ_pos _)]

theorem depth_push {history : History} {settings : HistorySettings}
    (hobeys : history.Obeys settings) (snapshot : Snapshot) :
    (history.push snapshot).depth = settings.capped (history.depth + 1) := by
  unfold depth
  rw [stack_push hobeys, List.length_take, List.length_cons]
  exact Nat.min_eq_left (settings.capped_le _)

end History

namespace Editor

/-- The present snapshot and those in the history, the newest first. -/
def trail (editor : Editor) : List Snapshot := editor.snapshot :: editor.history.stack

theorem length_trail (editor : Editor) : editor.trail.length = editor.history.depth + 1 := rfl

theorem eq_of_snapshot_eq {left right : Editor} (hsnapshot : left.snapshot = right.snapshot)
    (hhistory : left.history = right.history) : left = right := by
  cases left
  cases right
  cases hsnapshot
  cases hhistory
  rfl

/-- What is on the trail of an editor is all there is to it, besides its limit. -/
theorem eq_of_trail_eq {left right : Editor} (htrail : left.trail = right.trail)
    (hlimit : left.history.limit = right.history.limit) : left = right := by
  obtain ⟨hsnapshot, hstack⟩ := List.cons.inj htrail
  exact eq_of_snapshot_eq hsnapshot (History.eq_of_stack_eq hstack hlimit)

/-! ### One command -/

theorem snapshot_apply {command : Command} (hkeeps : command.keepsSnapshot) (editor : Editor) :
    (editor.apply command).snapshot = command.effect editor.snapshot := by
  cases command with
  | replace count character =>
      simp only [apply, keep, hkeeps, if_true, perform, Command.effect, replace, snapshot]
      split <;> rfl
  | undo => cases hkeeps
  | _ => rfl

theorem snapshot_apply_apply {first second : Command} (hfirst : first.keepsSnapshot)
    (hsecond : second.keepsSnapshot) (editor : Editor) :
    ((editor.apply first).apply second).snapshot = second.effect (first.effect editor.snapshot) := by
  rw [snapshot_apply hsecond, snapshot_apply hfirst]

theorem history_apply {command : Command} (hkeeps : command.keepsSnapshot) (editor : Editor) :
    (editor.apply command).history = editor.history.push editor.snapshot := by
  cases command with
  | replace count character =>
      simp only [apply, keep, hkeeps, if_true, perform, replace]
      split <;> rfl
  | undo => cases hkeeps
  | _ => rfl

theorem history_undo (editor : Editor) (count : Count) :
    (editor.apply (.undo count)).history =
      { editor.history with stack := editor.history.stack.drop count.get } := by
  simp only [apply, keep, Command.keepsSnapshot, Bool.false_eq_true, if_false, perform, undo,
    History.takeBack]
  cases ((editor.history.stack.take count.get).getLast?) <;> rfl

theorem snapshot_undo (editor : Editor) (count : Count) :
    (editor.apply (.undo count)).snapshot =
      ((editor.history.stack.take count.get).getLast?).getD editor.snapshot := by
  simp only [apply, keep, Command.keepsSnapshot, Bool.false_eq_true, if_false, perform, undo,
    History.takeBack]
  cases ((editor.history.stack.take count.get).getLast?) <;> rfl

theorem apply_congr {first second : Command} (hfirst : first.keepsSnapshot)
    (hsecond : second.keepsSnapshot) {editor : Editor}
    (heffect : first.effect editor.snapshot = second.effect editor.snapshot) :
    editor.apply first = editor.apply second := by
  apply eq_of_snapshot_eq
  · rw [snapshot_apply hfirst, snapshot_apply hsecond, heffect]
  · rw [history_apply hfirst, history_apply hsecond]

theorem limit_apply (editor : Editor) (command : Command) :
    (editor.apply command).history.limit = editor.history.limit := by
  cases command with
  | undo count => rw [history_undo]
  | _ =>
      rw [history_apply rfl]
      rfl

theorem trail_apply {command : Command} (hkeeps : command.keepsSnapshot) {editor : Editor}
    {settings : HistorySettings} (hobeys : editor.history.Obeys settings) :
    (editor.apply command).trail =
      command.effect editor.snapshot ::
        editor.trail.take (settings.capped (editor.history.depth + 1)) := by
  rw [trail, snapshot_apply hkeeps, history_apply hkeeps, History.stack_push hobeys, trail]

/-- The last one of the snapshots taken, in front of those left over. -/
private theorem getLast_take_cons_drop (present : Snapshot) (stack : List Snapshot) (count : Nat) :
    ((stack.take count).getLast?).getD present :: stack.drop count =
      (present :: stack).drop (min count stack.length) := by
  induction stack generalizing present count with
  | nil => simp
  | cons newest rest ih =>
      cases count with
      | zero => simp
      | succ count =>
          rw [List.take_succ_cons, List.getLast?_cons, Option.getD_some, List.drop_succ_cons,
            List.length_cons, Nat.succ_min_succ, List.drop_succ_cons]
          exact ih newest count

/-- An undo goes back along the trail, at most to its end. -/
theorem trail_undo (editor : Editor) (count : Count) :
    (editor.apply (.undo count)).trail =
      editor.trail.drop (min count.get editor.history.depth) := by
  rw [trail, snapshot_undo, history_undo]
  exact getLast_take_cons_drop editor.snapshot editor.history.stack count.get

/-- Undos that find the same number of snapshots do the same. -/
theorem apply_undo_congr {editor : Editor} {count other : Count}
    (hfound : min count.get editor.history.depth = min other.get editor.history.depth) :
    editor.apply (.undo count) = editor.apply (.undo other) := by
  apply eq_of_trail_eq
  · rw [trail_undo, trail_undo, hfound]
  · rw [limit_apply, limit_apply]

theorem depth_undo (editor : Editor) (count : Count) :
    (editor.apply (.undo count)).history.depth =
      editor.history.depth - min count.get editor.history.depth := by
  rw [history_undo, History.depth, List.length_drop]
  unfold History.depth
  omega

theorem obeys_apply {editor : Editor} {settings : HistorySettings}
    (hobeys : editor.history.Obeys settings) (command : Command) :
    (editor.apply command).history.Obeys settings :=
  (limit_apply editor command).trans hobeys

/-! ### Runs -/

theorem run_append (editor : Editor) (before after : List Command) :
    editor.run (before ++ after) = (editor.run before).run after :=
  List.foldl_append

theorem obeys_start (text : Text) (settings : HistorySettings) :
    (start text settings).history.Obeys settings :=
  (History.obeys_empty settings).push _

/-- The history begins with the fresh text, whatever the limit. -/
theorem trail_start (text : Text) (settings : HistorySettings) :
    (start text settings).trail = [⟨0, text⟩, ⟨0, text⟩] := by
  have hstack := History.stack_push (History.obeys_empty settings) ⟨0, text⟩
  rw [List.take_of_length_le] at hstack
  · exact congrArg (_ :: ·) hstack
  · exact settings.capped_succ_pos 0

theorem depth_start (text : Text) (settings : HistorySettings) :
    (start text settings).history.depth = 1 := by
  have hlength := length_trail (start text settings)
  rw [trail_start] at hlength
  exact (Nat.succ.inj hlength).symm

/-- What a fresh editor has, and what each of the commands keeps under the limit of the settings,
holds after they were run. -/
theorem run_start_preserves_of_mem {text : Text} {settings : HistorySettings}
    {commands : List Command} (property : Editor → Prop) (hstart : property (start text settings))
    (hstep : ∀ command ∈ commands, ∀ editor, editor.history.Obeys settings → property editor →
      property (editor.apply command)) : property ((start text settings).run commands) := by
  have hrun : ∀ editor : Editor, editor.history.Obeys settings → property editor →
      property (editor.run commands) := by
    induction commands with
    | nil => exact fun _ _ h => h
    | cons command rest ih =>
        rw [List.forall_mem_cons] at hstep
        intro editor hobeys h
        exact ih hstep.2 (editor.apply command) (obeys_apply hobeys command)
          (hstep.1 editor hobeys h)
  exact hrun (start text settings) (obeys_start text settings) hstart

/-- What a fresh editor has, and what one command keeps under the limit of the settings, holds after
any run. -/
theorem run_start_preserves {text : Text} {settings : HistorySettings} (property : Editor → Prop)
    (hstart : property (start text settings))
    (hstep : ∀ editor command, editor.history.Obeys settings → property editor →
      property (editor.apply command))
    (commands : List Command) : property ((start text settings).run commands) :=
  run_start_preserves_of_mem property hstart fun command _ editor => hstep editor command

theorem obeys_run (text : Text) (settings : HistorySettings) (commands : List Command) :
    ((start text settings).run commands).history.Obeys settings :=
  run_start_preserves (fun editor => editor.history.Obeys settings) (obeys_start text settings)
    (fun _ command _ hobeys => obeys_apply hobeys command) commands

/-- What holds of the fresh text, and what the effects of the commands keep, holds of all snapshots
on the trail: each of them was reached by effects alone, and undo only comes back to some. -/
theorem forall_mem_trail_run {text : Text} {settings : HistorySettings} {commands : List Command}
    {property : Snapshot → Prop} (hstart : property ⟨0, text⟩)
    (hstep : ∀ command ∈ commands, command.keepsSnapshot → ∀ snapshot, property snapshot →
      property (command.effect snapshot)) :
    ∀ snapshot ∈ ((start text settings).run commands).trail, property snapshot := by
  refine run_start_preserves_of_mem (fun editor => ∀ snapshot ∈ editor.trail, property snapshot)
    ?_ ?_
  · rw [trail_start]
    simpa using hstart
  · intro command hmem editor hobeys hall
    cases command with
    | undo count =>
        rw [trail_undo]
        exact fun snapshot hsnapshot => hall snapshot (List.mem_of_mem_drop hsnapshot)
    | _ =>
        rw [trail_apply rfl hobeys, List.forall_mem_cons]
        exact ⟨hstep _ hmem rfl _ (hall _ List.mem_cons_self),
          fun older holder => hall older (List.mem_of_mem_take holder)⟩

end Editor

end KeyScript
