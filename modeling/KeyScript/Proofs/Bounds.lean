import KeyScript.Proofs.Effect

/-!
The bounds that every editor keeps, whatever commands it is given. On the present text alone they
cannot be shown, because an undo brings back any text of the history; so they are stated of the
whole trail. Commands other than undo extend a sound trail at the front, where texts may only get
shorter, and the history and undo only cut it. Lengths are words: no text is longer than `maxWord`.
-/

namespace KeyScript.Editor

/-- No cursor of the trail is beyond its text. Towards the past the texts never get shorter, and
none is longer than `bound`. -/
structure Sound (bound : Nat) (editor : Editor) : Prop where
  within : ∀ snapshot ∈ editor.trail, snapshot.Within
  shrinking : editor.trail.Pairwise fun newer older => newer.text.length ≤ older.text.length
  bounded : ∀ snapshot ∈ editor.trail, snapshot.text.length ≤ bound

namespace Sound

variable {bound : Nat} {editor : Editor}

theorem snapshot_within (hsound : editor.Sound bound) : editor.snapshot.Within :=
  hsound.within _ List.mem_cons_self

theorem length_le (hsound : editor.Sound bound) : editor.text.length ≤ bound :=
  hsound.bounded _ List.mem_cons_self

theorem length_le_of_mem (hsound : editor.Sound bound) {older : Snapshot}
    (hmem : older ∈ editor.trail) : editor.snapshot.text.length ≤ older.text.length := by
  rcases List.mem_cons.mp hmem with heq | hstack
  · exact Nat.le_of_eq (by rw [heq])
  · exact List.rel_of_pairwise_cons hsound.shrinking hstack

theorem mono (hsound : editor.Sound bound) {larger : Nat} (hle : bound ≤ larger) :
    editor.Sound larger where
  within := hsound.within
  shrinking := hsound.shrinking
  bounded snapshot hmem := Nat.le_trans (hsound.bounded snapshot hmem) hle

/-- A trail that was cut, at either end or both, is still sound. -/
theorem of_sublist {other : Editor} (hsound : editor.Sound bound)
    (hsublist : other.trail.Sublist editor.trail) : other.Sound bound where
  within snapshot hmem := hsound.within snapshot (hsublist.subset hmem)
  shrinking := hsound.shrinking.sublist hsublist
  bounded snapshot hmem := hsound.bounded snapshot (hsublist.subset hmem)

theorem apply_of_keepsSnapshot (hsound : editor.Sound bound) (hbound : bound ≤ maxWord)
    {settings : HistorySettings} (hobeys : editor.history.Obeys settings) {command : Command}
    (hkeeps : command.keepsSnapshot) : (editor.apply command).Sound bound := by
  have htext : editor.snapshot.text.length ≤ maxWord := Nat.le_trans hsound.length_le hbound
  have htrail := trail_apply hkeeps hobeys
  have heffect := Command.length_effect_le command htext
  have hold {older : Snapshot}
      (hmem : older ∈ editor.trail.take (settings.capped (editor.history.depth + 1))) :
      older ∈ editor.trail := List.mem_of_mem_take hmem
  constructor
  · intro snapshot hmem
    rw [htrail] at hmem
    rcases List.mem_cons.mp hmem with heq | hmem
    · rw [heq]
      exact Command.within_effect command htext hsound.snapshot_within
    · exact hsound.within snapshot (hold hmem)
  · rw [htrail]
    refine List.Pairwise.cons ?_ (hsound.shrinking.sublist (List.take_sublist _ _))
    intro older hmem
    exact Nat.le_trans heffect (hsound.length_le_of_mem (hold hmem))
  · intro snapshot hmem
    rw [htrail] at hmem
    rcases List.mem_cons.mp hmem with heq | hmem
    · rw [heq]
      exact Nat.le_trans heffect hsound.length_le
    · exact hsound.bounded snapshot (hold hmem)

theorem apply_undo (hsound : editor.Sound bound) (count : Count) :
    (editor.apply (.undo count)).Sound bound := by
  apply hsound.of_sublist
  rw [trail_undo]
  exact List.drop_sublist _ _

theorem apply (hsound : editor.Sound bound) (hbound : bound ≤ maxWord)
    {settings : HistorySettings} (hobeys : editor.history.Obeys settings) (command : Command) :
    (editor.apply command).Sound bound := by
  cases command with
  | undo count => exact hsound.apply_undo count
  | _ => exact hsound.apply_of_keepsSnapshot hbound hobeys rfl

end Sound

theorem sound_start (text : Text) (settings : HistorySettings) :
    (start text settings).Sound text.length := by
  have heq {snapshot : Snapshot} (hmem : snapshot ∈ (start text settings).trail) :
      snapshot = ⟨0, text⟩ := by
    rw [trail_start] at hmem
    simpa using hmem
  constructor
  · intro snapshot hmem
    rw [heq hmem]
    exact Nat.zero_le _
  · rw [trail_start]
    simp
  · intro snapshot hmem
    exact Nat.le_of_eq (by rw [heq hmem])

theorem sound_run {text : Text} (htext : text.length ≤ maxWord) (settings : HistorySettings)
    (commands : List Command) : ((start text settings).run commands).Sound text.length :=
  run_start_preserves (Sound text.length) (sound_start text settings)
    (fun _ command hobeys hsound => hsound.apply htext hobeys command) commands

/-! ### Depth -/

theorem depth_apply_le {editor : Editor} {settings : HistorySettings} {limit : UInt64}
    (hlimit : settings.limit = some limit) (hobeys : editor.history.Obeys settings)
    (hdepth : editor.history.depth ≤ max limit.toNat 1) (command : Command) :
    (editor.apply command).history.depth ≤ max limit.toNat 1 := by
  cases command with
  | undo count =>
      rw [depth_undo]
      exact Nat.le_trans (Nat.sub_le _ _) hdepth
  | _ =>
      rw [history_apply rfl, History.depth_push hobeys]
      exact HistorySettings.capped_le_limit hlimit _

theorem depth_run_le {settings : HistorySettings} {limit : UInt64}
    (hlimit : settings.limit = some limit) (text : Text) (commands : List Command) :
    ((start text settings).run commands).history.depth ≤ max limit.toNat 1 := by
  have hstart : (start text settings).history.depth ≤ max limit.toNat 1 := by
    rw [depth_start]
    exact Nat.le_max_right _ _
  exact run_start_preserves (fun editor => editor.history.depth ≤ max limit.toNat 1) hstart
    (fun _ command hobeys hdepth => depth_apply_le hlimit hobeys hdepth command) commands

/-- Whatever commands an editor was given: no cursor is beyond its text, neither at present nor in
the history; from the oldest snapshot to the present text the lengths never increase, and none
exceeds that of the fresh text; and the history is no deeper than its limit. -/
theorem run_bounds {text : Text} (htext : text.length ≤ maxWord) (settings : HistorySettings)
    (commands : List Command) :
    let editor := (start text settings).run commands
    let lengths := (editor.history.stack.reverse ++ [editor.snapshot]).map (·.text.length)
    editor.cursor ≤ editor.text.length ∧
    (∀ snapshot ∈ editor.history.stack, snapshot.cursor ≤ snapshot.text.length) ∧
    lengths.Pairwise (· ≥ ·) ∧
    (∀ length ∈ lengths, length ≤ text.length) ∧
    ∀ limit, settings.limit = some limit → editor.history.depth ≤ max limit.toNat 1 := by
  intro editor lengths
  have hsound : editor.Sound text.length := sound_run htext settings commands
  have hlengths : lengths = (editor.trail.map (·.text.length)).reverse := by
    rw [← List.map_reverse, trail, List.reverse_cons]
  refine ⟨hsound.snapshot_within, ?_, ?_, ?_, ?_⟩
  · intro snapshot hmem
    exact hsound.within snapshot (List.mem_cons_of_mem _ hmem)
  · rw [hlengths, List.pairwise_reverse, List.pairwise_map]
    exact hsound.shrinking
  · intro length hmem
    rw [hlengths, List.mem_reverse] at hmem
    obtain ⟨snapshot, hsnapshot, rfl⟩ := List.mem_map.mp hmem
    exact hsound.bounded snapshot hsnapshot
  · intro limit hlimit
    exact depth_run_le hlimit text commands

/-- Deleting up to the end leaves the cursor right behind the text, under a limit that has already
dropped the snapshot the history began with. -/
theorem run_bounds_behind_the_end :
    let settings : HistorySettings := { limit := some 2 }
    let editor := (start ⟨['a', 'b', 'c']⟩ settings).run [.moveRight (.times 2), .delete .one]
    editor.snapshot = ⟨2, ⟨['a', 'b']⟩⟩ ∧
    editor.cursor ≤ editor.text.length ∧
    editor.history.stack = [⟨2, ⟨['a', 'b', 'c']⟩⟩, ⟨0, ⟨['a', 'b', 'c']⟩⟩] ∧
    (∀ snapshot ∈ editor.history.stack, snapshot.cursor ≤ snapshot.text.length) ∧
    editor.history.depth ≤ 2 := by
  intro settings editor
  obtain ⟨hcursor, hstack, -, -, hdepth⟩ :=
    @run_bounds ⟨['a', 'b', 'c']⟩ (by decide) settings [.moveRight (.times 2), .delete .one]
  exact ⟨by decide, hcursor, by decide, hstack, hdepth 2 rfl⟩

end KeyScript.Editor
