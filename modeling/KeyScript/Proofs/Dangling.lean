import KeyScript.Proofs.Bounds

/-!
Cursors off the text. A cursor dangles where it is beyond the last character, and it never gets
further than right behind it. Deleting up to the end is what brings this about, unless everything is
deleted: in an empty text the cursor is at zero and does not count as dangling. A cursor that
dangles already stays where it is under commands that find nothing to do there, and an undo brings
back the cursor of the snapshot it comes to. So without deletions no cursor ever dangles.
-/

namespace KeyScript

/-- The cursor is beyond the last character. In an empty text it would have to be beyond zero. -/
def Snapshot.Dangling (snapshot : Snapshot) : Prop := snapshot.text.lastIndex < snapshot.cursor

instance decidableDangling (snapshot : Snapshot) : Decidable snapshot.Dangling :=
  inferInstanceAs (Decidable (_ < _))

theorem Snapshot.Within.dangling_iff {snapshot : Snapshot} (hwithin : snapshot.Within) :
    snapshot.Dangling ↔
      snapshot.cursor = snapshot.text.length ∧ 1 ≤ snapshot.text.length := by
  unfold Within at hwithin
  unfold Dangling Text.lastIndex
  omega

/-! ### Effects -/

namespace Command

variable {snapshot : Snapshot}

theorem dangling_effect_moveLeft (hwithin : snapshot.Within) (count : Count) :
    ((moveLeft count).effect snapshot).Dangling ↔ count = .times 0 ∧ snapshot.Dangling := by
  have hzero : count = .times 0 ↔ count.get = 0 := Count.eq_times_iff (by decide) count
  unfold Snapshot.Within at hwithin
  rw [effect_moveLeft, hzero]
  unfold Snapshot.Dangling Text.lastIndex
  dsimp only
  omega

theorem not_dangling_effect_moveRight (count : Count) (snapshot : Snapshot) :
    ¬((moveRight count).effect snapshot).Dangling :=
  Nat.not_lt_of_le (Nat.min_le_right _ _)

theorem dangling_effect_replace (count : Count) (character : Char) (snapshot : Snapshot) :
    ((replace count character).effect snapshot).Dangling ↔ snapshot.Dangling := by
  unfold Snapshot.Dangling Text.lastIndex
  rw [length_effect (by simp), cursor_effect_replace]
  unfold Text.lastIndex
  split
  · rfl
  · -- The cursor was on a character and is on one again, so both sides are false.
    omega

theorem dangling_effect_moveToNext (character : Char) (snapshot : Snapshot) :
    ((moveToNext character).effect snapshot).Dangling ↔ snapshot.Dangling := by
  rw [effect_moveToNext]
  cases hfind : snapshot.text.find? snapshot.cursor character with
  | none => rfl
  | some index =>
      -- Where something is found the cursor was in the text before, and is in it after.
      have hafter := Text.le_of_find?_eq_some hfind
      have hinside := Text.lt_length_of_find?_eq_some hfind
      unfold Snapshot.Dangling Text.lastIndex
      dsimp only [Option.getD_some]
      omega

theorem dangling_effect_delete (htext : snapshot.text.length ≤ maxWord)
    (hwithin : snapshot.Within) (count : Count) :
    ((delete count).effect snapshot).Dangling ↔
      1 ≤ snapshot.cursor ∧ snapshot.text.length ≤ snapshot.cursor + count.get := by
  unfold Snapshot.Within at hwithin
  rw [effect_delete]
  unfold Snapshot.Dangling Text.lastIndex
  dsimp only
  rw [Text.length_delete htext]
  omega

theorem not_dangling_effect {command : Command} (hdelete : ∀ count, command ≠ .delete count)
    (hsnapshot : ¬snapshot.Dangling) : ¬(command.effect snapshot).Dangling := by
  cases command with
  | moveLeft count =>
      exact mt (fun hdangling => Nat.lt_of_lt_of_le hdangling (Nat.sub_le _ _)) hsnapshot
  | moveRight count => exact not_dangling_effect_moveRight count snapshot
  | replace count character => exact mt (dangling_effect_replace _ _ _).mp hsnapshot
  | moveToNext character => exact mt (dangling_effect_moveToNext _ _).mp hsnapshot
  | delete count => exact False.elim (hdelete count rfl)
  | undo count =>
      rw [effect_undo]
      exact hsnapshot

end Command

namespace Editor

/-- What it takes for the cursor to dangle after a command. -/
def DanglesAfter (editor : Editor) : Command → Prop
  | .moveLeft count => count = .times 0 ∧ editor.snapshot.Dangling
  | .moveRight _ => False
  | .replace _ _ | .moveToNext _ => editor.snapshot.Dangling
  | .delete count => 1 ≤ editor.cursor ∧ editor.text.length ≤ editor.cursor + count.get
  | .undo count =>
    match (editor.history.takeBack count.get).1 with
    | some last => last.Dangling
    | none => editor.snapshot.Dangling

theorem dangling_apply {editor : Editor} (htext : editor.text.length ≤ maxWord)
    (hwithin : editor.snapshot.Within) (command : Command) :
    (editor.apply command).snapshot.Dangling ↔ editor.DanglesAfter command := by
  cases command with
  | moveLeft count =>
      rw [snapshot_apply rfl]
      exact Command.dangling_effect_moveLeft hwithin count
  | moveRight count =>
      rw [snapshot_apply rfl]
      exact iff_false_intro (Command.not_dangling_effect_moveRight count _)
  | replace count character =>
      rw [snapshot_apply rfl]
      exact Command.dangling_effect_replace count character _
  | moveToNext character =>
      rw [snapshot_apply rfl]
      exact Command.dangling_effect_moveToNext character _
  | delete count =>
      rw [snapshot_apply rfl]
      exact Command.dangling_effect_delete htext hwithin count
  | undo count =>
      rw [snapshot_undo, DanglesAfter, History.takeBack]
      cases (editor.history.stack.take count.get).getLast? <;> rfl

/-- Without deletions no cursor dangles and no text changes its length. -/
theorem not_dangling_run {commands : List Command}
    (hdelete : ∀ count, .delete count ∉ commands) (text : Text) (settings : HistorySettings) :
    ∀ snapshot ∈ ((start text settings).run commands).trail,
      ¬snapshot.Dangling ∧ snapshot.text.length = text.length := by
  apply forall_mem_trail_run
  · exact ⟨Nat.not_lt_zero _, rfl⟩
  · rintro command hmem - snapshot ⟨hsnapshot, hlength⟩
    have hother : ∀ count, command ≠ .delete count := fun count heq => hdelete count (heq ▸ hmem)
    exact ⟨Command.not_dangling_effect hother hsnapshot,
      (Command.length_effect hother snapshot).trans hlength⟩

/-- In every state that an editor can be brought to, the cursor dangles if and only if it is right
behind a text that is not empty, and whether it dangles after one more command is told exactly by
`DanglesAfter`. While there are no deletions the cursor names a character, or is zero in an empty
text, and the text keeps its length. -/
theorem dangling_apply_iff {text : Text} (htext : text.length ≤ maxWord)
    (settings : HistorySettings) (commands : List Command) :
    let editor := (start text settings).run commands
    (editor.snapshot.Dangling ↔
      editor.cursor = editor.text.length ∧ 1 ≤ editor.text.length) ∧
    (∀ command, (editor.apply command).snapshot.Dangling ↔ editor.DanglesAfter command) ∧
    ((∀ count, .delete count ∉ commands) → ∀ before, before <+: commands →
      let earlier := (start text settings).run before
      earlier.cursor ≤ earlier.text.lastIndex ∧ earlier.text.length = text.length) := by
  intro editor
  have hsound : editor.Sound text.length := sound_run htext settings commands
  have hwithin : editor.snapshot.Within := hsound.snapshot_within
  refine ⟨hwithin.dangling_iff,
    dangling_apply (Nat.le_trans hsound.length_le htext) hwithin, ?_⟩
  intro hdelete before hbefore earlier
  have hnone : ∀ count, .delete count ∉ before :=
    fun count hmem => hdelete count (hbefore.subset hmem)
  obtain ⟨hcursor, hlength⟩ :=
    not_dangling_run hnone text settings earlier.snapshot List.mem_cons_self
  exact ⟨Nat.le_of_not_lt hcursor, hlength⟩

/-- The cursor that a deletion has left behind the end is drawn back by moving right, and an undo
brings it back there. Without the deletion strokes and moves stop at the last character. -/
theorem dangling_apply_iff_undo :
    let settings : HistorySettings := { limit := some 2 }
    let commands := [.moveRight .unbounded, .delete .one, .moveRight .one]
    let editor := (start ⟨['a', 'b', 'c']⟩ settings).run commands
    ¬editor.snapshot.Dangling ∧
    editor.DanglesAfter (.undo .one) ∧
    (editor.apply (.undo .one)).snapshot.Dangling ∧
    ¬(editor.apply (.undo (.times 2))).snapshot.Dangling ∧
    let steady := (start ⟨['a', 'b', 'c']⟩ settings).run
      [.moveRight .unbounded, .replace .unbounded 'z', .undo .one]
    steady.cursor ≤ steady.text.lastIndex ∧ steady.text.length = 3 := by
  intro settings commands editor
  obtain ⟨hdangling, hafter, -⟩ :=
    @dangling_apply_iff ⟨['a', 'b', 'c']⟩ (by decide) settings commands
  obtain ⟨-, -, hsteady⟩ := @dangling_apply_iff ⟨['a', 'b', 'c']⟩ (by decide) settings
    [.moveRight .unbounded, .replace .unbounded 'z', .undo .one]
  have hundo : editor.DanglesAfter (.undo .one) := by
    change Snapshot.Dangling _
    decide
  have hundo_twice : ¬editor.DanglesAfter (.undo (.times 2)) := by
    change ¬Snapshot.Dangling _
    decide
  exact ⟨mt hdangling.mp (by decide), hundo, (hafter _).mpr hundo, mt (hafter _).mp hundo_twice,
    hsteady (by simp) _ (List.prefix_refl _)⟩

end Editor

end KeyScript
