import KeyScript.Proofs.Effect

/-!
Counts add up. A command that is given twice, with a count each time, leads to the text and cursor
that the sum of the counts leads to at once, wherever the one or the other is stopped: by an end of
the text, or by the end of the history. The sum is held to 64 bits, which makes no difference as
long as cursor, text and history are no larger than a word. Only overwriting has an exception. Under
a count of one it stays in place, so counts of one do not add up to two; all others do, and none of
their sums is one.
-/

namespace KeyScript

namespace Count

/-- The literal count of as many steps as two counts ask for, or of `maxWord` steps where that is
more than a literal can say. -/
def plus (first second : Count) : Count := .times (.ofNat (cappedSum first.get second.get))

theorem get_plus (first second : Count) :
    (first.plus second).get = cappedSum first.get second.get :=
  toNat_ofNat_of_le_maxWord (Nat.min_le_right _ _)

theorem plus_ne_one {first second : Count} (hfirst : first ≠ .one) (hsecond : second ≠ .one) :
    first.plus second ≠ .one := by
  rw [ne_eq, eq_one_iff] at hfirst hsecond ⊢
  rw [get_plus, cappedSum, maxWord]
  omega

end Count

namespace Command

variable {snapshot : Snapshot} (first second : Count)

theorem effect_moveLeft_plus (hcursor : snapshot.cursor ≤ maxWord) :
    (moveLeft second).effect ((moveLeft first).effect snapshot) =
      (moveLeft (first.plus second)).effect snapshot := by
  have hsum : snapshot.cursor - first.get - second.get =
      snapshot.cursor - (first.plus second).get := by
    rw [Count.get_plus, cappedSum]
    omega
  calc (moveLeft second).effect ((moveLeft first).effect snapshot)
      = ⟨snapshot.cursor - first.get - second.get, snapshot.text⟩ := rfl
    _ = ⟨snapshot.cursor - (first.plus second).get, snapshot.text⟩ := by rw [hsum]
    _ = (moveLeft (first.plus second)).effect snapshot := rfl

theorem effect_moveRight_plus (htext : snapshot.text.length ≤ maxWord) :
    (moveRight second).effect ((moveRight first).effect snapshot) =
      (moveRight (first.plus second)).effect snapshot := by
  have hsum : min (cappedSum (min (cappedSum snapshot.cursor first.get) snapshot.text.lastIndex)
        second.get) snapshot.text.lastIndex =
      min (cappedSum snapshot.cursor (first.plus second).get) snapshot.text.lastIndex := by
    rw [Count.get_plus]
    unfold cappedSum Text.lastIndex
    omega
  calc (moveRight second).effect ((moveRight first).effect snapshot)
      = ⟨min (cappedSum (min (cappedSum snapshot.cursor first.get) snapshot.text.lastIndex)
          second.get) snapshot.text.lastIndex, snapshot.text⟩ := rfl
    _ = ⟨min (cappedSum snapshot.cursor (first.plus second).get) snapshot.text.lastIndex,
          snapshot.text⟩ := by rw [hsum]
    _ = (moveRight (first.plus second)).effect snapshot := rfl

theorem effect_delete_plus (htext : snapshot.text.length ≤ maxWord) :
    (delete second).effect ((delete first).effect snapshot) =
      (delete (first.plus second)).effect snapshot := by
  have hshorter := Nat.le_trans (Text.length_delete_le htext snapshot.cursor first.get) htext
  apply Snapshot.eq_of_get?_eq
  · rfl
  · intro place
    simp only [effect_delete]
    rw [Text.get?_delete hshorter, Text.get?_delete htext, Text.get?_delete htext,
      Text.get?_delete htext, Count.get_plus]
    by_cases hplace : place < snapshot.cursor
    · rw [if_pos hplace, if_pos hplace, if_pos hplace]
    · rw [if_neg hplace, if_neg (by omega), if_neg hplace]
      by_cases hsum : first.get + second.get ≤ maxWord
      · rw [cappedSum, Nat.min_eq_left hsum, Nat.add_comm first.get, Nat.add_assoc]
      · -- The sum is beyond the text, and so is the capped one.
        rw [cappedSum, Nat.min_eq_right (Nat.le_of_not_le hsum),
          Text.get?_eq_none (by omega), Text.get?_eq_none (by omega)]

theorem effect_replace_plus (htext : snapshot.text.length ≤ maxWord) {first second : Count}
    (hfirst : first ≠ .one) (hsecond : second ≠ .one) (character : Char) :
    (replace second character).effect ((replace first character).effect snapshot) =
      (replace (first.plus second) character).effect snapshot := by
  have hsum : (first.plus second).get = min (first.get + second.get) maxWord :=
    Count.get_plus first second
  have hlength : ((replace first character).effect snapshot).text.length = snapshot.text.length :=
    length_effect (by simp) snapshot
  have hcursor := cursor_effect_replace first character snapshot
  have hplaces := get?_effect_replace first character snapshot
  generalize (replace first character).effect snapshot = middle at hlength hcursor hplaces ⊢
  simp only [hfirst, or_false, Text.lastIndex] at hcursor
  apply Snapshot.eq_of_get?_eq
  · rw [cursor_effect_replace, cursor_effect_replace, hlength, hsum]
    simp only [hsecond, Count.plus_ne_one hfirst hsecond, or_false, Text.lastIndex]
    rw [hlength]
    by_cases hbehind : snapshot.text.length ≤ snapshot.cursor
    · rw [if_pos hbehind] at hcursor ⊢
      rw [hcursor, if_pos hbehind]
    · rw [if_neg hbehind] at hcursor ⊢
      rw [if_neg (by omega)]
      omega
  · intro place
    rw [get?_effect_replace, get?_effect_replace, hplaces, hlength, hsum]
    split at hcursor
    · rw [if_neg (by omega), if_neg (by omega), if_neg (by omega)]
    · -- A place is filled by both together if it is filled by the first or by the second.
      by_cases hbefore : snapshot.cursor ≤ place ∧
          place < min (snapshot.cursor + first.get) snapshot.text.length
      · rw [if_pos hbefore, ite_self, if_pos (by omega)]
      · rw [if_neg hbefore]
        exact if_congr (by omega) rfl rfl

end Command

namespace Editor

theorem apply_undo_plus {editor : Editor} (hdepth : editor.history.depth ≤ maxWord)
    (first second : Count) :
    (editor.apply (.undo first)).apply (.undo second) =
      editor.apply (.undo (first.plus second)) := by
  have hsum : min first.get editor.history.depth +
        min second.get (editor.history.depth - min first.get editor.history.depth) =
      min (cappedSum first.get second.get) editor.history.depth := by
    unfold cappedSum
    omega
  apply eq_of_trail_eq
  · calc ((editor.apply (.undo first)).apply (.undo second)).trail
        = (editor.trail.drop (min first.get editor.history.depth)).drop
            (min second.get
              (editor.history.depth - min first.get editor.history.depth)) := by
          rw [trail_undo, trail_undo, depth_undo]
      _ = editor.trail.drop (min (cappedSum first.get second.get) editor.history.depth) := by
          rw [List.drop_drop, hsum]
      _ = (editor.apply (.undo (first.plus second))).trail := by
          rw [trail_undo, Count.get_plus]
  · rw [limit_apply, limit_apply, limit_apply]

/-- In every state whose cursor, text and history are no larger than a word, giving a command twice
leads to the same text and cursor as giving it once with the sum of the two counts: moving left,
moving right, deleting, and overwriting unless one of the counts is one. Undo leads to the same
history too. In particular an undo of more snapshots than there are is the undo of all of them. -/
theorem apply_plus {editor : Editor} (hcursor : editor.cursor ≤ maxWord)
    (htext : editor.text.length ≤ maxWord) (hdepth : editor.history.depth ≤ maxWord)
    (first second : Count) :
    let twice := fun command : Count → Command =>
      (editor.apply (command first)).apply (command second)
    let once := fun command : Count → Command => editor.apply (command (first.plus second))
    (twice .moveLeft).snapshot = (once .moveLeft).snapshot ∧
    (twice .moveRight).snapshot = (once .moveRight).snapshot ∧
    (twice .delete).snapshot = (once .delete).snapshot ∧
    twice .undo = once .undo ∧
    (first ≠ .one → second ≠ .one → ∀ character,
      (twice (.replace · character)).snapshot = (once (.replace · character)).snapshot) ∧
    ∀ count : Count, editor.history.depth ≤ count.get →
      editor.apply (.undo count) =
        editor.apply (.undo (.times (.ofNat editor.history.depth))) := by
  intro twice once
  refine ⟨?_, ?_, ?_, apply_undo_plus hdepth first second, ?_, ?_⟩
  · rw [snapshot_apply_apply rfl rfl, snapshot_apply rfl]
    exact Command.effect_moveLeft_plus first second hcursor
  · rw [snapshot_apply_apply rfl rfl, snapshot_apply rfl]
    exact Command.effect_moveRight_plus first second htext
  · rw [snapshot_apply_apply rfl rfl, snapshot_apply rfl]
    exact Command.effect_delete_plus first second htext
  · intro hfirst hsecond character
    rw [snapshot_apply_apply rfl rfl, snapshot_apply rfl]
    exact Command.effect_replace_plus htext hfirst hsecond character
  · intro count hcount
    have hword : (Count.times (.ofNat editor.history.depth)).get = editor.history.depth :=
      toNat_ofNat_of_le_maxWord hdepth
    exact apply_undo_congr (by rw [hword, Nat.min_self, Nat.min_eq_right hcount])

/-- A count that is used up within the text, and then an unbounded one. The undo takes one of the two
snapshots that the limit has left, and then the other. Two counts of one do overwrite another way
than their sum. -/
theorem apply_plus_two_and_unbounded :
    let editor := (start ⟨['a', 'b', 'c', 'd', 'e']⟩ { limit := some 2 }).run
      [.moveRight (.times 2), .delete .one]
    let twice := fun command : Count → Command =>
      (editor.apply (command (.times 2))).apply (command .unbounded)
    let once := fun command : Count → Command =>
      editor.apply (command ((Count.times 2).plus .unbounded))
    (twice .moveLeft).snapshot = (once .moveLeft).snapshot ∧
    (twice .moveRight).snapshot = (once .moveRight).snapshot ∧
    (twice .delete).snapshot = (once .delete).snapshot ∧
    twice .undo = once .undo ∧
    (twice (.replace · 'z')).snapshot = (once (.replace · 'z')).snapshot ∧
    editor.apply (.undo (.times 7)) = editor.apply (.undo (.times 2)) ∧
    ((editor.apply (.replace .one 'z')).apply (.replace .one 'z')).snapshot ≠
      (editor.apply (.replace (Count.one.plus .one) 'z')).snapshot := by
  intro editor twice once
  have hcursor : editor.cursor ≤ maxWord := by decide
  have htext : editor.text.length ≤ maxWord := by decide
  have hdepth : editor.history.depth ≤ maxWord := by decide
  obtain ⟨hleft, hright, hdelete, hundo, hreplace, hall⟩ :=
    apply_plus hcursor htext hdepth (.times 2) .unbounded
  exact ⟨hleft, hright, hdelete, hundo, hreplace (by decide) (by decide) 'z',
    hall (.times 7) (by decide), by decide⟩

end Editor

end KeyScript
