import KeyScript.Proofs.Effect

/-!
Moving one way and then back by the same count. Either move is stopped by an end of the text, the
right one at the last character and the left one at zero, and what is lost there is not given back.
To the right and back, the cursor is drawn towards the start by as much as the first move fell
short; to the left and back, it is pushed away from the start. The cap on the sum is never met
before the end of the text is.
-/

namespace KeyScript

namespace Command

variable {snapshot : Snapshot} (htext : snapshot.text.length ≤ maxWord) (count : Count)

include htext

theorem effect_moveRight_moveLeft :
    (moveLeft count).effect ((moveRight count).effect snapshot) =
      ⟨min snapshot.cursor (snapshot.text.lastIndex - count.get), snapshot.text⟩ := by
  have hcursor : min (cappedSum snapshot.cursor count.get) snapshot.text.lastIndex - count.get =
      min snapshot.cursor (snapshot.text.lastIndex - count.get) := by
    unfold cappedSum Text.lastIndex
    omega
  calc (moveLeft count).effect ((moveRight count).effect snapshot)
      = ⟨min (cappedSum snapshot.cursor count.get) snapshot.text.lastIndex - count.get,
          snapshot.text⟩ := rfl
    _ = ⟨min snapshot.cursor (snapshot.text.lastIndex - count.get), snapshot.text⟩ := by
        rw [hcursor]

theorem effect_moveLeft_moveRight :
    (moveRight count).effect ((moveLeft count).effect snapshot) =
      ⟨min (max snapshot.cursor count.get) snapshot.text.lastIndex, snapshot.text⟩ := by
  have hcursor : min (cappedSum (snapshot.cursor - count.get) count.get) snapshot.text.lastIndex =
      min (max snapshot.cursor count.get) snapshot.text.lastIndex := by
    unfold cappedSum Text.lastIndex
    omega
  calc (moveRight count).effect ((moveLeft count).effect snapshot)
      = ⟨min (cappedSum (snapshot.cursor - count.get) count.get) snapshot.text.lastIndex,
          snapshot.text⟩ := rfl
    _ = ⟨min (max snapshot.cursor count.get) snapshot.text.lastIndex, snapshot.text⟩ := by
        rw [hcursor]

end Command

namespace Editor

/-- Where the cursor is after moving right and then left by the same count, and after moving left
and then right, in exact numbers. Either way the text is the same. To the right and back, the cursor
returns if and only if it was at zero or all of the count fitted in between it and the last
character. To the left and back, it returns if and only if it was on the text, and all of the count
fitted in between zero and it or it was on the last character. -/
theorem opposite_moves {editor : Editor} (htext : editor.text.length ≤ maxWord) (count : Count) :
    let last := editor.text.lastIndex
    let rightLeft := (editor.apply (.moveRight count)).apply (.moveLeft count)
    let leftRight := (editor.apply (.moveLeft count)).apply (.moveRight count)
    rightLeft.text = editor.text ∧ leftRight.text = editor.text ∧
    rightLeft.cursor = min editor.cursor (last - count.get) ∧
    (rightLeft.cursor = editor.cursor ↔ editor.cursor = 0 ∨ editor.cursor + count.get ≤ last) ∧
    leftRight.cursor = min (max editor.cursor count.get) last ∧
    (leftRight.cursor = editor.cursor ↔
      editor.cursor ≤ last ∧ (count.get ≤ editor.cursor ∨ editor.cursor = last)) := by
  intro last rightLeft leftRight
  have hrightLeft : rightLeft.snapshot = ⟨min editor.cursor (last - count.get), editor.text⟩ := by
    rw [snapshot_apply_apply rfl rfl]
    exact Command.effect_moveRight_moveLeft htext count
  have hleftRight : leftRight.snapshot =
      ⟨min (max editor.cursor count.get) last, editor.text⟩ := by
    rw [snapshot_apply_apply rfl rfl]
    exact Command.effect_moveLeft_moveRight htext count
  have hback : rightLeft.cursor = min editor.cursor (last - count.get) :=
    congrArg Snapshot.cursor hrightLeft
  have hforth : leftRight.cursor = min (max editor.cursor count.get) last :=
    congrArg Snapshot.cursor hleftRight
  refine ⟨congrArg Snapshot.text hrightLeft, congrArg Snapshot.text hleftRight, hback, ?_,
    hforth, ?_⟩
  · rw [hback]
    omega
  · rw [hforth]
    omega

/-- A count that fits and one that does not, and a cursor that a deletion has left behind the end:
it comes back neither way. -/
theorem opposite_moves_behind_the_end :
    let editor := (start ⟨['a', 'b', 'c', 'd']⟩ {}).run [.moveRight .one]
    let behind := editor.run [.moveRight (.times 5), .delete .one]
    ((editor.apply (.moveRight (.times 2))).apply (.moveLeft (.times 2))).cursor =
      editor.cursor ∧
    ((editor.apply (.moveRight .unbounded)).apply (.moveLeft .unbounded)).cursor = 0 ∧
    ((editor.apply (.moveLeft (.times 2))).apply (.moveRight (.times 2))).cursor = 2 ∧
    behind.snapshot = ⟨3, ⟨['a', 'b', 'c']⟩⟩ ∧ behind.text.length ≤ maxWord ∧
    ((behind.apply (.moveRight .one)).apply (.moveLeft .one)).cursor = 1 ∧
    ((behind.apply (.moveLeft .one)).apply (.moveRight .one)).cursor = 2 := by
  intro editor behind
  have htext : editor.text.length ≤ maxWord := by decide
  have hbehind : behind.text.length ≤ maxWord := by decide
  obtain ⟨-, -, -, hreturns, hpushed, -⟩ := opposite_moves htext (.times 2)
  obtain ⟨-, -, hdrawn, -, -, -⟩ := opposite_moves htext .unbounded
  obtain ⟨-, -, hrightLeft, -, hleftRight, -⟩ := opposite_moves hbehind .one
  have hfits : editor.cursor + (Count.times 2).get ≤ editor.text.lastIndex := by decide
  refine ⟨hreturns.mpr (Or.inr hfits), ?_, ?_, by decide, hbehind, ?_, ?_⟩
  · exact hdrawn.trans (by decide)
  · exact hpushed.trans (by decide)
  · exact hrightLeft.trans (by decide)
  · exact hleftRight.trans (by decide)

end Editor

end KeyScript
