import KeyScript.Proofs.Trail
import Mathlib.Data.List.Infix

/-!
A history on its own, under any sequence of operations. Snapshots are put on top and taken back in
any order and number, on a history under a limit and on one without. The limit drops snapshots at
the far end only, and what is taken back is taken from the near end, so the one stack stays the near
end of the other: also after more was taken back than the limit had left, for then the limited stack
is empty, whatever the other still holds.
-/

namespace KeyScript.History

/-- What can be done to a history. -/
inductive Operation
  | push (snapshot : Snapshot)
  | takeBack (count : Nat)
  deriving DecidableEq, Repr

def apply (history : History) : Operation → History
  | .push snapshot => history.push snapshot
  | .takeBack count => (history.takeBack count).2

def run (history : History) (operations : List Operation) : History :=
  operations.foldl apply history

theorem peek?_push {history : History} {settings : HistorySettings}
    (hobeys : history.Obeys settings) (snapshot : Snapshot) :
    (history.push snapshot).peek? = some snapshot := by
  rw [peek?, stack_push_eq_cons hobeys, List.head?_cons]

theorem depth_takeBack (history : History) (count : Nat) :
    (history.takeBack count).2.depth = history.depth - min count history.depth := by
  unfold takeBack depth
  rw [List.length_drop]
  omega

/-- Nothing is returned only where nothing is asked for or nothing is there. -/
theorem takeBack_eq_none_iff (history : History) (count : Nat) :
    (history.takeBack count).1 = none ↔ count = 0 ∨ history.depth = 0 := by
  unfold takeBack depth
  rw [List.getLast?_eq_none_iff, List.take_eq_nil_iff, List.length_eq_zero_iff]

/-- The stack of a history under the limit of the settings is the near end of the stack of a history
without a limit. -/
structure NearEnd (settings : HistorySettings) (limited unlimited : History) : Prop where
  obeys : limited.Obeys settings
  obeys_none : unlimited.Obeys { limit := none }
  stack_prefix : limited.stack <+: unlimited.stack

namespace NearEnd

variable {settings : HistorySettings} {limited unlimited : History}

theorem empty (settings : HistorySettings) : NearEnd settings (History.empty settings) {} where
  obeys := obeys_empty settings
  obeys_none := obeys_empty { limit := none }
  stack_prefix := List.prefix_refl []

theorem push (h : NearEnd settings limited unlimited) (snapshot : Snapshot) :
    NearEnd settings (limited.push snapshot) (unlimited.push snapshot) where
  obeys := h.obeys.push snapshot
  obeys_none := h.obeys_none.push snapshot
  stack_prefix := by
    have hall : unlimited.stack.take unlimited.depth = unlimited.stack := List.take_length
    rw [stack_push_eq_cons h.obeys, stack_push_eq_cons h.obeys_none,
      HistorySettings.capped_of_limit_none rfl, Nat.add_sub_cancel, hall, List.prefix_cons_inj]
    exact (List.take_prefix _ _).trans h.stack_prefix

theorem takeBack (h : NearEnd settings limited unlimited) (count : Nat) :
    NearEnd settings (limited.takeBack count).2 (unlimited.takeBack count).2 where
  obeys := h.obeys
  obeys_none := h.obeys_none
  stack_prefix := h.stack_prefix.drop count

theorem apply (h : NearEnd settings limited unlimited) (operation : Operation) :
    NearEnd settings (limited.apply operation) (unlimited.apply operation) := by
  cases operation with
  | push snapshot => exact h.push snapshot
  | takeBack count => exact h.takeBack count

theorem run (h : NearEnd settings limited unlimited) (operations : List Operation) :
    NearEnd settings (limited.run operations) (unlimited.run operations) := by
  induction operations generalizing limited unlimited with
  | nil => exact h
  | cons operation rest ih => exact ih (h.apply operation)

/-- As long as no more is asked for than the limit has left, the limit does not show. -/
theorem takeBack_eq (h : NearEnd settings limited unlimited) {count : Nat}
    (hcount : count ≤ limited.depth) :
    (limited.takeBack count).1 = (unlimited.takeBack count).1 := by
  obtain ⟨older, holder⟩ := h.stack_prefix
  unfold History.takeBack
  rw [← holder, List.take_append_of_le_length hcount]

end NearEnd

/-- Whatever is put on two new histories and taken back from them, one under a limit and one without:
the limited one holds the newest of the snapshots that the other holds, as many as its depth says, in
the same order. Each snapshot put on it makes it deeper by one, up to the limit, and is the newest
then. Taking back makes it less deep by as many as are found, returns nothing only where nothing is
asked for or nothing is there, and returns what the other returns as long as it finds all it is asked
for. A limit of zero stands for one. -/
theorem run_limited_eq_take_run_unlimited (limit : UInt64) (operations : List Operation) :
    let limited := (empty { limit := some limit }).run operations
    let unlimited := ({} : History).run operations
    limited.stack = unlimited.stack.take limited.depth ∧
    (∀ snapshot,
      (limited.push snapshot).depth = min (limited.depth + 1) (max limit.toNat 1) ∧
      (limited.push snapshot).peek? = some snapshot) ∧
    ∀ count,
      (limited.takeBack count).2.depth = limited.depth - min count limited.depth ∧
      ((limited.takeBack count).1 = none ↔ count = 0 ∨ limited.depth = 0) ∧
      (count ≤ limited.depth → (limited.takeBack count).1 = (unlimited.takeBack count).1) := by
  intro limited unlimited
  have hnear : NearEnd { limit := some limit } limited unlimited :=
    (NearEnd.empty { limit := some limit }).run operations
  refine ⟨List.prefix_iff_eq_take.mp hnear.stack_prefix, ?_, ?_⟩
  · intro snapshot
    exact ⟨depth_push hnear.obeys snapshot, peek?_push hnear.obeys snapshot⟩
  · intro count
    exact ⟨depth_takeBack limited count, takeBack_eq_none_iff limited count, hnear.takeBack_eq⟩

/-- Under a limit of zero each snapshot drops the one before it. Taking back two empties the limited
history, while the other keeps the oldest snapshot below the one that is put on both after that. -/
theorem run_limited_eq_take_run_unlimited_after_drain :
    let operations := [.push ⟨0, ⟨['a']⟩⟩, .push ⟨0, ⟨['b']⟩⟩, .push ⟨0, ⟨['c']⟩⟩, .takeBack 2,
      .push ⟨0, ⟨['d']⟩⟩]
    let limited := (empty { limit := some 0 }).run operations
    let unlimited := ({} : History).run operations
    limited.stack = unlimited.stack.take limited.depth ∧
    limited.depth = 1 ∧
    unlimited.depth = 2 ∧
    (limited.takeBack 1).1 = (unlimited.takeBack 1).1 ∧
    (limited.takeBack 2).1 ≠ (unlimited.takeBack 2).1 := by
  intro operations limited unlimited
  obtain ⟨hstack, -, htake⟩ := run_limited_eq_take_run_unlimited 0 operations
  exact ⟨hstack, by decide, by decide, (htake 1).2.2 (by decide), by decide⟩

end KeyScript.History
