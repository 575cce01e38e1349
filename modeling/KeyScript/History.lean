import KeyScript.Event
import KeyScript.Settings
import KeyScript.Snapshot

/-!
The history of an editor: a stack of snapshots, the newest first. Under a limit the oldest snapshots
are dropped as soon as there are too many, but the newest one is always kept.
-/

namespace KeyScript

/-- The snapshots that can still be gone back to. -/
structure History where
  /-- The largest depth, if there is one. -/
  limit : Option Nat := none
  /-- The snapshots, the newest first. -/
  stack : List Snapshot := []
  deriving DecidableEq, Repr

namespace History

/-- A history without snapshots. A limit of zero stands for one. -/
def empty (settings : HistorySettings) : History :=
  { limit := settings.limit.map fun limit => max limit.toNat 1 }

def depth (history : History) : Nat := history.stack.length

def isEmpty (history : History) : Bool := history.stack.isEmpty

/-- The newest snapshot. -/
def peek? (history : History) : Option Snapshot := history.stack.head?

/-- Puts a snapshot on top, and drops the oldest ones beyond the limit. -/
def push (history : History) (snapshot : Snapshot) : History :=
  let stack := snapshot :: history.stack
  { history with
    stack := match history.limit with
      | none => stack
      | some limit => stack.take limit }

/-- What `push` notes: the snapshot it adds, and how many it drops, if any. -/
def pushEvents (history : History) (snapshot : Snapshot) : List Event :=
  let depth := history.depth + 1
  .pushed snapshot.cursor depth ::
    match history.limit with
    | none => []
    | some limit => if limit < depth then [.dropped limit (depth - limit)] else []

/-- Takes back `count` snapshots, or all if there are fewer, and returns the last one taken. -/
def takeBack (history : History) (count : Nat) : Option Snapshot × History :=
  ((history.stack.take count).getLast?, { history with stack := history.stack.drop count })

/-- What `takeBack` notes: the depth that remains. -/
def takeBackEvents (history : History) (count : Nat) : List Event :=
  [.popped (history.takeBack count).2.depth]

end History

end KeyScript
