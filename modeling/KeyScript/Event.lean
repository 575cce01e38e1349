import KeyScript.Command
import KeyScript.Quoted

/-!
The journal of a run: what is written down when a script is read, a command applied, a snapshot kept
or taken back, and settings loaded. Each event has a level and a message; the operations that give
rise to events list them beside the state they compute.
-/

namespace KeyScript

/-- How much an event matters. -/
inductive Level
  | trace
  | debug
  | info
  | warn
  deriving DecidableEq, Repr

/-- The word that opens a line of this level. -/
def Level.word : Level → String
  | .trace => "TRACE"
  | .debug => "DEBUG"
  | .info => "INFO"
  | .warn => "WARN"

/-- Something worth a line in the journal. -/
inductive Event
  /-- A script was read in full. -/
  | scriptRead (commands : Nat) (script : String)
  /-- A snapshot went onto the history; the depth counts it, and is taken before any is dropped. -/
  | pushed (cursor depth : Nat)
  /-- The history had grown beyond its limit. -/
  | dropped (limit excess : Nat)
  /-- Snapshots were taken back; the depth is what remains. -/
  | popped (depth : Nat)
  /-- A command is about to be applied. -/
  | applying (command : Command) (cursor : Nat)
  /-- A session came to its end. -/
  | sessionRun (commands cursor depth : Nat)
  /-- Settings are about to be read from a file. -/
  | loadingSettings (path : String)
  /-- A request was carried out. -/
  | requestDone (commands cursor : Nat)
  deriving DecidableEq, Repr

/-- A count with the name of its kind. -/
def Count.named : Count → String
  | .times number => s!"Times({number.toNat})"
  | .unbounded => "Unbounded"

/-- A command with the name of its kind and all it carries. -/
def Command.named : Command → String
  | .moveLeft count => s!"MoveLeft({count.named})"
  | .moveRight count => s!"MoveRight({count.named})"
  | .replace count character => s!"Replace({count.named}, {Quoted.character character})"
  | .moveToNext character => s!"MoveToNext({Quoted.character character})"
  | .delete count => s!"Delete({count.named})"
  | .undo count => s!"Undo({count.named})"

namespace Event

def level : Event → Level
  | .pushed .. | .popped .. => .trace
  | .scriptRead .. | .applying .. | .sessionRun .. | .loadingSettings .. => .debug
  | .requestDone .. => .info
  | .dropped .. => .warn

def message : Event → String
  | .scriptRead commands script => s!"parsed {commands} command(s) from {Quoted.text script}"
  | .pushed cursor depth => s!"history push: cursor={cursor} depth={depth}"
  | .dropped limit excess =>
    s!"history limit {limit} reached, dropping {excess} oldest snapshot(s)"
  | .popped depth => s!"history pop: depth={depth}"
  | .applying command cursor => s!"apply {command.named} at cursor {cursor}"
  | .sessionRun commands cursor depth =>
    s!"ran {commands} command(s), cursor={cursor} history_depth={depth}"
  | .loadingSettings path => s!"loading configuration from {path}"
  | .requestDone commands cursor => s!"{commands} command(s) applied, final cursor {cursor}"

/-- The journal line of the event. -/
def line (event : Event) : String := s!"{event.level.word} {event.message}"

end Event

end KeyScript
