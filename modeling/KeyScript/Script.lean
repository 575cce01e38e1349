import KeyScript.Event

/-!
Scripts: rows of keys that type commands. Each command is an optional run of digits, a letter and,
for `r` and `f`, one more character taken as it is. Digits after the last command have no effect,
and neither has a count before `f`. Reading stops at the first fault, whose offset counts
characters.
-/

namespace KeyScript.Script

/-- Why a row of keys is no script. -/
inductive Fault
  /-- The letter at the offset names no command. -/
  | unsupported (letter : Char) (offset : Nat)
  /-- The keys end where the letter at the offset wants its argument. -/
  | missingArgument (letter : Char) (offset : Nat)
  deriving DecidableEq, Repr

namespace Fault

def letter : Fault → Char
  | .unsupported letter _ | .missingArgument letter _ => letter

def offset : Fault → Nat
  | .unsupported _ offset | .missingArgument _ offset => offset

def message : Fault → String
  | .unsupported letter offset => s!"Unsupported command: {letter} (at offset {offset})"
  | .missingArgument letter offset =>
    s!"Missing argument for command '{letter}' (at offset {offset})"

end Fault

/-- The command that a letter completes by itself. -/
def bare? (count : Count) : Char → Option Command
  | 'h' => some (.moveLeft count)
  | 'l' => some (.moveRight count)
  | 'x' => some (.delete count)
  | 'u' => some (.undo count)
  | _ => none

/-- The command that a letter completes together with the next character. -/
def withArgument? (count : Count) : Char → Option (Char → Command)
  | 'r' => some (.replace count)
  | 'f' => some .moveToNext
  | _ => none

/-- Reads keys from the given offset on, where `run` holds the digits just passed, the latest
first. -/
def readFrom (maxCount : UInt64) (offset : Nat) (run : List Char) :
    List Char → Except Fault (List Command)
  | [] => .ok []
  | key :: rest =>
    if key.isDigit then readFrom maxCount (offset + 1) (key :: run) rest
    else
      let count := Count.ofRun maxCount run.reverse
      match bare? count key with
      | some command => (readFrom maxCount (offset + 1) [] rest).map (command :: ·)
      | none =>
        match withArgument? count key, rest with
        | none, _ => .error (.unsupported key offset)
        | some _, [] => .error (.missingArgument key offset)
        | some command, argument :: rest =>
          (readFrom maxCount (offset + 2) [] rest).map (command argument :: ·)

/-- The commands that a row of keys types. -/
def read (maxCount : UInt64) (keys : List Char) : Except Fault (List Command) :=
  readFrom maxCount 0 [] keys

/-- A script that was read in full is noted, one with a fault is not. -/
def readEvents (maxCount : UInt64) (script : String) : List Event :=
  match read maxCount script.toList with
  | .ok commands => [.scriptRead commands.length script]
  | .error _ => []

/-- The keys that type the commands one after the other. -/
def keys (commands : List Command) : List Char := commands.flatMap Command.keys

end KeyScript.Script
