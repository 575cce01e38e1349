import KeyScript.Count

/-!
Editing commands and the keys that type them. The keys of a command are its count, its letter and
its argument, with nothing between; a count of one is left out.
-/

namespace KeyScript

/-- One editing command. -/
inductive Command
  | moveLeft (count : Count)
  | moveRight (count : Count)
  | replace (count : Count) (character : Char)
  | moveToNext (character : Char)
  | delete (count : Count)
  | undo (count : Count)
  deriving DecidableEq, Repr

namespace Command

/-- The key that names the command. -/
def letter : Command → Char
  | .moveLeft _ => 'h'
  | .moveRight _ => 'l'
  | .replace _ _ => 'r'
  | .moveToNext _ => 'f'
  | .delete _ => 'x'
  | .undo _ => 'u'

/-- The repeat count; moving to a character takes none. -/
def count? : Command → Option Count
  | .moveLeft count | .moveRight count | .replace count _ => some count
  | .delete count | .undo count => some count
  | .moveToNext _ => none

/-- The character that follows the letter, for the two commands that take one. -/
def argument? : Command → Option Char
  | .replace _ character | .moveToNext character => some character
  | _ => none

/-- Every command but undo keeps a snapshot of the state it is about to change. -/
def keepsSnapshot : Command → Bool
  | .undo _ => false
  | _ => true

/-- The digits typed before the letter: none for a count of one, and those of `maxWord` for an
unbounded count. -/
def countKeys (command : Command) : List Char :=
  match command.count? with
  | none => []
  | some count => if count = .one then [] else Numeral.digits count.get

/-- The keys that type the command. -/
def keys (command : Command) : List Char :=
  command.countKeys ++ command.letter :: command.argument?.toList

end Command

end KeyScript
