import KeyScript.History

/-!
The editor: a text, a cursor and a history of snapshots. Every command but undo first keeps a
snapshot of the state it is about to change. The cursor names a character of the text, except that
deleting up to the end leaves it just behind the last one.
-/

namespace KeyScript

/-- A text being edited. -/
structure Editor where
  text : Text
  cursor : Nat
  history : History
  deriving DecidableEq, Repr

namespace Editor

/-- The present text and cursor. -/
def snapshot (editor : Editor) : Snapshot := ⟨editor.cursor, editor.text⟩

/-- An editor on a fresh text, whose history begins with that text. -/
def start (text : Text) (settings : HistorySettings) : Editor :=
  { text, cursor := 0, history := (History.empty settings).push ⟨0, text⟩ }

/-- What `start` notes: its first snapshot. -/
def startEvents (text : Text) (settings : HistorySettings) : List Event :=
  (History.empty settings).pushEvents ⟨0, text⟩

def moveLeft (editor : Editor) (count : Count) : Editor :=
  { editor with cursor := editor.cursor - count.get }

/-- Stops at the last character, also where the cursor had been behind it. -/
def moveRight (editor : Editor) (count : Count) : Editor :=
  { editor with cursor := min (cappedSum editor.cursor count.get) editor.text.lastIndex }

/-- Overwrites one character after the other, at most `count` of them, and moves along. After the
last character of the text the cursor stays on it. -/
def strokes (character : Char) : Nat → Text → Nat → Text × Nat
  | 0, text, cursor => (text, cursor)
  | count + 1, text, cursor =>
    match text.replace? cursor character with
    | none => (text, cursor)
    | some text =>
      if text.length ≤ cursor + 1 then (text, cursor)
      else strokes character count text (cursor + 1)

/-- A count of one overwrites in place; any other count moves along. -/
def replace (editor : Editor) (count : Count) (character : Char) : Editor :=
  if count = .one then
    { editor with text := (editor.text.replace? editor.cursor character).getD editor.text }
  else
    let (text, cursor) := strokes character count.get editor.text editor.cursor
    { editor with text, cursor }

/-- Goes to the first such character at or after the cursor, or stays where there is none. -/
def moveToNext (editor : Editor) (character : Char) : Editor :=
  { editor with cursor := (editor.text.find? editor.cursor character).getD editor.cursor }

/-- Removes characters from the cursor on; the cursor stays. -/
def delete (editor : Editor) (count : Count) : Editor :=
  { editor with text := (editor.text.delete editor.cursor count.get).1 }

/-- Goes back to the last snapshot taken from the history, if any is. -/
def undo (editor : Editor) (count : Count) : Editor :=
  match editor.history.takeBack count.get with
  | (some snapshot, history) => { text := snapshot.text, cursor := snapshot.cursor, history }
  | (none, history) => { editor with history }

/-- Keeps a snapshot if the command calls for one. -/
def keep (editor : Editor) (command : Command) : Editor :=
  if command.keepsSnapshot then
    { editor with history := editor.history.push editor.snapshot }
  else editor

/-- What a command does, apart from the snapshot kept before it. -/
def perform (editor : Editor) : Command → Editor
  | .moveLeft count => editor.moveLeft count
  | .moveRight count => editor.moveRight count
  | .replace count character => editor.replace count character
  | .moveToNext character => editor.moveToNext character
  | .delete count => editor.delete count
  | .undo count => editor.undo count

def apply (editor : Editor) (command : Command) : Editor :=
  (editor.keep command).perform command

/-- What `apply` notes: the command and what becomes of the history. -/
def applyEvents (editor : Editor) (command : Command) : List Event :=
  .applying command editor.cursor ::
    match command with
    | .undo count => editor.history.takeBackEvents count.get
    | _ => editor.history.pushEvents editor.snapshot

def run (editor : Editor) (commands : List Command) : Editor := commands.foldl apply editor

def runEvents (editor : Editor) : List Command → List Event
  | [] => []
  | command :: rest => editor.applyEvents command ++ (editor.apply command).runEvents rest

end Editor

end KeyScript
