import KeyScript.Editor
import KeyScript.Script

/-!
Sessions: a script is read as a whole and then run on a fresh text. A script with a fault runs
nothing and notes nothing.
-/

namespace KeyScript

/-- A script that has been run: its commands and the editor they lead to. -/
structure Session where
  commands : List Command
  editor : Editor
  deriving DecidableEq, Repr

namespace Session

/-- Reads the script and runs it on the text. -/
def run (settings : Settings) (text script : String) : Except Script.Fault Session :=
  (Script.read settings.script.maxCount script.toList).map fun commands =>
    { commands, editor := (Editor.start (.ofString text) settings.history).run commands }

theorem run_eq_ok_iff {settings : Settings} {text script : String} {session : Session} :
    run settings text script = .ok session ↔
      Script.read settings.script.maxCount script.toList = .ok session.commands ∧
        (Editor.start (.ofString text) settings.history).run session.commands = session.editor := by
  unfold run
  constructor
  · cases Script.read settings.script.maxCount script.toList with
    | error => rintro ⟨⟩
    | ok commands =>
        rintro ⟨⟩
        exact ⟨rfl, rfl⟩
  · rintro ⟨hread, heditor⟩
    rw [hread, Except.map, heditor]

theorem run_eq_error_iff {settings : Settings} {text script : String} {fault : Script.Fault} :
    run settings text script = .error fault ↔
      Script.read settings.script.maxCount script.toList = .error fault := by
  unfold run
  constructor
  · cases Script.read settings.script.maxCount script.toList with
    | ok => rintro ⟨⟩
    | error =>
        rintro ⟨⟩
        rfl
  · intro hread
    rw [hread, Except.map]

/-- What `run` notes, from the reading of the script to the state it ends in. -/
def events (settings : Settings) (text script : String) : List Event :=
  match run settings text script with
  | .error _ => []
  | .ok session =>
    Script.readEvents settings.script.maxCount script
      ++ Editor.startEvents (.ofString text) settings.history
      ++ (Editor.start (.ofString text) settings.history).runEvents session.commands
      ++ [.sessionRun session.commands.length session.editor.cursor session.editor.history.depth]

end Session

end KeyScript
