import KeyScript.Codec
import KeyScript.Session
import KeyScript.Sources

/-!
Requests and how they are carried out. A request goes through settings, text and script, in this
order, and ends at the first that fails.
-/

namespace KeyScript

/-- What the program is asked to do. -/
structure Request where
  /-- The text to edit, as it is. -/
  text : Option String := none
  /-- The file that holds the text. -/
  textFile : Option String := none
  /-- The file that holds the settings. -/
  config : Option String := none
  /-- The largest literal count, in place of that of the settings. -/
  maxCount : Option UInt64 := none
  /-- The largest number of snapshots, in place of that of the settings. -/
  historyLimit : Option UInt64 := none
  script : String
  deriving DecidableEq, Repr

/-- Why a request is not carried out. -/
inductive Failure
  | settings (fault : Settings.Fault)
  | reading (fault : ReadFault)
  | script (fault : Script.Fault)
  deriving DecidableEq, Repr

namespace Failure

def message : Failure → String
  | .settings fault => s!"Invalid configuration: {fault.message}"
  | .reading fault => s!"Error processing io: {fault.message}"
  | .script fault => s!"Invalid command string: {fault.message}"

/-- A fault in the script has an exit code of its own. -/
def exitCode : Failure → UInt8
  | .settings _ | .reading _ => 1
  | .script _ => 2

end Failure

/-- A text without the line end it may close with: a line feed, or a return and a line feed. -/
def dropLineEnd (content : List Char) : List Char :=
  match content.reverse with
  | '\n' :: '\r' :: rest | '\n' :: rest => rest.reverse
  | _ => content

namespace Request

/-- The settings with those replaced that the request names itself. -/
def override (request : Request) (settings : Settings) : Settings :=
  let settings := match request.maxCount with
    | none => settings
    | some maxCount => settings.withMaxCount maxCount
  match request.historyLimit with
  | none => settings
  | some limit => settings.withLimit (some limit)

/-- The settings of the file, which must be in order by themselves, or the defaults. -/
def fileSettings (request : Request) (sources : Sources) : Except Failure Settings :=
  match request.config with
  | none => .ok {}
  | some path => do
    let document ← (sources.fileText path).mapError .reading
    (Settings.ofDocument document.toList).mapError .settings

/-- The settings to use. -/
def settings (request : Request) (sources : Sources) : Except Failure Settings := do
  let settings := request.override (← request.fileSettings sources)
  (settings.validate.mapError .settings).map fun _ => settings

/-- The text to edit. A text in the request is taken as it is; one from a file or from standard
input loses its last line end. -/
def initialText (request : Request) (sources : Sources) : Except Failure String :=
  match request.text, request.textFile with
  | some text, _ => .ok text
  | none, some path => ((sources.fileText path).mapError .reading).map closed
  | none, none => (sources.stdinText.mapError .reading).map closed
where
  closed (content : String) : String := String.ofList (dropLineEnd content.toList)

/-- The session that the request leads to. -/
def session (request : Request) (sources : Sources) : Except Failure Session := do
  let settings ← request.settings sources
  let text ← request.initialText sources
  (Session.run settings text request.script).mapError .script

/-- What is noted on the way. -/
def events (request : Request) (sources : Sources) : List Event :=
  request.config.toList.map .loadingSettings ++
    match request.settings sources, request.initialText sources with
    | .ok settings, .ok text =>
      Session.events settings text request.script ++
        match request.session sources with
        | .ok session => [.requestDone session.commands.length session.editor.cursor]
        | .error _ => []
    | _, _ => []

/-- Whether standard input is looked at: when no text is named and the settings are in order. -/
def readsStdin (request : Request) (sources : Sources) : Bool :=
  request.text.isNone && request.textFile.isNone && (request.settings sources).toBool

end Request

end KeyScript
