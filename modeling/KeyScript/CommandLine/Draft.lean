import KeyScript.CommandLine.Argument
import KeyScript.Request

/-!
Drafts of a request, into which parameters are stored one by one, and why a command line may be
refused. Each parameter is stored once, a path is not empty, a number fits in 64 bits; a finished
draft has a script and not two texts.
-/

namespace KeyScript.CommandLine

/-- Why a command line is refused. -/
inductive Refusal
  | unknown (argument : String)
  | missingValue (parameter : Parameter)
  | emptyPath (parameter : Parameter)
  | notANumber (parameter : Parameter) (value : String)
  /-- A value attached to a switch that takes none. -/
  | needlessValue (name : String)
  | repeated (parameter : Parameter)
  /-- A text and a file for it. -/
  | twoTexts
  | missingScript
  deriving DecidableEq, Repr

def Refusal.message : Refusal → String
  | .unknown argument => s!"unexpected argument '{argument}'"
  | .missingValue parameter => s!"a value is required for '--{parameter.name}'"
  | .emptyPath parameter => s!"the path for '--{parameter.name}' is empty"
  | .notANumber parameter value => s!"invalid value '{value}' for '--{parameter.name}'"
  | .needlessValue name => s!"unexpected value for '--{name}'"
  | .repeated parameter => s!"'--{parameter.name}' cannot be used multiple times"
  | .twoTexts => "'--text' cannot be used with '--text-file'"
  | .missingScript => "the commands are missing"

/-- Why there is no request. -/
inductive Stop
  | help
  | version
  | refused (refusal : Refusal)
  deriving DecidableEq, Repr

/-- A number of 64 bits, with or without a plus sign. -/
def number? (value : String) : Option UInt64 :=
  match value.toList with
  | '+' :: digits => Numeral.word? digits
  | digits => Numeral.word? digits

/-- The request as far as it is known. -/
structure Draft where
  text : Option String := none
  textFile : Option String := none
  config : Option String := none
  maxCount : Option UInt64 := none
  historyLimit : Option UInt64 := none
  script : Option String := none
  deriving DecidableEq, Repr

namespace Draft

def has (draft : Draft) : Parameter → Bool
  | .text => draft.text.isSome
  | .textFile => draft.textFile.isSome
  | .config => draft.config.isSome
  | .maxCount => draft.maxCount.isSome
  | .historyLimit => draft.historyLimit.isSome

/-- Checks a value and stores it, unless the parameter has one already. -/
def store (draft : Draft) (parameter : Parameter) (value : String) : Except Stop Draft :=
  if draft.has parameter then .error (.refused (.repeated parameter))
  else
    match parameter with
    | .text => .ok { draft with text := some value }
    | .textFile =>
      if value.isEmpty then .error (.refused (.emptyPath parameter))
      else .ok { draft with textFile := some value }
    | .config =>
      if value.isEmpty then .error (.refused (.emptyPath parameter))
      else .ok { draft with config := some value }
    | .maxCount =>
      match number? value with
      | none => .error (.refused (.notANumber parameter value))
      | some number => .ok { draft with maxCount := some number }
    | .historyLimit =>
      match number? value with
      | none => .error (.refused (.notANumber parameter value))
      | some number => .ok { draft with historyLimit := some number }

/-- The request, if the draft is consistent and complete. -/
def finish (draft : Draft) : Except Stop Request :=
  if draft.text.isSome && draft.textFile.isSome then .error (.refused .twoTexts)
  else
    match draft.script with
    | none => .error (.refused .missingScript)
    | some script => .ok { draft with script }

end Draft

end KeyScript.CommandLine
