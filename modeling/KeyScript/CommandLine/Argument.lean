/-!
Arguments of the command line by themselves: what they look like, and what their dashes may name.
-/

namespace KeyScript.CommandLine

/-- The parameters, each of which takes one value. -/
inductive Parameter
  | text
  | textFile
  | config
  | maxCount
  | historyLimit
  deriving DecidableEq, Repr

/-- What is written after two dashes. -/
def Parameter.name : Parameter → String
  | .text => "text"
  | .textFile => "text-file"
  | .config => "config"
  | .maxCount => "max-count"
  | .historyLimit => "history-limit"

/-- What may be named with dashes. -/
inductive Named
  | parameter (parameter : Parameter)
  | help
  | version
  deriving DecidableEq, Repr

/-- Names are written in full. -/
def Named.ofName? : String → Option Named
  | "text" => some (.parameter .text)
  | "text-file" => some (.parameter .textFile)
  | "config" => some (.parameter .config)
  | "max-count" => some (.parameter .maxCount)
  | "history-limit" => some (.parameter .historyLimit)
  | "help" => some .help
  | "version" => some .version
  | _ => none

def Named.ofLetter? : Char → Option Named
  | 't' => some (.parameter .text)
  | 'F' => some (.parameter .textFile)
  | 'c' => some (.parameter .config)
  | 'h' => some .help
  | 'V' => some .version
  | _ => none

/-- What an argument looks like. -/
inductive Shape
  /-- Two dashes alone. -/
  | separator
  /-- Two dashes and a name, with what follows the first equals sign. -/
  | long (name : String) (value : Option String)
  /-- One dash and a letter, with what follows it. -/
  | short (letter : Char) (rest : List Char)
  | plain
  deriving DecidableEq, Repr

def Shape.ofChars : List Char → Shape
  | ['-', '-'] => .separator
  | '-' :: '-' :: rest =>
    .long (String.ofList (rest.takeWhile (· ≠ '=')))
      ((rest.dropWhile (· ≠ '=')).tail?.map String.ofList)
  | '-' :: letter :: rest => .short letter rest
  | _ => .plain

/-- The value attached behind a letter, if there is one; an equals sign before it is dropped. -/
def attached? : List Char → Option String
  | [] => none
  | '=' :: value => some (String.ofList value)
  | value => some (String.ofList value)

end KeyScript.CommandLine
