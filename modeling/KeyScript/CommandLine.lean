import KeyScript.CommandLine.Draft

/-!
The command line. Arguments are taken one after the other. A parameter may have its value attached,
after an equals sign or directly behind a letter, or in the next argument, which then may not begin
with a dash unless it is a dash alone. A parameter whose value is not attached is held, and only
checked and stored once the next argument has been recognised or the arguments are over; this
decides which of several faults is reported. After two dashes all arguments are plain.
-/

namespace KeyScript.CommandLine

/-- A parameter that has been named but not stored. -/
inductive Held
  | nothing
  /-- Its value is still to come. -/
  | waiting (parameter : Parameter)
  | valued (parameter : Parameter) (value : String)
  deriving DecidableEq, Repr

/-- Where the reader is between two arguments. -/
structure Reading where
  draft : Draft := {}
  held : Held := .nothing
  /-- Whether two dashes have been passed. -/
  plainOnly : Bool := false
  deriving DecidableEq, Repr

namespace Reading

/-- The draft with what was held stored. -/
def settle (reading : Reading) : Except Stop Draft :=
  match reading.held with
  | .nothing => .ok reading.draft
  | .waiting parameter => .error (.refused (.missingValue parameter))
  | .valued parameter value => reading.draft.store parameter value

/-- A parameter with the value attached to it, or waiting for one. -/
def parameter (reading : Reading) (parameter : Parameter) (value : Option String) :
    Except Stop Reading := do
  let draft ← reading.settle
  match value with
  | none => return { reading with draft, held := .waiting parameter }
  | some value => return { reading with draft := ← draft.store parameter value, held := .nothing }

/-- A switch that ends the reading. -/
def stop (reading : Reading) (reason : Stop) : Except Stop Reading := do
  let _ ← reading.settle
  throw reason

/-- The script, which may be given once. -/
def script (reading : Reading) (argument : String) : Except Stop Reading :=
  match reading.draft.script with
  | some _ => .error (.refused (.unknown argument))
  | none => do
    let draft ← reading.settle
    return { reading with draft := { draft with script := some argument }, held := .nothing }

/-- The value that is waited for, or else the script. -/
def plain (reading : Reading) (argument : String) : Except Stop Reading :=
  match reading.held with
  | .waiting parameter => .ok { reading with held := .valued parameter argument }
  | _ => reading.script argument

/-- The reader after one more argument. -/
def step (reading : Reading) (argument : String) : Except Stop Reading :=
  if reading.plainOnly then reading.script argument
  else
    match Shape.ofChars argument.toList with
    | .separator => .ok { reading with plainOnly := true }
    | .long name value =>
      match Named.ofName? name, value with
      | none, _ => .error (.refused (.unknown argument))
      | some (.parameter parameter), value => reading.parameter parameter value
      | some .help, none => reading.stop .help
      | some .version, none => reading.stop .version
      | some .help, some _ | some .version, some _ => .error (.refused (.needlessValue name))
    | .short letter rest =>
      match Named.ofLetter? letter with
      | none => .error (.refused (.unknown argument))
      | some (.parameter parameter) => reading.parameter parameter (attached? rest)
      | some .help => reading.stop .help
      | some .version => reading.stop .version
    | .plain => reading.plain argument

end Reading

/-- The request that the arguments make. -/
def read (arguments : List String) : Except Stop Request := do
  let reading ← arguments.foldlM Reading.step {}
  let draft ← reading.settle
  draft.finish

end KeyScript.CommandLine
