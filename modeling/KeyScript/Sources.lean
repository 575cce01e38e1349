/-!
What can be read from outside: files by name and standard input, all given as values. Bytes are text
only if they are valid UTF-8.
-/

namespace KeyScript

/-- Why a file or standard input gives no text. -/
inductive ReadFault
  /-- The system refused, for the given reason and with its number. -/
  | system (reason : String) (code : Nat)
  | notUtf8
  deriving DecidableEq, Repr

namespace ReadFault

def noSuchFile : ReadFault := .system "No such file or directory" 2

def message : ReadFault → String
  | .system reason code => s!"{reason} (os error {code})"
  | .notUtf8 => "stream did not contain valid UTF-8"

end ReadFault

/-- All that may be read. -/
structure Sources where
  file : String → Except ReadFault ByteArray
  stdin : Except ReadFault ByteArray

/-- The text that bytes encode. -/
def decodeText (bytes : ByteArray) : Except ReadFault String :=
  match String.fromUTF8? bytes with
  | some content => .ok content
  | none => .error .notUtf8

namespace Sources

def fileText (sources : Sources) (path : String) : Except ReadFault String :=
  (sources.file path).bind decodeText

def stdinText (sources : Sources) : Except ReadFault String := sources.stdin.bind decodeText

end Sources

end KeyScript
