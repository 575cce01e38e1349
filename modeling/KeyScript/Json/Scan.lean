import KeyScript.Json.Token

/-!
Scanning the tokens of JSON. Blanks between tokens are space, tab, line feed and return. The scanner
goes through the characters once and holds at most one unfinished token, so a number ends at the
first character that cannot belong to it.
-/

namespace KeyScript.Json

/-- Where in a number the scanner is. -/
inductive NumberPhase
  | sign
  | zero
  | whole
  | point
  | fraction
  | exponent
  | exponentSign
  | power
  deriving DecidableEq, Repr

namespace NumberPhase

/-- The phase after one more character, if it may stand there. -/
def next? (phase : NumberPhase) (char : Char) : Option NumberPhase :=
  match phase with
  | .sign => if char = '0' then some .zero else if char.isDigit then some .whole else none
  | .zero => fractionOrExponent?
  | .whole => if char.isDigit then some .whole else fractionOrExponent?
  | .point => if char.isDigit then some .fraction else none
  | .fraction => if char.isDigit then some .fraction else exponent?
  | .exponent =>
    if char = '+' ∨ char = '-' then some .exponentSign
    else if char.isDigit then some .power else none
  | .exponentSign | .power => if char.isDigit then some .power else none
where
  exponent? : Option NumberPhase := if char = 'e' ∨ char = 'E' then some .exponent else none
  fractionOrExponent? : Option NumberPhase := if char = '.' then some .point else exponent?

/-- Whether a number may end in this phase. -/
def isComplete : NumberPhase → Bool
  | .zero | .whole | .fraction | .power => true
  | .sign | .point | .exponent | .exponentSign => false

end NumberPhase

/-- The token that the scanner is in. Rows that grow have their latest element first. -/
inductive Pending
  | nothing
  /-- A word that must go on with `next` and then `rest`. -/
  | word (token : Token) (next : Char) (rest : List Char)
  | number (phase : NumberPhase) (run : List Char)
  | text (pieces : List Piece)
  /-- A text just after a backslash. -/
  | escape (pieces : List Piece)
  /-- A text inside an escape by number, with `left` more digits to come after the next. -/
  | unit (pieces : List Piece) (left value : Nat)
  deriving DecidableEq, Repr

/-- The tokens scanned so far, the latest first, and the one begun. -/
structure Scan where
  tokens : List Token := []
  pending : Pending := .nothing
  deriving DecidableEq, Repr

/-- What a letter after a backslash stands for. -/
def escaped? : Char → Option Char
  | '"' => some '"'
  | '\\' => some '\\'
  | '/' => some '/'
  | 'b' => some '\x08'
  | 'f' => some '\x0c'
  | 'n' => some '\n'
  | 'r' => some '\r'
  | 't' => some '\t'
  | _ => none

/-- The value of a hexadecimal digit of either case. -/
def hexDigit? (char : Char) : Option Nat :=
  if char.isDigit then some (char.toNat - '0'.toNat)
  else if 'a' ≤ char ∧ char ≤ 'f' then some (char.toNat - 'a'.toNat + 10)
  else if 'A' ≤ char ∧ char ≤ 'F' then some (char.toNat - 'A'.toNat + 10)
  else none

namespace Scan

/-- A character between tokens: a blank, a mark, or the beginning of a token. -/
def begin? (tokens : List Token) (char : Char) : Option Scan :=
  match char with
  | ' ' | '\t' | '\n' | '\r' => some { tokens }
  | '[' => some { tokens := .openArray :: tokens }
  | ']' => some { tokens := .closeArray :: tokens }
  | '\x7b' => some { tokens := .openObject :: tokens }
  | '\x7d' => some { tokens := .closeObject :: tokens }
  | ',' => some { tokens := .comma :: tokens }
  | ':' => some { tokens := .colon :: tokens }
  | 'n' => some { tokens, pending := .word .null 'u' ['l', 'l'] }
  | 't' => some { tokens, pending := .word (.bool true) 'r' ['u', 'e'] }
  | 'f' => some { tokens, pending := .word (.bool false) 'a' ['l', 's', 'e'] }
  | '"' => some { tokens, pending := .text [] }
  | '-' => some { tokens, pending := .number .sign ['-'] }
  | '0' => some { tokens, pending := .number .zero ['0'] }
  | _ => if char.isDigit then some { tokens, pending := .number .whole [char] } else none

/-- The scanner after one more character. -/
def step? (scan : Scan) (char : Char) : Option Scan :=
  let tokens := scan.tokens
  match scan.pending with
  | .nothing => begin? tokens char
  | .word token next rest =>
    if char = next then
      match rest with
      | [] => some { tokens := token :: tokens }
      | next :: rest => some { tokens, pending := .word token next rest }
    else none
  | .number phase run =>
    match phase.next? char with
    | some phase => some { tokens, pending := .number phase (char :: run) }
    | none => if phase.isComplete then begin? (.number run.reverse :: tokens) char else none
  | .text pieces =>
    if char = '"' then some { tokens := .text pieces.reverse :: tokens }
    else if char = '\\' then some { tokens, pending := .escape pieces }
    else if char.toNat < 0x20 then none
    else some { tokens, pending := .text (.char char :: pieces) }
  | .escape pieces =>
    if char = 'u' then some { tokens, pending := .unit pieces 3 0 }
    else (escaped? char).map fun content => { tokens, pending := .text (.char content :: pieces) }
  | .unit pieces left value =>
    (hexDigit? char).map fun digit =>
      match left with
      | 0 => { tokens, pending := .text (.ofUnit (16 * value + digit) :: pieces) }
      | left + 1 => { tokens, pending := .unit pieces left (16 * value + digit) }

/-- The tokens when the characters are over, if no token is left unfinished. -/
def finish? (scan : Scan) : Option (List Token) :=
  match scan.pending with
  | .nothing => some scan.tokens.reverse
  | .number phase run =>
    if phase.isComplete then some (Token.number run.reverse :: scan.tokens).reverse else none
  | _ => none

end Scan

/-- The tokens that the characters spell. -/
def Token.scan? (chars : List Char) : Option (List Token) :=
  (chars.foldlM Scan.step? {}).bind Scan.finish?

end KeyScript.Json
