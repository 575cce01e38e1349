import KeyScript.Numeral

/-!
JSON values. A number keeps its spelling. A text is a row of pieces, because an escape may name half
of a character: two halves in a row make one character, and a text with a half left over holds no
characters at all.
-/

namespace KeyScript

/-- What stands for one place in a JSON text. -/
inductive Json.Piece
  | char (content : Char)
  /-- A unit of sixteen bits that is half of a character. -/
  | half (unit : Nat)
  deriving DecidableEq, Repr

/-- A JSON value as it was read: members in order, and repeated keys kept. -/
inductive Json
  | null
  | bool (value : Bool)
  | number (spelling : List Char)
  | text (pieces : List Json.Piece)
  | array (items : List Json)
  | object (members : List (List Json.Piece × Json))
  deriving Repr

namespace Json

/-- What an escape by a unit of sixteen bits stands for. -/
def Piece.ofUnit (unit : Nat) : Piece :=
  if unit.isValidChar then .char (.ofNat unit) else .half unit

/-- The character of a leading and a trailing half. -/
def join? (leading trailing : Nat) : Option Char :=
  if 0xD800 ≤ leading ∧ leading < 0xDC00 ∧ 0xDC00 ≤ trailing ∧ trailing < 0xE000 then
    some (.ofNat (0x10000 + (leading - 0xD800) * 0x400 + (trailing - 0xDC00)))
  else none

/-- The characters of a text, if every half has its other half behind it. -/
def chars? : List Piece → Option (List Char)
  | [] => some []
  | .char content :: rest => (chars? rest).map (content :: ·)
  | .half leading :: .half trailing :: rest =>
    match join? leading trailing with
    | some content => (chars? rest).map (content :: ·)
    | none => none
  | .half _ :: _ => none

/-- The pieces of a text without halves. -/
def pieces (chars : List Char) : List Piece := chars.map .char

def ofChars (chars : List Char) : Json := .text (pieces chars)

def ofString (content : String) : Json := ofChars content.toList

def ofNat (number : Nat) : Json := .number (Numeral.digits number)

/-- An object from keys and values. -/
def ofMembers (members : List (String × Json)) : Json :=
  .object (members.map fun (key, value) => (pieces key.toList, value))

/-- A number that is spelled with digits alone and fits in 64 bits. -/
def word? : Json → Option UInt64
  | .number spelling => Numeral.word? spelling
  | _ => none

/-- The characters of a text value. -/
def text? : Json → Option (List Char)
  | .text pieces => chars? pieces
  | _ => none

/-- The character of a text value that holds exactly one. -/
def char? (json : Json) : Option Char :=
  match json.text? with
  | some [content] => some content
  | _ => none

end Json

end KeyScript
