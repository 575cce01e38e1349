import KeyScript.Json.Basic

/-!
The tokens of JSON and how each is spelled. Numbers keep the spelling they have, and in texts as
little as possible is escaped.
-/

namespace KeyScript.Json

inductive Token
  | openArray
  | closeArray
  | openObject
  | closeObject
  | comma
  | colon
  | null
  | bool (value : Bool)
  | number (spelling : List Char)
  | text (pieces : List Piece)
  deriving DecidableEq, Repr

/-- A number in hexadecimal with at least `width` lower-case digits. -/
def hexadecimal (width number : Nat) : List Char :=
  let digits := Nat.toDigits 16 number
  List.replicate (width - digits.length) '0' ++ digits

/-- How a piece is spelled inside a text. Only quotes, backslashes, characters below the space and
halves are escaped, by a letter where there is one. -/
def Piece.spelling : Piece → List Char
  | .char '"' => ['\\', '"']
  | .char '\\' => ['\\', '\\']
  | .char '\x08' => ['\\', 'b']
  | .char '\x0c' => ['\\', 'f']
  | .char '\n' => ['\\', 'n']
  | .char '\r' => ['\\', 'r']
  | .char '\t' => ['\\', 't']
  | .char content =>
    if content.toNat < 0x20 then '\\' :: 'u' :: hexadecimal 4 content.toNat else [content]
  | .half unit => '\\' :: 'u' :: hexadecimal 4 unit

def Token.spelling : Token → List Char
  | .openArray => ['[']
  | .closeArray => [']']
  | .openObject => ['\x7b']
  | .closeObject => ['\x7d']
  | .comma => [',']
  | .colon => [':']
  | .null => ['n', 'u', 'l', 'l']
  | .bool true => ['t', 'r', 'u', 'e']
  | .bool false => ['f', 'a', 'l', 's', 'e']
  | .number spelling => spelling
  | .text pieces => '"' :: pieces.flatMap Piece.spelling ++ ['"']

end KeyScript.Json
