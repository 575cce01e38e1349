import KeyScript.Visible

/-!
Characters and text between quotes, as the journal shows them. The quote and the backslash take a
backslash, line feed, return, tab and null have a letter of their own, and any other character that
is not seen by itself is written by its number in lower-case hexadecimal. All else stands as it is.
-/

namespace KeyScript.Quoted

/-- One character inside the given quotes. -/
def escape (quote character : Char) : List Char :=
  match character with
  | '\n' => ['\\', 'n']
  | '\r' => ['\\', 'r']
  | '\t' => ['\\', 't']
  | '\x00' => ['\\', '0']
  | _ =>
    if character = quote ∨ character = '\\' then ['\\', character]
    else if isVisible character then [character]
    else "\\u\x7b".toList ++ Nat.toDigits 16 character.toNat ++ ['\x7d']

/-- A character between single quotes; a double quote stands as it is. -/
def character (content : Char) : String :=
  String.ofList ('\'' :: escape '\'' content ++ ['\''])

/-- A text between double quotes; a single quote stands as it is. -/
def text (content : String) : String :=
  String.ofList ('"' :: content.toList.flatMap (escape '"') ++ ['"'])

end KeyScript.Quoted
