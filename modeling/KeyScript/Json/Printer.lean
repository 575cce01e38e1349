import KeyScript.Json.Token

/-!
Writing JSON values. The tokens of a value are the only ones it is read from, and the compact form
spells them without blanks.
-/

namespace KeyScript.Json

mutual

/-- The tokens of a value. -/
def tokens : Json → List Token
  | .null => [.null]
  | .bool value => [.bool value]
  | .number spelling => [.number spelling]
  | .text pieces => [.text pieces]
  | .array items => .openArray :: itemTokens items
  | .object members => .openObject :: memberTokens members

/-- What follows the opening of an array with these items. -/
def itemTokens : List Json → List Token
  | [] => [.closeArray]
  | item :: rest => tokens item ++ moreItemTokens rest

/-- What follows an item of an array that goes on with these. -/
def moreItemTokens : List Json → List Token
  | [] => [.closeArray]
  | item :: rest => .comma :: tokens item ++ moreItemTokens rest

/-- What follows the opening of an object with these members. -/
def memberTokens : List (List Piece × Json) → List Token
  | [] => [.closeObject]
  | (key, value) :: rest => .text key :: .colon :: tokens value ++ moreMemberTokens rest

/-- What follows a member of an object that goes on with these. -/
def moreMemberTokens : List (List Piece × Json) → List Token
  | [] => [.closeObject]
  | (key, value) :: rest => .comma :: .text key :: .colon :: tokens value ++ moreMemberTokens rest

end

/-- The value written without blanks. -/
def compact (json : Json) : List Char := json.tokens.flatMap Token.spelling

end KeyScript.Json
