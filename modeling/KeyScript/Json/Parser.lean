import KeyScript.Json.Printer
import KeyScript.Json.Scan

/-!
Reading JSON values from their tokens. The reader is a machine with a stack of the arrays and
objects that are still open, so values may be nested to any depth; nothing may follow the value. It
reads every value back from its tokens (`ofTokens?_tokens`).
-/

namespace KeyScript.Json

/-- An array or object that is still open, with what it holds so far, the latest first. -/
inductive Frame
  | array (items : List Json)
  /-- An object that waits for the value of `key`. -/
  | object (members : List (List Piece × Json)) (key : List Piece)
  deriving Repr

/-- What the reader expects next, inside the frames that are open. -/
inductive Reading
  | atValue (frames : List Frame)
  /-- A value or the end of an array just opened. -/
  | atFirstItem (frames : List Frame)
  /-- A key or the end of an object just opened. -/
  | atFirstKey (frames : List Frame)
  | atKey (members : List (List Piece × Json)) (frames : List Frame)
  | atColon (members : List (List Piece × Json)) (key : List Piece) (frames : List Frame)
  /-- A value has been completed: a comma, the end of the innermost frame, or nothing at all. -/
  | afterValue (value : Json) (frames : List Frame)
  deriving Repr

namespace Reading

/-- A token where a value is due. -/
def valueStep? (frames : List Frame) : Token → Option Reading
  | .null => some (.afterValue .null frames)
  | .bool value => some (.afterValue (.bool value) frames)
  | .number spelling => some (.afterValue (.number spelling) frames)
  | .text pieces => some (.afterValue (.text pieces) frames)
  | .openArray => some (.atFirstItem frames)
  | .openObject => some (.atFirstKey frames)
  | _ => none

/-- The reader after one more token. -/
def step? : Reading → Token → Option Reading
  | .atValue frames, token => valueStep? frames token
  | .atFirstItem frames, .closeArray => some (.afterValue (.array []) frames)
  | .atFirstItem frames, token => valueStep? (.array [] :: frames) token
  | .atFirstKey frames, .closeObject => some (.afterValue (.object []) frames)
  | .atFirstKey frames, .text key => some (.atColon [] key frames)
  | .atKey members frames, .text key => some (.atColon members key frames)
  | .atColon members key frames, .colon => some (.atValue (.object members key :: frames))
  | .afterValue value (.array items :: frames), .comma =>
    some (.atValue (.array (value :: items) :: frames))
  | .afterValue value (.array items :: frames), .closeArray =>
    some (.afterValue (.array (value :: items).reverse) frames)
  | .afterValue value (.object members key :: frames), .comma =>
    some (.atKey ((key, value) :: members) frames)
  | .afterValue value (.object members key :: frames), .closeObject =>
    some (.afterValue (.object ((key, value) :: members).reverse) frames)
  | _, _ => none

/-- The value read when the tokens are over, if no frame is left open. -/
def finish? : Reading → Option Json
  | .afterValue value [] => some value
  | _ => none

end Reading

/-- The value that the tokens make up. -/
def ofTokens? (tokens : List Token) : Option Json :=
  (tokens.foldlM Reading.step? (.atValue [])).bind Reading.finish?

mutual

/-- The tokens of a value complete it, whether it is due by itself or may begin an array. -/
private theorem foldlM_tokens (json : Json) (frames : List Frame) :
    json.tokens.foldlM Reading.step? (.atValue frames) = some (.afterValue json frames) ∧
    json.tokens.foldlM Reading.step? (.atFirstItem frames) =
      some (.afterValue json (.array [] :: frames)) := by
  cases json with
  | null | bool | number | text => simp [tokens, Reading.step?, Reading.valueStep?]
  | array items =>
    cases items with
    | nil => simp [tokens, itemTokens, Reading.step?, Reading.valueStep?]
    | cons item rest =>
      simp [tokens, itemTokens, Reading.step?, Reading.valueStep?, List.foldlM_append,
        (foldlM_tokens item _).2, foldlM_moreItemTokens rest]
  | object members =>
    cases members with
    | nil => simp [tokens, memberTokens, Reading.step?, Reading.valueStep?]
    | cons member rest =>
      obtain ⟨key, value⟩ := member
      simp [tokens, memberTokens, Reading.step?, Reading.valueStep?, List.foldlM_append,
        (foldlM_tokens value _).1, foldlM_moreMemberTokens rest]

private theorem foldlM_moreItemTokens (rest : List Json) (item : Json) (items : List Json)
    (frames : List Frame) :
    (moreItemTokens rest).foldlM Reading.step? (.afterValue item (.array items :: frames)) =
      some (.afterValue (.array (items.reverse ++ item :: rest)) frames) := by
  cases rest with
  | nil => simp [moreItemTokens, Reading.step?]
  | cons next rest =>
    simp [moreItemTokens, Reading.step?, List.foldlM_append, (foldlM_tokens next _).1,
      foldlM_moreItemTokens rest]

private theorem foldlM_moreMemberTokens (rest : List (List Piece × Json)) (key : List Piece)
    (value : Json) (members : List (List Piece × Json)) (frames : List Frame) :
    (moreMemberTokens rest).foldlM Reading.step?
        (.afterValue value (.object members key :: frames)) =
      some (.afterValue (.object (members.reverse ++ (key, value) :: rest)) frames) := by
  cases rest with
  | nil => simp [moreMemberTokens, Reading.step?]
  | cons next rest =>
    obtain ⟨nextKey, next⟩ := next
    simp [moreMemberTokens, Reading.step?, List.foldlM_append, (foldlM_tokens next _).1,
      foldlM_moreMemberTokens rest]

end

theorem ofTokens?_tokens (json : Json) : ofTokens? json.tokens = some json := by
  simp [ofTokens?, foldlM_tokens, Reading.finish?]

/-- The value that the characters spell. -/
def parse? (chars : List Char) : Option Json := (Token.scan? chars).bind ofTokens?

end KeyScript.Json
