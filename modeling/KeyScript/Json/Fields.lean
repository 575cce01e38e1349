import KeyScript.Json.Basic

/-!
Two shapes in which values of domain types are laid out. A record is an object with named fields, in
any order and among other members, or an array that holds its fields by position. A variant is the
name of a case alone, or an object whose only member is the case and its content.
-/

namespace KeyScript.Json

/-- The value of the key among members, if it occurs once; `none` stands for more than once. -/
def member? (name : String) (members : List (List Char × Json)) : Option (Option Json) :=
  match members.filter (·.1 = name.toList) with
  | [] => some none
  | [(_, value)] => some (some value)
  | _ => none

/-- The members of an object by the characters of their keys. -/
def keyed? (members : List (List Piece × Json)) : Option (List (List Char × Json)) :=
  members.mapM fun (key, value) => (chars? key).map (·, value)

/-- The fields of a record in the order of their names, each present or absent. No field may occur
twice, and an array may not be longer than the record. -/
def fields? (names : List String) : Json → Option (List (Option Json))
  | .array items =>
    if items.length ≤ names.length then
      some (items.map some ++ List.replicate (names.length - items.length) none)
    else none
  | .object members => do
    let members ← keyed? members
    names.mapM (member? · members)
  | _ => none

/-- The value of a field that may be absent. -/
def orDefault {α : Type} (absent : α) (read : Json → Option α) : Option Json → Option α
  | none => some absent
  | some json => read json

/-- The name of a variant, and its content if there is one. -/
def variant? : Json → Option (String × Option Json)
  | .text pieces => (chars? pieces).map fun name => (String.ofList name, none)
  | .object [(key, value)] => (chars? key).map fun name => (String.ofList name, some value)
  | _ => none

end KeyScript.Json
