import KeyScript.Text

/-!
Snapshots: a text and the cursor in it. The printout of a snapshot is the text as it is, a line
feed, and a last line that names the cursor.
-/

namespace KeyScript

/-- A text and a cursor, as they were at some moment. -/
structure Snapshot where
  cursor : Nat
  text : Text
  deriving DecidableEq, Repr

/-- The characters of the printout, without a line feed at the end. -/
def Snapshot.printout (snapshot : Snapshot) : List Char :=
  snapshot.text.chars ++ "\nCursor: ".toList ++ Numeral.digits snapshot.cursor

end KeyScript
