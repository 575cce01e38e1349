import KeyScript.Report
import Mathlib.Data.List.Infix
import Mathlib.Control.Monad.Basic

/-!
Printouts can be read back. A text is printed as it is, and may hold lines that look like the one
that names the cursor; but that one comes last and is the end of the printout. So the line feed
before it is the last one that such a label follows, and what is printed is cut there: the text
stands before it, however it ends, and the digits of the cursor behind it.
-/

namespace KeyScript

/-! ### The last place of a mark -/

/-- What stands before and behind the last place where the mark stands in a row. -/
def cutAtLast? (mark : List Char) : List Char → Option (List Char × List Char)
  | [] => none
  | character :: rest =>
    match cutAtLast? mark rest with
    | some (before, behind) => some (character :: before, behind)
    | none => (mark.isPrefixOf? (character :: rest)).map fun behind => ([], behind)

section

variable {mark : List Char}

theorem cutAtLast?_eq_none {row : List Char} (hrow : ¬mark <:+: row) :
    cutAtLast? mark row = none := by
  induction row with
  | nil => rfl
  | cons character rest ih =>
      rw [List.infix_cons_iff, not_or] at hrow
      have hprefix : mark.isPrefixOf? (character :: rest) = none := by
        rw [Option.eq_none_iff_forall_ne_some]
        intro behind hbehind
        exact hrow.1 ⟨behind, List.isPrefixOf?_eq_some_iff_append_eq.mp hbehind⟩
      rw [cutAtLast?, ih hrow.2, hprefix]
      rfl

/-- A row is cut at a mark if no other begins behind the first character of that one. -/
theorem cutAtLast?_append {first : Char} {label behind : List Char}
    (hlast : ¬first :: label <:+: label ++ behind) (before : List Char) :
    cutAtLast? (first :: label) (before ++ first :: label ++ behind) = some (before, behind) := by
  induction before with
  | nil =>
      have hprefix : (first :: label).isPrefixOf? (first :: (label ++ behind)) = some behind :=
        List.isPrefixOf?_eq_some_iff_append_eq.mpr rfl
      rw [List.nil_append, List.cons_append, cutAtLast?, cutAtLast?_eq_none hlast, hprefix]
      rfl
  | cons character before ih => rw [List.cons_append, List.cons_append, cutAtLast?, ih]

/-- A mark that does not end with its first character stands in no row where that character comes
last or not at all. -/
theorem not_infix_of_not_mem_dropLast {first : Char} {label row : List Char} (hlabel : label ≠ [])
    (hrow : first ∉ row.dropLast) : ¬first :: label <:+: row := by
  rintro ⟨before, behind, rfl⟩
  have hbehind : label ++ behind ≠ [] := List.append_ne_nil_of_left_ne_nil hlabel behind
  apply hrow
  rw [List.append_assoc, List.cons_append, List.append_cons,
    List.dropLast_append_of_ne_nil hbehind]
  simp

end

/-! ### Printouts -/

namespace Snapshot

/-- The line feed before the cursor, and the words that open its line. -/
def cursorMark : List Char := "\nCursor: ".toList

/-- Reads what was printed: the text up to the last such mark, and the number behind it. -/
def ofPrinted? (printed : List Char) : Option Snapshot :=
  (cutAtLast? cursorMark printed).map fun parts =>
    ⟨Numeral.value (parts.2.takeWhile Char.isDigit), ⟨parts.1⟩⟩

theorem cutAtLast?_printout (snapshot : Snapshot) {lineEnd : List Char}
    (hend : lineEnd = [] ∨ lineEnd = ['\n']) :
    cutAtLast? cursorMark (snapshot.printout ++ lineEnd) =
      some (snapshot.text.chars, Numeral.digits snapshot.cursor ++ lineEnd) := by
  have hdigits : '\n' ∉ Numeral.digits snapshot.cursor := fun hmem =>
    absurd (Numeral.isDigit_of_mem_digits hmem) (by decide)
  have hline : '\n' ∉ "Cursor: ".toList ++ Numeral.digits snapshot.cursor := by
    simpa using hdigits
  -- Behind the mark a line feed can only be the very last character, and no label follows it.
  have hlast :
      '\n' ∉ ("Cursor: ".toList ++ (Numeral.digits snapshot.cursor ++ lineEnd)).dropLast := by
    rw [← List.append_assoc]
    rcases hend with rfl | rfl
    · rw [List.append_nil]
      exact fun hmem => hline (List.dropLast_subset _ hmem)
    · rw [List.dropLast_concat]
      exact hline
  rw [printout, List.append_assoc _ _ lineEnd]
  exact cutAtLast?_append (not_infix_of_not_mem_dropLast (by decide) hlast) snapshot.text.chars

theorem ofPrinted?_printout (snapshot : Snapshot) {lineEnd : List Char}
    (hend : lineEnd = [] ∨ lineEnd = ['\n']) :
    ofPrinted? (snapshot.printout ++ lineEnd) = some snapshot := by
  have hdigits : (Numeral.digits snapshot.cursor ++ lineEnd).takeWhile Char.isDigit =
      Numeral.digits snapshot.cursor := by
    rw [List.takeWhile_append_of_pos fun _ hmem => Numeral.isDigit_of_mem_digits hmem]
    rcases hend with rfl | rfl <;> exact List.append_nil _
  rw [ofPrinted?, cutAtLast?_printout snapshot hend, Option.map_some, hdigits,
    Numeral.value_digits]

theorem eq_of_printout_eq {left right : Snapshot} (hprintout : left.printout = right.printout) :
    left = right := by
  have hleft := ofPrinted?_printout left (Or.inl rfl)
  rw [hprintout, ofPrinted?_printout right (Or.inl rfl)] at hleft
  exact (Option.some.inj hleft).symm

end Snapshot

namespace Request

/-- Printouts are unambiguous, whatever their texts look like: those of different snapshots are
different. What a request prints that is carried out, cut at the line feed before the last line that
names a cursor, gives back the text, and the cursor in decimal digits; so two requests that print
the same have come to the same text and cursor. -/
theorem printout_unambiguous :
    (∀ left right : Snapshot, left.printout = right.printout → left = right) ∧
    (∀ (request : Request) (sources : Sources) (session : Session),
      request.session sources = .ok session →
        let printed := (request.report sources).stdout.toList
        cutAtLast? "\nCursor: ".toList printed =
          some (session.editor.text.chars, Numeral.digits session.editor.cursor ++ ['\n']) ∧
        Snapshot.ofPrinted? printed = some session.editor.snapshot) ∧
    (∀ (request other : Request) (sources others : Sources) (session twin : Session),
      request.session sources = .ok session → other.session others = .ok twin →
        (request.report sources).stdout = (other.report others).stdout →
        session.editor.text = twin.editor.text ∧ session.editor.cursor = twin.editor.cursor) := by
  have hrecovered {request : Request} {sources : Sources} {session : Session}
      (hsession : request.session sources = .ok session) :
      Snapshot.ofPrinted? (request.report sources).stdout.toList =
        some session.editor.snapshot := by
    rw [toList_stdout_of_session_eq_ok hsession]
    exact Snapshot.ofPrinted?_printout _ (Or.inr rfl)
  refine ⟨fun _ _ => Snapshot.eq_of_printout_eq, ?_, ?_⟩
  · intro request sources session hsession printed
    refine ⟨?_, hrecovered hsession⟩
    show cutAtLast? Snapshot.cursorMark (request.report sources).stdout.toList = _
    rw [toList_stdout_of_session_eq_ok hsession]
    exact Snapshot.cutAtLast?_printout _ (Or.inr rfl)
  · intro request other sources others session twin hsession htwin hstdout
    have hsnapshot : some session.editor.snapshot = some twin.editor.snapshot := by
      rw [← hrecovered hsession, ← hrecovered htwin, hstdout]
    rw [Option.some.injEq, Editor.snapshot, Editor.snapshot, Snapshot.mk.injEq] at hsnapshot
    exact ⟨hsnapshot.2, hsnapshot.1⟩

/-- The text ends with a line that names a cursor and with an empty one. -/
theorem printout_unambiguous_own_label :
    let sources : Sources := { file := fun _ => .error .noSuchFile, stdin := .ok ⟨#[]⟩ }
    let text := "b\nCursor: 7\n"
    let request : Request := { text := some text, script := "l" }
    let other : Request := { text := some text, script := "2lh" }
    let session : Session :=
      ⟨[.moveRight .one], (Editor.start (.ofString text) {}).run [.moveRight .one]⟩
    let twin : Session := ⟨[.moveRight (.times 2), .moveLeft .one],
      (Editor.start (.ofString text) {}).run [.moveRight (.times 2), .moveLeft .one]⟩
    request.session sources = .ok session ∧ other.session sources = .ok twin ∧
    (request.report sources).stdout = "b\nCursor: 7\n\nCursor: 1\n" ∧
    (request.report sources).stdout = (other.report sources).stdout ∧
    Snapshot.ofPrinted? (request.report sources).stdout.toList = some ⟨1, .ofString text⟩ ∧
    session.editor.cursor = twin.editor.cursor := by
  intro sources text request other session twin
  have hsession : request.session sources = .ok session := by decide +kernel
  have htwin : other.session sources = .ok twin := by decide +kernel
  have hstdout : (request.report sources).stdout = "b\nCursor: 7\n\nCursor: 1\n" := by
    decide +kernel
  have hsame : (request.report sources).stdout = (other.report sources).stdout := by
    decide +kernel
  obtain ⟨-, hrecovered⟩ := printout_unambiguous.2.1 request sources session hsession
  obtain ⟨-, hcursor⟩ :=
    printout_unambiguous.2.2 request other sources sources session twin hsession htwin hsame
  have hsnapshot : session.editor.snapshot = ⟨1, .ofString text⟩ := by decide +kernel
  rw [hsnapshot] at hrecovered
  exact ⟨hsession, htwin, hstdout, hsame, hrecovered, hcursor⟩

end Request

end KeyScript
