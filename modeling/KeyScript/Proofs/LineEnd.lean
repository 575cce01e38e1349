import KeyScript.Proofs.Inputs

/-!
The three places a text may come from. A request that has its text takes it as it is. A text from a
file or from standard input loses one line end: a return and a line feed, or a line feed alone. So a
text may be put into a file with a line end behind it or without, as long as the line end that is
lost is not one of its own, and the request comes to the same as if it had the text itself.
-/

namespace KeyScript

/-- The content that a text is read from: the text with a return and a line feed behind it, or with
a line feed that no return of the text itself would be lost with, or by itself where it does not
close with a line feed. -/
def Holds (text content : List Char) : Prop :=
  content = text ++ ['\r', '\n'] ∨
  (content = text ++ ['\n'] ∧ text.getLast? ≠ some '\r') ∨
  (content = text ∧ text.getLast? ≠ some '\n')

theorem Holds.dropLineEnd_eq {text content : List Char} (hholds : Holds text content) :
    dropLineEnd content = text := by
  rcases hholds with rfl | ⟨rfl, hlast⟩ | ⟨rfl, hlast⟩
  · simp [dropLineEnd]
  · rw [← List.head?_reverse] at hlast
    rw [dropLineEnd, List.reverse_concat]
    split
    · rename_i rest heq
      rw [(List.cons.inj heq).2] at hlast
      exact absurd rfl hlast
    · rename_i rest _ heq
      rw [← (List.cons.inj heq).2, List.reverse_reverse]
    · rename_i hnone
      exact absurd rfl (hnone text.reverse)
  · rw [← List.head?_reverse] at hlast
    unfold dropLineEnd
    split
    · rename_i rest heq
      rw [heq] at hlast
      exact absurd rfl hlast
    · rename_i rest _ heq
      rw [heq] at hlast
      exact absurd rfl hlast
    · rfl

theorem holds_dropLineEnd (content : List Char) : Holds (dropLineEnd content) content := by
  have hreverse {rest : List Char} (heq : content.reverse = rest) : content = rest.reverse := by
    rw [← heq, List.reverse_reverse]
  unfold Holds dropLineEnd
  split
  · rename_i rest heq
    left
    simpa using hreverse heq
  · rename_i rest hreturn heq
    right; left
    refine ⟨by simpa using hreverse heq, fun hlast => ?_⟩
    rw [List.getLast?_reverse, List.head?_eq_some_iff] at hlast
    obtain ⟨before, rfl⟩ := hlast
    exact hreturn before rfl
  · rename_i hnone
    right; right
    refine ⟨rfl, fun hlast => ?_⟩
    rw [← List.head?_reverse, List.head?_eq_some_iff] at hlast
    obtain ⟨before, heq⟩ := hlast
    exact hnone before heq

theorem dropLineEnd_eq_iff {text content : List Char} :
    dropLineEnd content = text ↔ Holds text content :=
  ⟨fun heq => heq ▸ holds_dropLineEnd content, Holds.dropLineEnd_eq⟩

namespace TextInput

theorem gives_read_toUTF8_iff {text content : String} :
    (read (.ok content.toUTF8)).Gives text ↔ Holds text.toList content.toList := by
  have hread : (Except.ok content.toUTF8).bind decodeText = .ok content := decodeText_toUTF8 content
  rw [Gives, hread, ← dropLineEnd_eq_iff]
  simp only [Except.ok.injEq, exists_eq_left']
  rw [eq_comm, ← String.toList_inj, String.toList_ofList]

end TextInput

namespace Request

/-! ### Requests that differ in the source of their text -/

def withText (request : Request) (text : String) : Request :=
  { request with text := some text, textFile := none }

def withTextFile (request : Request) (path : String) : Request :=
  { request with text := none, textFile := some path }

def withStdin (request : Request) : Request := { request with text := none, textFile := none }

variable {sources : Sources} {path text content : String}

theorem initialText_withTextFile_eq_ok_iff (request : Request)
    (hbytes : sources.file path = .ok content.toUTF8) :
    (request.withTextFile path).initialText sources = .ok text ↔
      Holds text.toList content.toList := by
  have hinput : (request.withTextFile path).textInput sources = .read (.ok content.toUTF8) :=
    congrArg TextInput.read hbytes
  rw [initialText_eq_ok_iff, hinput, TextInput.gives_read_toUTF8_iff]

theorem initialText_withStdin_eq_ok_iff (request : Request)
    (hbytes : sources.stdin = .ok content.toUTF8) :
    request.withStdin.initialText sources = .ok text ↔ Holds text.toList content.toList := by
  have hinput : request.withStdin.textInput sources = .read (.ok content.toUTF8) :=
    congrArg TextInput.read hbytes
  rw [initialText_eq_ok_iff, hinput, TextInput.gives_read_toUTF8_iff]

/-- Requests that differ in the source of their text alone. A text of the request is never changed,
whatever could be read. What a file or standard input holds is read as the text if and only if it is
the text with the line end that is lost, or without. And then the outcomes are the same, whatever
else there is: files other than those of the settings and the text, and standard input where it is
not the source. -/
theorem report_eq_of_holds (request : Request) (text path : String) :
    (∀ sources, (request.withText text).initialText sources = .ok text) ∧
    (∀ (content : String) (sources : Sources), sources.file path = .ok content.toUTF8 →
      ((request.withTextFile path).initialText sources = .ok text ↔
        Holds text.toList content.toList)) ∧
    (∀ (content : String) (sources : Sources), sources.stdin = .ok content.toUTF8 →
      (request.withStdin.initialText sources = .ok text ↔ Holds text.toList content.toList)) ∧
    ∀ content : String, Holds text.toList content.toList → ∀ given filed piped : Sources,
      request.settingsInput filed = request.settingsInput given →
      request.settingsInput piped = request.settingsInput given →
      filed.file path = .ok content.toUTF8 → piped.stdin = .ok content.toUTF8 →
      (request.withTextFile path).session filed = (request.withText text).session given ∧
      (request.withTextFile path).report filed = (request.withText text).report given ∧
      request.withStdin.session piped = (request.withText text).session given ∧
      request.withStdin.report piped = (request.withText text).report given := by
  refine ⟨fun _ => rfl, fun _ _ => request.initialText_withTextFile_eq_ok_iff,
    fun _ _ => request.initialText_withStdin_eq_ok_iff, ?_⟩
  intro content hholds given filed piped hfiled hpiped hfile hstdin
  have hfilesession :
      (request.withTextFile path).session filed = (request.withText text).session given :=
    session_congr (settings_congr hfiled rfl rfl)
      ((request.initialText_withTextFile_eq_ok_iff hfile).mpr hholds) rfl
  have hstdinsession : request.withStdin.session piped = (request.withText text).session given :=
    session_congr (settings_congr hpiped rfl rfl)
      ((request.initialText_withStdin_eq_ok_iff hstdin).mpr hholds) rfl
  exact ⟨hfilesession, congrArg Report.ofOutcome hfilesession, hstdinsession,
    congrArg Report.ofOutcome hstdinsession⟩

/-- The text closes with a line feed of its own, and only the line end behind it is lost. What is on
standard input does not matter to the request that reads a file, be it no UTF-8. -/
theorem report_eq_of_holds_own_line_feed :
    let request : Request := { script := "x" }
    let piped : Sources := { file := fun _ => .error .noSuchFile, stdin := .ok "aß\n\r\n".toUTF8 }
    let filed : Sources := { file := fun _ => .ok "aß\n\r\n".toUTF8, stdin := .ok ⟨#[0xff]⟩ }
    Holds "aß\n".toList "aß\n\r\n".toList ∧
    (request.withTextFile "text").report filed = ⟨0, "ß\n\nCursor: 0\n", ""⟩ ∧
    request.withStdin.report piped = ⟨0, "ß\n\nCursor: 0\n", ""⟩ := by
  intro request piped filed
  have hholds : Holds "aß\n".toList "aß\n\r\n".toList := Or.inl (by decide)
  have hgiven : (request.withText "aß\n").report piped = ⟨0, "ß\n\nCursor: 0\n", ""⟩ := by
    decide +kernel
  obtain ⟨-, hfiled, -, hpiped⟩ := (report_eq_of_holds request "aß\n" "text").2.2.2 "aß\n\r\n"
    hholds piped filed piped rfl rfl rfl rfl
  exact ⟨hholds, hfiled.trans hgiven, hpiped.trans hgiven⟩

end Request

end KeyScript
