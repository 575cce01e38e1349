import KeyScript.Json.Scan

/-!
Scanning one row of characters after another. What the two spell is what the first spells and then
what the second spells, unless the first ends inside a number that the second may go on with. No
number goes on with a blank or a mark.
-/

namespace KeyScript.Json

/-- Whether no number goes on with the character. -/
def EndsNumber (char : Char) : Prop := ¬char.isDigit ∧ char ∉ ['.', 'e', 'E', '+', '-']

theorem EndsNumber.next?_eq_none {char : Char} (hends : EndsNumber char) (phase : NumberPhase)
    (hcomplete : phase.isComplete) : phase.next? char = none := by
  obtain ⟨hdigit, hsign⟩ := hends
  cases phase <;>
    simp_all [NumberPhase.next?, NumberPhase.next?.exponent?,
      NumberPhase.next?.fractionOrExponent?, NumberPhase.isComplete]

/-! ### Scanning one row after another -/

namespace Scan

/-- The scan as it is when other tokens have been scanned before. -/
def after (before : List Token) (scan : Scan) : Scan :=
  { scan with tokens := scan.tokens ++ before }

theorem begin?_append (tokens before : List Token) (char : Char) :
    begin? (tokens ++ before) char = (begin? tokens char).map (after before) := by
  unfold begin?
  split <;> try split
  all_goals rfl

/-- What has been scanned before does not matter to what is scanned next. -/
theorem step?_after (before : List Token) (scan : Scan) (char : Char) :
    (scan.after before).step? char = (scan.step? char).map (after before) := by
  obtain ⟨tokens, pending⟩ := scan
  cases pending with
  | nothing => exact begin?_append tokens before char
  | word token next rest =>
      simp only [step?, after]
      split
      · cases rest <;> rfl
      · rfl
  | number phase run =>
      simp only [step?, after]
      split
      · rfl
      · split
        · exact begin?_append (.number run.reverse :: tokens) before char
        · rfl
  | text pieces =>
      simp only [step?, after]
      split
      · rfl
      · split
        · rfl
        · split <;> rfl
  | escape pieces =>
      simp only [step?, after]
      split
      · rfl
      · cases escaped? char <;> rfl
  | unit pieces left value =>
      simp only [step?, after]
      cases hexDigit? char with
      | none => rfl
      | some digit => cases left <;> rfl

theorem foldlM_step?_after (before : List Token) (scan : Scan) (chars : List Char) :
    chars.foldlM step? (scan.after before) = (chars.foldlM step? scan).map (after before) := by
  induction chars generalizing scan with
  | nil => rfl
  | cons char chars ih =>
      rw [List.foldlM_cons, List.foldlM_cons, step?_after]
      cases scan.step? char with
      | none => rfl
      | some next => exact ih next

theorem finish?_after (before : List Token) (scan : Scan) :
    (scan.after before).finish? = scan.finish?.map (before.reverse ++ ·) := by
  obtain ⟨tokens, pending⟩ := scan
  cases pending with
  | nothing => simp [finish?, after]
  | number phase run =>
      simp only [finish?, after]
      split <;> simp
  | _ => rfl

/-- Where the scanner could end, it begins anew with the next character, unless it is in a number
that goes on with it. -/
theorem step?_of_finish? {scan : Scan} {tokens : List Token} (hfinish : scan.finish? = some tokens)
    {char : Char}
    (hparted : EndsNumber char ∨ ∀ spelling, tokens.getLast? ≠ some (.number spelling)) :
    scan.step? char = begin? tokens.reverse char := by
  obtain ⟨scanned, pending⟩ := scan
  cases pending with
  | nothing =>
      cases hfinish
      rw [List.reverse_reverse]
      rfl
  | number phase run =>
      simp only [finish?] at hfinish
      split at hfinish
      · rename_i hcomplete
        cases hfinish
        have hends : EndsNumber char := by
          refine hparted.resolve_right fun hlast => hlast run.reverse ?_
          simp
        simp [step?, hends.next?_eq_none phase hcomplete, hcomplete]
      · cases hfinish
  | _ => cases hfinish

end Scan

theorem Token.scan?_append {front rest : List Char} {tokens more : List Token}
    (hfront : scan? front = some tokens) (hrest : scan? rest = some more)
    (hparted : ∀ char ∈ rest.head?,
      EndsNumber char ∨ ∀ spelling, tokens.getLast? ≠ some (.number spelling)) :
    scan? (front ++ rest) = some (tokens ++ more) := by
  obtain ⟨scan, hscan, hfinish⟩ := Option.bind_eq_some_iff.mp hfront
  cases rest with
  | nil =>
      cases hrest
      rw [List.append_nil, hfront]
      exact congrArg some (List.append_nil tokens).symm
  | cons char rest =>
      have hbegin := Scan.step?_of_finish? hfinish (hparted char rfl)
      have hanew : (char :: rest).foldlM Scan.step? scan =
          ((char :: rest).foldlM Scan.step? {}).map (Scan.after tokens.reverse) := by
        rw [← Scan.foldlM_step?_after, List.foldlM_cons, List.foldlM_cons, hbegin]
        rfl
      obtain ⟨last, hlast, hmore⟩ := Option.bind_eq_some_iff.mp hrest
      rw [scan?, List.foldlM_append, hscan, Option.bind_eq_bind, Option.bind_some, hanew, hlast,
        Option.map_some, Option.bind_some, Scan.finish?_after, hmore, Option.map_some,
        List.reverse_reverse]

end KeyScript.Json
