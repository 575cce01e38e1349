import KeyScript.Json.Parser
import KeyScript.Proofs.Scanning
import Mathlib.Data.List.Chain
import Mathlib.Data.List.Forall2

/-!
Layouts of JSON values. A value may be written in many ways: any blanks may stand before its tokens
and behind the last of them, and a character of a text may stand for itself or be escaped. Numbers
keep their spelling, which may be any that the grammar of numbers allows. However a value is laid
out, it is read as the same value (`parse?_of_hasLayout`).
-/

namespace KeyScript.Json

/-! ### The grammar of tokens -/

/-- What may stand between tokens without a meaning. -/
def IsBlank (char : Char) : Prop := char ∈ [' ', '\t', '\n', '\r']

def IsRun (run : List Char) : Prop := run ≠ [] ∧ ∀ digit ∈ run, digit.isDigit

/-- The part of a number before the point. Only zero itself begins with a zero. -/
inductive IsWhole : List Char → Prop
  | zero : IsWhole ['0']
  | run {first : Char} {rest : List Char} (hfirst : first ≠ '0')
      (hrun : ∀ digit ∈ first :: rest, digit.isDigit) : IsWhole (first :: rest)

inductive IsFraction : List Char → Prop
  | absent : IsFraction []
  | point {run : List Char} (hrun : IsRun run) : IsFraction ('.' :: run)

inductive IsExponent : List Char → Prop
  | absent : IsExponent []
  | power {mark : Char} {sign run : List Char} (hmark : mark ∈ ['e', 'E'])
      (hsign : sign ∈ [[], ['+'], ['-']]) (hrun : IsRun run) : IsExponent (mark :: (sign ++ run))

inductive IsNumber : List Char → Prop
  | parts {sign whole fraction exponent : List Char} (hsign : sign ∈ [[], ['-']])
      (hwhole : IsWhole whole) (hfraction : IsFraction fraction)
      (hexponent : IsExponent exponent) : IsNumber (sign ++ (whole ++ (fraction ++ exponent)))

/-- The ways to write a piece of a text: as it is, if nothing speaks against it, by a letter after a
backslash, or by its number in four hexadecimal digits. -/
inductive Piece.SpelledBy : Piece → List Char → Prop
  | itself {content : Char} (hquote : content ≠ '"') (hbackslash : content ≠ '\\')
      (hcontrol : 0x20 ≤ content.toNat) : (Piece.char content).SpelledBy [content]
  | letter {letter content : Char} (hescaped : escaped? letter = some content) :
      (Piece.char content).SpelledBy ['\\', letter]
  | unit {first second third fourth : Char} {a b c d : Nat} (hfirst : hexDigit? first = some a)
      (hsecond : hexDigit? second = some b) (hthird : hexDigit? third = some c)
      (hfourth : hexDigit? fourth = some d) :
      (Piece.ofUnit (16 * (16 * (16 * a + b) + c) + d)).SpelledBy
        ['\\', 'u', first, second, third, fourth]

/-- The ways to write a token. Words and marks have but one. -/
inductive Token.SpelledBy : Token → List Char → Prop
  | number {spelling : List Char} (hnumber : IsNumber spelling) :
      (Token.number spelling).SpelledBy spelling
  | text {content : List Piece} {spellings : List (List Char)}
      (hcontent : List.Forall₂ Piece.SpelledBy content spellings) :
      (Token.text content).SpelledBy ('"' :: spellings.flatten ++ ['"'])
  | fixed {token : Token} (hnumber : ∀ spelling, token ≠ .number spelling)
      (htext : ∀ content, token ≠ .text content) : token.SpelledBy token.spelling

/-- Tokens written one after the other, with any blanks before each and behind the last. -/
inductive Token.LaidOut : List Token → List Char → Prop
  | nil {blanks : List Char} (hblanks : ∀ char ∈ blanks, IsBlank char) : LaidOut [] blanks
  | cons {token : Token} {rest : List Token} {blanks spelling chars : List Char}
      (hblanks : ∀ char ∈ blanks, IsBlank char) (hspelling : token.SpelledBy spelling)
      (hrest : LaidOut rest chars) : LaidOut (token :: rest) (blanks ++ spelling ++ chars)

/-- Whether the characters are a way to write the value. -/
def HasLayout (json : Json) (chars : List Char) : Prop := Token.LaidOut json.tokens chars

/-! ### Numbers are scanned -/

theorem Scan.foldlM_step?_number (tokens : List Token) (run : List Char) {chars : List Char}
    {phase last : NumberPhase} (hlast : chars.foldlM NumberPhase.next? phase = some last) :
    chars.foldlM Scan.step? { tokens, pending := .number phase run } =
      some { tokens, pending := .number last (chars.reverse ++ run) } := by
  induction chars generalizing phase run with
  | nil =>
      cases hlast
      rfl
  | cons char chars ih =>
      rw [List.foldlM_cons] at hlast
      obtain ⟨next, hnext, hlast⟩ := Option.bind_eq_some_iff.mp hlast
      have hstep : Scan.step? { tokens, pending := .number phase run } char =
          some { tokens, pending := .number next (char :: run) } := by
        simp only [Scan.step?, hnext]
      rw [List.foldlM_cons, hstep, List.reverse_cons, List.append_assoc]
      exact ih (char :: run) hlast

theorem Scan.begin?_of_isDigit (tokens : List Token) {digit : Char} (hdigit : digit.isDigit) :
    Scan.begin? tokens digit = (NumberPhase.sign.next? digit).map fun phase =>
      { tokens, pending := .number phase [digit] } := by
  unfold begin?
  split <;> simp_all [NumberPhase.next?]

namespace NumberPhase

theorem foldlM_next?_digits {phase : NumberPhase}
    (hphase : ∀ digit : Char, digit.isDigit → phase.next? digit = some phase) {digits : List Char}
    (hdigits : ∀ digit ∈ digits, digit.isDigit) : digits.foldlM next? phase = some phase := by
  induction digits with
  | nil => rfl
  | cons digit digits ih =>
      rw [List.forall_mem_cons] at hdigits
      rw [List.foldlM_cons, hphase digit hdigits.1]
      exact ih hdigits.2

/-- A run of digits leads into a phase and stays there. -/
theorem foldlM_next?_run {before phase : NumberPhase}
    (hbefore : ∀ digit : Char, digit.isDigit → before.next? digit = some phase)
    (hphase : ∀ digit : Char, digit.isDigit → phase.next? digit = some phase) {run : List Char}
    (hrun : IsRun run) : run.foldlM next? before = some phase := by
  obtain ⟨hne, hdigits⟩ := hrun
  cases run with
  | nil => exact False.elim (hne rfl)
  | cons digit digits =>
      rw [List.forall_mem_cons] at hdigits
      rw [List.foldlM_cons, hbefore digit hdigits.1]
      exact foldlM_next?_digits hphase hdigits.2

section

variable (digit : Char) (hdigit : digit.isDigit)

include hdigit

theorem next?_whole_of_isDigit : whole.next? digit = some whole := if_pos hdigit

theorem next?_point_of_isDigit : point.next? digit = some fraction := if_pos hdigit

theorem next?_fraction_of_isDigit : fraction.next? digit = some fraction := if_pos hdigit

theorem next?_exponent_of_isDigit : exponent.next? digit = some power := by
  have hsign : ¬(digit = '+' ∨ digit = '-') := by rintro (rfl | rfl) <;> cases hdigit
  rw [next?, if_neg hsign, if_pos hdigit]

theorem next?_exponentSign_of_isDigit : exponentSign.next? digit = some power := if_pos hdigit

theorem next?_power_of_isDigit : power.next? digit = some power := if_pos hdigit

end

theorem foldlM_next?_whole {spelling : List Char} (hwhole : IsWhole spelling) :
    spelling.foldlM next? sign = some zero ∨ spelling.foldlM next? sign = some whole := by
  cases hwhole with
  | zero => exact Or.inl rfl
  | run hfirst hrun =>
      right
      rw [List.forall_mem_cons] at hrun
      rw [List.foldlM_cons, next?, if_neg hfirst, if_pos hrun.1]
      exact foldlM_next?_digits next?_whole_of_isDigit hrun.2

theorem foldlM_next?_fraction {phase : NumberPhase} (hphase : phase = zero ∨ phase = whole)
    {spelling : List Char} (hfraction : IsFraction spelling) :
    spelling.foldlM next? phase = some phase ∨ spelling.foldlM next? phase = some fraction := by
  cases hfraction with
  | absent => exact Or.inl rfl
  | point hrun =>
      right
      have hpoint : phase.next? '.' = some point := by rcases hphase with rfl | rfl <;> rfl
      rw [List.foldlM_cons, hpoint]
      exact foldlM_next?_run next?_point_of_isDigit next?_fraction_of_isDigit hrun

theorem foldlM_next?_exponent {phase : NumberPhase}
    (hphase : phase = zero ∨ phase = whole ∨ phase = fraction) {spelling : List Char}
    (hexponent : IsExponent spelling) :
    spelling.foldlM next? phase = some phase ∨ spelling.foldlM next? phase = some power := by
  cases hexponent with
  | absent => exact Or.inl rfl
  | @power mark sign run hmark hsign hrun =>
      right
      have hmark : phase.next? mark = some exponent := by
        simp only [List.mem_cons, List.not_mem_nil, or_false] at hmark
        rcases hphase with rfl | rfl | rfl <;> rcases hmark with rfl | rfl <;> rfl
      rw [List.foldlM_cons, hmark, Option.bind_eq_bind, Option.bind_some, List.foldlM_append]
      simp only [List.mem_cons, List.not_mem_nil, or_false] at hsign
      rcases hsign with rfl | rfl | rfl
      · exact foldlM_next?_run next?_exponent_of_isDigit next?_power_of_isDigit hrun
      · exact foldlM_next?_run next?_exponentSign_of_isDigit next?_power_of_isDigit hrun
      · exact foldlM_next?_run next?_exponentSign_of_isDigit next?_power_of_isDigit hrun

/-- What stands behind the sign of a number leads to a phase in which the number may end. -/
theorem exists_foldlM_next?_unsigned {whole fraction exponent : List Char}
    (hwhole : IsWhole whole) (hfraction : IsFraction fraction) (hexponent : IsExponent exponent) :
    ∃ last, (whole ++ (fraction ++ exponent)).foldlM next? sign = some last ∧ last.isComplete := by
  obtain ⟨phase, hphase, hread⟩ : ∃ phase, (phase = .zero ∨ phase = .whole) ∧
      whole.foldlM next? sign = some phase := by
    rcases foldlM_next?_whole hwhole with hread | hread
    · exact ⟨_, Or.inl rfl, hread⟩
    · exact ⟨_, Or.inr rfl, hread⟩
  obtain ⟨later, hlater, hread_fraction⟩ : ∃ later, (later = .zero ∨ later = .whole ∨
      later = .fraction) ∧ fraction.foldlM next? phase = some later := by
    rcases foldlM_next?_fraction hphase hfraction with hread | hread
    · exact ⟨_, hphase.imp_right Or.inl, hread⟩
    · exact ⟨_, Or.inr (Or.inr rfl), hread⟩
  rw [List.foldlM_append, hread, Option.bind_eq_bind, Option.bind_some, List.foldlM_append,
    hread_fraction, Option.bind_eq_bind, Option.bind_some]
  rcases foldlM_next?_exponent hlater hexponent with hread | hread
  · refine ⟨_, hread, ?_⟩
    rcases hlater with rfl | rfl | rfl <;> rfl
  · exact ⟨_, hread, rfl⟩

end NumberPhase

theorem IsNumber.scan?_eq {spelling : List Char} (hnumber : IsNumber spelling) :
    Token.scan? spelling = some [.number spelling] := by
  have hscan {first : Char} {rest : List Char} {phase last : NumberPhase}
      (hfirst : Scan.step? {} first = some { pending := .number phase [first] })
      (hrest : rest.foldlM NumberPhase.next? phase = some last) (hlast : last.isComplete) :
      Token.scan? (first :: rest) = some [.number (first :: rest)] := by
    rw [Token.scan?, List.foldlM_cons, hfirst, Option.bind_eq_bind, Option.bind_some,
      Scan.foldlM_step?_number [] [first] hrest, Option.bind_some, Scan.finish?]
    simp [hlast]
  obtain @⟨sign, whole, fraction, exponent, hsign, hwhole, hfraction, hexponent⟩ := hnumber
  obtain ⟨last, hread, hlast⟩ :=
    NumberPhase.exists_foldlM_next?_unsigned hwhole hfraction hexponent
  simp only [List.mem_cons, List.not_mem_nil, or_false] at hsign
  rcases hsign with rfl | rfl
  · obtain ⟨first, rest, hwhole_eq, hfirst⟩ : ∃ first rest, whole = first :: rest ∧
        first.isDigit := by
      cases hwhole with
      | zero => exact ⟨_, _, rfl, rfl⟩
      | run hne hrun => exact ⟨_, _, rfl, hrun _ List.mem_cons_self⟩
    rw [hwhole_eq, List.cons_append, List.foldlM_cons] at hread
    obtain ⟨phase, hphase, hread⟩ := Option.bind_eq_some_iff.mp hread
    have hbegin := Scan.begin?_of_isDigit [] hfirst
    rw [hphase] at hbegin
    rw [hwhole_eq]
    exact hscan hbegin hread hlast
  · exact hscan rfl hread hlast

/-! ### Texts are scanned -/

theorem Piece.SpelledBy.foldlM_step?_eq {piece : Piece} {spelling : List Char}
    (hspelling : piece.SpelledBy spelling) (tokens : List Token) (before : List Piece) :
    spelling.foldlM Scan.step? { tokens, pending := .text before } =
      some { tokens, pending := .text (piece :: before) } := by
  cases hspelling with
  | @itself content hquote hbackslash hcontrol =>
      have hstep : Scan.step? { tokens, pending := .text before } content =
          some { tokens, pending := .text (.char content :: before) } := by
        change (if content = '"' then _ else _) = _
        rw [if_neg hquote, if_neg hbackslash, if_neg (Nat.not_lt.mpr hcontrol)]
      rw [List.foldlM_cons, hstep]
      rfl
  | @letter letter content hescaped =>
      have hletter : letter ≠ 'u' := by
        rintro rfl
        cases hescaped
      have hbackslash : Scan.step? { tokens, pending := .text before } '\\' =
          some { tokens, pending := .escape before } := rfl
      rw [List.foldlM_cons, hbackslash]
      simp [Scan.step?, hletter, hescaped]
  | unit hfirst hsecond hthird hfourth =>
      have hbackslash : Scan.step? { tokens, pending := .text before } '\\' =
          some { tokens, pending := .escape before } := rfl
      rw [List.foldlM_cons, hbackslash]
      simp [Scan.step?, hfirst, hsecond, hthird, hfourth]

theorem foldlM_step?_text {content : List Piece} {spellings : List (List Char)}
    (hcontent : List.Forall₂ Piece.SpelledBy content spellings) (tokens : List Token)
    (before : List Piece) :
    spellings.flatten.foldlM Scan.step? { tokens, pending := .text before } =
      some { tokens, pending := .text (content.reverse ++ before) } := by
  induction hcontent generalizing before with
  | nil => rfl
  | cons hspelling _ ih =>
      rw [List.flatten_cons, List.foldlM_append, hspelling.foldlM_step?_eq, List.reverse_cons,
        List.append_assoc]
      exact ih _

theorem Token.SpelledBy.scan?_eq {token : Token} {spelling : List Char}
    (hspelling : token.SpelledBy spelling) : scan? spelling = some [token] := by
  cases hspelling with
  | number hnumber => exact hnumber.scan?_eq
  | text hcontent =>
      have hbegin : Scan.step? {} '"' = some { pending := .text [] } := rfl
      rw [scan?, List.foldlM_append, List.foldlM_cons, hbegin, Option.bind_eq_bind,
        Option.bind_some, foldlM_step?_text hcontent, List.append_nil]
      simp [Scan.step?, Scan.finish?]
  | fixed hnumber htext =>
      cases token with
      | number spelling => exact False.elim (hnumber spelling rfl)
      | text content => exact False.elim (htext content rfl)
      | bool value => cases value <;> rfl
      | _ => rfl

/-! ### Layouts are scanned -/

theorem scan?_blanks {blanks : List Char} (hblanks : ∀ char ∈ blanks, IsBlank char) :
    Token.scan? blanks = some [] := by
  induction blanks with
  | nil => rfl
  | cons blank blanks ih =>
      rw [List.forall_mem_cons] at hblanks
      have hstep : Scan.step? {} blank = some {} := by
        have hblank := hblanks.1
        simp only [IsBlank, List.mem_cons, List.not_mem_nil, or_false] at hblank
        rcases hblank with rfl | rfl | rfl | rfl <;> rfl
      rw [Token.scan?, List.foldlM_cons, hstep]
      exact ih hblanks.2

theorem IsBlank.endsNumber {blank : Char} (hblank : IsBlank blank) : EndsNumber blank := by
  simp only [IsBlank, List.mem_cons, List.not_mem_nil, or_false] at hblank
  rcases hblank with rfl | rfl | rfl | rfl <;> simp [EndsNumber]

/-- The tokens that may follow the value of an item or a member. -/
def Token.EndsValue : Token → Prop
  | .comma | .closeArray | .closeObject => True
  | _ => False

/-- No number is followed by anything but the end of its item or member. -/
def Token.Parted (tokens : List Token) : Prop :=
  tokens.IsChain fun token next => (∃ spelling, token = .number spelling) → next.EndsValue

theorem Token.LaidOut.endsNumber_of_head? {tokens : List Token} {chars : List Char}
    (hlaid : LaidOut tokens chars) (hends : ∀ token ∈ tokens.head?, token.EndsValue) :
    ∀ char ∈ chars.head?, EndsNumber char := by
  cases hlaid with
  | nil hblanks => exact fun char hmem => (hblanks char (List.mem_of_mem_head? hmem)).endsNumber
  | @cons token rest blanks spelling chars hblanks hspelling hrest =>
      have htoken := hends token rfl
      cases blanks with
      | cons blank blanks =>
          rw [List.forall_mem_cons] at hblanks
          simpa using hblanks.1.endsNumber
      | nil =>
          cases hspelling with
          | number | text => exact False.elim htoken
          | fixed =>
              cases token <;> first
                | exact False.elim htoken
                | simp [Token.spelling, EndsNumber]

theorem Token.LaidOut.scan?_eq {tokens : List Token} {chars : List Char}
    (hlaid : LaidOut tokens chars) (hparted : Parted tokens) : scan? chars = some tokens := by
  induction hlaid with
  | nil hblanks => exact scan?_blanks hblanks
  | @cons token rest blanks spelling chars hblanks hspelling hrest ih =>
      rw [Parted, List.isChain_cons] at hparted
      have htoken : scan? (blanks ++ spelling) = some [token] :=
        scan?_append (scan?_blanks hblanks) hspelling.scan?_eq fun char hmem =>
          Or.inr fun spelling => by simp
      refine scan?_append htoken (ih hparted.2) fun char hmem => ?_
      by_cases hnumber : ∃ spelling, token = .number spelling
      · left
        exact hrest.endsNumber_of_head? (fun next hnext => hparted.1 next hnext hnumber) char hmem
      · right
        intro spelling heq
        exact hnumber ⟨spelling, Option.some.inj heq⟩

/-! ### Values -/

namespace Token.Parted

theorem cons {token : Token} {rest : List Token} (hnumber : ∀ spelling, token ≠ .number spelling)
    (hrest : Parted rest) : Parted (token :: rest) := by
  rw [Parted, List.isChain_cons]
  refine ⟨fun next hnext => ?_, hrest⟩
  rintro ⟨spelling, heq⟩
  exact False.elim (hnumber spelling heq)

theorem append {front rest : List Token} (hfront : Parted front) (hrest : Parted rest)
    (hends : ∀ token ∈ rest.head?, token.EndsValue) : Parted (front ++ rest) := by
  rw [Parted, List.isChain_append]
  exact ⟨hfront, hrest, fun token _ next hnext _ => hends next hnext⟩

end Token.Parted

private theorem endsValue_moreItemTokens (items : List Json) :
    ∀ token ∈ (moreItemTokens items).head?, token.EndsValue := by
  cases items <;> simp [moreItemTokens, Token.EndsValue]

private theorem endsValue_moreMemberTokens (members : List (List Piece × Json)) :
    ∀ token ∈ (moreMemberTokens members).head?, token.EndsValue := by
  rcases members with _ | ⟨⟨key, value⟩, rest⟩ <;> simp [moreMemberTokens, Token.EndsValue]

mutual

private theorem parted_tokens (json : Json) : Token.Parted json.tokens := by
  cases json with
  | null | bool | number | text => exact List.isChain_singleton _
  | array items =>
      cases items with
      | nil => exact .cons nofun (List.isChain_singleton _)
      | cons item rest =>
          exact .cons nofun (.append (parted_tokens item) (parted_moreItemTokens rest)
            (endsValue_moreItemTokens rest))
  | object members =>
      cases members with
      | nil => exact .cons nofun (List.isChain_singleton _)
      | cons member rest =>
          obtain ⟨key, value⟩ := member
          exact .cons nofun (.cons nofun (.cons nofun (.append (parted_tokens value)
            (parted_moreMemberTokens rest) (endsValue_moreMemberTokens rest))))

private theorem parted_moreItemTokens (items : List Json) :
    Token.Parted (moreItemTokens items) := by
  cases items with
  | nil => exact List.isChain_singleton _
  | cons item rest =>
      exact .cons nofun (.append (parted_tokens item) (parted_moreItemTokens rest)
        (endsValue_moreItemTokens rest))

private theorem parted_moreMemberTokens (members : List (List Piece × Json)) :
    Token.Parted (moreMemberTokens members) := by
  cases members with
  | nil => exact List.isChain_singleton _
  | cons member rest =>
      obtain ⟨key, value⟩ := member
      exact .cons nofun (.cons nofun (.cons nofun (.append (parted_tokens value)
        (parted_moreMemberTokens rest) (endsValue_moreMemberTokens rest))))

end

/-- A value is read from every way to write it. -/
theorem parse?_of_hasLayout {json : Json} {chars : List Char} (hlayout : json.HasLayout chars) :
    parse? chars = some json := by
  rw [parse?, hlayout.scan?_eq (parted_tokens json), Option.bind_some, ofTokens?_tokens]

end KeyScript.Json
