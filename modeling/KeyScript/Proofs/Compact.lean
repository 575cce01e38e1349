import KeyScript.Proofs.Layout
import Mathlib.Tactic.IntervalCases

/-!
Compact forms. They are the layouts without blanks in which numbers are written in decimal digits
and nothing is escaped without need, so a value is read back from its compact form. No control
character stands in it.
-/

namespace KeyScript.Json

/-! ### How the compact form spells tokens -/

/-- A number in decimal digits, a text of whole characters, or any other token. -/
def Token.Plain : Token → Prop
  | .number spelling => ∃ number, spelling = Numeral.digits number
  | .text content => ∃ chars, content = pieces chars
  | _ => True

/-- The first digit of a number is `0` for zero alone. -/
private theorem exists_digits_eq_cons {number : Nat} (hpos : 0 < number) :
    ∃ first rest, Numeral.digits number = first :: rest ∧ first ≠ '0' := by
  induction number using Nat.strongRecOn with
  | ind number ih =>
      by_cases hsmall : number < 10
      · refine ⟨number.digitChar, [], Nat.toDigits_of_lt_base hsmall, ?_⟩
        interval_cases number <;> decide
      · obtain ⟨first, rest, hdigits, hfirst⟩ :=
          ih (number / 10) (Nat.div_lt_self hpos (by decide)) (by omega)
        refine ⟨first, rest ++ [(number % 10).digitChar], ?_, hfirst⟩
        rw [Numeral.digits, Nat.toDigits_of_base_le (by decide) (by omega)]
        rw [Numeral.digits] at hdigits
        rw [hdigits, List.cons_append]

theorem isNumber_digits (number : Nat) : IsNumber (Numeral.digits number) := by
  have hwhole : IsWhole (Numeral.digits number) := by
    rcases Nat.eq_zero_or_pos number with rfl | hpos
    · exact .zero
    · obtain ⟨first, rest, hdigits, hfirst⟩ := exists_digits_eq_cons hpos
      have hall (digit : Char) : digit ∈ Numeral.digits number → digit.isDigit :=
        Numeral.isDigit_of_mem_digits
      rw [hdigits] at hall ⊢
      exact .run hfirst hall
  have hnumber : IsNumber ([] ++ (Numeral.digits number ++ ([] ++ []))) :=
    .parts List.mem_cons_self hwhole .absent .absent
  rwa [List.nil_append, List.nil_append, List.append_nil] at hnumber

private theorem hexadecimal_four : ∀ number < 32,
    hexadecimal 4 number = ['0', '0', (number / 16).digitChar, (number % 16).digitChar] := by
  decide

private theorem hexDigit?_digitChar : ∀ digit < 16, hexDigit? digit.digitChar = some digit := by
  decide

/-- A control character without a letter of its own is spelled by its number. -/
private theorem Piece.spelledBy_hexadecimal {content : Char} (hcontrol : content.toNat < 32) :
    (Piece.char content).SpelledBy ('\\' :: 'u' :: hexadecimal 4 content.toNat) := by
  have hhigh := hexDigit?_digitChar (content.toNat / 16) (by omega)
  have hlow := hexDigit?_digitChar (content.toNat % 16) (by omega)
  have hunit : Piece.ofUnit (16 * (16 * (16 * 0 + 0) + content.toNat / 16) + content.toNat % 16) =
      .char content := by
    rw [Nat.mul_zero, Nat.zero_add, Nat.div_add_mod, Piece.ofUnit, Char.ofNat_toNat]
    exact if_pos content.valid
  rw [hexadecimal_four _ hcontrol, ← hunit]
  exact .unit rfl rfl hhigh hlow

theorem Piece.spelledBy_spelling (content : Char) :
    (Piece.char content).SpelledBy (Piece.char content).spelling := by
  generalize hpiece : Piece.char content = piece
  fun_cases Piece.spelling piece with
  | case8 content _ _ _ _ _ _ _ hcontrol => exact Piece.spelledBy_hexadecimal hcontrol
  | case9 content hquote hbackslash _ _ _ _ _ hcontrol =>
      exact .itself hquote hbackslash (Nat.not_lt.mp hcontrol)
  | case10 => cases hpiece
  | _ => exact .letter rfl

private theorem spelledBy_pieces (chars : List Char) :
    List.Forall₂ Piece.SpelledBy (pieces chars) ((pieces chars).map Piece.spelling) := by
  induction chars with
  | nil => exact .nil
  | cons content chars ih => exact .cons (Piece.spelledBy_spelling content) ih

theorem Token.Plain.spelledBy_spelling {token : Token} (hplain : token.Plain) :
    token.SpelledBy token.spelling := by
  cases token with
  | number spelling =>
      obtain ⟨number, rfl⟩ := hplain
      exact .number (isNumber_digits number)
  | text content =>
      obtain ⟨chars, rfl⟩ := hplain
      rw [spelling, List.flatMap_def]
      exact .text (spelledBy_pieces chars)
  | _ => exact .fixed (by simp) (by simp)

/-! ### No control characters -/

theorem le_toNat_of_isDigit {char : Char} (hdigit : char.isDigit) : 0x20 ≤ char.toNat := by
  simp only [Char.isDigit, Bool.and_eq_true, decide_eq_true_eq, UInt32.le_iff_toNat_le] at hdigit
  exact Nat.le_trans (by decide) hdigit.1

theorem le_toNat_digitChar : ∀ digit < 16, 0x20 ≤ digit.digitChar.toNat := by decide

theorem Piece.le_toNat_of_mem_spelling (content : Char) :
    ∀ char ∈ (Piece.char content).spelling, 0x20 ≤ char.toNat := by
  generalize hpiece : Piece.char content = piece
  fun_cases Piece.spelling piece with
  | case8 content _ _ _ _ _ _ _ hcontrol =>
      rw [hexadecimal_four _ hcontrol]
      have hhigh := le_toNat_digitChar (content.toNat / 16) (by omega)
      have hlow := le_toNat_digitChar (content.toNat % 16) (by omega)
      simp [hhigh, hlow]
  | case9 content _ _ _ _ _ _ _ hcontrol => simpa using hcontrol
  | case10 => cases hpiece
  | _ => simp

theorem Token.Plain.le_toNat_of_mem_spelling {token : Token} (hplain : token.Plain) :
    ∀ char ∈ token.spelling, 0x20 ≤ char.toNat := by
  cases token with
  | number spelling =>
      obtain ⟨number, rfl⟩ := hplain
      exact fun char hmem => le_toNat_of_isDigit (Numeral.isDigit_of_mem_digits hmem)
  | text content =>
      obtain ⟨chars, rfl⟩ := hplain
      have hpieces : ∀ char ∈ (pieces chars).flatMap Piece.spelling, 0x20 ≤ char.toNat := by
        intro char hmem
        rw [pieces, List.flatMap_map] at hmem
        obtain ⟨content, -, hchar⟩ := List.mem_flatMap.mp hmem
        exact Piece.le_toNat_of_mem_spelling content char hchar
      rw [spelling, List.forall_mem_append, List.forall_mem_cons]
      exact ⟨⟨by simp, hpieces⟩, by simp⟩
  | bool value => cases value <;> simp [spelling]
  | _ => simp [spelling]

/-! ### Values -/

/-- Numbers in decimal digits and texts of whole characters throughout. -/
def Plain (json : Json) : Prop := ∀ token ∈ json.tokens, token.Plain

theorem Token.laidOut_of_plain {tokens : List Token} (hplain : ∀ token ∈ tokens, token.Plain) :
    LaidOut tokens (tokens.flatMap spelling) := by
  induction tokens with
  | nil => exact .nil (List.forall_mem_nil _)
  | cons token tokens ih =>
      rw [List.forall_mem_cons] at hplain
      change LaidOut (token :: tokens) ([] ++ token.spelling ++ tokens.flatMap spelling)
      exact .cons (List.forall_mem_nil _) hplain.1.spelledBy_spelling (ih hplain.2)

theorem parse?_compact {json : Json} (hplain : json.Plain) : parse? json.compact = some json :=
  parse?_of_hasLayout (Token.laidOut_of_plain hplain)

theorem Plain.le_toNat_of_mem_compact {json : Json} (hplain : json.Plain) :
    ∀ char ∈ json.compact, 0x20 ≤ char.toNat := by
  intro char hmem
  obtain ⟨token, htoken, hchar⟩ := List.mem_flatMap.mp hmem
  exact (hplain token htoken).le_toNat_of_mem_spelling char hchar

/-! ### Plain values -/

theorem plain_null : Plain .null := by simp [Plain, tokens, Token.Plain]

theorem plain_ofNat (number : Nat) : (ofNat number).Plain := by
  simp [Plain, ofNat, tokens, Token.Plain]

theorem plain_ofChars (chars : List Char) : (ofChars chars).Plain := by
  simp [Plain, ofChars, tokens, Token.Plain]

private theorem plain_moreItemTokens {items : List Json} (hplain : ∀ item ∈ items, item.Plain) :
    ∀ token ∈ moreItemTokens items, token.Plain := by
  induction items with
  | nil => simp [moreItemTokens, Token.Plain]
  | cons item rest ih =>
      rw [List.forall_mem_cons] at hplain
      rw [moreItemTokens, List.cons_append, List.forall_mem_cons, List.forall_mem_append]
      exact ⟨trivial, hplain.1, ih hplain.2⟩

theorem plain_array {items : List Json} (hplain : ∀ item ∈ items, item.Plain) :
    (array items).Plain := by
  cases items with
  | nil => simp [Plain, tokens, itemTokens, Token.Plain]
  | cons item rest =>
      rw [List.forall_mem_cons] at hplain
      rw [Plain, tokens, itemTokens, List.forall_mem_cons, List.forall_mem_append]
      exact ⟨trivial, hplain.1, plain_moreItemTokens hplain.2⟩

private theorem plain_moreMemberTokens {members : List (String × Json)}
    (hplain : ∀ member ∈ members, member.2.Plain) :
    ∀ token ∈ moreMemberTokens (members.map fun (key, value) => (pieces key.toList, value)),
      token.Plain := by
  induction members with
  | nil => simp [moreMemberTokens, Token.Plain]
  | cons member rest ih =>
      rw [List.forall_mem_cons] at hplain
      rw [List.map_cons, moreMemberTokens]
      simp only [List.cons_append, List.forall_mem_cons, List.forall_mem_append]
      exact ⟨trivial, ⟨_, rfl⟩, trivial, hplain.1, ih hplain.2⟩

theorem plain_ofMembers {members : List (String × Json)}
    (hplain : ∀ member ∈ members, member.2.Plain) : (ofMembers members).Plain := by
  cases members with
  | nil => simp [Plain, ofMembers, tokens, memberTokens, Token.Plain]
  | cons member rest =>
      rw [List.forall_mem_cons] at hplain
      rw [Plain, ofMembers, List.map_cons, tokens, memberTokens]
      simp only [List.cons_append, List.forall_mem_cons, List.forall_mem_append]
      exact ⟨trivial, ⟨_, rfl⟩, trivial, hplain.1, plain_moreMemberTokens hplain.2⟩

end KeyScript.Json
