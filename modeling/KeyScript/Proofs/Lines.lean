import KeyScript.Event
import KeyScript.Proofs.Quoting

/-!
Lines of the journal. A line gives its level, what has happened, and the numbers, the command or the
script that belong to it, each of them so that it can be told where it ends. So no two events are
written alike; and a line has only characters that are seen by themselves, unless it names a file.
-/

namespace KeyScript

/-! ### What is written -/

/-- The characters of a count with the name of its kind. -/
def Count.spelling : Count → List Char
  | .times number => "Times(".toList ++ (Nat.toDigits 10 number.toNat ++ [')'])
  | .unbounded => "Unbounded".toList

theorem Count.toList_named (count : Count) : count.named.toList = count.spelling := by
  cases count with
  | times number =>
      unfold named
      dsimp only [toString, spelling]
      simp
  | unbounded => rfl

/-- The characters of a command with the name of its kind and all it carries. -/
def Command.spelling : Command → List Char
  | .moveLeft count => "MoveLeft(".toList ++ (count.spelling ++ [')'])
  | .moveRight count => "MoveRight(".toList ++ (count.spelling ++ [')'])
  | .replace count character =>
    "Replace(".toList ++
      (count.spelling ++ (", ".toList ++ ((Quoted.character character).toList ++ [')'])))
  | .moveToNext character => "MoveToNext(".toList ++ ((Quoted.character character).toList ++ [')'])
  | .delete count => "Delete(".toList ++ (count.spelling ++ [')'])
  | .undo count => "Undo(".toList ++ (count.spelling ++ [')'])

theorem Command.toList_named (command : Command) : command.named.toList = command.spelling := by
  cases command <;>
  · unfold named
    dsimp only [toString, spelling]
    simp [Count.toList_named]

namespace Event

/-- The characters of a line. -/
def spelling : Event → List Char
  | .scriptRead commands script =>
    "DEBUG parsed ".toList ++
      (Nat.toDigits 10 commands ++ (" command(s) from ".toList ++ (Quoted.text script).toList))
  | .pushed cursor depth =>
    "TRACE history push: cursor=".toList ++
      (Nat.toDigits 10 cursor ++ (" depth=".toList ++ Nat.toDigits 10 depth))
  | .dropped limit excess =>
    "WARN history limit ".toList ++
      (Nat.toDigits 10 limit ++
        (" reached, dropping ".toList ++
          (Nat.toDigits 10 excess ++ " oldest snapshot(s)".toList)))
  | .popped depth => "TRACE history pop: depth=".toList ++ Nat.toDigits 10 depth
  | .applying command cursor =>
    "DEBUG apply ".toList ++
      (command.spelling ++ (" at cursor ".toList ++ Nat.toDigits 10 cursor))
  | .sessionRun commands cursor depth =>
    "DEBUG ran ".toList ++
      (Nat.toDigits 10 commands ++
        (" command(s), cursor=".toList ++
          (Nat.toDigits 10 cursor ++ (" history_depth=".toList ++ Nat.toDigits 10 depth))))
  | .loadingSettings path => "DEBUG loading configuration from ".toList ++ path.toList
  | .requestDone commands cursor =>
    "INFO ".toList ++
      (Nat.toDigits 10 commands ++
        (" command(s) applied, final cursor ".toList ++ Nat.toDigits 10 cursor))

theorem toList_line (event : Event) : event.line.toList = event.spelling := by
  cases event <;>
  · unfold line message
    dsimp only [level, Level.word, toString, spelling]
    simp [Command.toList_named]

/-- The lines as wholes, their levels included. -/
def written : Event → String
  | .scriptRead commands script => s!"DEBUG parsed {commands} command(s) from {Quoted.text script}"
  | .pushed cursor depth => s!"TRACE history push: cursor={cursor} depth={depth}"
  | .dropped limit excess =>
    s!"WARN history limit {limit} reached, dropping {excess} oldest snapshot(s)"
  | .popped depth => s!"TRACE history pop: depth={depth}"
  | .applying command cursor => s!"DEBUG apply {command.named} at cursor {cursor}"
  | .sessionRun commands cursor depth =>
    s!"DEBUG ran {commands} command(s), cursor={cursor} history_depth={depth}"
  | .loadingSettings path => s!"DEBUG loading configuration from {path}"
  | .requestDone commands cursor => s!"INFO {commands} command(s) applied, final cursor {cursor}"

theorem line_eq_written (event : Event) : event.line = event.written := by
  apply String.toList_inj.mp
  rw [toList_line]
  cases event <;>
  · unfold spelling written
    dsimp only [toString]
    simp [Command.toList_named]

end Event

/-! ### Telling lines apart -/

/-- A number is known from its decimal digits, up to words that do not begin with a digit. -/
theorem Numeral.decimal_append_inj {number other : Nat} {words rest more : List Char}
    (hwords : words.head?.any fun char => !char.isDigit)
    (heq : Nat.toDigits 10 number ++ (words ++ rest) = Nat.toDigits 10 other ++ (words ++ more)) :
    number = other ∧ rest = more := by
  cases words with
  | nil => cases hwords
  | cons mark behind =>
      have hdigits : ∀ digit < 10, digit.digitChar.isDigit := by decide
      have hmark : ∀ digit < 10, digit.digitChar ≠ mark := by
        rintro digit hdigit rfl
        simp [hdigits digit hdigit] at hwords
      obtain ⟨hnumber, hbehind⟩ := toDigits_append_cons_inj (by decide) (by decide) hmark heq
      exact ⟨hnumber, List.append_cancel_left hbehind⟩

theorem Count.spelling_append_inj {count other : Count} {rest more : List Char}
    (heq : count.spelling ++ rest = other.spelling ++ more) : count = other ∧ rest = more := by
  unfold spelling at heq
  cases count with
  | times number =>
      cases other with
      | times other =>
          simp only [List.append_assoc] at heq
          obtain ⟨hnumber, hrest⟩ :=
            Numeral.decimal_append_inj (by decide) (List.append_cancel_left heq)
          exact ⟨congrArg times (UInt64.toNat_inj.mp hnumber), hrest⟩
      | unbounded => simp at heq
  | unbounded =>
      cases other with
      | times other => simp at heq
      | unbounded => exact ⟨rfl, List.append_cancel_left heq⟩

theorem Command.spelling_append_inj {command other : Command} {rest more : List Char}
    (heq : command.spelling ++ rest = other.spelling ++ more) : command = other ∧ rest = more := by
  have hcount {name : List Char} {count other : Count}
      (heq : name ++ (count.spelling ++ [')']) ++ rest = name ++ (other.spelling ++ [')']) ++ more) :
      count = other ∧ rest = more := by
    simp only [List.append_assoc] at heq
    obtain ⟨hsame, hrest⟩ := Count.spelling_append_inj (List.append_cancel_left heq)
    exact ⟨hsame, List.append_cancel_left hrest⟩
  unfold spelling at heq
  cases command with
  | moveLeft count =>
      cases other with
      | moveLeft other =>
          obtain ⟨rfl, hrest⟩ := hcount heq
          exact ⟨rfl, hrest⟩
      | _ => simp at heq
  | moveRight count =>
      cases other with
      | moveRight other =>
          obtain ⟨rfl, hrest⟩ := hcount heq
          exact ⟨rfl, hrest⟩
      | _ => simp at heq
  | replace count character =>
      cases other with
      | replace other argument =>
          simp only [List.append_assoc] at heq
          obtain ⟨rfl, hbehind⟩ := Count.spelling_append_inj (List.append_cancel_left heq)
          obtain ⟨rfl, hrest⟩ := Quoted.character_append_inj (List.append_cancel_left hbehind)
          exact ⟨rfl, List.append_cancel_left hrest⟩
      | _ => simp at heq
  | moveToNext character =>
      cases other with
      | moveToNext argument =>
          simp only [List.append_assoc] at heq
          obtain ⟨rfl, hrest⟩ := Quoted.character_append_inj (List.append_cancel_left heq)
          exact ⟨rfl, List.append_cancel_left hrest⟩
      | _ => simp at heq
  | delete count =>
      cases other with
      | delete other =>
          obtain ⟨rfl, hrest⟩ := hcount heq
          exact ⟨rfl, hrest⟩
      | _ => simp at heq
  | undo count =>
      cases other with
      | undo other =>
          obtain ⟨rfl, hrest⟩ := hcount heq
          exact ⟨rfl, hrest⟩
      | _ => simp at heq

namespace Event

theorem line_injective : Function.Injective line := by
  have hnumber {number other : Nat} (heq : Nat.toDigits 10 number = Nat.toDigits 10 other) :
      number = other := Numeral.toDigits_inj (by decide) (by decide) heq
  intro event other hline
  have heq := congrArg String.toList hline
  rw [toList_line, toList_line] at heq
  unfold spelling at heq
  -- Lines of different kinds differ in their first words, and these are set aside otherwise.
  cases event with
  | scriptRead commands script =>
      cases other with
      | scriptRead others text =>
          obtain ⟨rfl, htext⟩ :=
            Numeral.decimal_append_inj (by decide +kernel) (List.append_cancel_left heq)
          rw [Quoted.text_injective (String.toList_inj.mp htext)]
      | _ => simp at heq
  | pushed cursor depth =>
      cases other with
      | pushed place others =>
          obtain ⟨rfl, hdepth⟩ :=
            Numeral.decimal_append_inj (by decide +kernel) (List.append_cancel_left heq)
          rw [hnumber hdepth]
      | _ => simp at heq
  | dropped limit excess =>
      cases other with
      | dropped others number =>
          obtain ⟨rfl, hbehind⟩ :=
            Numeral.decimal_append_inj (by decide +kernel) (List.append_cancel_left heq)
          rw [hnumber (List.append_cancel_right hbehind)]
      | _ => simp at heq
  | popped depth =>
      cases other with
      | popped others => rw [hnumber (List.append_cancel_left heq)]
      | _ => simp at heq
  | applying command cursor =>
      cases other with
      | applying others place =>
          obtain ⟨rfl, hbehind⟩ := Command.spelling_append_inj (List.append_cancel_left heq)
          rw [hnumber (List.append_cancel_left hbehind)]
      | _ => simp at heq
  | sessionRun commands cursor depth =>
      cases other with
      | sessionRun others place number =>
          obtain ⟨rfl, hbehind⟩ :=
            Numeral.decimal_append_inj (by decide +kernel) (List.append_cancel_left heq)
          obtain ⟨rfl, hdepth⟩ := Numeral.decimal_append_inj (by decide +kernel) hbehind
          rw [hnumber hdepth]
      | _ => simp at heq
  | loadingSettings path =>
      cases other with
      | loadingSettings others =>
          rw [String.toList_inj.mp (List.append_cancel_left heq)]
      | _ => simp at heq
  | requestDone commands cursor =>
      cases other with
      | requestDone others place =>
          obtain ⟨rfl, hcursor⟩ :=
            Numeral.decimal_append_inj (by decide +kernel) (List.append_cancel_left heq)
          rw [hnumber hcursor]
      | _ => simp at heq

end Event

/-! ### Looking at lines -/

theorem forall_mem_isVisible_of_ascii {words : List Char}
    (hwords : words.all fun char => 0x20 ≤ char.toNat && char.toNat < 0x7F) :
    ∀ char ∈ words, isVisible char := by
  intro char hmem
  have hchar := List.all_eq_true.mp hwords char hmem
  rw [Bool.and_eq_true, decide_eq_true_eq, decide_eq_true_eq] at hchar
  exact isVisible_of_ascii hchar.1 hchar.2

theorem Numeral.forall_mem_decimal_isVisible (number : Nat) :
    ∀ char ∈ Nat.toDigits 10 number, isVisible char :=
  forall_mem_toDigits_isVisible (by decide) (by decide) number

theorem Count.forall_mem_spelling_isVisible (count : Count) :
    ∀ char ∈ count.spelling, isVisible char := by
  unfold spelling
  cases count with
  | times number =>
      simp only [List.forall_mem_append]
      exact ⟨forall_mem_isVisible_of_ascii (by decide +kernel),
        Numeral.forall_mem_decimal_isVisible _, forall_mem_isVisible_of_ascii (by decide)⟩
  | unbounded => exact forall_mem_isVisible_of_ascii (by decide +kernel)

theorem Command.forall_mem_spelling_isVisible (command : Command) :
    ∀ char ∈ command.spelling, isVisible char := by
  have hclose : ∀ char ∈ [')'], isVisible char := forall_mem_isVisible_of_ascii (by decide)
  unfold spelling
  cases command with
  | moveLeft count | moveRight count | delete count | undo count =>
      simp only [List.forall_mem_append]
      exact ⟨forall_mem_isVisible_of_ascii (by decide +kernel),
        count.forall_mem_spelling_isVisible, hclose⟩
  | replace count character =>
      simp only [List.forall_mem_append]
      exact ⟨forall_mem_isVisible_of_ascii (by decide +kernel),
        count.forall_mem_spelling_isVisible, forall_mem_isVisible_of_ascii (by decide +kernel),
        Quoted.forall_mem_character_isVisible character, hclose⟩
  | moveToNext character =>
      simp only [List.forall_mem_append]
      exact ⟨forall_mem_isVisible_of_ascii (by decide +kernel),
        Quoted.forall_mem_character_isVisible character, hclose⟩

/-- Only the name of a file is written as it is. -/
theorem Event.forall_mem_line_isVisible {event : Event}
    (hpath : ∀ path, event ≠ .loadingSettings path) :
    ∀ char ∈ event.line.toList, isVisible char := by
  have hdigits := Numeral.forall_mem_decimal_isVisible
  rw [toList_line]
  unfold spelling
  cases event with
  | scriptRead commands script =>
      simp only [List.forall_mem_append]
      exact ⟨forall_mem_isVisible_of_ascii (by decide +kernel), hdigits commands,
        forall_mem_isVisible_of_ascii (by decide +kernel), Quoted.forall_mem_text_isVisible script⟩
  | pushed cursor depth =>
      simp only [List.forall_mem_append]
      exact ⟨forall_mem_isVisible_of_ascii (by decide +kernel), hdigits cursor,
        forall_mem_isVisible_of_ascii (by decide +kernel), hdigits depth⟩
  | dropped limit excess =>
      simp only [List.forall_mem_append]
      exact ⟨forall_mem_isVisible_of_ascii (by decide +kernel), hdigits limit,
        forall_mem_isVisible_of_ascii (by decide +kernel), hdigits excess,
        forall_mem_isVisible_of_ascii (by decide +kernel)⟩
  | popped depth =>
      simp only [List.forall_mem_append]
      exact ⟨forall_mem_isVisible_of_ascii (by decide +kernel), hdigits depth⟩
  | applying command cursor =>
      simp only [List.forall_mem_append]
      exact ⟨forall_mem_isVisible_of_ascii (by decide +kernel),
        command.forall_mem_spelling_isVisible, forall_mem_isVisible_of_ascii (by decide +kernel),
        hdigits cursor⟩
  | sessionRun commands cursor depth =>
      simp only [List.forall_mem_append]
      exact ⟨forall_mem_isVisible_of_ascii (by decide +kernel), hdigits commands,
        forall_mem_isVisible_of_ascii (by decide +kernel), hdigits cursor,
        forall_mem_isVisible_of_ascii (by decide +kernel), hdigits depth⟩
  | loadingSettings path => exact absurd rfl (hpath path)
  | requestDone commands cursor =>
      simp only [List.forall_mem_append]
      exact ⟨forall_mem_isVisible_of_ascii (by decide +kernel), hdigits commands,
        forall_mem_isVisible_of_ascii (by decide +kernel), hdigits cursor⟩

end KeyScript
