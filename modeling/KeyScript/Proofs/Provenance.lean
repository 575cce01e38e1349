import KeyScript.Proofs.Effect
import Mathlib.Data.List.Forall2
import Mathlib.Data.List.NodupEquivFin

/-!
Where the characters of a text come from. Every character stands in the place of one of the fresh
text, and the places keep their order; it is that character still, or one that was typed over it.
Deleting only gives up places, overwriting only changes what stands in one, and no command moves a
character past another. An undo brings a longer text back, but one that came from the fresh text in
the same way.
-/

namespace KeyScript

/-- A character that stands in the place of another is the same, or was typed. -/
def Retyped (typed : Char → Prop) (character old : Char) : Prop := character = old ∨ typed character

instance retyped_refl (typed : Char → Prop) : Std.Refl (Retyped typed) := ⟨fun _ => Or.inl rfl⟩

instance retyped_trans (typed : Char → Prop) : IsTrans Char (Retyped typed) where
  trans := by
    rintro newest newer old (rfl | htyped) hold
    · exact hold
    · exact Or.inr htyped

namespace Text

/-- What is left of the origin, character by character, when places are given up and characters are
typed over others. -/
def StemsFrom (typed : Char → Prop) (text origin : Text) : Prop :=
  List.SublistForall₂ (Retyped typed) text.chars origin.chars

variable {typed : Char → Prop}

theorem stemsFrom_refl (text : Text) : text.StemsFrom typed text :=
  List.SublistForall₂.is_refl.refl text.chars

theorem StemsFrom.trans {text middle origin : Text} (htext : text.StemsFrom typed middle)
    (hmiddle : middle.StemsFrom typed origin) : text.StemsFrom typed origin :=
  List.SublistForall₂.is_trans.trans _ _ _ htext hmiddle

theorem StemsFrom.length_le {text origin : Text} (hstems : text.StemsFrom typed origin) :
    text.length ≤ origin.length := by
  obtain ⟨replaced, hpointwise, hsublist⟩ := List.sublistForall₂_iff.mp hstems
  exact Nat.le_trans (Nat.le_of_eq hpointwise.length_eq) hsublist.length_le

/-- The characters have places in the origin, in the same order. -/
theorem StemsFrom.exists_places {text origin : Text} (hstems : text.StemsFrom typed origin) :
    ∃ place : Fin text.length → Fin origin.length, StrictMono place ∧
      ∀ index, text.chars.get index = origin.chars.get (place index) ∨
        typed (text.chars.get index) := by
  obtain ⟨replaced, hpointwise, hsublist⟩ := List.sublistForall₂_iff.mp hstems
  obtain ⟨place, hplace⟩ := List.sublist_iff_exists_fin_orderEmbedding_get_eq.mp hsublist
  refine ⟨fun index => place (index.cast hpointwise.length_eq), ?_, ?_⟩
  · exact place.strictMono.comp (Fin.cast_strictMono hpointwise.length_eq)
  · intro index
    rw [← hplace]
    exact hpointwise.get index.isLt (index.cast hpointwise.length_eq).isLt

/-- Where nothing is typed, characters are only given up. -/
theorem StemsFrom.sublist {text origin : Text} (hstems : text.StemsFrom typed origin)
    (hnone : ∀ character, ¬typed character) : text.chars.Sublist origin.chars := by
  obtain ⟨replaced, hpointwise, hsublist⟩ := List.sublistForall₂_iff.mp hstems
  have hsame : List.Forall₂ Eq text.chars replaced :=
    hpointwise.imp fun character _ hold => hold.resolve_right (hnone character)
  rw [List.forall₂_eq_eq_eq] at hsame
  rw [hsame]
  exact hsublist

/-! ### Edits -/

theorem forall₂_retyped_set {character : Char} (htyped : typed character) (chars : List Char)
    (index : Nat) : List.Forall₂ (Retyped typed) (chars.set index character) chars := by
  induction chars generalizing index with
  | nil => exact List.Forall₂.nil
  | cons first rest ih =>
      cases index with
      | zero => exact List.Forall₂.cons (Or.inr htyped) (List.forall₂_refl rest)
      | succ index => exact List.Forall₂.cons (Or.inl rfl) (ih index)

theorem stemsFrom_of_replace?_eq_some {character : Char} (htyped : typed character)
    {text changed : Text} {index : Nat}
    (hreplace : text.replace? index character = some changed) : changed.StemsFrom typed text := by
  unfold replace? at hreplace
  split at hreplace
  · cases hreplace
    have hpointwise := forall₂_retyped_set htyped text.chars index
    exact List.sublistForall₂_iff.mpr ⟨text.chars, hpointwise, List.Sublist.refl _⟩
  · cases hreplace

theorem stemsFrom_delete {text : Text} (htext : text.length ≤ maxWord) (start count : Nat) :
    (text.delete start count).1.StemsFrom typed text := by
  have hbehind : (text.chars.drop (start + count)).Sublist (text.chars.drop start) := by
    rw [← List.drop_drop]
    exact List.drop_sublist _ _
  have hsublist := (List.Sublist.refl (text.chars.take start)).append hbehind
  rw [← chars_delete htext, List.take_append_drop] at hsublist
  exact hsublist.sublistForall₂

theorem stemsFrom_strokes {character : Char} (htyped : typed character) (count : Nat) (text : Text)
    (cursor : Nat) : (Editor.strokes character count text cursor).1.StemsFrom typed text := by
  induction count generalizing text cursor with
  | zero => exact stemsFrom_refl text
  | succ count ih =>
      rw [Editor.strokes]
      split
      · exact stemsFrom_refl text
      · rename_i changed hreplace
        have hchanged := stemsFrom_of_replace?_eq_some htyped hreplace
        split
        · exact hchanged
        · exact (ih changed (cursor + 1)).trans hchanged

end Text

theorem Command.stemsFrom_effect {typed : Char → Prop} {command : Command}
    (htyped : ∀ count character, command = .replace count character → typed character)
    {snapshot : Snapshot} (htext : snapshot.text.length ≤ maxWord) :
    (command.effect snapshot).text.StemsFrom typed snapshot.text := by
  cases command with
  | moveLeft | moveRight | moveToNext => exact Text.stemsFrom_refl _
  | replace count character =>
      have hcharacter := htyped count character rfl
      by_cases hcount : count = .one
      · rw [hcount, effect_replace_one]
        cases hreplace : snapshot.text.replace? snapshot.cursor character with
        | none => exact Text.stemsFrom_refl _
        | some changed => exact Text.stemsFrom_of_replace?_eq_some hcharacter hreplace
      · rw [effect_replace hcount]
        exact Text.stemsFrom_strokes hcharacter _ _ _
  | delete count => exact Text.stemsFrom_delete htext _ _
  | undo count =>
      rw [effect_undo]
      exact Text.stemsFrom_refl _

namespace Editor

/-- A character that one of the commands types over others. -/
def Types (commands : List Command) (character : Char) : Prop :=
  ∃ count, .replace count character ∈ commands

theorem stemsFrom_run {text : Text} (htext : text.length ≤ maxWord) (settings : HistorySettings)
    (commands : List Command) :
    ∀ snapshot ∈ ((start text settings).run commands).trail,
      snapshot.text.StemsFrom (Types commands) text := by
  apply forall_mem_trail_run
  · exact Text.stemsFrom_refl text
  · intro command hmem _ snapshot hstems
    -- A text that stems from the fresh one is no longer than that, so its length is a word too.
    have htyped : ∀ count character, command = .replace count character →
        Types commands character := fun count character heq => ⟨count, heq ▸ hmem⟩
    exact (Command.stemsFrom_effect htyped (Nat.le_trans hstems.length_le htext)).trans hstems

/-- Whatever commands were given, the characters of the present text, and of every text in the
history, have places in the fresh text, in strictly increasing order: each of them is the character
of its place, or the argument of a command that overwrites. Without such commands each text is what
is left of the fresh text when characters are struck out. -/
theorem exists_places_run {text : Text} (htext : text.length ≤ maxWord)
    (settings : HistorySettings) (commands : List Command) :
    let editor := (start text settings).run commands
    ∀ snapshot ∈ editor.snapshot :: editor.history.stack,
      (∃ place : Fin snapshot.text.length → Fin text.length, StrictMono place ∧
        ∀ index, snapshot.text.chars.get index = text.chars.get (place index) ∨
          ∃ count, .replace count (snapshot.text.chars.get index) ∈ commands) ∧
      ((∀ count character, .replace count character ∉ commands) →
        snapshot.text.chars.Sublist text.chars) := by
  intro editor snapshot hmem
  have hstems := stemsFrom_run htext settings commands snapshot hmem
  refine ⟨hstems.exists_places, fun hnone => hstems.sublist ?_⟩
  rintro character ⟨count, htyped⟩
  exact hnone count character htyped

/-- One character is deleted, and then two are typed over; before that the text is short of one
character, and the others are as they were. -/
theorem exists_places_run_deleted_and_typed :
    let commands := [.moveRight .one, .delete .one, .replace (.times 2) 'z']
    let editor := (start ⟨['a', 'b', 'c', 'd', 'e']⟩ {}).run commands
    editor.text.chars = ['a', 'z', 'z', 'e'] ∧
    (∃ place : Fin editor.text.length → Fin 5, StrictMono place ∧
      ∀ index, editor.text.chars.get index = ['a', 'b', 'c', 'd', 'e'].get (place index) ∨
        ∃ count, .replace count (editor.text.chars.get index) ∈ commands) ∧
    (['a', 'c', 'd', 'e'] : List Char).Sublist ['a', 'b', 'c', 'd', 'e'] := by
  intro commands editor
  have hplaces := (@exists_places_run ⟨['a', 'b', 'c', 'd', 'e']⟩ (by decide) {} commands
    editor.snapshot List.mem_cons_self).1
  have hsublist := (@exists_places_run ⟨['a', 'b', 'c', 'd', 'e']⟩ (by decide) {}
    [.moveRight .one, .delete .one] _ List.mem_cons_self).2 (by simp)
  exact ⟨by decide, hplaces, hsublist⟩

end Editor

end KeyScript
