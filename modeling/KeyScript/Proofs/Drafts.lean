import KeyScript.CommandLine.Draft
import Mathlib.Data.Option.Basic

/-!
Drafts by the values they have. A draft is told by what it has for each parameter, written out, and
by its script. Storing a value that the parameter accepts adds it to what the draft has, in the form
in which it is kept, and changes nothing else; so the order in which values are stored does not
matter, and a draft that has come about by storing has only values in the form in which they are
kept. Later proofs do not unfold `store`.
-/

namespace KeyScript.CommandLine

/-- The plain digits of a number. -/
def numeral (number : UInt64) : String := String.ofList (Numeral.digits number.toNat)

/-- What is kept of a value that a parameter is given: a text as it is, a path if it is not empty,
and a number in plain digits. -/
def Parameter.kept? (value : String) : Parameter → Option String
  | .text => some value
  | .textFile | .config => if value.isEmpty then none else some value
  | .maxCount | .historyLimit => (number? value).map numeral

theorem numeral_injective : Function.Injective numeral := by
  intro number other heq
  have hvalue := congrArg (fun written => Numeral.value (String.toList written)) heq
  simp only [numeral, String.toList_ofList, Numeral.value_digits] at hvalue
  exact UInt64.toNat_inj.mp hvalue

theorem number?_numeral (number : UInt64) : number? (numeral number) = some number := by
  rw [number?, numeral, String.toList_ofList]
  split
  · rename_i rest hplus
    -- The numeral would have to begin with a plus sign, but it begins with a digit.
    have hdigit : '+'.isDigit :=
      Numeral.isDigit_of_mem_digits (by rw [hplus]; exact List.mem_cons_self)
    exact absurd hdigit (by decide)
  · exact Numeral.word?_digits number

/-- What has been kept is kept as it is. -/
theorem Parameter.kept?_kept {parameter : Parameter} {value kept : String}
    (hkept : parameter.kept? value = some kept) : parameter.kept? kept = some kept := by
  cases parameter with
  | text => rfl
  | textFile | config =>
      dsimp only [kept?] at hkept ⊢
      split at hkept
      · cases hkept
      · rename_i hpath
        cases hkept
        rw [if_neg hpath]
  | maxCount | historyLimit =>
      obtain ⟨number, -, rfl⟩ := Option.map_eq_some_iff.mp hkept
      rw [kept?, number?_numeral, Option.map_some]

namespace Draft

/-- What the draft has for a parameter, written out. -/
def value? (draft : Draft) : Parameter → Option String
  | .text => draft.text
  | .textFile => draft.textFile
  | .config => draft.config
  | .maxCount => draft.maxCount.map numeral
  | .historyLimit => draft.historyLimit.map numeral

theorem has_eq_isSome_value? (draft : Draft) (parameter : Parameter) :
    draft.has parameter = (draft.value? parameter).isSome := by
  cases parameter <;> simp [has, value?]

theorem eq_of_value?_eq {left right : Draft}
    (hvalue : ∀ parameter, left.value? parameter = right.value? parameter)
    (hscript : left.script = right.script) : left = right := by
  have htext := hvalue .text
  have htextFile := hvalue .textFile
  have hconfig := hvalue .config
  have hmaxCount := Option.map_injective numeral_injective (hvalue .maxCount)
  have hlimit := Option.map_injective numeral_injective (hvalue .historyLimit)
  cases left
  cases right
  cases htext
  cases htextFile
  cases hconfig
  cases hmaxCount
  cases hlimit
  cases hscript
  rfl

/-! ### Storing -/

variable {draft stored : Draft} {parameter : Parameter} {value : String}

theorem exists_store_eq_ok {kept : String} (hfree : draft.value? parameter = none)
    (hkept : parameter.kept? value = some kept) :
    ∃ stored, draft.store parameter value = .ok stored ∧ stored.script = draft.script ∧
      ∀ other, stored.value? other =
        if other = parameter then some kept else draft.value? other := by
  have hplace : ¬draft.has parameter := by simp [has_eq_isSome_value?, hfree]
  unfold store
  rw [if_neg hplace]
  cases parameter with
  | text =>
      cases hkept
      exact ⟨_, rfl, rfl, fun other => by cases other <;> rfl⟩
  | textFile | config =>
      dsimp only [Parameter.kept?] at hkept ⊢
      split at hkept
      · cases hkept
      · rename_i hpath
        cases hkept
        rw [if_neg hpath]
        exact ⟨_, rfl, rfl, fun other => by cases other <;> rfl⟩
  | maxCount | historyLimit =>
      obtain ⟨number, hnumber, rfl⟩ := Option.map_eq_some_iff.mp hkept
      simp only [hnumber]
      exact ⟨_, rfl, rfl, fun other => by cases other <;> rfl⟩

theorem store_ne_ok (hkept : parameter.kept? value = none) :
    draft.store parameter value ≠ .ok stored := by
  intro hstore
  unfold store at hstore
  split at hstore
  · cases hstore
  · cases parameter with
    | text => cases hkept
    | textFile | config =>
        dsimp only [Parameter.kept?] at hkept hstore
        split at hkept
        · rename_i hpath
          rw [if_pos hpath] at hstore
          cases hstore
        · cases hkept
    | maxCount | historyLimit =>
        have hnumber := Option.map_eq_none_iff.mp hkept
        simp only [hnumber] at hstore
        cases hstore

theorem value?_of_store_eq_ok (hstore : draft.store parameter value = .ok stored) :
    ∃ kept, parameter.kept? value = some kept ∧
      ∀ other, stored.value? other =
        if other = parameter then some kept else draft.value? other := by
  have hfree : draft.value? parameter = none := by
    by_contra hheld
    have hplace : draft.has parameter := by
      rw [has_eq_isSome_value?]
      exact Option.isSome_iff_ne_none.mpr hheld
    unfold store at hstore
    rw [if_pos hplace] at hstore
    cases hstore
  cases hkept : parameter.kept? value with
  | none => exact absurd hstore (store_ne_ok hkept)
  | some kept =>
      obtain ⟨other, hother, -, hvalue⟩ := exists_store_eq_ok hfree hkept
      cases hother.symm.trans hstore
      exact ⟨kept, rfl, hvalue⟩

/-! ### Rows of values -/

/-- The draft has the values of the row and no others. -/
def Holds (draft : Draft) (row : List (Parameter × String)) : Prop :=
  ∀ parameter value, draft.value? parameter = some value ↔ (parameter, value) ∈ row

namespace Holds

variable {row : List (Parameter × String)}

theorem nil : ({} : Draft).Holds [] := by
  intro parameter value
  cases parameter <;> simp [value?]

theorem perm (hholds : draft.Holds row) {other : List (Parameter × String)}
    (hperm : row.Perm other) : draft.Holds other :=
  fun parameter value => (hholds parameter value).trans hperm.mem_iff

theorem eq {other : Draft} (hholds : draft.Holds row) (hother : other.Holds row)
    (hscript : draft.script = other.script) : draft = other := by
  apply eq_of_value?_eq _ hscript
  intro parameter
  apply Option.ext
  intro value
  rw [hholds, hother]

/-- A value that is stored joins those that the draft has. -/
theorem exists_store_eq_ok (hholds : draft.Holds row) (hnew : parameter ∉ row.map Prod.fst)
    (hkept : parameter.kept? value = some value) :
    ∃ stored, draft.store parameter value = .ok stored ∧ stored.script = draft.script ∧
      stored.Holds ((parameter, value) :: row) := by
  have hfree : draft.value? parameter = none := by
    rw [Option.eq_none_iff_forall_ne_some]
    intro held hheld
    exact hnew (List.mem_map_of_mem ((hholds parameter held).mp hheld))
  obtain ⟨stored, hstore, hscript, hvalue⟩ := Draft.exists_store_eq_ok hfree hkept
  refine ⟨stored, hstore, hscript, ?_⟩
  intro other held
  rw [hvalue, List.mem_cons, Prod.mk.injEq]
  by_cases hother : other = parameter
  · subst hother
    have hnone : (other, held) ∉ row := fun hmem => hnew (List.mem_map_of_mem hmem)
    rw [if_pos rfl, Option.some.injEq]
    simp [hnone, eq_comm]
  · rw [if_neg hother, hholds]
    simp [hother]

end Holds

/-! ### All drafts -/

/-- A draft as it can come about: values are stored and the script is set, from nothing on. -/
inductive Built : Draft → Prop
  | empty : Built {}
  | store {draft stored : Draft} {parameter : Parameter} {value : String} (hbuilt : Built draft)
      (hstore : draft.store parameter value = .ok stored) : Built stored
  | script {draft : Draft} (hbuilt : Built draft) (script : String) :
      Built { draft with script := some script }

theorem Built.kept?_eq (hbuilt : draft.Built) (hvalue : draft.value? parameter = some value) :
    parameter.kept? value = some value := by
  induction hbuilt with
  | empty => cases parameter <;> cases hvalue
  | store _ hstore ih =>
      obtain ⟨kept, hkept, hstored⟩ := value?_of_store_eq_ok hstore
      rw [hstored] at hvalue
      split at hvalue
      · rename_i heq
        cases hvalue
        rw [heq]
        exact Parameter.kept?_kept hkept
      · exact ih hvalue
  | script _ _ ih => exact ih hvalue

end Draft

end KeyScript.CommandLine
