import KeyScript.CommandLine
import KeyScript.Proofs.Drafts
import Mathlib.Control.Monad.Basic
import Mathlib.Data.List.Nodup

/-!
Requests as command lines. A request is written with the value of each parameter attached to its
name and the script behind two dashes; its options may be written in any order, and reading them
gives the request back. In the other direction, whatever is read, in whatever form its options are
given, is consistent, because the drafts that the reader goes through only come about by storing
values and setting the script.
-/

namespace KeyScript.CommandLine

/-- The argument that gives a parameter its value: two dashes, the name, an equals sign, the value. -/
def attached (given : Parameter × String) : String :=
  "--" ++ given.1.name ++ "=" ++ given.2

def Parameter.all : List Parameter := [.text, .textFile, .config, .maxCount, .historyLimit]

end KeyScript.CommandLine

/-! ### Requests and their options -/

namespace KeyScript.Request

open CommandLine

/-- What command lines are able to ask for: there is one text at most, and no path is empty. -/
structure Consistent (request : Request) : Prop where
  not_two_texts : ¬(request.text.isSome ∧ request.textFile.isSome)
  textFile_ne : request.textFile ≠ some ""
  config_ne : request.config ≠ some ""

/-- The draft of the request before its script is known. -/
def draft (request : Request) : Draft where
  text := request.text
  textFile := request.textFile
  config := request.config
  maxCount := request.maxCount
  historyLimit := request.historyLimit

/-- The parameters that the request sets, with their values written out. -/
def options (request : Request) : List (Parameter × String) :=
  Parameter.all.filterMap fun parameter =>
    (request.draft.value? parameter).map fun value => (parameter, value)

variable {request : Request}

theorem holds_options (request : Request) : request.draft.Holds request.options := by
  intro parameter value
  have hmem : parameter ∈ Parameter.all := by cases parameter <;> decide
  simp [options, hmem]

theorem nodup_options (request : Request) : (request.options.map Prod.fst).Nodup := by
  have hset : request.options.map Prod.fst = Parameter.all.filter request.draft.has := by
    rw [options, List.map_filterMap, ← List.filterMap_eq_filter]
    apply List.filterMap_congr
    intro parameter _
    rw [Option.map_map, Option.guard, Draft.has_eq_isSome_value?]
    cases request.draft.value? parameter <;> rfl
  rw [hset]
  exact List.Nodup.filter _ (by decide)

theorem Consistent.kept?_eq (hconsistent : request.Consistent) {parameter : Parameter}
    {value : String} (hvalue : request.draft.value? parameter = some value) :
    parameter.kept? value = some value := by
  cases parameter with
  | text => rfl
  | textFile =>
      have hpath : value ≠ "" := fun hempty => hconsistent.textFile_ne (hempty ▸ hvalue)
      exact if_neg (mt String.isEmpty_iff.mp hpath)
  | config =>
      have hpath : value ≠ "" := fun hempty => hconsistent.config_ne (hempty ▸ hvalue)
      exact if_neg (mt String.isEmpty_iff.mp hpath)
  | maxCount | historyLimit =>
      obtain ⟨number, -, rfl⟩ := Option.map_eq_some_iff.mp hvalue
      rw [Parameter.kept?, number?_numeral, Option.map_some]

theorem Consistent.finish_draft (hconsistent : request.Consistent) :
    Draft.finish { request.draft with script := some request.script } = .ok request := by
  unfold Draft.finish
  rw [if_neg (by simpa [draft] using hconsistent.not_two_texts)]
  rfl

end KeyScript.Request

namespace KeyScript.CommandLine

/-! ### Reading attached options -/

theorem toList_attached (parameter : Parameter) (value : String) :
    (attached (parameter, value)).toList =
      '-' :: '-' :: (parameter.name.toList ++ '=' :: value.toList) := by
  simp only [attached, String.toList_append]
  simp

theorem Shape.ofChars_long {name : List Char} (hname : '=' ∉ name) (value : List Char) :
    ofChars ('-' :: '-' :: (name ++ '=' :: value)) =
      .long (String.ofList name) (some (String.ofList value)) := by
  have hbefore : ∀ char ∈ name, decide (char ≠ '=') = true :=
    fun char hchar => decide_eq_true fun heq => hname (heq ▸ hchar)
  rw [ofChars]
  · rw [List.takeWhile_append_of_pos hbefore, List.takeWhile_cons_of_neg (by simp),
      List.append_nil, List.dropWhile_append_of_pos hbefore, List.dropWhile_cons_of_neg (by simp)]
    rfl
  -- The equals sign is behind the dashes, so these are not two dashes alone.
  · simp

theorem Parameter.not_mem_name (parameter : Parameter) : '=' ∉ parameter.name.toList := by
  cases parameter <;> decide

theorem Named.ofName?_name (parameter : Parameter) :
    ofName? parameter.name = some (.parameter parameter) := by
  cases parameter <;> rfl

namespace Reading

theorem step_attached (draft : Draft) (parameter : Parameter) (value : String) :
    step { draft } (attached (parameter, value)) =
      (draft.store parameter value).map fun draft => { draft } := by
  rw [step, if_neg (by simp), toList_attached, Shape.ofChars_long parameter.not_mem_name]
  simp only [String.ofList_toList, Named.ofName?_name]
  rfl

/-- Options for different parameters are all taken, and the draft has their values in the end. -/
theorem exists_foldlM_attached {row before : List (Parameter × String)}
    (hkept : ∀ given ∈ row, given.1.kept? given.2 = some given.2)
    (hnodup : ((row ++ before).map Prod.fst).Nodup) {draft : Draft} (hholds : draft.Holds before) :
    ∃ last, (row.map attached).foldlM step { draft } = .ok { draft := last } ∧
      last.script = draft.script ∧ last.Holds (row ++ before) := by
  induction row generalizing before draft with
  | nil => exact ⟨draft, rfl, rfl, hholds⟩
  | cons given rest ih =>
      obtain ⟨parameter, value⟩ := given
      rw [List.forall_mem_cons] at hkept
      have hperm : (rest ++ (parameter, value) :: before).Perm
          ((parameter, value) :: rest ++ before) := List.perm_middle
      have hmoved := (hperm.map Prod.fst).nodup_iff.mpr hnodup
      rw [List.cons_append, List.map_cons, List.nodup_cons, List.map_append] at hnodup
      have hnew : parameter ∉ before.map Prod.fst :=
        fun hmem => hnodup.1 (List.mem_append_right _ hmem)
      obtain ⟨stored, hstore, hscript, hstored⟩ := hholds.exists_store_eq_ok hnew hkept.1
      obtain ⟨last, hlast, hsame, hall⟩ := ih hkept.2 hmoved hstored
      refine ⟨last, ?_, hsame.trans hscript, hall.perm hperm⟩
      rw [List.map_cons, List.foldlM_cons, step_attached, hstore]
      exact hlast

end Reading

theorem read_attached {request : Request} (hconsistent : request.Consistent)
    {row : List (Parameter × String)} (hrow : row.Perm request.options) :
    read (row.map attached ++ ["--", request.script]) = .ok request := by
  have hkept : ∀ given ∈ row, given.1.kept? given.2 = some given.2 := fun given hmem =>
    hconsistent.kept?_eq ((request.holds_options _ _).mpr (hrow.subset hmem))
  have hnodup : ((row ++ []).map Prod.fst).Nodup := by
    rw [List.append_nil]
    exact (hrow.map Prod.fst).nodup_iff.mpr request.nodup_options
  obtain ⟨last, hlast, hscript, hholds⟩ :=
    Reading.exists_foldlM_attached hkept hnodup Draft.Holds.nil
  rw [List.append_nil] at hholds
  have hdraft : last = request.draft := (hholds.perm hrow).eq request.holds_options hscript
  rw [read, List.foldlM_append, hlast, hdraft]
  exact hconsistent.finish_draft

/-! ### Whatever is read -/

theorem bind_eq_ok_iff {α β : Type} {outcome : Except Stop α} {next : α → Except Stop β}
    {result : β} :
    (do let value ← outcome; next value) = .ok result ↔
      ∃ value, outcome = .ok value ∧ next value = .ok result := by
  cases outcome with
  | error stop => simp [bind, Except.bind]
  | ok value => simp [bind, Except.bind]

namespace Reading

variable {reading next : Reading}

theorem settle_built (hbuilt : reading.draft.Built) {draft : Draft}
    (hsettle : reading.settle = .ok draft) : draft.Built := by
  unfold settle at hsettle
  split at hsettle
  · cases hsettle
    exact hbuilt
  · cases hsettle
  · exact hbuilt.store hsettle

theorem parameter_built (hbuilt : reading.draft.Built) {parameter : Parameter}
    {value : Option String} (hnext : reading.parameter parameter value = .ok next) :
    next.draft.Built := by
  obtain ⟨draft, hsettle, hrest⟩ := bind_eq_ok_iff.mp hnext
  have hdraft := settle_built hbuilt hsettle
  cases value with
  | none =>
      cases hrest
      exact hdraft
  | some value =>
      obtain ⟨stored, hstore, hrest⟩ := bind_eq_ok_iff.mp hrest
      cases hrest
      exact hdraft.store hstore

theorem stop_ne_ok (reason : Stop) : reading.stop reason ≠ .ok next := by
  intro hnext
  obtain ⟨draft, hsettle, hrest⟩ := bind_eq_ok_iff.mp hnext
  cases hrest

theorem script_built (hbuilt : reading.draft.Built) {argument : String}
    (hnext : reading.script argument = .ok next) : next.draft.Built := by
  unfold script at hnext
  split at hnext
  · cases hnext
  · obtain ⟨draft, hsettle, hrest⟩ := bind_eq_ok_iff.mp hnext
    cases hrest
    exact (settle_built hbuilt hsettle).script argument

theorem plain_built (hbuilt : reading.draft.Built) {argument : String}
    (hnext : reading.plain argument = .ok next) : next.draft.Built := by
  unfold plain at hnext
  split at hnext
  · cases hnext
    exact hbuilt
  · exact script_built hbuilt hnext

theorem step_built (hbuilt : reading.draft.Built) {argument : String}
    (hnext : reading.step argument = .ok next) : next.draft.Built := by
  unfold step at hnext
  split at hnext
  · exact script_built hbuilt hnext
  · split at hnext
    -- Two dashes alone.
    · cases hnext
      exact hbuilt
    -- A name behind two dashes.
    · split at hnext
      · cases hnext
      · exact parameter_built hbuilt hnext
      · exact absurd hnext (stop_ne_ok _)
      · exact absurd hnext (stop_ne_ok _)
      · cases hnext
      · cases hnext
    -- A letter behind one dash.
    · split at hnext
      · cases hnext
      · exact parameter_built hbuilt hnext
      · exact absurd hnext (stop_ne_ok _)
      · exact absurd hnext (stop_ne_ok _)
    · exact plain_built hbuilt hnext

theorem foldlM_step_built {arguments : List String} (hbuilt : reading.draft.Built)
    (hnext : arguments.foldlM step reading = .ok next) : next.draft.Built := by
  induction arguments generalizing reading with
  | nil =>
      cases hnext
      exact hbuilt
  | cons argument rest ih =>
      rw [List.foldlM_cons] at hnext
      obtain ⟨middle, hstep, hrest⟩ := bind_eq_ok_iff.mp hnext
      exact ih (step_built hbuilt hstep) hrest

end Reading

variable {arguments : List String} {request : Request}

theorem exists_built_of_read_eq_ok (hread : read arguments = .ok request) :
    ∃ draft : Draft, draft.Built ∧ draft.finish = .ok request := by
  obtain ⟨reading, hfold, hrest⟩ := bind_eq_ok_iff.mp hread
  obtain ⟨draft, hsettle, hfinish⟩ := bind_eq_ok_iff.mp hrest
  exact ⟨draft, Reading.settle_built (Reading.foldlM_step_built .empty hfold) hsettle, hfinish⟩

theorem Draft.Built.consistent_of_finish_eq_ok {draft : Draft} (hbuilt : draft.Built)
    (hfinish : draft.finish = .ok request) : request.Consistent := by
  have htextFile : draft.textFile ≠ some "" := by
    intro hempty
    have hkept : Parameter.textFile.kept? "" = some "" := hbuilt.kept?_eq hempty
    exact absurd hkept (by decide)
  have hconfig : draft.config ≠ some "" := by
    intro hempty
    have hkept : Parameter.config.kept? "" = some "" := hbuilt.kept?_eq hempty
    exact absurd hkept (by decide)
  unfold Draft.finish at hfinish
  split at hfinish
  · cases hfinish
  · rename_i hone
    split at hfinish
    · cases hfinish
    · cases hfinish
      exact ⟨by simpa using hone, htextFile, hconfig⟩

/-- A consistent request is read back from its options in any order, with its script behind two
dashes; and every request that is read is consistent. -/
theorem read_options_in_any_order :
    (∀ request : Request, request.Consistent →
      ∀ row : List (Parameter × String), row.Perm request.options →
        read (row.map attached ++ ["--", request.script]) = .ok request) ∧
    (∀ arguments request, read arguments = .ok request → request.Consistent) := by
  constructor
  · intro request hconsistent row hrow
    exact read_attached hconsistent hrow
  · intro arguments request hread
    obtain ⟨draft, hbuilt, hfinish⟩ := exists_built_of_read_eq_ok hread
    exact hbuilt.consistent_of_finish_eq_ok hfinish

/-- A text that begins with a dash and has an equals sign, a path of two dashes, the largest number,
a script that is a switch; and options in other forms. -/
theorem read_options_in_any_order_of_four :
    let request : Request :=
      { text := some "-x=é\n", config := some "--", maxCount := some 18446744073709551615,
        historyLimit := some 0, script := "-h" }
    let row : List (Parameter × String) :=
      [(.historyLimit, "0"), (.text, "-x=é\n"), (.maxCount, "18446744073709551615"),
        (.config, "--")]
    let arguments := ["-F=a", "--max-count", "+007", "-cb=", "-", "--history-limit=9"]
    let other : Request :=
      { textFile := some "a", config := some "b=", maxCount := some 7, historyLimit := some 9,
        script := "-" }
    request.Consistent ∧ row.Perm request.options ∧
      read (row.map attached ++ ["--", request.script]) = .ok request ∧
      read arguments = .ok other ∧ other.Consistent := by
  intro request row arguments other
  obtain ⟨hread, hconsistent⟩ := read_options_in_any_order
  have hrequest : request.Consistent := ⟨by decide, by decide, by decide⟩
  have hrow : row.Perm request.options := by decide +kernel
  have hother : read arguments = .ok other := by decide +kernel
  exact ⟨hrequest, hrow, hread request hrequest row hrow, hother,
    hconsistent arguments other hother⟩

end KeyScript.CommandLine
