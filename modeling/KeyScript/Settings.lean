import KeyScript.Numeral

/-!
Settings of a session. All values have defaults, and `validate` refuses the two that would leave
nothing to work with: no literal count at all, and no snapshot kept.
-/

namespace KeyScript

/-- How scripts are read. -/
structure ScriptSettings where
  /-- The largest literal count; a larger one is unbounded. -/
  maxCount : UInt64 := 2147483647
  deriving DecidableEq, Repr

/-- How snapshots are kept. -/
structure HistorySettings where
  /-- The largest number of snapshots, if there is one. -/
  limit : Option UInt64 := none
  deriving DecidableEq, Repr

/-- All settings of a session. -/
structure Settings where
  script : ScriptSettings := {}
  history : HistorySettings := {}
  deriving DecidableEq, Repr

namespace Settings

/-- Why settings are refused. -/
inductive Fault
  /-- The setting named by the key may not have the value. -/
  | invalid (key value : String)
  /-- The document does not describe settings. -/
  | malformed
  deriving DecidableEq, Repr

/-- The message of a malformed document ends where a reason may follow. -/
def Fault.message : Fault → String
  | .invalid key value => s!"Invalid value for {key}: {value}"
  | .malformed => "Malformed configuration: "

def withMaxCount (settings : Settings) (maxCount : UInt64) : Settings :=
  { settings with script := { maxCount } }

def withLimit (settings : Settings) (limit : Option UInt64) : Settings :=
  { settings with history := { limit } }

/-- Zero is no largest count, and no limit either; of two faults the count is named. -/
def validate (settings : Settings) : Except Fault Unit :=
  if settings.script.maxCount = 0 then .error (.invalid "parser.max_count" "0")
  else if settings.history.limit = some 0 then .error (.invalid "history.limit" "0")
  else .ok ()

theorem validate_eq_ok_iff {settings : Settings} :
    settings.validate = .ok () ↔
      settings.script.maxCount ≠ 0 ∧ settings.history.limit ≠ some 0 := by
  unfold validate
  split
  · simp_all
  · split <;> simp_all

theorem validate_eq_error_iff {settings : Settings} {fault : Fault} :
    settings.validate = .error fault ↔
      settings.script.maxCount = 0 ∧ fault = .invalid "parser.max_count" "0" ∨
      settings.script.maxCount ≠ 0 ∧ settings.history.limit = some 0 ∧
        fault = .invalid "history.limit" "0" := by
  unfold validate
  split
  · simp_all [eq_comm]
  · split <;> simp_all [eq_comm]

/-- Settings are refused only for a value of zero. -/
theorem exists_invalid_of_validate_eq_error {settings : Settings} {fault : Fault}
    (hcheck : settings.validate = .error fault) : ∃ key, fault = .invalid key "0" := by
  rcases validate_eq_error_iff.mp hcheck with ⟨-, hfault⟩ | ⟨-, -, hfault⟩
  · exact ⟨_, hfault⟩
  · exact ⟨_, hfault⟩

end Settings

end KeyScript
