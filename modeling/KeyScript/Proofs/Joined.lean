import KeyScript.Proofs.Phrase
import KeyScript.Session
import Mathlib.Control.Monad.Basic

/-!
Scripts that are joined. Where the first of two scripts ends with a complete command, nothing of it
reaches into the second: the commands are those of the one and then those of the other, and a fault
of the second is the same fault, as many characters further on as the first is long. So a session on
the joined script is the session on the first with the commands of the second run after it.
-/

namespace KeyScript

namespace Script

/-- The same fault, some characters further on. -/
def Fault.shift (distance : Nat) : Fault → Fault
  | .unsupported letter offset => .unsupported letter (offset + distance)
  | .missingArgument letter offset => .missingArgument letter (offset + distance)

private theorem map_cons_mapError (distance : Nat) (command : Command)
    (result : Except Fault (List Command)) :
    (result.mapError (Fault.shift distance)).map (command :: ·) =
      (result.map (command :: ·)).mapError (Fault.shift distance) := by
  cases result <;> rfl

/-- The offset that reading starts from matters to the faults only. -/
theorem readFrom_add_offset (maxCount : UInt64) (offset distance : Nat) (run keys : List Char) :
    readFrom maxCount (offset + distance) run keys =
      (readFrom maxCount offset run keys).mapError (Fault.shift distance) := by
  fun_induction readFrom maxCount offset run keys with
  | case1 => rfl
  | case2 offset run key rest hdigit ih =>
      rw [readFrom_of_isDigit _ _ _ hdigit, Nat.add_right_comm, ih]
  | case3 offset run key rest hdigit count command hcommand ih =>
      rw [readFrom_of_bare? _ _ _ hdigit hcommand, Nat.add_right_comm, ih, map_cons_mapError]
  | case4 offset run key rest hdigit count hnone hargument =>
      exact readFrom_of_withArgument?_eq_none _ _ _ hdigit hnone hargument _
  | case5 offset run key hdigit count hnone command hcommand =>
      exact readFrom_of_missing _ _ _ hdigit hnone hcommand
  | case6 offset run key hdigit count hnone command argument rest hcommand ih =>
      rw [readFrom_of_withArgument? _ _ _ hdigit hnone hcommand, Nat.add_right_comm, ih,
        map_cons_mapError]

theorem read_append {maxCount : UInt64} {front : List Char} {commands : List Command}
    (hread : read maxCount front = .ok commands) (hcomplete : Complete front) (rest : List Char) :
    read maxCount (front ++ rest) =
      ((read maxCount rest).mapError (Fault.shift front.length)).map (commands ++ ·) := by
  obtain ⟨phrases, rfl⟩ := hcomplete
  rw [read_phrases] at hread
  cases hread
  rw [read, readFrom_phrases, readFrom_add_offset]
  rfl

end Script

namespace Session

/-- A script that begins with a complete one is read and run as two sessions in a row: where the
rest has no fault, its commands come after those of the first, and run on the editor that the first
leaves behind; where it has one, that is the fault of the whole, further on by the length of the
first. -/
theorem run_joined (settings : Settings) (text : String) {first : String} {opening : Session}
    (hopening : run settings text first = .ok opening)
    (hcomplete : Script.Complete first.toList) (second : String) :
    (∀ commands, Script.read settings.script.maxCount second.toList = .ok commands →
      run settings text (first ++ second) =
        .ok { commands := opening.commands ++ commands, editor := opening.editor.run commands }) ∧
    (∀ fault, Script.read settings.script.maxCount second.toList = .error fault →
      run settings text (first ++ second) = .error (fault.shift first.length)) := by
  obtain ⟨hread, heditor⟩ := run_eq_ok_iff.mp hopening
  have hjoined := Script.read_append hread hcomplete second.toList
  rw [← String.toList_append, String.length_toList] at hjoined
  constructor
  · intro commands hcommands
    rw [hcommands] at hjoined
    refine run_eq_ok_iff.mpr ⟨hjoined, ?_⟩
    rw [Editor.run, List.foldl_append, ← heditor]
    rfl
  · intro fault hfault
    rw [hfault] at hjoined
    exact run_eq_error_iff.mpr hjoined

/-- The first script ends with a digit, but as an argument, and has a character of two bytes. -/
theorem run_joined_digit_argument :
    Script.Complete "fär5".toList ∧
    (∃ session : Session, run {} "xäb" "fär52l" = .ok session ∧
      session.commands = [.moveToNext 'ä', .replace .one '5', .moveRight (.times 2)] ∧
      session.editor.snapshot = ⟨2, ⟨['x', '5', 'b']⟩⟩) ∧
    run {} "xäb" "fär57q" = .error (.unsupported 'q' 5) := by
  have hcomplete : Script.Complete "fär5".toList :=
    ⟨[⟨[], by simp, .moveToNext 'ä'⟩, ⟨[], by simp, .replace '5'⟩], by decide⟩
  have hopening : run {} "xäb" "fär5" = .ok ⟨[.moveToNext 'ä', .replace .one '5'], _⟩ :=
    run_eq_ok_iff.mpr ⟨by decide +kernel, rfl⟩
  refine ⟨hcomplete, ?_, ?_⟩
  · exact ⟨_, (run_joined {} "xäb" hopening hcomplete "2l").1 [.moveRight (.times 2)]
      (by decide +kernel), rfl, by decide⟩
  · exact (run_joined {} "xäb" hopening hcomplete "7q").2 (.unsupported 'q' 1) (by decide +kernel)

end Session

end KeyScript
