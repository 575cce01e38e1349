import KeyScript.Proofs.Effect
import KeyScript.Proofs.Reread
import KeyScript.Session
import Mathlib.Data.List.Basic

/-!
Replaying a session. The commands of a session can be typed again, and under the same settings they
lead to the same editor. The keys may be others than before: zeros in front of a count, a count
before `f` and digits at the end are not typed again. The commands may be others too, because where
every literal count is allowed an unbounded one comes back as the literal `maxWord`. What saves the
replay is that a command does not tell apart two counts that ask for the same number of steps.
-/

namespace KeyScript

namespace Count

theorem get_reread_unbounded (maxCount : UInt64) :
    (unbounded.reread maxCount).get = unbounded.get := by
  rw [reread]
  split
  · rfl
  · exact toNat_ofNat_of_le_maxWord (Nat.le_refl _)

/-- A literal count that was read is one, or within the bound that it was read under. -/
theorem ofRun_cases (maxCount : UInt64) (run : List Char) :
    ofRun maxCount run = .unbounded ∨
      ∃ number, ofRun maxCount run = .times number ∧ (number = 1 ∨ number ≤ maxCount) := by
  by_cases hrun : run = []
  · exact Or.inr ⟨1, by rw [hrun, ofRun_nil, one], Or.inl rfl⟩
  · cases hword : Numeral.word? run with
    | none => exact Or.inl (ofRun_of_word?_eq_none hrun hword maxCount)
    | some number =>
        rw [ofRun_of_word?_eq_some hword]
        by_cases hle : number ≤ maxCount
        · exact Or.inr ⟨number, if_pos hle, Or.inr hle⟩
        · exact Or.inl (if_neg hle)

/-- A count that was read asks for the same number of steps when it is typed and read again. -/
theorem get_reread_ofRun (maxCount : UInt64) (run : List Char) :
    ((ofRun maxCount run).reread maxCount).get = (ofRun maxCount run).get := by
  rcases ofRun_cases maxCount run with hrun | ⟨number, hrun, hnumber⟩
  · rw [hrun, get_reread_unbounded]
  · rw [hrun, reread, if_pos hnumber]

end Count

theorem Script.Stem.eq_of_count?_command {stem : Stem} {count other : Count}
    (hcount : (stem.command count).count? = some other) : other = count := by
  cases stem <;> cases hcount <;> rfl

/-- The counts of a script are those of its runs of digits. -/
theorem Script.get_reread_of_mem {maxCount : UInt64} {keys : List Char} {commands : List Command}
    (hread : read maxCount keys = .ok commands) {command : Command} (hmem : command ∈ commands)
    {count : Count} (hcount : command.count? = some count) :
    (count.reread maxCount).get = count.get := by
  obtain ⟨phrases, -, -, -, rfl⟩ := spells_of_read_eq_ok hread
  obtain ⟨phrase, -, rfl⟩ := List.mem_map.mp hmem
  rw [Stem.eq_of_count?_command hcount]
  exact Count.get_reread_ofRun maxCount phrase.run

/-! ### Counts of the same number -/

section

variable {change : Count → Count} {command : Command}
  (hget : ∀ count, command.count? = some count → (change count).get = count.get)

include hget

theorem Command.effect_mapCount (snapshot : Snapshot) :
    (command.mapCount change).effect snapshot = command.effect snapshot := by
  cases command with
  | moveToNext character => rfl
  | moveLeft count => rw [mapCount, effect_moveLeft, effect_moveLeft, hget count rfl]
  | moveRight count => rw [mapCount, effect_moveRight, effect_moveRight, hget count rfl]
  | replace count character =>
      have hone : change count = .one ↔ count = .one := by
        rw [Count.eq_one_iff, Count.eq_one_iff, hget count rfl]
      by_cases hcount : count = .one
      · rw [mapCount, hone.mpr hcount, hcount]
      · rw [mapCount, effect_replace (mt hone.mp hcount), effect_replace hcount, hget count rfl]
  | delete count => rw [mapCount, effect_delete, effect_delete, hget count rfl]
  | undo count => rw [mapCount, effect_undo, effect_undo]

theorem Editor.apply_mapCount (editor : Editor) :
    editor.apply (command.mapCount change) = editor.apply command := by
  by_cases hkeeps : command.keepsSnapshot
  · exact apply_congr ((Command.keepsSnapshot_mapCount change command).trans hkeeps) hkeeps
      (Command.effect_mapCount hget editor.snapshot)
  · cases command with
    | undo count => exact apply_undo_congr (by rw [hget count rfl])
    | _ => exact False.elim (hkeeps rfl)

end

/-- Commands that were read do the same when they are typed and read again. -/
theorem Editor.run_reread {maxCount : UInt64} {keys : List Char} {commands : List Command}
    (hread : Script.read maxCount keys = .ok commands) (editor : Editor) :
    editor.run (commands.map (Command.reread maxCount)) = editor.run commands := by
  rw [run, List.foldl_map]
  apply List.foldl_ext
  intro editor command hmem
  exact apply_mapCount (fun _ hcount => Script.get_reread_of_mem hread hmem hcount) editor

namespace Session

/-- Typing the commands of a session again and running them under the same settings on the same text
leads to the same editor: the same text, the same cursor and the same history. -/
theorem run_keys_of_run {settings : Settings} {text script : String} {session : Session}
    (hrun : run settings text script = .ok session) :
    ∃ replayed : Session,
      run settings text (.ofList (Script.keys session.commands)) = .ok replayed ∧
      replayed.editor = session.editor := by
  obtain ⟨hread, heditor⟩ := run_eq_ok_iff.mp hrun
  refine ⟨{ commands := session.commands.map (Command.reread settings.script.maxCount)
            editor := session.editor }, run_eq_ok_iff.mpr ⟨?_, ?_⟩, rfl⟩
  · rw [String.toList_ofList, Script.keys_eq_flatMap_phrase, Script.read_phrases,
      Script.map_command_phrase]
  · rw [← heditor]
    exact Editor.run_reread hread _

/-- Zeros, a count before `f` and digits at the end are gone from the keys of the replay, and the
unbounded strokes come back with a literal count. -/
theorem run_keys_of_run_literal_strokes :
    let settings : Settings := { script := { maxCount := .ofNat maxWord } }
    let script := "02l7fb99999999999999999999r-u4"
    let again := "2lfb18446744073709551615r-u"
    Script.read (.ofNat maxWord) script.toList ≠ Script.read (.ofNat maxWord) again.toList ∧
    ∃ session replayed : Session,
      run settings "abcab" script = .ok session ∧
      run settings "abcab" again = .ok replayed ∧
      replayed.editor = session.editor := by
  intro settings script again
  have hread : Script.read (.ofNat maxWord) script.toList =
      .ok [.moveRight (.times 2), .moveToNext 'b', .replace .unbounded '-', .undo .one] := by
    decide +kernel
  have hagain : Script.read (.ofNat maxWord) again.toList =
      .ok [.moveRight (.times 2), .moveToNext 'b', .replace (.times (.ofNat maxWord)) '-',
        .undo .one] := by
    decide +kernel
  have hrun : run settings "abcab" script = .ok ⟨_, _⟩ := run_eq_ok_iff.mpr ⟨hread, rfl⟩
  obtain ⟨replayed, hreplayed, heditor⟩ := run_keys_of_run hrun
  have hkeys : String.ofList (Script.keys
      [.moveRight (.times 2), .moveToNext 'b', .replace .unbounded '-', .undo .one]) = again := by
    decide +kernel
  refine ⟨?_, _, replayed, hrun, ?_, heditor⟩
  · rw [hread, hagain]
    simp
  · rw [← hkeys]
    exact hreplayed

end Session

end KeyScript
