import KeyScript.Proofs.Bounds
import KeyScript.Proofs.Lines
import KeyScript.Session
import Mathlib.Control.Monad.Basic
import Mathlib.Data.List.Basic

/-!
What the journal tells of a session, line by line. A command is told with the editor it finds: the
cursor, the depth, and whether the history is full. What is kept and what is dropped are two lines,
and the first is written as if nothing would be dropped. A history is never deeper than its limit,
so there is at most one snapshot too many, and exactly one where the history was full before.
-/

namespace KeyScript

namespace History

/-- What is told of dropping: a single snapshot, where the depth had reached the limit. -/
def spillStory (settings : HistorySettings) (history : History) : List String :=
  match settings.limit with
  | none => []
  | some limit =>
    if history.depth = max limit.toNat 1 then
      [s!"WARN history limit {max limit.toNat 1} reached, dropping {1} oldest snapshot(s)"]
    else []

/-- The history is no deeper than the limit of the settings allows. -/
def Fits (history : History) (settings : HistorySettings) : Prop :=
  ∀ limit, settings.limit = some limit → history.depth ≤ max limit.toNat 1

/-- A history that fits has at most one snapshot too many when one is kept. -/
theorem map_line_pushEvents {history : History} {settings : HistorySettings}
    (hobeys : history.Obeys settings) (hfits : history.Fits settings) (snapshot : Snapshot) :
    (history.pushEvents snapshot).map Event.line =
      s!"TRACE history push: cursor={snapshot.cursor} depth={history.depth + 1}" ::
        history.spillStory settings := by
  unfold Obeys empty at hobeys
  unfold Fits at hfits
  unfold pushEvents spillStory
  rw [hobeys, List.map_cons, Event.line_eq_written]
  cases hlimit : settings.limit with
  | none => rfl
  | some limit =>
      have hdepth := hfits limit hlimit
      dsimp only [Option.map_some]
      by_cases hfull : history.depth = max limit.toNat 1
      · have hover : max limit.toNat 1 < history.depth + 1 := by omega
        have hexcess : history.depth + 1 - max limit.toNat 1 = 1 := by omega
        rw [if_pos hfull, if_pos hover, hexcess, List.map_singleton, Event.line_eq_written]
        rfl
      · have hroom : ¬max limit.toNat 1 < history.depth + 1 := by omega
        rw [if_neg hfull, if_neg hroom]
        rfl

end History

namespace Editor

/-- What is told of one command, from the editor it finds: the command and the cursor, and then the
depth that an undo leaves, or the snapshot that any other command keeps and what it drops. -/
def story (settings : HistorySettings) (editor : Editor) (command : Command) : List String :=
  s!"DEBUG apply {command.named} at cursor {editor.cursor}" ::
    if command.keepsSnapshot then
      s!"TRACE history push: cursor={editor.cursor} depth={editor.history.depth + 1}" ::
        editor.history.spillStory settings
    else [s!"TRACE history pop: depth={(editor.apply command).history.depth}"]

theorem map_line_applyEvents {editor : Editor} {settings : HistorySettings}
    (hobeys : editor.history.Obeys settings) (hfits : editor.history.Fits settings)
    (command : Command) :
    (editor.applyEvents command).map Event.line = editor.story settings command := by
  unfold applyEvents story
  rw [List.map_cons, Event.line_eq_written]
  cases command with
  | undo count =>
      -- What is noted is the depth after taking back, and the undo leaves the history like that.
      rw [history_undo]
      exact congrArg (_ :: [·]) (Event.line_eq_written _)
  | _ => exact congrArg (_ :: ·) (History.map_line_pushEvents hobeys hfits editor.snapshot)

theorem fits_run (text : Text) (settings : HistorySettings) (commands : List Command) :
    ((start text settings).run commands).history.Fits settings :=
  fun _ hlimit => depth_run_le hlimit text commands

/-- The first snapshot never goes beyond a limit. -/
theorem map_line_startEvents (text : Text) (settings : HistorySettings) :
    (startEvents text settings).map Event.line = ["TRACE history push: cursor=0 depth=1"] := by
  have hfits : (History.empty settings).Fits settings := fun _ _ => Nat.zero_le _
  have hspill : (History.empty settings).spillStory settings = [] := by
    unfold History.spillStory
    cases settings.limit with
    | none => rfl
    | some limit => exact if_neg (show 0 ≠ max limit.toNat 1 by omega)
  rw [startEvents, History.map_line_pushEvents (History.obeys_empty settings) hfits, hspill]
  show [s!"TRACE history push: cursor={0} depth={0 + 1}"] = _
  decide +kernel

/-- The events of a run are those of its commands, each from the editor that the commands before it
have led to. -/
theorem runEvents_eq_flatMap (editor : Editor) (commands : List Command) :
    editor.runEvents commands = commands.zipIdx.flatMap fun entry =>
      (editor.run (commands.take entry.2)).applyEvents entry.1 := by
  induction commands generalizing editor with
  | nil => rfl
  | cons command rest ih =>
      -- Every place of the rest is one further on, and so is the first part before it.
      rw [runEvents, ih, List.zipIdx_cons, List.flatMap_cons, Nat.zero_add, List.zipIdx_succ,
        List.flatMap_map]
      rfl

theorem map_line_runEvents (text : Text) (settings : HistorySettings) (commands : List Command) :
    ((start text settings).runEvents commands).map Event.line =
      commands.zipIdx.flatMap fun entry =>
        ((start text settings).run (commands.take entry.2)).story settings entry.1 := by
  rw [runEvents_eq_flatMap, List.map_flatMap]
  refine congrArg (List.flatMap · commands.zipIdx) (funext fun entry => ?_)
  exact map_line_applyEvents (obeys_run text settings _) (fits_run text settings _) entry.1

end Editor

/-! ### No file is named -/

theorem History.ne_loadingSettings_of_mem_pushEvents {history : History} {snapshot : Snapshot}
    {event : Event} (hmem : event ∈ history.pushEvents snapshot) (path : String) :
    event ≠ .loadingSettings path := by
  rintro rfl
  unfold pushEvents at hmem
  cases hlimit : history.limit with
  | none => simp [hlimit] at hmem
  | some limit =>
      simp only [hlimit] at hmem
      split at hmem <;> simp at hmem

theorem Editor.ne_loadingSettings_of_mem_applyEvents {editor : Editor} {command : Command}
    {event : Event} (hmem : event ∈ editor.applyEvents command) (path : String) :
    event ≠ .loadingSettings path := by
  unfold applyEvents at hmem
  rcases List.mem_cons.mp hmem with rfl | hmem
  · simp
  · cases command with
    | undo count =>
        rw [List.mem_singleton.mp hmem]
        simp
    | _ => exact History.ne_loadingSettings_of_mem_pushEvents hmem path

namespace Session

theorem ne_loadingSettings_of_mem_events {settings : Settings} {text script : String}
    {event : Event} (hmem : event ∈ events settings text script) (path : String) :
    event ≠ .loadingSettings path := by
  unfold events at hmem
  split at hmem
  · cases hmem
  · simp only [List.mem_append] at hmem
    rcases hmem with ((hread | hstart) | hrun) | hdone
    · unfold Script.readEvents at hread
      split at hread
      · rw [List.mem_singleton.mp hread]
        simp
      · cases hread
    · exact History.ne_loadingSettings_of_mem_pushEvents hstart path
    · rw [Editor.runEvents_eq_flatMap] at hrun
      obtain ⟨entry, -, happly⟩ := List.mem_flatMap.mp hrun
      exact Editor.ne_loadingSettings_of_mem_applyEvents happly path
    · rw [List.mem_singleton.mp hdone]
      simp

/-- The journal of a session, as it is written. Nothing is told of a script with a fault. Otherwise
it tells, in this order, that the script was read; of the first snapshot; of every command, with the
cursor and the depth it finds, of the snapshot kept, and of one snapshot dropped exactly where the
depth has reached the limit, or of the depth an undo leaves; and of the cursor and the depth at the
end. No character of a line is hidden, whatever the script is made of, and no two events have the
same line. -/
theorem journal_tells_run (settings : Settings) (text script : String) :
    let journal := (events settings text script).map Event.line
    let start := Editor.start (.ofString text) settings.history
    (∀ fault, run settings text script = .error fault → journal = []) ∧
    (∀ commands editor, run settings text script = .ok ⟨commands, editor⟩ →
      let count := commands.length
      let depth := editor.history.depth
      journal =
        s!"DEBUG parsed {count} command(s) from {Quoted.text script}" ::
        "TRACE history push: cursor=0 depth=1" ::
        (commands.zipIdx.flatMap fun entry =>
          (start.run (commands.take entry.2)).story settings.history entry.1) ++
        [s!"DEBUG ran {count} command(s), cursor={editor.cursor} history_depth={depth}"]) ∧
    (∀ line ∈ journal, ∀ char ∈ line.toList, isVisible char) ∧
    ∀ event other : Event, event.line = other.line → event = other := by
  intro journal start
  refine ⟨?_, ?_, ?_, fun event other => @Event.line_injective event other⟩
  · intro fault hrun
    show (events settings text script).map Event.line = []
    rw [events, hrun]
    rfl
  · intro commands editor hrun count depth
    obtain ⟨hread, -⟩ := run_eq_ok_iff.mp hrun
    show (events settings text script).map Event.line = _
    rw [events, hrun]
    dsimp only
    rw [Script.readEvents, hread, List.map_append, List.map_append, List.map_append,
      Editor.map_line_startEvents, Editor.map_line_runEvents, List.map_singleton,
      List.map_singleton, Event.line_eq_written, Event.line_eq_written]
    rfl
  · intro line hline
    obtain ⟨event, hevent, rfl⟩ := List.mem_map.mp hline
    exact Event.forall_mem_line_isVisible (ne_loadingSettings_of_mem_events hevent)

/-- One snapshot fills the history, so that the first command drops one. The first undo asks for
nothing, the second finds the one snapshot, the third finds none, and the command after it finds
room. Either quote is an argument, and so are a mark without a form of its own and a letter that has
one. -/
theorem journal_tells_run_full_history :
    let settings : Settings := { script := { maxCount := 9 }, history := { limit := some 1 } }
    let script := "x0uu2ulr'2r\u0301f\"fé10h4"
    (events settings "ab" "xq").map Event.line = [] ∧
    (events settings "ab" script).map Event.line =
      ["DEBUG parsed 10 command(s) from \"x0uu2ulr'2r\\u\x7b301\x7df\\\"fé10h4\"",
        "TRACE history push: cursor=0 depth=1",
        "DEBUG apply Delete(Times(1)) at cursor 0", "TRACE history push: cursor=0 depth=2",
        "WARN history limit 1 reached, dropping 1 oldest snapshot(s)",
        "DEBUG apply Undo(Times(0)) at cursor 0", "TRACE history pop: depth=1",
        "DEBUG apply Undo(Times(1)) at cursor 0", "TRACE history pop: depth=0",
        "DEBUG apply Undo(Times(2)) at cursor 0", "TRACE history pop: depth=0",
        "DEBUG apply MoveRight(Times(1)) at cursor 0", "TRACE history push: cursor=0 depth=1",
        "DEBUG apply Replace(Times(1), '\\'') at cursor 1", "TRACE history push: cursor=1 depth=2",
        "WARN history limit 1 reached, dropping 1 oldest snapshot(s)",
        "DEBUG apply Replace(Times(2), '\\u\x7b301\x7d') at cursor 1",
        "TRACE history push: cursor=1 depth=2",
        "WARN history limit 1 reached, dropping 1 oldest snapshot(s)",
        "DEBUG apply MoveToNext('\"') at cursor 1", "TRACE history push: cursor=1 depth=2",
        "WARN history limit 1 reached, dropping 1 oldest snapshot(s)",
        "DEBUG apply MoveToNext('é') at cursor 1", "TRACE history push: cursor=1 depth=2",
        "WARN history limit 1 reached, dropping 1 oldest snapshot(s)",
        "DEBUG apply MoveLeft(Unbounded) at cursor 1", "TRACE history push: cursor=1 depth=2",
        "WARN history limit 1 reached, dropping 1 oldest snapshot(s)",
        "DEBUG ran 10 command(s), cursor=0 history_depth=1"] ∧
    (∀ line ∈ (events settings "ab" script).map Event.line,
      ∀ char ∈ line.toList, isVisible char) ∧
    (Event.requestDone 1 12).line ≠ (Event.requestDone 11 2).line := by
  intro settings script
  have hfault : run settings "ab" "xq" = .error (.unsupported 'q' 1) := by decide +kernel
  have hrun : run settings "ab" script =
      .ok ⟨[.delete .one, .undo (.times 0), .undo .one, .undo (.times 2), .moveRight .one,
          .replace .one '\'', .replace (.times 2) '\u0301', .moveToNext '"', .moveToNext 'é',
          .moveLeft .unbounded],
        { text := .ofString "a\u0301", cursor := 0,
          history := { limit := some 1, stack := [⟨1, .ofString "a\u0301"⟩] } }⟩ := by
    decide +kernel
  obtain ⟨hnothing, -⟩ := journal_tells_run settings "ab" "xq"
  obtain ⟨-, htold, hvisible, hapart⟩ := journal_tells_run settings "ab" script
  exact ⟨hnothing _ hfault, (htold _ _ hrun).trans (by decide +kernel), hvisible,
    fun hline => absurd (hapart _ _ hline) (by decide)⟩

end Session

end KeyScript
