import KeyScript.Request

/-!
Reports: what the program prints and its exit code. Nothing goes to standard output unless the whole
request was carried out.
-/

namespace KeyScript

/-- What the program leaves behind. -/
structure Report where
  exitCode : UInt8
  stdout : String
  stderr : String
  deriving DecidableEq, Repr

/-- The printout of the final state alone, or a message alone. -/
def Report.ofOutcome : Except Failure Session → Report
  | .ok session =>
    { exitCode := 0
      stdout := String.ofList (session.editor.snapshot.printout ++ ['\n'])
      stderr := "" }
  | .error failure =>
    { exitCode := failure.exitCode, stdout := "", stderr := s!"vi-command: {failure.message}\n" }

def Request.report (request : Request) (sources : Sources) : Report :=
  .ofOutcome (request.session sources)

theorem Request.toList_stdout_of_session_eq_ok {request : Request} {sources : Sources}
    {session : Session} (hsession : request.session sources = .ok session) :
    (request.report sources).stdout.toList = session.editor.snapshot.printout ++ ['\n'] := by
  rw [report, hsession]
  exact String.toList_ofList

end KeyScript
