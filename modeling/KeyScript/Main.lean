import KeyScript.CommandLine
import KeyScript.Report

/-!
The program: reads what the request names, carries it out, and prints the report.
-/

namespace KeyScript

def usage : String :=
  "Usage: vi-command [OPTIONS] <COMMANDS>\n\n" ++
  "Options:\n" ++
  "  -t, --text <TEXT>                    The text to edit\n" ++
  "  -F, --text-file <TEXT_FILE>          The file that holds the text\n" ++
  "  -c, --config <CONFIG>                The file that holds the settings\n" ++
  "      --max-count <MAX_COUNT>          The largest literal count\n" ++
  "      --history-limit <HISTORY_LIMIT>  The largest number of snapshots\n" ++
  "  -h, --help                           Print help\n" ++
  "  -V, --version                        Print version\n"

def version : String := "vi-command 0.1.0\n"

/-- What the system says about a failed read. -/
def readFault : IO.Error → ReadFault
  | .noFileOrDirectory .. => .noSuchFile
  | .permissionDenied _ code reason
  | .inappropriateType _ code reason
  | .invalidArgument _ code reason
  | .resourceExhausted _ code reason
  | .noSuchThing _ code reason
  | .hardwareFault code reason
  | .otherError code reason => .system reason code.toNat
  | error => .system error.toString 0

def contents (action : IO ByteArray) : IO (Except ReadFault ByteArray) := do
  match ← action.toBaseIO with
  | .ok bytes => return .ok bytes
  | .error error => return .error (readFault error)

/-- Reads the files of the request, and standard input if it is looked at. -/
def gather (request : Request) : IO Sources := do
  let paths := request.config.toList ++ request.textFile.toList
  let files ← paths.mapM fun (path : String) => do
    return (path, ← contents (IO.FS.readBinFile path))
  let file := fun (path : String) => (files.lookup path).getD (.error .noSuchFile)
  let sources : Sources := { file, stdin := .ok .empty }
  if request.readsStdin sources then
    return { file, stdin := ← contents (do (← IO.getStdin).readBinToEnd) }
  else return sources

end KeyScript

open KeyScript

def main (arguments : List String) : IO UInt32 := do
  match CommandLine.read arguments with
  | .error .help => IO.print usage; return 0
  | .error .version => IO.print version; return 0
  | .error (.refused refusal) =>
    IO.eprint s!"error: {refusal.message}\n"
    return 2
  | .ok request =>
    let report := request.report (← gather request)
    IO.print report.stdout
    IO.eprint report.stderr
    return report.exitCode.toUInt32
