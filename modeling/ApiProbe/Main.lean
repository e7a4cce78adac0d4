import ApiProbe.CommandLine
import Std.Time.DateTime.Timestamp

/-!
The program: reads the files that the arguments name, runs the script and prints.
-/
namespace ApiProbe.CommandLine

def FileFault.ofIO : IO.Error → FileFault
  | .noFileOrDirectory .. => .missing
  | .permissionDenied .. => .denied
  | .inappropriateType _ code _ => if code == 21 then .folder else .notFolder
  | .invalidArgument .. => .nameTooLong
  | error => .other error.toString

/-- Reads one file as text. -/
def readFile (path : String) : IO (Except FileFault String) := do
  try
    let bytes ← IO.FS.readBinFile path
    match String.fromUTF8? bytes with
    | some text => pure (.ok text)
    | none => pure (.error .notText)
  catch error => pure (.error (FileFault.ofIO error))

/-- Reads the files of a run beforehand. -/
def readFiles (paths : List String) : IO Files := do
  let contents ← paths.mapM fun path => do pure (path, ← readFile path)
  pure fun path => (contents.lookup path).getD (.error .missing)

def present : IO Instant := do
  pure ⟨(← Std.Time.Timestamp.now).toMillisecondsSinceUnixEpoch.toInt⟩

def complain (complaint : Complaint) : IO UInt32 := do
  (← IO.getStderr).putStrLn complaint.message
  pure complaint.exitCode.toUInt32

end ApiProbe.CommandLine

open ApiProbe CommandLine

def main (arguments : List String) : IO UInt32 := do
  match Invocation.ofArguments arguments with
  | .error complaint => complain complaint
  | .ok invocation =>
    let files ← readFiles invocation.paths
    let supply : Supply := ⟨← present, (← IO.rand 0 (Nat.pow 2 64 - 1)).toUInt64⟩
    let start ← IO.monoMsNow
    match invocation.execute .default supply files with
    | .error complaint => complain complaint
    | .ok outcome =>
      let millis := (← IO.monoMsNow) - start
      IO.println (outcome.text millis)
      pure outcome.exitCode.toUInt32
