import QueryCatalog.CommandLine.Answer
import Std.Time.DateTime.Timestamp

namespace QueryCatalog.CommandLine

def usage : String :=
  "usage: compile SQL | bind --config FILE --method NAME [--args JSON] [--define NAME=FRAGMENT]"

def readConfig (path : String) : IO (Option String) := do
  try
    return some (← IO.FS.readFile path)
  catch _ =>
    return none

end QueryCatalog.CommandLine

open QueryCatalog.CommandLine in
def main (args : List String) : IO UInt32 := do
  match Request.parse? args with
  | none =>
    IO.eprintln usage
    return 2
  | some request =>
    let config? ← match request.path? with
      | some path => readConfig path
      | none => pure none
    let now ← Std.Time.Timestamp.now
    match answer request config? now.toNanosecondsSinceUnixEpoch.val with
    | .ok text =>
      IO.print text
      return 0
    | .error failure =>
      IO.eprintln ("error: " ++ failure.message)
      return failure.exitCode
