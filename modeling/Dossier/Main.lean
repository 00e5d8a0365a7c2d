import Dossier.Command.Run

/-!
The program: it reads the environment and the files that a command line names, and prints.
-/

namespace Dossier.Command

def usageLines : List String := [
  "Usage: casefile [OPTIONS] <COMMAND>",
  "",
  "Commands:",
  "  search  -q <QUERY> [-c <COLLECTION>] [-t <TYPE>]... [-f <FIELD>]... [-l <LIMIT>] [-o <OFFSET>]",
  "          [--fuzzy] [--no-highlight] [--advanced]",
  "  within  -c <COLLECTION> -r <RECORD> -q <QUERY>",
  "  parse   -q <QUERY>",
  "  fields",
  "  index   [-c <COLLECTION>]",
  "",
  "Options: -v, --verbose  --quiet  --config <FILE>  --store <FILE>  -h, --help  -V, --version"]

def usageText : String := "\n".intercalate usageLines

def readFile (path : String) : IO Config.FileState := do
  try return .holds (← IO.FS.readFile path)
  catch e =>
    match e with
    | .noFileOrDirectory .. => return .missing
    | _ => return .unreadable

def environment : IO (String → Option String) := do
  let names := [configVariable, storeVariable, "XDG_CONFIG_HOME", "HOME"]
  let values ← names.mapM fun name => return (name, ← IO.getEnv name)
  return fun name => (values.find? (·.1 = name)).bind (·.2)

end Dossier.Command

open Dossier.Command in
def main (args : List String) : IO UInt32 := do
  let outcome ← run (← environment) readFile args
  match outcome with
  | .printed j => IO.println j.pretty
  | .help => IO.println usageText
  | .version => IO.println Outcome.versionText
  | .usage => IO.eprintln usageText
  | .aborted => IO.eprintln "The end of a snippet is beyond 64 bits"
  | .failed _ | .badFile _ => IO.eprintln ("Error: " ++ outcome.message?.getD "")
  return outcome.exitCode.toUInt32
