import Dossier.Command.Line
import Dossier.Config
import Dossier.Json.Writer
import Dossier.Query.Form
import Dossier.Search.Engine
import Dossier.Search.Form
import Dossier.Store.File

/-!
Running a command. How files are read is left open, so that a run can be told from the outside
what it finds. No run here ends with `SearchError.timeout`: how long an answer takes, which the
program bounds by the time limit of its configuration, is left out.
-/

namespace Dossier

def SearchOptions.request (o : SearchOptions) (defaultLimit : Nat) : Request where
  text := o.query
  collection := o.collection
  kinds := o.kinds
  fields := o.fields
  limit := o.limit.getD defaultLimit
  offset := o.offset
  fuzzy := o.fuzzy
  highlight := !o.noHighlight
  advanced := o.advanced

namespace Command

/-- How a run ends. A failure has its exit code, and its message if there is one to compare; a run
that is ended by a fault of the program has none. -/
inductive Outcome where
  | printed (j : Json)
  | aborted
  | help
  | version
  | usage
  | failed (e : SearchError)
  | badFile (message : String)

namespace Outcome

def exitCode : Outcome → Nat
  | .printed _ | .help | .version => 0
  | .usage => 2
  | .aborted => 101
  | .failed (.invalidInput _) => 1
  | .failed (.store (.collectionNotFound _)) => 3
  | .failed (.store _) => 2
  | .failed (.timeout _) => 4
  | .failed (.internal _) | .badFile _ => 5

def message? : Outcome → Option String
  | .failed (.store e) => some ((SearchError.store e).message ++ ": " ++ e.message)
  | .failed e => some e.message
  | .badFile message => some message
  | _ => none

def versionText : String := "casefile 0.1.0"

end Outcome

/-- Where the configuration is if no file is named for it. The home of the account, if the system
knows one, stands in for one in the environment. -/
def defaultConfigPath? (account : Option String) (env : String → Option String) : Option String :=
  let directory :=
    match env "XDG_CONFIG_HOME" with
    | some path => if path.toList.head? = some '/' then some path else none
    | none => none
  let home := (env "HOME").filter (!·.isEmpty) <|> account
  (directory <|> home.map (· ++ "/.config")).map (· ++ "/casefile/config.json")

def engineOf (c : Config) : Engine where
  schema := c.schema
  similarity := .select c.fuzzyEnabled
  policy := .default
  context := c.snippetContext

def pageJson (p : Page) : Json :=
  .object [("total", .ofNat p.total), ("count", .ofNat p.results.length),
    ("results", .array (p.results.map SearchResult.json))]

def answer (c : Config) (store : Store) : Command → Except SearchError Json
  | .search o => do
    let request := o.request c.defaultLimit
    request.validate c.maxLimit
    return pageJson (← (engineOf c).search store.source request)
  | .within collection record query => do
    let results ← (engineOf c).searchWithin store.source collection record query
    return .array (results.map SearchResult.json)
  | .parse query => return (Engine.parse query).json
  | .fields => return .ofStrings c.schema.searchable
  | .index collection => do
    let (count, _) ← (engineOf c).rebuildIndex store.source collection store
    return .object [("indexed", .ofNat count)]

def aborts (c : Config) (store : Store) : Command → Bool
  | .search o => (engineOf c).aborts store.source (o.request c.defaultLimit)
  | .within collection record query =>
    (engineOf c).withinAborts store.source collection record query
  | _ => false

def loadStore : Option (String × Config.FileState) → Except String Store
  | none => .ok .empty
  | some (path, .holds text) =>
    match Store.ofFile? text with
    | .ok store => .ok store
    | .error _ => .error ("Failed to load store " ++ path)
  | some (path, _) => .error ("Failed to load store " ++ path)

/-- Runs a command: the configuration is read first, then the store that it or the command line
names. -/
def perform {m : Type → Type} [Monad m] (account : Option String) (env : String → Option String)
    (read : String → m Config.FileState) (i : Invocation) : m Outcome := do
  let config ←
    match i.config <|> defaultConfigPath? account env with
    | some path => pure (Config.load path (← read path))
    | none => pure (.error .noDirectory)
  match config with
  | .error f => return .badFile f.message
  | .ok config =>
    let file ←
      match i.store <|> config.storePath with
      | some path => pure (some (path, ← read path))
      | none => pure none
    match loadStore file with
    | .error message => return .badFile message
    | .ok store =>
      match answer config store i.command with
      | .ok j => return if aborts config store i.command then .aborted else .printed j
      | .error e => return .failed e

def runFor {m : Type → Type} [Monad m] (account : Option String) (env : String → Option String)
    (read : String → m Config.FileState) (args : List String) : m Outcome :=
  match readLine env args with
  | .run i => perform account env read i
  | .help => return .help
  | .version => return .version
  | .usage => return .usage

/-- Runs a command line; a home has to be in the environment. -/
def run {m : Type → Type} [Monad m] (env : String → Option String)
    (read : String → m Config.FileState) (args : List String) : m Outcome :=
  runFor none env read args

end Command

end Dossier
