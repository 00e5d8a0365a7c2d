import Dossier.Schema.Form

/-!
The configuration of the program. Every setting has a default, so that a file may give some of them.
-/

namespace Dossier

structure Config where
  defaultLimit : Nat
  maxLimit : Nat
  fuzzyEnabled : Bool
  snippetContext : Nat
  timeoutSeconds : Nat
  storePath : Option String
  schema : Schema
  deriving DecidableEq, Repr

namespace Config

def default : Config := ⟨20, 200, true, 50, 120, none, .default⟩

def json (c : Config) : Json :=
  .object [("default_limit", .ofNat c.defaultLimit), ("max_limit", .ofNat c.maxLimit),
    ("fuzzy_enabled", .bool c.fuzzyEnabled), ("snippet_context", .ofNat c.snippetContext),
    ("search_timeout_secs", .ofNat c.timeoutSeconds),
    ("store_path", .ofOption .text c.storePath), ("schema", c.schema.json)]

def shape : Shape Config :=
  Shape.record .default [
    .optional "default_limit" Shape.count fun n c => { c with defaultLimit := n },
    .optional "max_limit" Shape.count fun n c => { c with maxLimit := n },
    .optional "fuzzy_enabled" Shape.bool fun b c => { c with fuzzyEnabled := b },
    .optional "snippet_context" Shape.count fun n c => { c with snippetContext := n },
    .optional "search_timeout_secs" Shape.count fun n c => { c with timeoutSeconds := n },
    .optional "store_path" (Shape.nullable Shape.text) fun p c => { c with storePath := p },
    .optional "schema" Schema.shape fun s c => { c with schema := s }]

inductive FileState where
  | missing
  | unreadable
  | holds (text : String)
  deriving DecidableEq, Repr

/-- Why a configuration cannot be had: there is no place for one, or not from the file at a path. -/
inductive Failure where
  | noDirectory
  | unreadable (path : String)
  | faulty (path : String)
  deriving DecidableEq, Repr

def Failure.message : Failure → String
  | .noDirectory => "Cannot determine config directory"
  | .unreadable path => "Failed to read config file " ++ path
  | .faulty path => "Failed to parse config file " ++ path

/-- The configuration of a file; a file that is missing leaves the defaults. -/
def load (path : String) : FileState → Except Failure Config
  | .missing => .ok .default
  | .unreadable => .error (.unreadable path)
  | .holds text =>
    match shape.readText text.toList with
    | .ok c => .ok c
    | .error _ => .error (.faulty path)

end Config

end Dossier
