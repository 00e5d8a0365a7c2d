import Dossier.Json.Lexeme

/-!
JSON texts, read once and judged later. The lexemes of a text are gathered into a tree in which a
problem stays at the place where it was met. Whoever visits the tree in order finds the first
problem of the text, be it one of form or one of meaning, and may step over parts that are of no
interest.
-/

namespace Dossier

abbrev Key := Except Fault String

/-- A part of a text, with its problems in place. An array or object that is not closed ends with
the break that was met in place of its end. -/
inductive Node where
  | null
  | bool (b : Bool)
  | number (n : Except Fault Number)
  | text (s : Except Fault String)
  | array (items : List Node) (ending : Option Break)
  | object (members : List (Key × Node)) (ending : Option Break)
  | broken (b : Break)

structure Document where
  root : Node
  trailing : Bool

namespace Document

/-- An array or object that is still open, its parts last first. -/
inductive Frame where
  | items (done : List Node)
  | members (done : List (Key × Node)) (key : Key)

/-- What may come next: a value, or the end of the array just opened; a key, or the end of the
object just opened; a colon; a comma or an end. -/
inductive Place where
  | value (mayClose : Bool)
  | key (mayClose : Bool)
  | colon
  | comma
  deriving DecidableEq, Repr

inductive Step where
  | more (frames : List Frame) (place : Place)
  | whole (root : Node)
  | stopped (root : Node)

def Frame.closed (ending : Option Break) : Frame → Node
  | .items done => .array done.reverse ending
  | .members done _ => .object done.reverse ending

def Frame.add (n : Node) : Frame → Frame
  | .items done => .items (n :: done)
  | .members done key => .members ((key, n) :: done) key

def filled (n : Node) : List Frame → Step
  | [] => .whole n
  | f :: outer => .more (f.add n :: outer) .comma

def wind (n : Node) (frames : List Frame) : Node :=
  frames.foldl (fun n f => (f.add n).closed none) n

def brokenValue (b : Break) (frames : List Frame) : Node := wind (.broken b) frames

def brokenEnd (b : Break) : List Frame → Node
  | [] => .broken b
  | f :: outer => wind (f.closed (some b)) outer

def closeFrame : List Frame → Step
  | [] => .stopped (.broken .malformed)
  | f :: outer => filled (f.closed none) outer

def step (frames : List Frame) : Place → Lexeme → Step
  | .value _, .null => filled .null frames
  | .value _, .bool b => filled (.bool b) frames
  | .value _, .number n => filled (.number n) frames
  | .value _, .text s => filled (.text s) frames
  | .value _, .mark .openArray => .more (.items [] :: frames) (.value true)
  | .value _, .mark .openObject => .more (.members [] (.ok "") :: frames) (.key true)
  | .value true, .mark .closeArray => closeFrame frames
  | .value _, .cut b => .stopped (brokenValue b frames)
  | .value _, .cutText b => .stopped (brokenValue b frames)
  | .value _, _ => .stopped (brokenValue .malformed frames)
  | .key true, .mark .closeObject => closeFrame frames
  | .key _, .text k =>
    match frames with
    | .members done _ :: outer => .more (.members done k :: outer) .colon
    | _ => .stopped (brokenEnd .malformed frames)
  | .key _, .cutText b => .stopped (brokenEnd b frames)
  | .key _, _ => .stopped (brokenEnd .malformed frames)
  | .colon, .mark .colon => .more frames (.value false)
  | .colon, _ => .stopped (brokenValue .malformed frames)
  | .comma, .mark m =>
    match m, frames with
    | .comma, .items _ :: _ => .more frames (.value false)
    | .comma, .members _ _ :: _ => .more frames (.key false)
    | .closeArray, .items _ :: _ => closeFrame frames
    | .closeObject, .members _ _ :: _ => closeFrame frames
    | _, _ => .stopped (brokenEnd .malformed frames)
  | .comma, _ => .stopped (brokenEnd .malformed frames)

def endAt (frames : List Frame) : Place → Node
  | .value _ | .colon => brokenValue .cutShort frames
  | .key _ | .comma => brokenEnd .cutShort frames

def build (frames : List Frame) (place : Place) : List Lexeme → Document
  | [] => ⟨endAt frames place, false⟩
  | l :: ls =>
    match step frames place l with
    | .more frames place => build frames place ls
    | .whole root => ⟨root, !ls.isEmpty⟩
    | .stopped root => ⟨root, false⟩

def read (cs : List Char) : Document := build [] (.value false) (Lexeme.scan cs)

end Document

end Dossier
