import Dossier.Match.Plan
import Dossier.Near.Search
import Dossier.Query.Build
import Dossier.Query.Parse
import Dossier.Schema
import Dossier.Search.Request
import Dossier.Search.Result
import Dossier.Store.Basic

/-!
Searching. A request becomes an expression, the expression is evaluated on every candidate, near
misses are added if they are wanted, and a page is cut from the ranked list. The engine keeps
nothing between two searches.
-/

namespace Dossier

structure Engine where
  schema : Schema
  similarity : Near.Similarity
  policy : Near.Policy
  context : Nat

namespace Engine

/-- What a request asks for: an expression, and the text that near misses are compared with. -/
structure Wish where
  expr : Query.Expr
  nearText : String
  deriving DecidableEq, Repr

/-- None for a text that is blank, that cannot be parsed, or that has no terms. -/
def wish? (advanced : Bool) (text : String) : Option Wish :=
  if text.isEmpty then none
  else if advanced then
    let q := Query.parse text
    if q.error.isSome then none
    else (Query.build q.tokens).map fun e => ⟨e, q.positiveText⟩
  else (Query.freeText text).map fun e => ⟨e, text⟩

/-- The result for a record that was evaluated: the paths of its hits, each once, and all their
highlights. -/
def resultOf (e : Engine) (r : Record) (v : Evaluation) : SearchResult where
  collection := r.collection
  id := r.id
  kind := r.kind
  score := v.grade.score
  highlights :=
    v.hits.foldl
      (fun d h => if h.highlights.isEmpty then d else d.update h.path [] (· ++ h.highlights)) .empty
  matchedFields :=
    v.hits.foldl (fun paths h => if paths.contains h.path then paths else paths ++ [h.path]) []
  summary := e.schema.summarize r

def nearResult (e : Engine) (highlight : Bool) (r : Record) (h : Near.Hit) : SearchResult where
  collection := r.collection
  id := r.id
  kind := r.kind
  score := h.score
  highlights :=
    if highlight then
      Dict.empty.insert h.path [String.ofList (Snippet.approximate h.value.toList e.context)]
    else .empty
  matchedFields := [h.path]
  summary := e.schema.summarize r

def fieldsOf (e : Engine) (q : Request) : List String :=
  if q.fields.isEmpty then e.schema.searchable else q.fields

def settingOf (e : Engine) (q : Request) : Setting := ⟨e.fieldsOf q, q.highlight, e.context⟩

def allows (q : Request) (r : Record) : Bool := q.kinds.isEmpty || q.kinds.contains r.kind

def matching (e : Engine) (q : Request) (expr : Query.Expr) (candidates : List Record) :
    List SearchResult :=
  let plan := Plan.compile expr
  candidates.filterMap fun r =>
    let v := plan.run (.record r) (e.settingOf q)
    if v.matched then some (e.resultOf r v) else none

/-- Adds the near misses among the candidates that are not among the results. -/
def withNear (e : Engine) (q : Request) (text : String) (candidates : List Record)
    (results : List SearchResult) : List SearchResult :=
  if Near.isWanted e.similarity q.fuzzy results.length q.limit then
    let found :=
      Near.hits e.similarity e.policy text candidates (results.map (·.key)) (e.fieldsOf q)
    SearchResult.mergeUnique results <|
      found.filterMap fun h => candidates[h.index]?.map fun r => e.nearResult q.highlight r h
  else results

def rankedResults (e : Engine) (q : Request) (w : Wish) (candidates : List Record) :
    List SearchResult :=
  SearchResult.ranked (e.withNear q w.nearText candidates (e.matching q w.expr candidates))

/-- One page of the results of a request, and their number. -/
def search (e : Engine) (s : Source) (q : Request) : Except SearchError Page :=
  let text := normalizeText q.text
  match wish? q.advanced text with
  | none => .ok .empty
  | some w =>
    match s.candidates q.collection text with
    | .error f => .error (.store f)
    | .ok records =>
      let results := e.rankedResults q w (records.filter (allows q))
      .ok ⟨results.length, slice results q.offset q.limit⟩

/-- The search ends the program before it gives a page: some highlight cannot be cut. What is proved
of the pages of `search` alone is about searches for which this is false. -/
def aborts (e : Engine) (s : Source) (q : Request) : Bool :=
  let text := normalizeText q.text
  match wish? q.advanced text with
  | none => false
  | some w =>
    match s.candidates q.collection text with
    | .error _ => false
    | .ok records =>
      (records.filter (allows q)).any fun r =>
        (Plan.compile w.expr).aborts (.record r) (e.settingOf q)

/-- The leaves of one record that hold all words of a text, ranked; none for an unknown record. -/
def searchWithin (e : Engine) (s : Source) (collection id text : String) :
    Except SearchError (List SearchResult) :=
  match Query.freeText (normalizeText text) with
  | none => .ok []
  | some expr =>
    match s.record? collection id with
    | .error f => .error (.store f)
    | .ok none => .ok []
    | .ok (some r) =>
      let plan := Plan.compile expr
      .ok <| SearchResult.ranked <|
        r.profile.leaves.filterMap fun (path, leaf) =>
          let v := plan.run (.leaf path leaf) ⟨[], true, e.context⟩
          if v.matched then some (e.resultOf r v) else none

def withinAborts (e : Engine) (s : Source) (collection id text : String) : Bool :=
  match Query.freeText (normalizeText text) with
  | none => false
  | some expr =>
    match s.record? collection id with
    | .ok (some r) =>
      r.profile.leaves.any fun (path, leaf) =>
        (Plan.compile expr).aborts (.leaf path leaf) ⟨[], true, e.context⟩
    | _ => false

def parse (text : String) : Query := Query.parse (normalizeText text)

/-- Writes the search text of every record that the source lists, and counts them. The store is in
memory, so that no write fails. -/
def rebuildIndex (e : Engine) (s : Source) (collection : Option String) (store : Store) :
    Except SearchError (Nat × Store) :=
  match s.scan collection with
  | .error f => .error (.store f)
  | .ok records =>
    .ok (records.length,
      records.foldl (fun st r => st.upsert r.id (SearchText.ofRecord r e.schema.searchable)) store)

end Engine

end Dossier
