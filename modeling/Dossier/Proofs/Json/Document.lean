import Dossier.Json.Shape
import Dossier.Proofs.Json.Lexeme

/-!
The lexemes of a value are gathered into the tree of the value, so that a document reads back as
what was written.
-/

namespace Dossier

namespace Document

def Step.resume : Step → List Lexeme → Document
  | .more frames place, ls => build frames place ls
  | .whole root, ls => ⟨root, !ls.isEmpty⟩
  | .stopped root, _ => ⟨root, false⟩

theorem build_cons (frames : List Frame) (place : Place) (l : Lexeme) (ls : List Lexeme) :
    build frames place (l :: ls) = (step frames place l).resume ls := by
  rw [build]
  cases step frames place l with
  | more => rfl
  | whole => rfl
  | stopped => rfl

theorem build_closeArray (done : List Node) (outer : List Frame) (ls : List Lexeme) :
    build (.items done :: outer) .comma (.mark .closeArray :: ls) =
      (filled (.array done.reverse none) outer).resume ls :=
  build_cons _ _ _ _

theorem build_closeObject (done : List (Key × Node)) (key : Key) (outer : List Frame)
    (ls : List Lexeme) :
    build (.members done key :: outer) .comma (.mark .closeObject :: ls) =
      (filled (.object done.reverse none) outer).resume ls :=
  build_cons _ _ _ _

theorem build_nextItem (done : List Node) (outer : List Frame) (ls : List Lexeme) :
    build (.items done :: outer) .comma (.mark .comma :: ls) =
      build (.items done :: outer) (.value false) ls :=
  build_cons _ _ _ _

theorem build_nextMember (done : List (Key × Node)) (key : Key) (outer : List Frame)
    (ls : List Lexeme) :
    build (.members done key :: outer) .comma (.mark .comma :: ls) =
      build (.members done key :: outer) (.key false) ls :=
  build_cons _ _ _ _

theorem build_key (done : List (Key × Node)) (key : Key) (outer : List Frame) (mayClose : Bool)
    (k : String) (ls : List Lexeme) :
    build (.members done key :: outer) (.key mayClose) (.text (.ok k) :: .mark .colon :: ls) =
      build (.members done (.ok k) :: outer) (.value false) ls := by
  have read : step (.members done key :: outer) (.key mayClose) (.text (.ok k)) =
      .more (.members done (.ok k) :: outer) .colon := by
    cases mayClose with
    | false => rfl
    | true => rfl
  rw [build_cons, read]
  exact build_cons (.members done (.ok k) :: outer) .colon (.mark .colon) ls

mutual

theorem build_lexemes : ∀ (j : Json) (frames : List Frame) (mayClose : Bool) (ls : List Lexeme),
    build frames (.value mayClose) (j.lexemes ++ ls) = (filled (Node.ofJson j) frames).resume ls
  | .null, frames, mayClose, ls => by
    rw [Json.lexemes, Node.ofJson]
    exact build_cons frames (.value mayClose) .null ls
  | .bool b, frames, mayClose, ls => by
    rw [Json.lexemes, Node.ofJson]
    exact build_cons frames (.value mayClose) (.bool b) ls
  | .number n, frames, mayClose, ls => by
    rw [Json.lexemes, Node.ofJson]
    exact build_cons frames (.value mayClose) (.number (.ok n)) ls
  | .text s, frames, mayClose, ls => by
    rw [Json.lexemes, Node.ofJson]
    exact build_cons frames (.value mayClose) (.text (.ok s)) ls
  | .array items, frames, mayClose, ls => by
    rw [Json.lexemes, Node.ofJson, List.cons_append, List.append_assoc, build_cons]
    exact build_itemLexemes items [] frames true ls fun _ => rfl
  | .object members, frames, mayClose, ls => by
    rw [Json.lexemes, Node.ofJson, List.cons_append, List.append_assoc, build_cons]
    exact build_memberLexemes members [] (.ok "") frames true ls fun _ => rfl

/-- The items that are done wait in the frame, last first, while the others are read. The end of the
array may stand in place of an item only where it was just opened. -/
theorem build_itemLexemes : ∀ (items : List Json) (done : List Node) (outer : List Frame)
    (mayClose : Bool) (ls : List Lexeme), (items = [] → mayClose = true) →
      build (.items done :: outer) (.value mayClose)
          (Json.itemLexemes items ++ .mark .closeArray :: ls) =
        (filled (.array (done.reverse ++ Node.ofItems items) none) outer).resume ls
  | [], done, outer, mayClose, ls, closes => by
    rw [Json.itemLexemes, Node.ofItems, List.append_nil, closes rfl]
    exact build_cons _ _ _ _
  | [j], done, outer, mayClose, ls, _ => by
    have closed := build_closeArray (Node.ofJson j :: done) outer ls
    rw [List.reverse_cons] at closed
    rw [Json.itemLexemes, build_lexemes j, Node.ofItems, Node.ofItems]
    exact closed
  | j :: k :: js, done, outer, mayClose, ls, _ => by
    have others := build_itemLexemes (k :: js) (Node.ofJson j :: done) outer false ls nofun
    rw [List.reverse_cons, List.append_assoc] at others
    rw [Json.itemLexemes, List.append_assoc, List.cons_append, build_lexemes j, Node.ofItems]
    · exact (build_nextItem (Node.ofJson j :: done) outer _).trans others
    · exact nofun

theorem build_memberLexemes : ∀ (members : List (String × Json)) (done : List (Key × Node))
    (key : Key) (outer : List Frame) (mayClose : Bool) (ls : List Lexeme),
      (members = [] → mayClose = true) →
      build (.members done key :: outer) (.key mayClose)
          (Json.memberLexemes members ++ .mark .closeObject :: ls) =
        (filled (.object (done.reverse ++ Node.ofMembers members) none) outer).resume ls
  | [], done, key, outer, mayClose, ls, closes => by
    rw [Json.memberLexemes, Node.ofMembers, List.append_nil, closes rfl]
    exact build_cons _ _ _ _
  | [(k, j)], done, key, outer, mayClose, ls, _ => by
    have closed := build_closeObject ((.ok k, Node.ofJson j) :: done) (.ok k) outer ls
    rw [List.reverse_cons] at closed
    rw [Json.memberLexemes, List.cons_append, List.cons_append, build_key, build_lexemes j,
      Node.ofMembers, Node.ofMembers]
    exact closed
  | (k, j) :: m :: ms, done, key, outer, mayClose, ls, _ => by
    have others :=
      build_memberLexemes (m :: ms) ((.ok k, Node.ofJson j) :: done) (.ok k) outer false ls nofun
    rw [List.reverse_cons, List.append_assoc] at others
    rw [Json.memberLexemes, List.cons_append, List.cons_append, List.append_assoc,
      List.cons_append, build_key, build_lexemes j, Node.ofMembers]
    · exact (build_nextMember ((.ok k, Node.ofJson j) :: done) (.ok k) outer _).trans others
    · exact nofun

end

/-- What is written is read back, whatever the layout. -/
theorem read_render {j : Json} (whole : j.IsWhole) (pretty : Bool) (depth : Nat) :
    read (j.render pretty depth).toList = ⟨Node.ofJson j, false⟩ := by
  have lexemes := Json.scan_render pretty j depth [] whole nofun
  rw [List.append_nil, Lexeme.scan] at lexemes
  rw [read, lexemes, build_lexemes]
  rfl

end Document

namespace Shape

theorem readText_render {α : Type} (s : Shape α) {j : Json} (whole : j.IsWhole) (pretty : Bool)
    (depth : Nat) : s.readText (j.render pretty depth).toList = s (Node.ofJson j) := by
  rw [readText, Document.read_render whole]
  cases s (Node.ofJson j) with
  | error f => rfl
  | ok a => rfl

end Shape

end Dossier
