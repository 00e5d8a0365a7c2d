import Dossier.Text.Letter
import Dossier.Text.Word.Table

/-!
Words of running text, by the default word boundaries of the Unicode text segmentation rules, but
that a pictograph after a joiner ends its segment even if it is a letter too. A character and the
marks attached to it form a cluster; whether two clusters join depends on their classes and on one
neighbour to each side. A word is a segment with a letter or a digit in it.
-/

namespace Dossier.Text

def wordClass (c : Char) : WordClass :=
  match wordRows.find? fun (_, hi, _) => c.toNat ≤ hi with
  | some (lo, _, k) => if lo ≤ c.toNat then k else .other
  | none => .other

namespace WordClass

def breaksLine : WordClass → Bool
  | .carriageReturn | .lineFeed | .newline => true
  | _ => false

/-- Marks, format characters and joiners belong to the character before them. -/
def attaches : WordClass → Bool
  | .extend | .format | .joiner => true
  | _ => false

def isLetter : WordClass → Bool
  | .letter | .hebrew => true
  | _ => false

def linksLetters : WordClass → Bool
  | .midLetter | .midBoth | .apostrophe => true
  | _ => false

def linksDigits : WordClass → Bool
  | .midNumber | .midBoth | .apostrophe => true
  | _ => false

/-- What a connector such as the low line joins. -/
def isSolid (k : WordClass) : Bool := k.isLetter || k == .numeric || k == .katakana

end WordClass

/-- A character, its class, and the characters attached to it. -/
structure Cluster where
  cls : WordClass
  chars : List Char

def clusters : List Char → List Cluster
  | [] => []
  | c :: rest =>
    let k := wordClass c
    match clusters rest with
    | [] => [⟨k, [c]⟩]
    | next :: others =>
      if next.cls.attaches && !k.breaksLine then ⟨k, c :: next.chars⟩ :: others
      else ⟨k, [c]⟩ :: next :: others

/-- A joiner glues a pictograph to whatever stands before it. -/
def Cluster.glues (a b : Cluster) : Bool :=
  a.chars.getLast? == some '\u200D' && b.chars.head?.any (pictographRanges.covers ·.toNat)

/-- Whether `b` continues a segment that ends with `a`, which follows a cluster of the class
`before` in it; `after` is the cluster after `b`. A link between letters or digits needs one on
its other side, or a pictograph that is glued to it. -/
def joins (before : Option WordClass) (a b : Cluster) (after : Option Cluster) : Bool :=
  let leadsTo := fun f : WordClass → Bool => after.any fun c => f c.cls || b.glues c
  if a.cls == .carriageReturn && b.cls == .lineFeed then true
  else if a.cls.breaksLine || b.cls.breaksLine then false
  else
    a.glues b ||
    (a.cls == .space && a.chars.length == 1 && b.cls == .space) ||
    (a.cls.isLetter && b.cls.isLetter) ||
    (a.cls.isLetter && b.cls.linksLetters && leadsTo (·.isLetter)) ||
    (before.any (·.isLetter) && a.cls.linksLetters && b.cls.isLetter) ||
    (a.cls == .hebrew && b.cls == .apostrophe) ||
    (a.cls == .hebrew && b.cls == .doubleQuote && leadsTo (· == .hebrew)) ||
    (before == some .hebrew && a.cls == .doubleQuote && b.cls == .hebrew) ||
    (a.cls == .numeric && b.cls == .numeric) ||
    (a.cls.isLetter && b.cls == .numeric) ||
    (a.cls == .numeric && b.cls.isLetter) ||
    (a.cls == .numeric && b.cls.linksDigits && leadsTo (· == .numeric)) ||
    (before == some .numeric && a.cls.linksDigits && b.cls == .numeric) ||
    (a.cls == .katakana && b.cls == .katakana) ||
    ((a.cls.isSolid || a.cls == .connector) && b.cls == .connector) ||
    (a.cls == .connector && b.cls.isSolid) ||
    (a.cls == .regional && b.cls == .regional)

/-- `b` as the end of a segment after `a`. A glued pictograph and the second of two regional
indicators end their segments, whatever follows: they count as characters of no class. -/
def settled (a b : Cluster) : Cluster :=
  if a.glues b || a.cls == .regional then { b with cls := .other } else b

def segmentsFrom (before : Option WordClass) (a : Cluster) : List Cluster → List (List Char)
  | [] => [a.chars]
  | b :: rest =>
    if joins before a b rest.head? then
      match segmentsFrom (some a.cls) (settled a b) rest with
      | w :: ws => (a.chars ++ w) :: ws
      | [] => [a.chars]
    else a.chars :: segmentsFrom none b rest

def segments (cs : List Char) : List (List Char) :=
  match clusters cs with
  | [] => []
  | a :: rest => segmentsFrom none a rest

def runningWords (cs : List Char) : List (List Char) :=
  (segments cs).filter (·.any isAlphanumeric)

example : runningWords "can't 3.14, a_b".toList =
    ["can't".toList, "3.14".toList, "a_b".toList] := by decide +kernel

end Dossier.Text
