/-!
Grades of a match. A text that equals a plain pattern is better than one that begins with it, that
is better than a match with wildcards, and the least match has the pattern inside.
-/

namespace Dossier

inductive Grade where
  | miss
  | inside
  | wild
  | start
  | whole
  deriving DecidableEq, Repr

namespace Grade

def rank : Grade → Nat
  | miss => 0
  | inside => 1
  | wild => 2
  | start => 3
  | whole => 4

def max (g h : Grade) : Grade := if g.rank < h.rank then h else g

def isMatch (g : Grade) : Bool := g != .miss

def score : Grade → Float
  | miss => 0.0
  | inside => 0.7
  | wild => 0.8
  | start => 0.9
  | whole => 1.0

end Grade

end Dossier
