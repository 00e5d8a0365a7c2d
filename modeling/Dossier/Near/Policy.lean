/-!
Which similarities count as near misses. A similarity is accepted by itself first, and once more
after the penalty that keeps near misses behind exact matches.
-/

namespace Dossier.Near

structure Policy where
  /-- The least similarity. -/
  accept : Float
  /-- The factor that turns a similarity into a score. -/
  penalty : Float
  /-- The least score. -/
  least : Float

namespace Policy

def default : Policy := ⟨0.7, 0.8, 0.6⟩

def score? (p : Policy) (similarity : Float) : Option Float :=
  if !similarity.isFinite || similarity < p.accept then none
  else
    let score := (if similarity < 1.0 then similarity else 1.0) * p.penalty
    if p.least ≤ score then some score else none

end Policy

end Dossier.Near
