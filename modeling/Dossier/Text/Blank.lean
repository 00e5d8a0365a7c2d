/-!
Blanks and words. A blank is a character with the property `White_Space`; the words of a text are
its maximal runs without one. All texts here are lists of characters.
-/

namespace Dossier.Text

/-- The property `White_Space`. -/
def isBlank (c : Char) : Bool :=
  let n := c.toNat
  n == 0x20 || (0x09 ≤ n && n ≤ 0x0D) ||
    (0x80 ≤ n &&
      (n == 0x85 || n == 0xA0 || n == 0x1680 || (0x2000 ≤ n && n ≤ 0x200A) || n == 0x2028 ||
        n == 0x2029 || n == 0x202F || n == 0x205F || n == 0x3000))

def isBlankText (cs : List Char) : Bool := cs.all isBlank

def trimStart (cs : List Char) : List Char := cs.dropWhile isBlank

def trim (cs : List Char) : List Char := (trimStart (trimStart cs).reverse).reverse

def words : List Char → List (List Char)
  | [] => []
  | c :: rest =>
    if isBlank c then words rest
    else
      match rest, words rest with
      | d :: _, w :: ws => if isBlank d then [c] :: w :: ws else (c :: w) :: ws
      | _, ws => [c] :: ws

example : words "  a bc\u3000d ".toList = [['a'], ['b', 'c'], ['d']] := by decide

example : trim " \u00a0x y\t".toList = ['x', ' ', 'y'] := by decide

end Dossier.Text
