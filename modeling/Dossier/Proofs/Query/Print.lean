import Dossier.Proofs.Query.Token

/-!
Writing an expression, one space between two lexemes. The scan of what is written gives these
lexemes back.
-/

namespace Dossier.Query

def spaced (ls : List Lexeme) : List Char := [' '].intercalate (ls.map Lexeme.written)

theorem spaced_singleton (l : Lexeme) : spaced [l] = l.written := List.intercalate_singleton

theorem spaced_cons {ls : List Lexeme} (l : Lexeme) (h : ls ≠ []) :
    spaced (l :: ls) = l.written ++ ' ' :: spaced ls := by
  rw [spaced, List.map_cons, List.intercalate_cons_of_ne_nil (by simpa)]
  simp [spaced]

theorem spaced_append {ks ls : List Lexeme} (hk : ks ≠ []) (hl : ls ≠ []) :
    spaced (ks ++ ls) = spaced ks ++ ' ' :: spaced ls := by
  induction ks with
  | nil => exact absurd rfl hk
  | cons k rest ih =>
    cases rest with
    | nil => rw [List.singleton_append, spaced_cons k hl, spaced_singleton]
    | cons k' rest =>
      rw [List.cons_append, spaced_cons k (by simp), ih (by simp), spaced_cons k (by simp)]
      simp

theorem spaced_flatten {lss : List (List Lexeme)} (h : ∀ ls ∈ lss, ls ≠ []) :
    spaced lss.flatten = [' '].intercalate (lss.map spaced) := by
  induction lss with
  | nil => rfl
  | cons ls rest ih =>
    obtain ⟨first, later⟩ := List.forall_mem_cons.mp h
    cases rest with
    | nil => simp [List.intercalate_singleton]
    | cons ks rest =>
      have filled : (ks :: rest).flatten ≠ [] :=
        List.append_ne_nil_of_left_ne_nil (later ks List.mem_cons_self) _
      rw [List.flatten_cons, spaced_append first filled, ih later, List.map_cons (l := ks :: rest),
        List.intercalate_cons_of_ne_nil (by simp)]
      simp

theorem scan_spaced {ls : List Lexeme} (h : ∀ l ∈ ls, l.IsWritable) (p : Nat) :
    Lexeme.scan p (spaced ls) = ⟨ls, none⟩ := by
  induction ls generalizing p with
  | nil => simp [spaced, Lexeme.scan]
  | cons l rest ih =>
    obtain ⟨first, later⟩ := List.forall_mem_cons.mp h
    cases rest with
    | nil =>
      obtain ⟨q, scanned⟩ := Lexeme.scan_written p [] first (by simp)
      rw [List.append_nil] at scanned
      rw [spaced_singleton, scanned]
      simp [Lexeme.scan, Scan.cons]
    | cons k rest =>
      obtain ⟨q, scanned⟩ := Lexeme.scan_written p (' ' :: spaced (k :: rest)) first (by simp)
      rw [spaced_cons l (List.cons_ne_nil _ _), scanned, Lexeme.scan_blank _ _ (by decide),
        ih later]
      rfl

theorem isBlankText_spaced {ls : List Lexeme} (h : ∀ l ∈ ls, l.IsWritable) (ne : ls ≠ []) :
    Text.isBlankText (spaced ls) = false := by
  rw [Bool.eq_false_iff]
  intro blank
  have none := Lexeme.scan_of_isBlankText 0 blank
  rw [scan_spaced h 0] at none
  exact ne (congrArg Scan.lexemes none)

def Term.print (q : Term) : String :=
  let value := if q.exact then "\"" ++ q.value ++ "\"" else q.value
  match q.field with
  | none => value
  | some f => f ++ ":" ++ value

theorem Term.toList_print (q : Term) : q.print.toList = q.lexeme.written := by
  obtain ⟨field, value, exact⟩ := q
  cases field <;> cases exact <;> simp [Term.print, Term.lexeme, Lexeme.written]

namespace Expr

def print : Expr → String
  | .term q => q.print
  | .group e => "( " ++ e.print ++ " )"
  | .not e => "NOT " ++ e.print
  | .and e f => e.print ++ " AND " ++ f.print
  | .or e f => e.print ++ " OR " ++ f.print

def lexemes : Expr → List Lexeme
  | .term q => [q.lexeme]
  | .group e => .open :: (e.lexemes ++ [.close])
  | .not e => .bare "NOT".toList :: e.lexemes
  | .and e f => e.lexemes ++ .bare "AND".toList :: f.lexemes
  | .or e f => e.lexemes ++ .bare "OR".toList :: f.lexemes

theorem lexemes_ne_nil (e : Expr) : e.lexemes ≠ [] := by
  cases e <;> simp [lexemes]

theorem toList_print (e : Expr) : e.print.toList = spaced e.lexemes := by
  induction e with
  | term q => rw [lexemes, spaced_singleton, print, q.toList_print]
  | group e ih =>
    rw [lexemes, spaced_cons _ (by simp), spaced_append e.lexemes_ne_nil (by simp),
      spaced_singleton, ← ih]
    simp [print, Lexeme.written]
  | not e ih =>
    rw [lexemes, spaced_cons _ e.lexemes_ne_nil, ← ih]
    simp [print, Lexeme.written]
  | and e f ihe ihf =>
    rw [lexemes, spaced_append e.lexemes_ne_nil (by simp), spaced_cons _ f.lexemes_ne_nil, ← ihe,
      ← ihf]
    simp [print, Lexeme.written]
  | or e f ihe ihf =>
    rw [lexemes, spaced_append e.lexemes_ne_nil (by simp), spaced_cons _ f.lexemes_ne_nil, ← ihe,
      ← ihf]
    simp [print, Lexeme.written]

example :
    print (.and (.group (.or (.term ⟨none, "a", false⟩) (.not (.term ⟨none, "b c", true⟩))))
      (.not (.group (.term ⟨some "tags", "d", false⟩)))) =
      "( a OR NOT \"b c\" ) AND NOT ( tags:d )" := rfl

end Expr

end Dossier.Query
