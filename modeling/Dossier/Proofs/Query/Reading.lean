import Dossier.Proofs.Query.Splitting
import Dossier.Query.Parse

/-!
Reading a text takes in its lexemes one by one, up to a quote that is never closed. So the tokens of
a query, and its error, are those of the lexemes.
-/

namespace Dossier.Query

def Token.ofLexemes (negated : Bool) : List Lexeme → List Token
  | [] => []
  | .open :: rest => plain .group "(" negated :: ofLexemes false rest
  | .close :: rest => plain .group ")" false :: ofLexemes false rest
  | .quoted field content :: rest =>
    let value := Text.trim content
    if value.isEmpty then ofLexemes false rest
    else ofQuoted field value negated :: ofLexemes false rest
  | .bare run :: rest =>
    if run = ['N', 'O', 'T'] then ofLexemes true rest
    else if run = ['A', 'N', 'D'] || run = ['O', 'R'] then
      plain .operator (String.ofList run) false :: ofLexemes false rest
    else ofRun run negated :: ofLexemes false rest

theorem Token.negate_ofQuoted (field : Option (List Char)) (value : List Char) (negated : Bool) :
    (if negated then { ofQuoted field value false with negated := true }
      else ofQuoted field value false) = ofQuoted field value negated := by
  cases negated <;> rfl

theorem Token.negate_ofRun (run : List Char) (negated : Bool) :
    (if negated then { ofRun run false with negated := true } else ofRun run false) =
      ofRun run negated := by
  unfold ofRun
  cases splitField? run <;> cases negated <;> rfl

namespace Reader

def take (r : Reader) : Lexeme → Reader
  | .open => r.push (Token.plain .group "(" r.negateNext)
  | .close => r.push (Token.plain .group ")" false)
  | .quoted field content => r.quoted field content
  | .bare run => r.bare run

/-- Takes in the lexemes of a text, and stops at the quote that is never closed. -/
def takeScan (r : Reader) (s : Scan) : Query :=
  match s.openQuote with
  | none => (s.lexemes.foldl take r).query
  | some position => (s.lexemes.foldl take r).stop position

theorem takeScan_cons (r : Reader) (l : Lexeme) (s : Scan) :
    r.takeScan (s.cons l) = (r.take l).takeScan s := rfl

theorem read_eq_takeScan (r : Reader) (position : Nat) (cs : List Char) :
    r.read position cs = r.takeScan (Lexeme.scan position cs) := by
  fun_induction read r position cs with
  | case1 => rw [Lexeme.scan]; rfl
  | case2 r p c cs blank ih => rw [ih, Lexeme.scan_blank p cs blank]
  | case3 r p cs _ ih => rw [ih, Lexeme.scan_open, takeScan_cons]; rfl
  | case4 r p cs _ _ ih => rw [ih, Lexeme.scan_close, takeScan_cons]; rfl
  | case5 r p cs content rest k _ _ _ _ ih =>
    obtain ⟨rfl, closed⟩ := Lexeme.splitQuote?_eq_some_iff.mp k
    rw [ih, ← List.nil_append ('"' :: _), Lexeme.scan_quoted p rest .phrase closed, takeScan_cons]
    rfl
  | case6 r p cs k =>
    have unclosed := Lexeme.splitQuote?_eq_none_iff.mp k
    rw [← List.nil_append ('"' :: cs), Lexeme.scan_unclosed p .phrase unclosed]
    rfl
  | case7 r p c cs blank opening closing quote run _ after field eq named _ content rest k _ ih =>
    have opens := Lexeme.fieldBefore?_eq_some_iff.mp named
    obtain ⟨rfl, closed⟩ := Lexeme.splitQuote?_eq_some_iff.mp k
    rw [ih, ← Lexeme.takeRun_append c cs, eq, Lexeme.scan_quoted p rest opens closed,
      takeScan_cons]
    rfl
  | case8 r p c cs blank opening closing quote run _ after field eq named _ k =>
    have opens := Lexeme.fieldBefore?_eq_some_iff.mp named
    have unclosed := Lexeme.splitQuote?_eq_none_iff.mp k
    rw [← Lexeme.takeRun_append c cs, eq, Lexeme.scan_unclosed p opens unclosed]
    rfl
  | case9 r p c cs blank opening closing quote run _ other ih =>
    have inside := Lexeme.inRun_of_not blank opening closing quote
    rw [ih, Lexeme.scan_run p inside cs other, takeScan_cons]
    rfl

theorem tokens_foldl_take (ls : List Lexeme) (r : Reader) :
    (ls.foldl take r).query.tokens = r.query.tokens ++ Token.ofLexemes r.negateNext ls := by
  induction ls generalizing r with
  | nil => simp [Token.ofLexemes]
  | cons l rest ih =>
    rw [List.foldl_cons, ih]
    cases l with
    | «open» => simp [take, push, Token.ofLexemes]
    | close => simp [take, push, Token.ofLexemes]
    | quoted field content =>
      cases empty : (Text.trim content).isEmpty with
      | true => simp [take, quoted, Token.ofLexemes, empty]
      | false => simp [take, quoted, pushTerm, Token.ofLexemes, empty, Token.negate_ofQuoted]
    | bare run =>
      by_cases negation : run = ['N', 'O', 'T']
      · simp [take, bare, Token.ofLexemes, negation]
      · by_cases operator : run = ['A', 'N', 'D'] ∨ run = ['O', 'R']
        · simp [take, bare, push, Token.ofLexemes, negation, operator]
        · simp [take, bare, pushTerm, Token.ofLexemes, negation, operator, Token.negate_ofRun]

theorem error_take (r : Reader) (l : Lexeme) : (r.take l).query.error = r.query.error := by
  cases l with
  | «open» => rfl
  | close => rfl
  | quoted field content => simp only [take, quoted]; split <;> rfl
  | bare run => simp only [take, bare]; split_ifs <;> rfl

theorem error_foldl_take (ls : List Lexeme) (r : Reader) :
    (ls.foldl take r).query.error = r.query.error := by
  induction ls generalizing r with
  | nil => rfl
  | cons l rest ih => rw [List.foldl_cons, ih, error_take]

end Reader

section Parse

variable {text : String}

theorem parse_of_blank (h : Text.isBlankText text.toList = true) :
    parse text = ⟨[], .empty, false, some .empty⟩ := if_pos h

theorem parse_of_not_blank (h : Text.isBlankText text.toList = false) :
    parse text = Reader.start.takeScan (Lexeme.scan 0 text.toList) := by
  rw [← Reader.read_eq_takeScan]
  exact if_neg (by simp [h])

variable (text)

theorem tokens_parse :
    (parse text).tokens = Token.ofLexemes false (Lexeme.scan 0 text.toList).lexemes := by
  cases blank : Text.isBlankText text.toList with
  | true =>
    rw [parse_of_blank blank, Lexeme.scan_of_isBlankText 0 blank]
    rfl
  | false =>
    rw [parse_of_not_blank blank, Reader.takeScan]
    split <;> exact Reader.tokens_foldl_take _ Reader.start

theorem error_parse :
    (parse text).error =
      if Text.isBlankText text.toList then some .empty
      else (Lexeme.scan 0 text.toList).openQuote.map .unterminatedQuote := by
  cases blank : Text.isBlankText text.toList with
  | true =>
    rw [parse_of_blank blank]
    rfl
  | false =>
    rw [parse_of_not_blank blank, Reader.takeScan]
    split
    · rename_i closed
      rw [closed]
      exact Reader.error_foldl_take _ Reader.start
    · rename_i position opened
      rw [opened]
      rfl

end Parse

end Dossier.Query
