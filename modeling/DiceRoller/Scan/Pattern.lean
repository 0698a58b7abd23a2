import DiceRoller.Scan.Piece

/-!
# Patterns

A pattern looks at a text from one place on, with the character before that place, and says whether
it matches there.  Cutting a text by a pattern takes the matches from left to right, each search
going on behind the match before it; what is no part of a piece stays text.

Main results:

- Theorem `sources_cut`: the pieces of a text make up the text.
-/

namespace DiceRoller

/-- A match: the characters before the piece that belong to the match, the piece, those after it, and
the text behind the match.  A match without a piece only keeps its characters from matching again. -/
structure Match where
  lead : List Char
  body : List Char
  tail : List Char
  rest : List Char
  piece? : Option Piece

/-- All characters of a match. -/
def Match.whole (m : Match) : List Char :=
  m.lead ++ m.body ++ m.tail

/-- A pattern.  Its matches cover a beginning of the text they were found in, are not empty, and have
a piece, if any, that stands for the middle part of the match. -/
structure Pattern where
  match? : Option Char → List Char → Option Match
  covers : ∀ {before cs m}, match? before cs = some m → m.whole ++ m.rest = cs
  body_ne_nil : ∀ {before cs m}, match? before cs = some m → m.body ≠ []
  source_piece : ∀ {before cs m piece}, match? before cs = some m → m.piece? = some piece →
    piece.source = m.body

namespace Pattern

/-- A match leaves less text than there was. -/
theorem length_rest_lt (p : Pattern) {before : Option Char} {cs : List Char} {m : Match}
    (h : p.match? before cs = some m) : m.rest.length < cs.length := by
  have hbody := List.length_pos_iff.2 (p.body_ne_nil h)
  rw [← p.covers h, Match.whole]
  simp only [List.length_append]
  omega

/-- Cuts a text by a pattern, given the character before the text. -/
def cutAfter (p : Pattern) (before : Option Char) (cs : List Char) : List Piece :=
  match cs with
  | [] => []
  | c :: cs' =>
    match h : p.match? before (c :: cs') with
    | none => Piece.pushText [c] (p.cutAfter (some c) cs')
    | some m =>
      have := p.length_rest_lt h
      let pieces := p.cutAfter m.whole.getLast? m.rest
      match m.piece? with
      | none => Piece.pushText m.whole pieces
      | some piece => Piece.pushText m.lead (piece :: Piece.pushText m.tail pieces)
termination_by cs.length
decreasing_by
  · exact Nat.lt_succ_self _
  · assumption

/-- Cuts a text by a pattern. -/
def cut (p : Pattern) (cs : List Char) : List Piece :=
  p.cutAfter none cs

/-- Cuts the text among some pieces by a pattern and leaves the other pieces alone. -/
def refine (p : Pattern) (pieces : List Piece) : List Piece :=
  pieces.flatMap fun piece =>
    match piece with
    | .text body => p.cut body
    | piece => [piece]

@[simp]
theorem cut_nil (p : Pattern) : p.cut [] = [] := by
  rw [cut, cutAfter]

/-- The pieces of a text make up the text, whatever stands before it. -/
theorem sources_cutAfter (p : Pattern) (before : Option Char) (cs : List Char) :
    Piece.sources (p.cutAfter before cs) = cs := by
  fun_induction p.cutAfter before cs with
  | case1 => rfl
  | case2 before c cs hnone ih => rw [Piece.sources_pushText, ih, List.singleton_append]
  | case3 before c cs m hm hlt pieces hpiece ih =>
    rw [Piece.sources_pushText, ih, p.covers hm]
  | case4 before c cs m hm hlt pieces piece hpiece ih =>
    rw [Piece.sources_pushText, Piece.sources_cons, Piece.sources_pushText, ih,
      p.source_piece hm hpiece, ← List.append_assoc, ← List.append_assoc]
    exact p.covers hm

/-- The pieces of a text make up the text. -/
@[simp]
theorem sources_cut (p : Pattern) (cs : List Char) : Piece.sources (p.cut cs) = cs :=
  p.sources_cutAfter none cs

/-- Cutting pieces further keeps the text they stand for. -/
@[simp]
theorem sources_refine (p : Pattern) (pieces : List Piece) :
    Piece.sources (p.refine pieces) = Piece.sources pieces := by
  induction pieces with
  | nil => rfl
  | cons piece pieces ih =>
    rw [refine, List.flatMap_cons, Piece.sources_append, Piece.sources_cons]
    rw [refine] at ih
    rw [ih]
    cases piece <;> simp [Piece.source]

end Pattern
end DiceRoller
