import DiceRoller.Scan.Scanner

/-!
# Scanning with a cursor

A scan as it goes through the bytes of a text.  A pattern is told a part of the text, the places of what
it finds are counted from the start of that part, and a cursor that goes along behind the finds tells
where text is left between them.  Every part of the text that is looked at has to be cut out of it, so a
wrong place would end the scan.
-/

namespace DiceRoller

/-- What a pattern finds in a text, each with the number of bytes in front of it, given the character
before the text and the number of bytes that were passed. -/
def Pattern.findsAfter (p : Pattern) (before : Option Char) (passed : Nat) (cs : List Char) :
    List (Nat × Piece) :=
  match cs with
  | [] => []
  | c :: cs' =>
    match h : p.match? before (c :: cs') with
    | none => p.findsAfter (some c) (passed + c.utf8Size) cs'
    | some m =>
      have := p.length_rest_lt h
      let others := p.findsAfter m.whole.getLast? (passed + Text.byteLength m.whole) m.rest
      match m.piece? with
      | none => others
      | some piece => (passed + Text.byteLength m.lead, piece) :: others
termination_by cs.length
decreasing_by
  · exact Nat.lt_succ_self _
  · assumption

namespace Pattern

variable {p : Pattern} {before : Option Char} {c : Char} {cs : List Char}

/-- Where nothing matches, a pattern goes on with the next character. -/
theorem findsAfter_of_none (h : p.match? before (c :: cs) = none) (passed : Nat) :
    p.findsAfter before passed (c :: cs) = p.findsAfter (some c) (passed + c.utf8Size) cs := by
  rw [findsAfter]
  split
  · rfl
  · rename_i m hm
    rw [h] at hm
    cases hm

/-- Where something matches, a pattern finds its piece, if it has one, and goes on behind the match. -/
theorem findsAfter_of_some {m : Match} (h : p.match? before (c :: cs) = some m) (passed : Nat) :
    p.findsAfter before passed (c :: cs) =
      (m.piece?.map fun piece => (passed + Text.byteLength m.lead, piece)).toList ++
        p.findsAfter m.whole.getLast? (passed + Text.byteLength m.whole) m.rest := by
  rw [findsAfter]
  split
  · rename_i hnone
    rw [h] at hnone
    cases hnone
  · rename_i m' hm'
    rw [h] at hm'
    cases hm'
    cases m.piece? with
    | none => rfl
    | some piece => rfl

end Pattern

/-- A piece of a text as a range of its bytes; of a link, the range of the label. -/
inductive Region where
  | text (start stop : Nat)
  | markup (start stop : Nat)
  | keyword (start stop : Nat)
  | token (placed : PlacedToken)
  deriving DecidableEq, Repr

namespace Region

/-- The region of a segment. -/
def ofSegment : Segment → Region
  | .markup start stop => markup start stop
  | .text start stop => text start stop

/-- The token of a region, if it is one. -/
def token? : Region → Option PlacedToken
  | token placed => some placed
  | _ => none

/-- The region of what was found at a byte of a text.  The characters of a token are cut out of the text,
and a label stands behind the bracket that opens a link. -/
def ofFound? (cs : List Char) (start : Nat) : Piece → Option Region
  | .text body => some (text start (start + Text.byteLength body))
  | .markup body => some (markup start (start + Text.byteLength body))
  | .link label _ => some (keyword (start + 1) (start + 1 + Text.byteLength label))
  | .token t =>
    (Text.slice? start (start + Text.byteLength t.matched) cs).map fun matched =>
      token ⟨⟨matched, t.kind⟩, start⟩

/-- The text between a cursor and a byte, if there is some. -/
def between (cursor stop : Nat) : List Region :=
  if cursor < stop then [text cursor stop] else []

/-- The regions from a cursor up to a byte, given what is found there; places are counted from a byte
`base`. -/
def gather? (cs : List Char) (base cursor stop : Nat) : List (Nat × Piece) → Option (List Region)
  | [] => some (between cursor stop)
  | (offset, piece) :: others => do
    let start := base + offset
    let region ← ofFound? cs start piece
    let behind ← gather? cs base (start + Text.byteLength piece.source) stop others
    return between cursor start ++ region :: behind

/-- Looks for a pattern in the text among some regions, and leaves the other regions alone. -/
def refine? (p : Pattern) (cs : List Char) : List Region → Option (List Region)
  | [] => some []
  | text start stop :: others => do
    let part ← Text.slice? start stop cs
    let found ← gather? cs start start stop (p.findsAfter none 0 part)
    let behind ← refine? p cs others
    return found ++ behind
  | region :: others => (refine? p cs others).map (region :: ·)

/-- A region as it stands in the annotated text. -/
def annotated? (cs : List Char) : Region → Option (List Char)
  | text start stop => Text.slice? start stop cs
  | markup start stop => Text.slice? start stop cs
  | keyword start stop => (Text.slice? start stop cs).map keywordMark
  | token placed => some placed.token.mark

end Region

/-- The regions of a text: links and then tokens are looked for in the text between markup. -/
def regions? (cs : List Char) : Option (List Region) :=
  [Link.pattern, Rollable.labelled, Rollable.toHit, Rollable.dice, Rollable.save].foldlM
    (fun regions pattern => Region.refine? pattern cs regions)
    ((Markup.split cs).map Region.ofSegment)

/-- The tokens of a text, found with a cursor. -/
def scanFrom? (cs : List Char) : Option (List PlacedToken) :=
  (regions? cs).map fun regions => regions.filterMap Region.token?

/-- The annotated text, put together with a cursor. -/
def annotateFrom? (cs : List Char) : Option (List Char) := do
  let regions ← regions? cs
  let parts ← regions.mapM (Region.annotated? cs)
  return parts.flatten

end DiceRoller
