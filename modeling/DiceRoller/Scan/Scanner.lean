import DiceRoller.Scan.Markup
import DiceRoller.Scan.Rollable
import DiceRoller.Text.Bytes

/-!
# Scanning a text

A text is cut into pieces by one pattern after the other; each sees only the text that the patterns
before it have left, and takes the ends of such a part for the ends of the text.  The tokens of the
pieces are what a scan finds, and the annotated text puts marks around them.

Main results:

- Theorem `sources_pieces`: the pieces of a text make up the text.
- Theorem `annotate_of_plain`: a text without tokens and links stays as it is.
-/

namespace DiceRoller

/-- The patterns in the order in which they are tried. -/
def patterns : List Pattern :=
  [Markup.pattern, Link.pattern, Rollable.labelled, Rollable.toHit, Rollable.dice, Rollable.save]

/-- The pieces of a text. -/
def pieces (cs : List Char) : List Piece :=
  patterns.foldl (fun pieces pattern => pattern.refine pieces) [.text cs]

/-- A token and the byte of the text at which it starts. -/
structure PlacedToken where
  token : Token
  start : Nat
  deriving DecidableEq, Repr

/-- The byte behind a token. -/
def PlacedToken.stop (placed : PlacedToken) : Nat :=
  placed.start + Text.byteLength placed.token.matched

/-- The tokens among some pieces, the first piece starting at the given byte. -/
def placeTokens (start : Nat) : List Piece → List PlacedToken
  | [] => []
  | piece :: pieces =>
    let others := placeTokens (start + Text.byteLength piece.source) pieces
    match piece.token? with
    | some token => ⟨token, start⟩ :: others
    | none => others

/-- The tokens of a text with their places, from left to right. -/
def scan (cs : List Char) : List PlacedToken :=
  placeTokens 0 (pieces cs)

/-- The tokens of a text, from left to right. -/
def tokens (cs : List Char) : List Token :=
  (pieces cs).filterMap Piece.token?

/-- A text with marks around its tokens, and with its links reduced to their marked labels. -/
def annotate (cs : List Char) : List Char :=
  (pieces cs).flatMap Piece.annotated

/-! ## First laws -/

/-- The pieces of a text make up the text. -/
@[simp]
theorem sources_pieces (cs : List Char) : Piece.sources (pieces cs) = cs := by
  simp [pieces, patterns, Piece.source]

/-- Places do not change which tokens there are. -/
theorem map_token_placeTokens (start : Nat) (pieces : List Piece) :
    (placeTokens start pieces).map PlacedToken.token = pieces.filterMap Piece.token? := by
  induction pieces generalizing start with
  | nil => rfl
  | cons piece pieces ih =>
    rw [placeTokens]
    cases h : piece.token? <;> simp [h, ih]

/-- A scan finds the tokens of the text. -/
@[simp]
theorem map_token_scan (cs : List Char) : (scan cs).map PlacedToken.token = tokens cs :=
  map_token_placeTokens 0 (pieces cs)

/-- A text without tokens and links stays as it is. -/
theorem annotate_of_plain {cs : List Char}
    (h : ∀ piece ∈ pieces cs, piece.annotated = piece.source) : annotate cs = cs := by
  have hsources := sources_pieces cs
  rw [Piece.sources, List.flatMap_def] at hsources
  rw [annotate, List.flatMap_def, List.map_congr_left h, hsources]

end DiceRoller
