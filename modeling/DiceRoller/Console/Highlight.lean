import DiceRoller.Console.Tint
import DiceRoller.Scan.Scanner

/-!
# Highlighting

The line that is being typed shows its tokens in cyan.

Main results:

- Theorem `highlight_plain`: without colours a line is shown as it is.
-/

namespace DiceRoller

/-- A piece of the line that is being typed. -/
def Piece.highlight (coloured : Bool) (piece : Piece) : List Char :=
  match piece.token? with
  | some found => Tint.cyan.paint coloured found.matched
  | none => piece.source

/-- The line that is being typed, with its tokens in cyan. -/
def highlight (coloured : Bool) (line : List Char) : List Char :=
  (pieces line).flatMap (Piece.highlight coloured)

/-- What is shown of a line from a cursor on, when its tokens from there on are the given ones: the
part up to the next token, the token in cyan, and so on behind it; at last the rest of the line. -/
def highlightFrom? (coloured : Bool) (line : List Char) (cursor : Nat) :
    List PlacedToken → Option (List Char)
  | [] => Text.slice? cursor (Text.byteLength line) line
  | placed :: others => do
    let between ← Text.slice? cursor placed.start line
    let behind ← highlightFrom? coloured line placed.stop others
    return between ++ Tint.cyan.paint coloured placed.token.matched ++ behind

/-- Without colours a piece is shown as it is. -/
theorem Piece.highlight_plain (piece : Piece) : piece.highlight false = piece.source := by
  cases piece <;> rfl

/-- Without colours a line is shown as it is. -/
@[simp]
theorem highlight_plain (line : List Char) : highlight false line = line := by
  rw [highlight, List.flatMap_def, List.map_congr_left fun piece _ => piece.highlight_plain,
    ← List.flatMap_def]
  exact sources_pieces line

end DiceRoller
