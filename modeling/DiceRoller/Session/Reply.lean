import DiceRoller.Roll.Basic
import DiceRoller.Scan.Piece
import DiceRoller.Session.Command

/-!
# Replies and diagnostics

What a session says to a line: a reply, which is a text with light markup or, for annotated text, a
text as it is; or a diagnostic that says why nothing came of the line.
-/

namespace DiceRoller

/-- A roll and the time of day at which it was made. -/
structure LogEntry where
  time : List Char
  roll : Roll
  deriving DecidableEq, Repr

/-- What a line brought. -/
inductive Reply where
  | rolled (roll : Roll)
  | advantage (roll : Roll)
  | disadvantage (roll : Roll)
  | picked (kind : Kind) (roll : Roll)
  | tokens (found : List Token)
  | annotated (marked : List Char)
  | history (capacity : Nat) (entries : List LogEntry)
  | cleared
  | help
  deriving DecidableEq, Repr

namespace Reply

/-- The roll that a reply shows. -/
def roll? : Reply → Option Roll
  | rolled roll => some roll
  | advantage roll => some roll
  | disadvantage roll => some roll
  | picked _ roll => some roll
  | _ => none

/-- Whether the text of a reply has no markup. -/
def isPlain : Reply → Bool
  | annotated _ => true
  | _ => false

/-- Whether a total saves against a difficulty. -/
def saves (dc : UInt64) (total : Int64) : Bool :=
  (dc.toNat : Int) ≤ total.toInt

/-- The verdict on a roll for a token; only a saving throw has one. -/
def renderVerdict (kind : Kind) (total : Int64) : List Char :=
  match kind with
  | .save dc ability =>
    " *".toList ++ ability ++ " save vs DC ".toList ++ Decimal.digits dc.toNat ++ "* **".toList ++
      (if saves dc total then "success".toList else "failure".toList) ++ "**".toList
  | _ => []

/-- Lines with their numbers, each after a line break. -/
def renderNumbered (first : Nat) : List (List Char) → List Char
  | [] => []
  | line :: lines =>
    '\n' :: Decimal.digits first ++ ". ".toList ++ line ++ renderNumbered (first + 1) lines

/-- A roll in the list of past rolls. -/
def renderEntry (entry : LogEntry) : List Char :=
  '*' :: entry.time ++ "* ".toList ++ entry.roll.render

/-- The list of past rolls. -/
def renderHistory (capacity : Nat) (entries : List LogEntry) : List Char :=
  if entries.isEmpty then "**history** *empty*".toList
  else
    "**history** ".toList ++ Decimal.digits entries.length ++ '/' :: Decimal.digits capacity ++
      renderNumbered 1 (entries.map renderEntry)

/-- The list of the tokens of a text. -/
def renderTokens (tokens : List Token) : List Char :=
  if tokens.isEmpty then "**tokens** *none*".toList
  else "**tokens**".toList ++ renderNumbered 1 (tokens.map Token.render)

/-- What can be typed. -/
def helpText : String :=
  "**dicemark**\n" ++
  "`2d6+3` `d20` `4d6kh3` `2d20kl1-1` `+5` *roll a notation*\n" ++
  "`!adv [mod]` `!dis [mod]` *roll with advantage or disadvantage*\n" ++
  "`!scan <text>` *list the rollable tokens of a text*\n" ++
  "`!annotate <text>` *mark the rollable tokens of a text*\n" ++
  "`!pick <n>` *roll the n-th token of the last scanned text*\n" ++
  "`!history` `!clear` *show or forget the session rolls*"

/-- The text of a reply. -/
def text : Reply → List Char
  | rolled roll => "**rolling**\n".toList ++ roll.render
  | advantage roll => "**advantage**\n".toList ++ roll.render
  | disadvantage roll => "**disadvantage**\n".toList ++ roll.render
  | picked kind roll =>
    "**rolling** *".toList ++ kind.name ++ "*\n".toList ++ roll.render ++
      renderVerdict kind roll.total
  | tokens found => renderTokens found
  | annotated marked => marked
  | history capacity entries => renderHistory capacity entries
  | cleared => "**history** *cleared*".toList
  | help => helpText.toList

end Reply

/-- Why nothing came of a line. -/
inductive Diagnostic where
  | command (fault : CommandFault)
  | rejected (formula : List Char) (error : Error)
  | noToken (number : UInt64)
  | dcOutOfRange (dc : UInt64)
  | failed (error : Error)
  deriving DecidableEq, Repr

namespace Diagnostic

/-- An error announced; the picture of a grammar fault starts on a line of its own. -/
def announce (error : Error) : String :=
  match error with
  | .grammar _ => "error\n" ++ error.message
  | _ => "error: " ++ error.message

/-- The wording of a diagnostic. -/
def message : Diagnostic → String
  | command fault => fault.message
  | rejected _ error => announce error
  | noToken number => s!"no token `{number}` in the last scanned text"
  | dcOutOfRange dc => s!"DC `{dc}` is out of range"
  | failed error => announce error

end Diagnostic
end DiceRoller
