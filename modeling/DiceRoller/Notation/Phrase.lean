import DiceRoller.Text.Decimal

/-!
# Phrases of dice notation

The grammar of canonical notation, over runs of digits, the letter `d`, the keywords `kh` and `kl`,
and signs:

    dice  =  [digits] d digits [(kh | kl) digits] [sign digits]
    flat  =  [sign] digits

A text that is no phrase is refused at the end of its longest beginning that a phrase could have,
together with what could stand there instead.
-/

namespace DiceRoller

/-- A sign in front of digits. -/
inductive Sign where
  | plus
  | minus
  deriving DecidableEq, Repr

/-- The character of a sign. -/
def Sign.char : Sign → Char
  | plus => '+'
  | minus => '-'

/-- Which end of the throws a keep rule keeps. -/
inductive KeepEnd where
  | highest
  | lowest
  deriving DecidableEq, Repr

/-- A sign with the digits after it. -/
structure SignedDigits where
  sign : Sign
  digits : List Char
  deriving DecidableEq, Repr

/-- A keep rule as written. -/
structure KeepDigits where
  side : KeepEnd
  digits : List Char
  deriving DecidableEq, Repr

/-- A notation cut into its parts, every number still a run of digits.  An absent count has no
digits. -/
inductive Phrase where
  | dice (count sides : List Char) (keep : Option KeepDigits) (modifier : Option SignedDigits)
  | flat (sign : Option Sign) (digits : List Char)
  deriving DecidableEq, Repr

/-- The named rules of the grammar, in its order, behind the end of the text. -/
inductive GrammarRule where
  | textEnd
  | number
  | sign
  | count
  | sides
  | keepHigh
  | keepLow
  | modifier
  | dice
  | flat
  | phrase
  deriving DecidableEq, Repr

namespace GrammarRule

/-- The name of a rule. -/
def name : GrammarRule → String
  | textEnd => "EOI"
  | number => "number"
  | sign => "sign"
  | count => "count"
  | sides => "sides"
  | keepHigh => "keep_hi"
  | keepLow => "keep_lo"
  | modifier => "modifier"
  | dice => "dice"
  | flat => "flat"
  | phrase => "notation"

/-- The rule of a keep rule. -/
def keep : KeepEnd → GrammarRule
  | .highest => keepHigh
  | .lowest => keepLow

/-- All rules, in order. -/
def all : List GrammarRule :=
  [textEnd, number, sign, count, sides, keepHigh, keepLow, modifier, dice, flat, phrase]

/-- The end of a row of at least three names. -/
def series : List GrammarRule → String
  | [] => ""
  | [last] => s!"or {last.name}"
  | rule :: others => s!"{rule.name}, {series others}"

/-- The names of some rules as one text. -/
def listing : List GrammarRule → String
  | [rule] => rule.name
  | [rule, other] => s!"{rule.name} or {other.name}"
  | rules => series rules

end GrammarRule

/-- What could have stood where reading stopped. -/
inductive Expected where
  | phrase
  | number
  | keepSignOrEnd
  | signOrEnd
  | endOfText
  deriving DecidableEq, Repr

/-- The rules for what could have stood there, in their order. -/
def Expected.rules : Expected → List GrammarRule
  | phrase => [.phrase]
  | number => [.number]
  | keepSignOrEnd => [.textEnd, .sign, .keepHigh, .keepLow]
  | signOrEnd => [.textEnd, .sign]
  | endOfText => [.textEnd]

/-- The names of what could have stood there. -/
def Expected.names (expected : Expected) : String :=
  GrammarRule.listing expected.rules

/-- A text that is no phrase: how many of its characters could be read, and what was expected
after them. -/
structure GrammarFault where
  canonical : List Char
  read : Nat
  expected : Expected
  deriving DecidableEq, Repr

/-- A picture of the text with a mark under the place where reading stopped. -/
def GrammarFault.message (fault : GrammarFault) : String :=
  let column := fault.read + 1
  let margin := String.ofList (List.replicate fault.read ' ')
  s!" --> 1:{column}\n  |\n1 | {String.ofList fault.canonical}\n  | {margin}^---\n  |\n" ++
    s!"  = expected {fault.expected.names}"

namespace Phrase

/-! ## Reading -/

/-- The digits at the start of a text, and the rest. -/
def takeDigits (cs : List Char) : List Char × List Char :=
  (cs.takeWhile Char.isDigit, cs.dropWhile Char.isDigit)

/-- What was read before a place, given the text and what is left of it there. -/
def readBefore (whole rest : List Char) : Nat :=
  whole.length - rest.length

/-- A fault at the place where `rest` is left. -/
def stop {α : Type} (whole rest : List Char) (expected : Expected) : Except GrammarFault α :=
  .error ⟨whole, readBefore whole rest, expected⟩

/-- Digits that have to be there. -/
def needDigits (whole cs : List Char) : Except GrammarFault (List Char × List Char) :=
  match takeDigits cs with
  | ([], _) => stop whole cs .number
  | (digits, rest) => .ok (digits, rest)

/-- The keyword of a keep rule at the start of a text, and the rest. -/
def takeKeepEnd : List Char → Option (KeepEnd × List Char)
  | 'k' :: 'h' :: rest => some (.highest, rest)
  | 'k' :: 'l' :: rest => some (.lowest, rest)
  | _ => none

/-- A sign at the start of a text, and the rest. -/
def takeSign : List Char → Option (Sign × List Char)
  | '+' :: rest => some (.plus, rest)
  | '-' :: rest => some (.minus, rest)
  | _ => none

/-- The optional modifier that ends a roll of dice; `expected` names what could stand in its
place. -/
def parseModifier (whole cs : List Char) (expected : Expected) :
    Except GrammarFault (Option SignedDigits) :=
  match cs with
  | [] => .ok none
  | cs =>
    match takeSign cs with
    | none => stop whole cs expected
    | some (sign, rest) => do
      match ← needDigits whole rest with
      | (digits, []) => .ok (some ⟨sign, digits⟩)
      | (_, rest) => stop whole rest .endOfText

/-- What follows the `d` of a roll of dice. -/
def parseDice (whole count cs : List Char) : Except GrammarFault Phrase := do
  let (sides, rest) ← needDigits whole cs
  match takeKeepEnd rest with
  | some (side, rest) =>
    let (digits, rest) ← needDigits whole rest
    let modifier ← parseModifier whole rest .signOrEnd
    .ok (.dice count sides (some ⟨side, digits⟩) modifier)
  | none =>
    let modifier ← parseModifier whole rest .keepSignOrEnd
    .ok (.dice count sides none modifier)

/-- The digits of a plain number, which end the text. -/
def parseFlat (whole : List Char) (sign : Option Sign) (cs : List Char) :
    Except GrammarFault Phrase := do
  match ← needDigits whole cs with
  | (digits, []) => .ok (.flat sign digits)
  | (_, rest) => stop whole rest .endOfText

/-- Reads a canonical notation as a phrase. -/
def parse (cs : List Char) : Except GrammarFault Phrase :=
  match takeDigits cs with
  | (count, 'd' :: rest) => parseDice cs count rest
  | ([], _) =>
    match takeSign cs with
    | some (sign, rest) => parseFlat cs (some sign) rest
    | none => stop cs cs .phrase
  | _ => parseFlat cs none cs

/-! ## Writing -/

/-- The keyword of a keep rule. -/
def renderKeepEnd : KeepEnd → List Char
  | .highest => ['k', 'h']
  | .lowest => ['k', 'l']

/-- The written form of an optional modifier. -/
def renderSigned : Option SignedDigits → List Char
  | none => []
  | some part => part.sign.char :: part.digits

/-- The written form of an optional keep rule. -/
def renderKeep : Option KeepDigits → List Char
  | none => []
  | some part => renderKeepEnd part.side ++ part.digits

/-- The written form of a phrase. -/
def render : Phrase → List Char
  | dice count sides keep modifier =>
    count ++ 'd' :: sides ++ renderKeep keep ++ renderSigned modifier
  | flat sign digits => (sign.map Sign.char).toList ++ digits

end Phrase
end DiceRoller
