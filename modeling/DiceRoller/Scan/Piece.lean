import DiceRoller.Notation.Parse
import DiceRoller.Roll.Query
import DiceRoller.Text.Bytes

/-!
# Tokens and pieces

A token is a part of a running text that can be rolled: dice that are written out, the bonus of an
attack, or the difficulty of a saving throw.  A scan cuts the text into pieces, in order: markup,
text, links and tokens.  Each piece knows the characters it stands for, so the pieces of a text put
together again are that text.
-/

namespace DiceRoller

/-- What a token stands for. -/
inductive Kind where
  | dice
  | attack (bonus : Int64)
  | save (dc : UInt64) (ability : List Char)
  deriving DecidableEq, Repr

/-- The name of a kind. -/
def Kind.name : Kind → List Char
  | dice => "plain-dice".toList
  | attack _ => "attack-bonus".toList
  | save _ _ => "saving-throw-dc".toList

/-- A part of a text that can be rolled. -/
structure Token where
  matched : List Char
  kind : Kind
  deriving DecidableEq, Repr

namespace Token

/-- The notation that a token stands for: dice mean themselves, an attack is a twenty-sided die with
the bonus, and a saving throw is a twenty-sided die. -/
def formula (token : Token) : List Char :=
  match token.kind with
  | .dice => DiceRoller.Notation.canonical token.matched
  | .attack bonus => "1d20".toList ++ Decimal.withSign bonus.toInt
  | .save _ _ => "1d20".toList

/-- The query for a token. -/
def query (token : Token) : Except Error Query :=
  Query.parse token.formula

/-- A token in a list of tokens. -/
def render (token : Token) : List Char :=
  '`' :: token.matched ++ "` *".toList ++ token.kind.name ++ "* `".toList ++ token.formula ++ ['`']

end Token

/-! ## Marks in annotated text -/

/-- The attribute that every mark carries. -/
def markAttribute : List Char :=
  "data-dicemark".toList

/-- The end of a mark. -/
def markEnd : List Char :=
  "</span>".toList

/-- An attribute in a tag, after a blank. -/
def renderAttribute (name value : List Char) : List Char :=
  ' ' :: name ++ '=' :: '"' :: value ++ ['"']

/-- A text inside a mark of a class, with attributes. -/
def renderMark (className attributes body : List Char) : List Char :=
  "<span".toList ++ renderAttribute "class".toList className ++ attributes ++ '>' :: body ++ markEnd

/-- The attributes that only a saving throw has. -/
def Kind.attributes : Kind → List Char
  | save dc ability =>
    renderAttribute "data-dc".toList (Decimal.digits dc.toNat) ++
      renderAttribute "data-ability".toList (ability.map Char.toLower)
  | _ => []

/-- The mark of a token. -/
def Token.mark (token : Token) : List Char :=
  renderMark "dicemark-roll".toList
    (renderAttribute markAttribute token.kind.name ++
      renderAttribute "data-notation".toList token.formula ++ token.kind.attributes)
    token.matched

/-- The mark of a link, which shows its label only. -/
def keywordMark (label : List Char) : List Char :=
  renderMark "dicemark-keyword".toList (renderAttribute markAttribute "keyword".toList) label

/-! ## Pieces -/

/-- A piece of a scanned text. -/
inductive Piece where
  | text (body : List Char)
  | markup (body : List Char)
  | link (label body : List Char)
  | token (token : Token)
  deriving DecidableEq, Repr

namespace Piece

/-- The characters that a piece stands for. -/
def source : Piece → List Char
  | text body => body
  | markup body => body
  | link _ body => body
  | token t => t.matched

/-- The token of a piece, if it is one. -/
def token? : Piece → Option Token
  | token t => some t
  | _ => none

/-- A piece as it stands in the annotated text. -/
def annotated : Piece → List Char
  | text body => body
  | markup body => body
  | link label _ => keywordMark label
  | token t => t.mark

/-- The text that a row of pieces stands for. -/
def sources (pieces : List Piece) : List Char :=
  pieces.flatMap source

/-- Puts text in front of pieces; text next to text is one piece, and no text is none. -/
def pushText (cs : List Char) : List Piece → List Piece
  | text ds :: pieces => text (cs ++ ds) :: pieces
  | pieces => if cs.isEmpty then pieces else text cs :: pieces

/-- Every piece with the byte at which it starts, the first one starting at the given byte. -/
def placed (start : Nat) : List Piece → List (Nat × Piece)
  | [] => []
  | piece :: pieces => (start, piece) :: placed (start + Text.byteLength piece.source) pieces

@[simp]
theorem sources_nil : sources [] = [] :=
  rfl

@[simp]
theorem sources_cons (piece : Piece) (pieces : List Piece) :
    sources (piece :: pieces) = piece.source ++ sources pieces := by
  simp [sources]

@[simp]
theorem sources_append (xs ys : List Piece) : sources (xs ++ ys) = sources xs ++ sources ys := by
  simp [sources]

/-- Text that is put in front stands in front. -/
@[simp]
theorem sources_pushText (cs : List Char) (pieces : List Piece) :
    sources (pushText cs pieces) = cs ++ sources pieces := by
  unfold pushText
  split
  · simp [source]
  · split <;> simp_all [source]

/-- The pieces behind others are placed behind the text of those. -/
theorem placed_append (start : Nat) (xs ys : List Piece) :
    placed start (xs ++ ys) = placed start xs ++ placed (start + Text.byteLength (sources xs)) ys := by
  induction xs generalizing start with
  | nil => rfl
  | cons piece xs ih =>
    rw [List.cons_append, placed, placed, ih, sources_cons, Text.byteLength_append, Nat.add_assoc,
      List.cons_append]

end Piece
end DiceRoller
