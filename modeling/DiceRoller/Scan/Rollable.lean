import DiceRoller.Scan.Pattern
import DiceRoller.Text.Caseless
import DiceRoller.Text.DecimalDigit
import DiceRoller.Text.WordChar

/-!
# Rollable parts of a text

The four patterns that find tokens, in the order in which they are tried on a text:

- `Attack:` in front of a signed number,
- a signed number in front of ` to hit`,
- dice that are written out, perhaps with a signed number behind them,
- the difficulty in `DC 15 Dexterity saving throw`.

A number that the words around it mark as rollable but that cannot be read, or dice that cannot be
rolled, stay text.
-/

namespace DiceRoller
namespace Rollable

/-! ## Parts of the patterns -/

/-- The digits at the start of a text, at least one, and the rest. -/
def takeNumber (cs : List Char) : Option (List Char × List Char) :=
  match cs.takeWhile Text.isDecimalDigit with
  | [] => none
  | digits => some (digits, cs.dropWhile Text.isDecimalDigit)

/-- A sign with a number behind it at the start of a text, and the rest. -/
def takeSigned : List Char → Option (List Char × List Char)
  | [] => none
  | c :: cs =>
    if c == '+' || c == '-' then (takeNumber cs).map fun taken => (c :: taken.1, taken.2) else none

/-- A character at the start of a text if it is the given one, else nothing, and the rest. -/
def takeOptional (c : Char) : List Char → List Char × List Char
  | [] => ([], [])
  | d :: cs => if d = c then ([d], cs) else ([], d :: cs)

/-- A character at the start of a text, and the rest. -/
def takeChar (c : Char) : List Char → Option (List Char × List Char)
  | [] => none
  | d :: cs => if d = c then some ([d], cs) else none

/-- A word of ASCII letters at the start of a text, and the rest. -/
def takeLetters (cs : List Char) : Option (List Char × List Char) :=
  match cs.takeWhile Char.isAlpha with
  | [] => none
  | letters => some (letters, cs.dropWhile Char.isAlpha)

/-- A number is taken off the start of a text. -/
theorem takeNumber_append {cs front back : List Char} (h : takeNumber cs = some (front, back)) :
    front ++ back = cs := by
  unfold takeNumber at h
  split at h
  · simp at h
  · simp only [Option.some.injEq, Prod.mk.injEq] at h
    rw [← h.1, ← h.2, List.takeWhile_append_dropWhile]

/-- It has digits. -/
theorem takeNumber_ne_nil {cs front back : List Char} (h : takeNumber cs = some (front, back)) :
    front ≠ [] := by
  unfold takeNumber at h
  split at h
  · simp at h
  · simp only [Option.some.injEq, Prod.mk.injEq] at h
    simp_all

/-- So is a number with a sign. -/
theorem takeSigned_append {cs front back : List Char} (h : takeSigned cs = some (front, back)) :
    front ++ back = cs := by
  cases cs with
  | nil => simp [takeSigned] at h
  | cons c cs =>
    rw [takeSigned] at h
    split at h
    · obtain ⟨⟨digits, rest⟩, htaken, heq⟩ := Option.map_eq_some_iff.1 h
      simp only [Prod.mk.injEq] at heq
      rw [← heq.1, ← heq.2, List.cons_append, takeNumber_append htaken]
    · simp at h

/-- It has its sign. -/
theorem takeSigned_ne_nil {cs front back : List Char} (h : takeSigned cs = some (front, back)) :
    front ≠ [] := by
  cases cs with
  | nil => simp [takeSigned] at h
  | cons c cs =>
    rw [takeSigned] at h
    split at h
    · obtain ⟨⟨digits, rest⟩, htaken, heq⟩ := Option.map_eq_some_iff.1 h
      simp only [Prod.mk.injEq] at heq
      simp [← heq.1]
    · simp at h

/-- So is a character that may be missing. -/
theorem takeOptional_append (c : Char) (cs : List Char) :
    (takeOptional c cs).1 ++ (takeOptional c cs).2 = cs := by
  cases cs with
  | nil => rfl
  | cons d cs =>
    rw [takeOptional]
    split <;> rfl

/-- So is one that has to be there. -/
theorem takeChar_append {c : Char} {cs front back : List Char}
    (h : takeChar c cs = some (front, back)) : front ++ back = cs := by
  cases cs with
  | nil => simp [takeChar] at h
  | cons d cs =>
    rw [takeChar] at h
    split at h
    · simp only [Option.some.injEq, Prod.mk.injEq] at h
      rw [← h.1, ← h.2, List.singleton_append]
    · simp at h

/-- So are letters. -/
theorem takeLetters_append {cs front back : List Char} (h : takeLetters cs = some (front, back)) :
    front ++ back = cs := by
  unfold takeLetters at h
  split at h
  · simp at h
  · simp only [Option.some.injEq, Prod.mk.injEq] at h
    rw [← h.1, ← h.2, List.takeWhile_append_dropWhile]

/-! ## Attacks -/

/-- The piece for the bonus of an attack, if the number can be read. -/
def attackPiece (bonus : List Char) : Option Piece :=
  (Decimal.readSigned bonus).toOption.map fun n => .token ⟨bonus, .attack n⟩

/-- A bonus behind the word `Attack:`. -/
def matchLabelled (before : Option Char) (cs : List Char) : Option Match :=
  if Text.isWordEdge before then
    (Text.takeCaseless "attack:".toList cs).bind fun word =>
      let space := takeOptional ' ' word.2
      (takeSigned space.2).bind fun bonus =>
        if Text.isWordEdge bonus.2.head? then
          some ⟨word.1 ++ space.1, bonus.1, [], bonus.2, attackPiece bonus.1⟩
        else none
  else none

/-- A bonus in front of the words ` to hit`, behind the given characters. -/
def matchBonusToHit (lead cs : List Char) : Option Match :=
  (takeSigned cs).bind fun bonus =>
    (Text.takeCaseless " to hit".toList bonus.2).bind fun words =>
      if Text.isWordEdge words.2.head? then
        some ⟨lead, bonus.1, words.1, words.2, attackPiece bonus.1⟩
      else none

/-- A bonus in front of the words ` to hit`: at the start of the text, or behind a character that
belongs to no word and is part of the match. -/
def matchToHit (before : Option Char) (cs : List Char) : Option Match :=
  match if before.isNone then matchBonusToHit [] cs else none with
  | some m => some m
  | none =>
    match cs with
    | [] => none
    | c :: cs => if Text.isWordChar c then none else matchBonusToHit [c] cs

/-! ## Dice -/

/-- The piece for dice, if they can be rolled. -/
def dicePiece (dice : List Char) : Option Piece :=
  (Descriptor.parse dice).toOption.map fun _ => .token ⟨dice, .dice⟩

/-- A signed number behind dice, with blanks around its sign, up to the edge of a word. -/
def takeModifier (cs : List Char) : Option (List Char × List Char) :=
  let blanks := cs.takeWhile Text.isBlank
  match cs.dropWhile Text.isBlank with
  | [] => none
  | c :: more =>
    if c == '+' || c == '-' then
      (takeNumber (more.dropWhile Text.isBlank)).bind fun number =>
        if Text.isWordEdge number.2.head? then
          some (blanks ++ c :: more.takeWhile Text.isBlank ++ number.1, number.2)
        else none
    else none

/-- The letter between the number of dice and the number of sides. -/
def takeDieLetter : List Char → Option (List Char × List Char)
  | [] => none
  | c :: cs => if c == 'd' || c == 'D' then some ([c], cs) else none

/-- Dice that are written out. -/
def matchDice (before : Option Char) (cs : List Char) : Option Match :=
  if Text.isWordEdge before then
    let count := cs.takeWhile Text.isDecimalDigit
    (takeDieLetter (cs.dropWhile Text.isDecimalDigit)).bind fun letter =>
      (takeNumber letter.2).bind fun sides =>
        let dice := count ++ letter.1 ++ sides.1
        match takeModifier sides.2 with
        | some modifier =>
          some ⟨[], dice ++ modifier.1, [], modifier.2, dicePiece (dice ++ modifier.1)⟩
        | none =>
          if Text.isWordEdge sides.2.head? then some ⟨[], dice, [], sides.2, dicePiece dice⟩
          else none
  else none

/-! ## Saving throws -/

/-- The piece for the difficulty of a saving throw, if the number can be read. -/
def savePiece (dc ability : List Char) : Option Piece :=
  (Decimal.readUnsigned dc).toOption.map fun n => .token ⟨dc, .save n ability⟩

/-- The two capitals in front of a difficulty. -/
def takeDC : List Char → Option (List Char × List Char)
  | 'D' :: 'C' :: ' ' :: cs => some ("DC ".toList, cs)
  | _ => none

/-- The difficulty in front of an ability and the words `saving throw`. -/
def matchSave (before : Option Char) (cs : List Char) : Option Match :=
  if Text.isWordEdge before then
    (takeDC cs).bind fun capitals =>
      (takeNumber capitals.2).bind fun dc =>
        (takeChar ' ' dc.2).bind fun space =>
          (takeLetters space.2).bind fun ability =>
            (takeChar ' ' ability.2).bind fun space' =>
              (Text.takeCaseless "saving throw".toList space'.2).map fun words =>
                ⟨capitals.1, dc.1, space.1 ++ ability.1 ++ space'.1 ++ words.1, words.2,
                  savePiece dc.1 ability.1⟩
  else none

/-! ## The patterns and their laws -/

/-- What a pattern owes for one of its matches: it covers a beginning of the text, its middle part is
not empty, and its piece stands for that part. -/
structure Owed (cs : List Char) (m : Match) : Prop where
  covers : m.whole ++ m.rest = cs
  body_ne_nil : m.body ≠ []
  source_piece : ∀ piece, m.piece? = some piece → piece.source = m.body

/-- The piece of an attack stands for the bonus. -/
theorem source_attackPiece {bonus : List Char} (piece : Piece) (h : attackPiece bonus = some piece) :
    piece.source = bonus := by
  obtain ⟨n, -, rfl⟩ := Option.map_eq_some_iff.1 h
  rfl

/-- The piece of a roll of dice stands for the dice. -/
theorem source_dicePiece {dice : List Char} (piece : Piece) (h : dicePiece dice = some piece) :
    piece.source = dice := by
  obtain ⟨n, -, rfl⟩ := Option.map_eq_some_iff.1 h
  rfl

/-- The piece of a saving throw stands for the difficulty class. -/
theorem source_savePiece {dc ability : List Char} (piece : Piece)
    (h : savePiece dc ability = some piece) : piece.source = dc := by
  obtain ⟨n, -, rfl⟩ := Option.map_eq_some_iff.1 h
  rfl

/-- A labelled bonus is cut out of the text that is searched. -/
theorem owed_matchLabelled {before : Option Char} {cs : List Char} {m : Match}
    (h : matchLabelled before cs = some m) : Owed cs m := by
  unfold matchLabelled at h
  split at h
  · obtain ⟨word, hword, h⟩ := Option.bind_eq_some_iff.1 h
    obtain ⟨bonus, hbonus, h⟩ := Option.bind_eq_some_iff.1 h
    split at h
    · cases h
      refine ⟨?_, takeSigned_ne_nil hbonus, source_attackPiece⟩
      simp only [Match.whole, List.append_nil, List.append_assoc]
      rw [takeSigned_append hbonus, takeOptional_append, Text.takeCaseless_append hword]
    · cases h
  · cases h

/-- So is a bonus to hit, behind what leads to it. -/
theorem owed_matchBonusToHit {lead cs : List Char} {m : Match}
    (h : matchBonusToHit lead cs = some m) : Owed (lead ++ cs) m := by
  obtain ⟨bonus, hbonus, h⟩ := Option.bind_eq_some_iff.1 h
  obtain ⟨words, hwords, h⟩ := Option.bind_eq_some_iff.1 h
  split at h
  · cases h
    refine ⟨?_, takeSigned_ne_nil hbonus, source_attackPiece⟩
    rw [← takeSigned_append hbonus, ← Text.takeCaseless_append hwords]
    simp [Match.whole]
  · cases h

/-- So is one at the start of the text, or behind a character that belongs to no word. -/
theorem owed_matchToHit {before : Option Char} {cs : List Char} {m : Match}
    (h : matchToHit before cs = some m) : Owed cs m := by
  unfold matchToHit at h
  split at h
  · rename_i hstart
    cases h
    split at hstart
    · exact owed_matchBonusToHit hstart
    · cases hstart
  · split at h
    · cases h
    · split at h
      · cases h
      · exact owed_matchBonusToHit h

/-- A modifier is taken off the start of a text. -/
theorem takeModifier_append {cs front back : List Char} (h : takeModifier cs = some (front, back)) :
    front ++ back = cs := by
  unfold takeModifier at h
  split at h
  · cases h
  · rename_i c more hmore
    split at h
    · obtain ⟨number, hnumber, h⟩ := Option.bind_eq_some_iff.1 h
      split at h
      · cases h
        have hcs := List.takeWhile_append_dropWhile (p := Text.isBlank) (l := cs)
        have hblanks := List.takeWhile_append_dropWhile (p := Text.isBlank) (l := more)
        rw [← takeNumber_append hnumber] at hblanks
        rw [hmore] at hcs
        simpa [hblanks] using hcs
      · cases h
    · cases h

/-- So is the letter of dice. -/
theorem takeDieLetter_append {cs front back : List Char}
    (h : takeDieLetter cs = some (front, back)) : front ++ back = cs := by
  cases cs with
  | nil => cases h
  | cons c cs =>
    rw [takeDieLetter] at h
    split at h
    · cases h
      rfl
    · cases h

/-- It is there. -/
theorem takeDieLetter_ne_nil {cs front back : List Char}
    (h : takeDieLetter cs = some (front, back)) : front ≠ [] := by
  cases cs with
  | nil => cases h
  | cons c cs =>
    rw [takeDieLetter] at h
    split at h
    · cases h
      simp
    · cases h

/-- A roll of dice is cut out of the text that is searched. -/
theorem owed_matchDice {before : Option Char} {cs : List Char} {m : Match}
    (h : matchDice before cs = some m) : Owed cs m := by
  unfold matchDice at h
  split at h
  · obtain ⟨letter, hletter, h⟩ := Option.bind_eq_some_iff.1 h
    obtain ⟨sides, hsides, h⟩ := Option.bind_eq_some_iff.1 h
    have hcs := List.takeWhile_append_dropWhile (p := Text.isDecimalDigit) (l := cs)
    rw [← takeDieLetter_append hletter, ← takeNumber_append hsides] at hcs
    have hletter_ne := takeDieLetter_ne_nil hletter
    split at h
    · rename_i modifier hmodifier
      cases h
      refine ⟨?_, by simp [hletter_ne], source_dicePiece⟩
      rw [← takeModifier_append hmodifier] at hcs
      simpa [Match.whole] using hcs
    · split at h
      · cases h
        refine ⟨?_, by simp [hletter_ne], source_dicePiece⟩
        simpa [Match.whole] using hcs
      · cases h
  · cases h

/-- The words for a difficulty class are taken off the start of a text. -/
theorem takeDC_append {cs front back : List Char} (h : takeDC cs = some (front, back)) :
    front ++ back = cs := by
  unfold takeDC at h
  split at h
  · cases h
    rfl
  · cases h

/-- A saving throw is cut out of the text that is searched. -/
theorem owed_matchSave {before : Option Char} {cs : List Char} {m : Match}
    (h : matchSave before cs = some m) : Owed cs m := by
  unfold matchSave at h
  split at h
  · obtain ⟨capitals, hcapitals, h⟩ := Option.bind_eq_some_iff.1 h
    obtain ⟨dc, hdc, h⟩ := Option.bind_eq_some_iff.1 h
    obtain ⟨space, hspace, h⟩ := Option.bind_eq_some_iff.1 h
    obtain ⟨ability, hability, h⟩ := Option.bind_eq_some_iff.1 h
    obtain ⟨space', hspace', h⟩ := Option.bind_eq_some_iff.1 h
    obtain ⟨words, hwords, rfl⟩ := Option.map_eq_some_iff.1 h
    refine ⟨?_, takeNumber_ne_nil hdc, source_savePiece⟩
    rw [← takeDC_append hcapitals, ← takeNumber_append hdc, ← takeChar_append hspace,
      ← takeLetters_append hability, ← takeChar_append hspace', ← Text.takeCaseless_append hwords]
    simp [Match.whole]
  · cases h

/-- Bonuses behind the word `Attack:`. -/
def labelled : Pattern where
  match? := matchLabelled
  covers h := (owed_matchLabelled h).covers
  body_ne_nil h := (owed_matchLabelled h).body_ne_nil
  source_piece h := (owed_matchLabelled h).source_piece _

/-- Bonuses in front of the words ` to hit`. -/
def toHit : Pattern where
  match? := matchToHit
  covers h := (owed_matchToHit h).covers
  body_ne_nil h := (owed_matchToHit h).body_ne_nil
  source_piece h := (owed_matchToHit h).source_piece _

/-- Dice that are written out. -/
def dice : Pattern where
  match? := matchDice
  covers h := (owed_matchDice h).covers
  body_ne_nil h := (owed_matchDice h).body_ne_nil
  source_piece h := (owed_matchDice h).source_piece _

/-- Difficulties of saving throws. -/
def save : Pattern where
  match? := matchSave
  covers h := (owed_matchSave h).covers
  body_ne_nil h := (owed_matchSave h).body_ne_nil
  source_piece h := (owed_matchSave h).source_piece _

end Rollable
end DiceRoller
