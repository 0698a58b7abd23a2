import DiceRoller.Proofs.Notation.Printing
import DiceRoller.Proofs.Scan.Tags
import DiceRoller.Proofs.Text.CharClass

/-!
# The marks in annotated text

A mark is a tag, the content, and the end of a mark.  Its tag holds no `<` and no `>` of its own,
because the attributes are made of digits, letters, signs and blanks only; so the tag is read as it was
written, and what a scan takes for the mark ends where the mark ends, unless its content holds such an
end.

Main results:

- Theorems `isMark_mark` and `isMark_keywordMark`: the marks of tokens and links.
- Theorem `plain_of_makes`: tokens are made of plain texts.
- Theorem `take_tag_mark`: an open tag in front of a mark is closed by the tag of the mark, and what
  is taken for it goes up to the end of the mark.
-/

namespace DiceRoller

open Text

/-! ## Plain texts -/

/-- A text without the characters that tags and links begin or end with. -/
def IsPlain (cs : List Char) : Prop :=
  ∀ c ∈ cs, c ≠ '<' ∧ c ≠ '>' ∧ c ≠ '['

instance (cs : List Char) : Decidable (IsPlain cs) :=
  List.decidableBAll _ cs

/-- The empty text is plain. -/
@[simp]
theorem isPlain_nil : IsPlain [] := by
  simp [IsPlain]

/-- A text is plain when each of its characters is. -/
@[simp]
theorem isPlain_cons {c : Char} {cs : List Char} :
    IsPlain (c :: cs) ↔ (c ≠ '<' ∧ c ≠ '>' ∧ c ≠ '[') ∧ IsPlain cs :=
  List.forall_mem_cons

/-- Plain texts are put together from plain texts. -/
@[simp]
theorem isPlain_append {xs ys : List Char} : IsPlain (xs ++ ys) ↔ IsPlain xs ∧ IsPlain ys :=
  List.forall_mem_append

/-- A plain text holds no bracket that a pattern looks for. -/
theorem IsPlain.not_mem {cs : List Char} (h : IsPlain cs) : '<' ∉ cs ∧ '>' ∉ cs ∧ '[' ∉ cs :=
  ⟨fun hc => (h _ hc).1 rfl, fun hc => (h _ hc).2.1 rfl, fun hc => (h _ hc).2.2 rfl⟩

/-- Characters of a kind to which the characters of markup do not belong make a plain text. -/
theorem isPlain_of_forall {p : Char → Bool} (hp : p '<' = false ∧ p '>' = false ∧ p '[' = false)
    {cs : List Char} (h : ∀ c ∈ cs, p c = true) : IsPlain cs := by
  intro c hc
  have hpc := h c hc
  refine ⟨?_, ?_, ?_⟩
  · rintro rfl
    simp [hp] at hpc
  · rintro rfl
    simp [hp] at hpc
  · rintro rfl
    simp [hp] at hpc

/-- ASCII digits are plain. -/
theorem isPlain_of_isDigit {cs : List Char} (h : ∀ c ∈ cs, c.isDigit = true) : IsPlain cs :=
  isPlain_of_forall (by decide) h

/-- So are ASCII letters. -/
theorem isPlain_of_isAlpha {cs : List Char} (h : ∀ c ∈ cs, c.isAlpha = true) : IsPlain cs :=
  isPlain_of_forall (by decide) h

/-- So are blanks. -/
theorem isPlain_of_isBlank {cs : List Char} (h : ∀ c ∈ cs, isBlank c = true) : IsPlain cs :=
  isPlain_of_forall (by decide) h

/-- So are the digits of all scripts. -/
theorem isPlain_of_isDecimalDigit {cs : List Char} (h : ∀ c ∈ cs, isDecimalDigit c = true) :
    IsPlain cs :=
  isPlain_of_forall (by decide +kernel) h

/-- An attribute is plain when its name and its value are. -/
theorem isPlain_renderAttribute {name value : List Char} (hname : IsPlain name)
    (hvalue : IsPlain value) : IsPlain (renderAttribute name value) := by
  simp [renderAttribute, hname, hvalue]

/-- A number with its sign is plain. -/
theorem isPlain_withSign (n : Int) : IsPlain (Decimal.withSign n) := by
  have hdigits := isPlain_of_isDigit (Decimal.isDigit_of_mem_digits n.natAbs)
  unfold Decimal.withSign
  split
  · simp [hdigits]
  · simp [hdigits]

/-! ## The texts in the marks of tokens -/

/-- The written form of a phrase is plain, as all characters of dice notation are. -/
theorem Phrase.WellFormed.isPlain_render {phrase : Phrase} (h : phrase.WellFormed) :
    IsPlain phrase.render := by
  have hplain : IsPlain notationChars := by decide
  intro c hc
  exact hplain c (h.mem_notationChars c hc)

/-- What can be read as notation is plain once it is canonical. -/
theorem isPlain_canonical {dice : List Char} {d : Descriptor} (h : Descriptor.parse dice = .ok d) :
    IsPlain (Notation.canonical dice) := by
  rcases Descriptor.exists_phrase_of_parse h with ⟨phrase, hwell, hrender, -, -⟩
  rw [← hrender]
  exact hwell.isPlain_render

namespace Rollable

/-- A number in a text is plain. -/
theorem IsNumber.isPlain {cs : List Char} (h : IsNumber cs) : IsPlain cs :=
  isPlain_of_isDecimalDigit h.digits

/-- So is a bonus. -/
theorem IsBonus.isPlain {cs : List Char} (h : IsBonus cs) : IsPlain cs := by
  rcases h with ⟨sign, digits, rfl, rfl | rfl, hnumber⟩
  · simp [hnumber.isPlain]
  · simp [hnumber.isPlain]

/-- So is a modifier. -/
theorem IsModifier.isPlain {cs : List Char} (h : IsModifier cs) : IsPlain cs := by
  rcases h with ⟨blanks, sign, blanks', digits, rfl, hblanks, rfl | rfl, hblanks', hnumber⟩
  · simp [isPlain_of_isBlank hblanks, isPlain_of_isBlank hblanks', hnumber.isPlain]
  · simp [isPlain_of_isBlank hblanks, isPlain_of_isBlank hblanks', hnumber.isPlain]

end Rollable

/-- A token of plain texts. -/
structure Token.IsPlain (t : Token) : Prop where
  matched : DiceRoller.IsPlain t.matched
  formula : DiceRoller.IsPlain t.formula
  attributes : DiceRoller.IsPlain t.kind.attributes

namespace Rollable

/-- The token for a bonus. -/
theorem isPlain_of_attackPiece {bonus : List Char} {t : Token} (hbonus : IsBonus bonus)
    (h : attackPiece bonus = some (.token t)) : t.IsPlain := by
  rcases Option.map_eq_some_iff.1 h with ⟨n, -, heq⟩
  cases heq
  refine ⟨hbonus.isPlain, ?_, isPlain_nil⟩
  show IsPlain ("1d20".toList ++ Decimal.withSign n.toInt)
  rw [isPlain_append]
  exact ⟨by decide, isPlain_withSign _⟩

/-- The token for dice. -/
theorem isPlain_of_dicePiece {dice : List Char} {t : Token} (hdice : IsPlain dice)
    (h : dicePiece dice = some (.token t)) : t.IsPlain := by
  rcases Option.map_eq_some_iff.1 h with ⟨d, hd, heq⟩
  cases heq
  exact ⟨hdice, isPlain_canonical (toOption_eq_some_iff.1 hd), isPlain_nil⟩

/-- The token for a difficulty. -/
theorem isPlain_of_savePiece {dc ability : List Char} {t : Token} (hnumber : IsNumber dc)
    (hability : IsWord ability) (h : savePiece dc ability = some (.token t)) : t.IsPlain := by
  rcases Option.map_eq_some_iff.1 h with ⟨n, -, heq⟩
  cases heq
  refine ⟨hnumber.isPlain, ?_, ?_⟩
  · show IsPlain "1d20".toList
    decide
  · show IsPlain (renderAttribute "data-dc".toList (Decimal.digits n.toNat) ++
      renderAttribute "data-ability".toList (ability.map Char.toLower))
    have hletters : ∀ c ∈ ability.map Char.toLower, c.isAlpha = true := by
      intro c hc
      rcases List.mem_map.1 hc with ⟨d, hd, rfl⟩
      rcases toLower_eq_or_isAlpha d with heq | hletter
      · rw [heq]
        exact hability.letters d hd
      · exact hletter
    rw [isPlain_append]
    constructor
    · exact isPlain_renderAttribute (by decide)
        (isPlain_of_isDigit (Decimal.isDigit_of_mem_digits _))
    · exact isPlain_renderAttribute (by decide) (isPlain_of_isAlpha hletters)

/-- So is the letter of dice. -/
theorem isPlain_of_isDieLetter {letter : Char} (h : IsDieLetter letter) : IsPlain [letter] := by
  rcases h with rfl | rfl
  · decide
  · decide

/-- So is a modifier that ends in front of something. -/
theorem ModifierBefore.isPlain {modifier rest : List Char} (h : ModifierBefore modifier rest) :
    IsPlain modifier := by
  rcases h with hmodifier | ⟨rfl, -⟩
  · exact hmodifier.isPlain
  · exact isPlain_nil

/-- Tokens are made of plain texts. -/
theorem plain_of_makes {p : Pattern} (hp : p ∈ tokenPatterns) {t : Token}
    (h : p.Makes (.token t)) : t.IsPlain := by
  rcases origin_of_makes hp h with ⟨bonus, hbonus, hpiece⟩ |
    ⟨count, letter, sides, modifier, rest, hcount, hletter, hnumber, hmodifier, hpiece⟩ |
    ⟨dc, ability, hnumber, hability, hpiece⟩
  · exact isPlain_of_attackPiece hbonus hpiece
  · apply isPlain_of_dicePiece _ hpiece
    rw [isPlain_append, isPlain_append, isPlain_cons]
    exact ⟨⟨isPlain_of_isDecimalDigit hcount,
      (isPlain_cons.1 (isPlain_of_isDieLetter hletter)).1, hnumber.isPlain⟩, hmodifier.isPlain⟩
  · exact isPlain_of_savePiece hnumber hability hpiece

end Rollable

/-! ## Marks -/

/-- The text of a tag that opens a mark, between the first character of the tag and its last one. -/
structure IsOpening (tag : List Char) : Prop where
  head : tag.head? = some 's'
  no_opener : '<' ∉ tag
  no_end : '>' ∉ tag
  marked : markAttribute <:+: tag

/-- A mark with a content. -/
def IsMark (content mark : List Char) : Prop :=
  ∃ tag, IsOpening tag ∧ mark = '<' :: tag ++ '>' :: (content ++ markEnd)

/-- A mark with plain attributes, one of which names it, is a mark around its content. -/
theorem isMark_renderMark {className attributes : List Char} (hclass : IsPlain className)
    (hattributes : IsPlain attributes) (hmark : markAttribute <:+: attributes)
    (content : List Char) : IsMark content (renderMark className attributes content) := by
  have hspan : "<span".toList = '<' :: 's' :: ['p', 'a', 'n'] := by decide
  have hclassPlain : IsPlain (renderAttribute "class".toList className) :=
    isPlain_renderAttribute (by decide) hclass
  have hplain : IsPlain
      ('s' :: ['p', 'a', 'n'] ++ renderAttribute "class".toList className ++ attributes) := by
    rw [isPlain_append, isPlain_append]
    exact ⟨⟨by decide, hclassPlain⟩, hattributes⟩
  have hshape : ∀ start value : List Char, start = '<' :: 's' :: ['p', 'a', 'n'] →
      start ++ value ++ attributes ++ '>' :: content ++ markEnd =
        '<' :: ('s' :: ['p', 'a', 'n'] ++ value ++ attributes) ++ '>' :: (content ++ markEnd) := by
    intro start value hstart
    rw [hstart]
    simp
  refine ⟨_, ⟨rfl, hplain.not_mem.1, hplain.not_mem.2.1, ?_⟩, hshape _ _ hspan⟩
  exact hmark.trans (List.suffix_append _ _).isInfix

/-- The name of an attribute stands in it. -/
theorem infix_renderAttribute (name value : List Char) : name <:+: renderAttribute name value :=
  ⟨[' '], '=' :: '"' :: value ++ ['"'], by simp [renderAttribute]⟩

/-- The mark of a link. -/
theorem isMark_keywordMark (label : List Char) : IsMark label (keywordMark label) :=
  isMark_renderMark (by decide) (isPlain_renderAttribute (by decide) (by decide))
    (infix_renderAttribute markAttribute "keyword".toList) label

/-- The mark of a token. -/
theorem isMark_mark {t : Token} (h : t.IsPlain) : IsMark t.matched t.mark := by
  have hname : IsPlain t.kind.name := by
    cases t.kind with
    | dice => decide
    | attack bonus =>
      show IsPlain "attack-bonus".toList
      decide
    | save dc ability =>
      show IsPlain "saving-throw-dc".toList
      decide
  apply isMark_renderMark (by decide)
  · rw [isPlain_append, isPlain_append]
    exact ⟨⟨isPlain_renderAttribute (by decide) hname,
      isPlain_renderAttribute (by decide) h.formula⟩, h.attributes⟩
  · rw [List.append_assoc]
    exact (infix_renderAttribute markAttribute t.kind.name).trans (List.prefix_append _ _).isInfix

/-! ## Ends of marks -/

/-- The end of a mark does not begin in a text that does not hold it, in front of a tag. -/
theorem not_markEnd_prefix {cs rest : List Char} (hne : cs ≠ []) (hcs : ¬ markEnd <:+: cs)
    (hrest : StopsAtTag rest) : ¬ markEnd <+: cs ++ rest := by
  intro h
  rcases h with ⟨more, hmore⟩
  rcases List.append_eq_append_iff.1 hmore with ⟨zs, heq, -⟩ | ⟨zs, heq, htail⟩
  · apply hcs
    rw [heq]
    exact (List.prefix_append markEnd zs).isInfix
  · cases zs with
    | nil =>
      apply hcs
      rw [heq, List.append_nil]
    | cons z zs =>
      rcases hrest with rfl | hhead
      · cases htail
      · -- Behind its first character the end of a mark holds no further `<`.
        rw [htail] at hhead
        have hz : z = '<' := Option.some.inj hhead
        rcases List.exists_cons_of_ne_nil hne with ⟨c, cs', rfl⟩
        have hmem : '<' ∈ "/span>".toList := by
          have hmarkEnd : "/span>".toList = cs' ++ z :: zs := (List.cons.inj heq).2
          rw [hmarkEnd, hz]
          exact List.mem_append_right cs' List.mem_cons_self
        revert hmem
        decide

/-- A mark ends where its content ends. -/
theorem through_markEnd {content : List Char} (h : ¬ markEnd <:+: content) (rest : List Char) :
    through markEnd (content ++ markEnd ++ rest) = some (content ++ markEnd, rest) := by
  apply (through_eq_some_iff (by decide)).2
  refine ⟨content, rfl, rfl, ?_⟩
  intro xs ys heq hne
  apply not_markEnd_prefix hne _ (Or.inr rfl)
  intro hinside
  apply h
  rw [heq]
  exact hinside.trans (List.suffix_append xs ys).isInfix

/-- The end of a mark ends a tag. -/
theorem not_infix_of_not_mem {cs : List Char} (h : '>' ∉ cs) : ¬ markEnd <:+: cs := by
  intro hinside
  exact h (hinside.subset (by decide))

/-- In front of the content of a mark there is no end of a mark, if no other tag ends there. -/
theorem not_infix_of_isOpening {passed tag content : List Char} (hpassed : '>' ∉ passed)
    (htag : IsOpening tag) (hcontent : '>' ∉ content) :
    ¬ markEnd <:+: passed ++ '<' :: tag ++ '>' :: content := by
  intro h
  rcases h with ⟨front, back, heq⟩
  have hmarkEnd : markEnd = '<' :: "/span".toList ++ ['>'] := rfl
  have hsplit : passed ++ '<' :: tag ++ '>' :: content =
      front ++ '<' :: "/span".toList ++ '>' :: back := by
    rw [← heq, hmarkEnd]
    simp
  have hleft : '>' ∉ passed ++ '<' :: tag := by
    simp [hpassed, htag.no_end]
  have hsame := ((List.append_cons_inj_of_notMem hleft hcontent).1 hsplit).1
  have hslash : tag ≠ "/span".toList := by
    rintro rfl
    exact absurd htag.head (by decide)
  rcases List.append_eq_append_iff.1 hsame with ⟨zs, -, htail⟩ | ⟨zs, -, htail⟩
  · cases zs with
    | nil => exact hslash (List.cons.inj htail).2
    | cons z zs =>
      apply htag.no_opener
      rw [(List.cons.inj htail).2]
      exact List.mem_append_right zs List.mem_cons_self
  · cases zs with
    | nil => exact hslash (List.cons.inj htail).2.symm
    | cons z zs =>
      have hmem : '<' ∈ "/span".toList := by
        rw [(List.cons.inj htail).2]
        exact List.mem_append_right zs List.mem_cons_self
      revert hmem
      decide

namespace Markup

/-! ## What is taken for a mark -/

/-- The tags that open marks: those with the attribute of marks, other than closing tags. -/
theorem opensMark_iff {tag : List Char} :
    opensMark tag = true ↔ ¬ "</".toList <+: tag ∧ markAttribute <:+: tag := by
  rw [opensMark, Bool.and_eq_true, Bool.not_eq_true', ← Bool.not_eq_true,
    List.isPrefixOf_iff_prefix, occursIn_iff]

/-- A tag with the attribute of marks opens a mark. -/
theorem opensMark_of_marked {tag : List Char} (hslash : tag.head? ≠ some '/')
    (hmarked : markAttribute <:+: tag) : opensMark ('<' :: tag ++ ['>']) = true := by
  have hclosing : "</".toList = ['<', '/'] := by decide
  rw [opensMark_iff, hclosing]
  constructor
  · intro h
    cases tag with
    | nil => exact absurd h (by decide)
    | cons c tag =>
      rw [List.cons_append, List.cons_append, List.cons_prefix_cons, List.cons_prefix_cons] at h
      apply hslash
      rw [h.2.1]
      rfl
  · exact hmarked.trans ⟨['<'], ['>'], rfl⟩

/-- A closing tag does not. -/
theorem opensMark_of_slash {tag : List Char} (hslash : tag.head? = some '/') (rest : List Char) :
    opensMark ('<' :: tag ++ rest) = false := by
  have hclosing : "</".toList.isPrefixOf ('<' :: tag ++ rest) = true := by
    cases tag with
    | nil => cases hslash
    | cons c tag =>
      cases hslash
      exact List.isPrefixOf_iff_prefix.2 ⟨tag ++ rest, rfl⟩
  rw [opensMark, hclosing]
  rfl

/-- A closing tag is a tag. -/
theorem opensTag_of_slash {tag : List Char} (hslash : tag.head? = some '/') :
    opensTag tag = true := by
  cases tag with
  | nil => cases hslash
  | cons c tag =>
    cases hslash
    rfl

/-- A tag with the attribute of a mark takes everything up to the end of the mark. -/
theorem take_marked_tag {tag content : List Char} (hopens : opensTag tag = true) (htag : '>' ∉ tag)
    (hslash : tag.head? ≠ some '/') (hmarked : markAttribute <:+: tag)
    (hcontent : ¬ markEnd <:+: content) (rest : List Char) :
    take ('<' :: tag ++ '>' :: (content ++ markEnd) ++ rest) =
      some ('<' :: tag ++ '>' :: (content ++ markEnd), rest) := by
  have hsplit : '<' :: tag ++ '>' :: (content ++ markEnd) ++ rest =
      '<' :: tag ++ '>' :: (content ++ markEnd ++ rest) := by
    simp
  rw [hsplit, take_tag_append hopens htag,
    takeBehind_of_mark (opensMark_of_marked hslash hmarked) (through_markEnd hcontent rest)]
  simp

variable {content mark : List Char}

/-- A mark is taken as it was written. -/
theorem take_mark (h : IsMark content mark) (hcontent : ¬ markEnd <:+: content)
    (rest : List Char) : take (mark ++ rest) = some (mark, rest) := by
  rcases h with ⟨tag, htag, rfl⟩
  have hopens : opensTag tag = true := by
    cases tag with
    | nil => cases htag.head
    | cons c tag =>
      cases htag.head
      rfl
  apply take_marked_tag hopens htag.no_end _ htag.marked hcontent
  rw [htag.head]
  decide

/-- The tag of a mark closes an open tag in front of it, which then takes the whole mark. -/
theorem take_tag_mark {tag : List Char} (hopens : opensTag tag = true) (htag : '>' ∉ tag)
    (hslash : tag.head? ≠ some '/') (h : IsMark content mark) (hcontent : ¬ markEnd <:+: content)
    (rest : List Char) : take ('<' :: tag ++ mark ++ rest) = some ('<' :: tag ++ mark, rest) := by
  rcases h with ⟨opening, hopening, rfl⟩
  have hsplit : '<' :: tag ++ ('<' :: opening ++ '>' :: (content ++ markEnd)) =
      '<' :: (tag ++ '<' :: opening) ++ '>' :: (content ++ markEnd) := by
    simp
  rw [hsplit]
  apply take_marked_tag _ _ _ _ hcontent
  · rw [opensTag_append (ne_nil_of_opensTag hopens), hopens]
  · simp [htag, hopening.no_end]
  · rw [List.head?_append_of_ne_nil _ (ne_nil_of_opensTag hopens)]
    exact hslash
  · exact hopening.marked.trans ⟨tag ++ ['<'], [], by simp⟩

/-- The tag of a mark closes an open closing tag in front of it, and lays the content open. -/
theorem take_closing_tag_mark {tag : List Char} (hslash : tag.head? = some '/') (htag : '>' ∉ tag)
    (h : IsMark content mark) (rest : List Char) :
    ∃ front, take ('<' :: tag ++ mark ++ rest) = some (front, content ++ (markEnd ++ rest)) := by
  rcases h with ⟨opening, hopening, rfl⟩
  have hsplit : '<' :: tag ++ ('<' :: opening ++ '>' :: (content ++ markEnd)) ++ rest =
      '<' :: (tag ++ '<' :: opening) ++ '>' :: (content ++ (markEnd ++ rest)) := by
    simp
  have hhead : (tag ++ '<' :: opening).head? = some '/' := by
    cases tag with
    | nil => cases hslash
    | cons c tag => exact hslash
  have hnot : ¬ opensMark ('<' :: (tag ++ '<' :: opening) ++ ['>']) = true := by
    rw [opensMark_of_slash hhead]
    simp
  refine ⟨'<' :: (tag ++ '<' :: opening) ++ ['>'], ?_⟩
  rw [hsplit, take_tag_append (opensTag_of_slash hhead) (by simp [htag, hopening.no_end]),
    takeBehind_of_not_mark hnot]

/-- The tag of a mark without an end takes the next mark, and what is in front of it. -/
theorem take_unended_mark {tag passed : List Char} (hopens : opensTag tag = true) (htag : '>' ∉ tag)
    (hmark : opensMark ('<' :: tag ++ ['>']) = true) (hpassed : '>' ∉ passed)
    (h : IsMark content mark) (hcontent : '>' ∉ content) (rest : List Char) :
    ∃ front, take ('<' :: tag ++ '>' :: passed ++ mark ++ rest) = some (front, rest) := by
  rcases h with ⟨opening, hopening, rfl⟩
  have hsplit : '<' :: tag ++ '>' :: passed ++ ('<' :: opening ++ '>' :: (content ++ markEnd)) ++
      rest =
        '<' :: tag ++ '>' :: ((passed ++ '<' :: opening ++ '>' :: content) ++ markEnd ++ rest) := by
    simp
  have hfound := through_markEnd (not_infix_of_isOpening hpassed hopening hcontent) rest
  rw [hsplit, take_tag_append hopens htag, takeBehind_of_mark hmark hfound]
  exact ⟨_, rfl⟩

/-- The tag of a mark without an end takes all of the text, if there is no mark in it. -/
theorem take_unended {tag passed : List Char} (hopens : opensTag tag = true) (htag : '>' ∉ tag)
    (hmark : opensMark ('<' :: tag ++ ['>']) = true) (hpassed : '>' ∉ passed) :
    ∃ front, take ('<' :: tag ++ '>' :: passed) = some (front, []) := by
  have hnone : through markEnd passed = none :=
    through_eq_none_iff.2 (not_infix_of_not_mem hpassed)
  rw [take_tag_append hopens htag, takeBehind_of_unended hmark hnone]
  exact ⟨_, rfl⟩

end Markup
end DiceRoller
