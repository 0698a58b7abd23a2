import DiceRoller.Proofs.Scan.Shape
import DiceRoller.Proofs.Scan.Silence
import DiceRoller.Scan.Scanner

/-!
# Where the pieces of a text come from

Every piece of a scanned text is text that was left over or the piece of a match, and a match of a
later pattern never touches the pieces of the patterns before it.

Main results:

- Theorem `mem_cut`: the pieces of a cut are texts and the pieces of matches.
- Theorem `mem_pieces`: the same for the pieces of a scanned text.
- Theorem `source_ne_nil_of_mem_pieces`: only what stands for some text is a piece.
- Theorem `origin_of_makes`: what tokens are made of.
- Theorems `makes_of_mem_link` and `makes_of_mem_token`: which patterns find links and tokens.
-/

namespace DiceRoller

namespace Piece

/-- A text in front adds a text, or makes one longer. -/
theorem mem_pushText {cs : List Char} {piece : Piece} {pieces : List Piece}
    (h : piece ∈ pushText cs pieces) : (∃ body, piece = text body) ∨ piece ∈ pieces := by
  unfold pushText at h
  split at h
  · rcases List.mem_cons.1 h with heq | hmem
    · exact Or.inl ⟨_, heq⟩
    · exact Or.inr (List.mem_cons_of_mem _ hmem)
  · split at h
    · exact Or.inr h
    · rcases List.mem_cons.1 h with heq | hmem
      · exact Or.inl ⟨cs, heq⟩
      · exact Or.inr hmem

end Piece

namespace Pattern

variable {p : Pattern}

/-- A piece that the pattern makes of one of its matches. -/
def Makes (p : Pattern) (piece : Piece) : Prop :=
  ∃ before cs m, p.match? before cs = some m ∧ m.piece? = some piece

/-- A pattern makes no empty pieces. -/
theorem Makes.source_ne_nil {piece : Piece} (h : p.Makes piece) : piece.source ≠ [] := by
  rcases h with ⟨before, cs, m, hm, hpiece⟩
  rw [p.source_piece hm hpiece]
  exact p.body_ne_nil hm

/-- The pieces of a cut are texts and the pieces of matches. -/
theorem mem_cutAfter {before : Option Char} {cs : List Char} {piece : Piece}
    (h : piece ∈ p.cutAfter before cs) : (∃ body, piece = .text body) ∨ p.Makes piece := by
  fun_induction p.cutAfter before cs with
  | case1 => cases h
  | case2 before c cs hnone ih =>
    rcases Piece.mem_pushText h with htext | hmem
    · exact Or.inl htext
    · exact ih hmem
  | case3 before c cs m hm hlt pieces hpiece ih =>
    rcases Piece.mem_pushText h with htext | hmem
    · exact Or.inl htext
    · exact ih hmem
  | case4 before c cs m hm hlt pieces found hpiece ih =>
    rcases Piece.mem_pushText h with htext | hmem
    · exact Or.inl htext
    · rcases List.mem_cons.1 hmem with heq | hmem
      · exact Or.inr ⟨before, c :: cs, m, hm, by rw [heq, hpiece]⟩
      · rcases Piece.mem_pushText hmem with htext | hmem
        · exact Or.inl htext
        · exact ih hmem

/-- The pieces of a cut are texts and what the pattern makes. -/
theorem mem_cut {cs : List Char} {piece : Piece} (h : piece ∈ p.cut cs) :
    (∃ body, piece = .text body) ∨ p.Makes piece :=
  mem_cutAfter h

/-- There is nothing to cut in the empty row. -/
@[simp]
theorem refine_nil (p : Pattern) : p.refine [] = [] :=
  rfl

/-- A text among the pieces is cut where it stands. -/
theorem refine_text_cons (p : Pattern) (body : List Char) (pieces : List Piece) :
    p.refine (.text body :: pieces) = p.cut body ++ p.refine pieces := by
  rw [refine, List.flatMap_cons, refine]

/-- Other pieces stay as they are. -/
theorem refine_cons_of_not_text (p : Pattern) {piece : Piece} (pieces : List Piece)
    (h : ∀ body, piece ≠ .text body) : p.refine (piece :: pieces) = piece :: p.refine pieces := by
  cases piece with
  | text body => exact absurd rfl (h body)
  | markup body => rfl
  | link label body => rfl
  | token t => rfl

/-- Cutting pieces further keeps them, or makes texts and pieces of matches of them. -/
theorem mem_refine {pieces : List Piece} {piece : Piece} (h : piece ∈ p.refine pieces) :
    (∃ body, piece = .text body) ∨ p.Makes piece ∨ piece ∈ pieces := by
  rcases List.mem_flatMap.1 h with ⟨whole, hwhole, hmem⟩
  cases whole with
  | text body =>
    rcases mem_cut hmem with htext | hmakes
    · exact Or.inl htext
    · exact Or.inr (Or.inl hmakes)
  | markup body =>
    rw [List.mem_singleton.1 hmem]
    exact Or.inr (Or.inr hwhole)
  | link label body =>
    rw [List.mem_singleton.1 hmem]
    exact Or.inr (Or.inr hwhole)
  | token t =>
    rw [List.mem_singleton.1 hmem]
    exact Or.inr (Or.inr hwhole)

/-- The same for several patterns, one after the other. -/
theorem mem_foldl_refine {ps : List Pattern} {pieces : List Piece} {piece : Piece}
    (h : piece ∈ ps.foldl (fun pieces pattern => pattern.refine pieces) pieces) :
    (∃ body, piece = .text body) ∨ (∃ p ∈ ps, p.Makes piece) ∨ piece ∈ pieces := by
  induction ps generalizing pieces with
  | nil => exact Or.inr (Or.inr h)
  | cons p ps ih =>
    rcases ih h with htext | ⟨q, hq, hmakes⟩ | hmem
    · exact Or.inl htext
    · exact Or.inr (Or.inl ⟨q, List.mem_cons_of_mem p hq, hmakes⟩)
    · rcases mem_refine hmem with htext | hmakes | hmem
      · exact Or.inl htext
      · exact Or.inr (Or.inl ⟨p, List.mem_cons_self, hmakes⟩)
      · exact Or.inr (Or.inr hmem)

end Pattern

/-- The pieces of a scanned text are texts and the pieces of matches. -/
theorem mem_pieces {cs : List Char} {piece : Piece} (h : piece ∈ pieces cs) :
    (∃ body, piece = .text body) ∨ ∃ p ∈ patterns, p.Makes piece := by
  rcases Pattern.mem_foldl_refine h with htext | hmakes | hmem
  · exact Or.inl htext
  · exact Or.inr hmakes
  · exact Or.inl ⟨cs, List.mem_singleton.1 hmem⟩

/-- What is found in a text stands for some of it. -/
theorem source_ne_nil_of_mem_pieces {cs : List Char} {piece : Piece} (h : piece ∈ pieces cs)
    (hnot : ∀ body, piece ≠ .text body) : piece.source ≠ [] := by
  rcases mem_pieces h with ⟨body, heq⟩ | ⟨p, -, hmakes⟩
  · exact absurd heq (hnot body)
  · exact hmakes.source_ne_nil

/-! ## What the patterns make -/

/-- The pattern for markup makes markup only. -/
theorem makes_markup {piece : Piece} (h : Markup.pattern.Makes piece) :
    ∃ body, piece = .markup body := by
  rcases h with ⟨before, cs, m, hm, hpiece⟩
  rcases Option.map_eq_some_iff.1 hm with ⟨taken, -, rfl⟩
  exact ⟨_, (Option.some.inj hpiece).symm⟩

/-- The pattern for links makes links only. -/
theorem makes_link {piece : Piece} (h : Link.pattern.Makes piece) :
    ∃ label target, piece = .link label (Link.written label target) := by
  rcases h with ⟨before, cs, m, hm, hpiece⟩
  rcases Option.map_eq_some_iff.1 hm with ⟨taken, -, rfl⟩
  exact ⟨_, _, (Option.some.inj hpiece).symm⟩

namespace Rollable

/-- The patterns for rollable parts, in the order in which they are tried. -/
def tokenPatterns : List Pattern :=
  [labelled, toHit, dice, save]

/-- The piece of a match, if there is one, is a token. -/
def OnlyToken (m : Match) : Prop :=
  ∀ piece, m.piece? = some piece → ∃ t, piece = .token t

/-- The piece of a bonus is a token. -/
theorem onlyToken_attackPiece {lead bonus tail rest : List Char} :
    OnlyToken ⟨lead, bonus, tail, rest, attackPiece bonus⟩ := by
  intro piece hpiece
  rcases Option.map_eq_some_iff.1 hpiece with ⟨n, -, rfl⟩
  exact ⟨_, rfl⟩

/-- So is that of a bonus to hit. -/
theorem onlyToken_matchBonusToHit {lead cs : List Char} {m : Match}
    (h : matchBonusToHit lead cs = some m) : OnlyToken m := by
  rcases matchBonusToHit_eq_some_iff.1 h with ⟨bonus, words, rest, -, -, -, -, rfl⟩
  exact onlyToken_attackPiece

/-- So is one at the start of the text, or behind a character that belongs to no word. -/
theorem onlyToken_matchToHit {before : Option Char} {cs : List Char} {m : Match}
    (h : matchToHit before cs = some m) : OnlyToken m := by
  rcases matchToHit_eq_some_iff.1 h with ⟨-, hm⟩ | ⟨c, cs', -, -, hm⟩
  · exact onlyToken_matchBonusToHit hm
  · exact onlyToken_matchBonusToHit hm

/-- So is that of an attack with a label. -/
theorem onlyToken_matchLabelled {before : Option Char} {cs : List Char} {m : Match}
    (h : matchLabelled before cs = some m) : OnlyToken m := by
  rcases matchLabelled_eq_some_iff.1 h with ⟨-, word, space, bonus, rest, -, -, -, -, -, rfl⟩
  exact onlyToken_attackPiece

/-- So is that of a roll of dice. -/
theorem onlyToken_matchDice {before : Option Char} {cs : List Char} {m : Match}
    (h : matchDice before cs = some m) : OnlyToken m := by
  rcases matchDice_eq_some_iff.1 h with
    ⟨-, count, letter, sides, modifier, rest, -, -, -, -, -, -, rfl⟩
  intro piece hpiece
  rcases Option.map_eq_some_iff.1 hpiece with ⟨d, -, rfl⟩
  exact ⟨_, rfl⟩

/-- So is that of a saving throw. -/
theorem onlyToken_matchSave {before : Option Char} {cs : List Char} {m : Match}
    (h : matchSave before cs = some m) : OnlyToken m := by
  rcases matchSave_eq_some_iff.1 h with ⟨-, dc, ability, words, rest, -, -, -, -, rfl⟩
  intro piece hpiece
  rcases Option.map_eq_some_iff.1 hpiece with ⟨n, -, rfl⟩
  exact ⟨_, rfl⟩

/-- The patterns for rollable parts make tokens only. -/
theorem makes_token {p : Pattern} {piece : Piece} (hp : p ∈ tokenPatterns) (h : p.Makes piece) :
    ∃ t, piece = .token t := by
  rcases h with ⟨before, cs, m, hm, hpiece⟩
  simp only [tokenPatterns, List.mem_cons, List.not_mem_nil, or_false] at hp
  rcases hp with rfl | rfl | rfl | rfl
  · exact onlyToken_matchLabelled hm piece hpiece
  · exact onlyToken_matchToHit hm piece hpiece
  · exact onlyToken_matchDice hm piece hpiece
  · exact onlyToken_matchSave hm piece hpiece

/-- What tokens are made of: a bonus, dice that are written out, or the difficulty of a saving
throw. -/
theorem origin_of_makes {p : Pattern} {t : Token} (hp : p ∈ tokenPatterns)
    (h : p.Makes (.token t)) :
    (∃ bonus, IsBonus bonus ∧ attackPiece bonus = some (.token t)) ∨
      (∃ count letter sides modifier rest, (∀ c ∈ count, Text.isDecimalDigit c = true) ∧
        IsDieLetter letter ∧ IsNumber sides ∧ ModifierBefore modifier rest ∧
        dicePiece (count ++ letter :: sides ++ modifier) = some (.token t)) ∨
      ∃ dc ability, IsNumber dc ∧ IsWord ability ∧ savePiece dc ability = some (.token t) := by
  rcases h with ⟨before, cs, m, hm, hpiece⟩
  simp only [tokenPatterns, List.mem_cons, List.not_mem_nil, or_false] at hp
  rcases hp with rfl | rfl | rfl | rfl
  · rcases matchLabelled_eq_some_iff.1 hm with
      ⟨-, word, space, bonus, rest, -, -, -, hbonus, -, rfl⟩
    exact Or.inl ⟨bonus, hbonus, hpiece⟩
  · rcases matchToHit_eq_some_iff.1 hm with ⟨-, hm⟩ | ⟨c, cs', -, -, hm⟩
    · rcases matchBonusToHit_eq_some_iff.1 hm with ⟨bonus, words, rest, -, hbonus, -, -, rfl⟩
      exact Or.inl ⟨bonus, hbonus, hpiece⟩
    · rcases matchBonusToHit_eq_some_iff.1 hm with ⟨bonus, words, rest, -, hbonus, -, -, rfl⟩
      exact Or.inl ⟨bonus, hbonus, hpiece⟩
  · rcases matchDice_eq_some_iff.1 hm with
      ⟨-, count, letter, sides, modifier, rest, -, hcount, hletter, hnumber, hmodifier, -, rfl⟩
    exact Or.inr (Or.inl
      ⟨count, letter, sides, modifier, rest, hcount, hletter, hnumber, hmodifier, hpiece⟩)
  · rcases matchSave_eq_some_iff.1 hm with
      ⟨-, dc, ability, words, rest, -, hnumber, hability, -, rfl⟩
    exact Or.inr (Or.inr ⟨dc, ability, hnumber, hability, hpiece⟩)

end Rollable

/-- The pieces of a text: its links are found first, then its tokens. -/
theorem pieces_eq_foldl (cs : List Char) :
    pieces cs = Rollable.tokenPatterns.foldl (fun pieces pattern => pattern.refine pieces)
      (Link.pattern.refine (Markup.pattern.cut cs)) := by
  rw [pieces, patterns, Rollable.tokenPatterns, List.foldl_cons, List.foldl_cons,
    Pattern.refine_text_cons, Pattern.refine_nil, List.append_nil]

/-- The links of a text are found by the pattern for links. -/
theorem makes_of_mem_link {cs label body : List Char} (h : .link label body ∈ pieces cs) :
    Link.pattern.Makes (.link label body) := by
  rcases mem_pieces h with ⟨body', heq⟩ | ⟨p, hp, hmakes⟩
  · cases heq
  · simp only [patterns, List.mem_cons, List.not_mem_nil, or_false] at hp
    rcases hp with rfl | rfl | hp
    · rcases makes_markup hmakes with ⟨body', heq⟩
      cases heq
    · exact hmakes
    · have htokens : p ∈ Rollable.tokenPatterns := by simpa [Rollable.tokenPatterns] using hp
      rcases Rollable.makes_token htokens hmakes with ⟨t, heq⟩
      cases heq

/-- The tokens of a text are found by the patterns for rollable parts. -/
theorem makes_of_mem_token {cs : List Char} {t : Token} (h : .token t ∈ pieces cs) :
    ∃ p ∈ Rollable.tokenPatterns, p.Makes (.token t) := by
  rcases mem_pieces h with ⟨body, heq⟩ | ⟨p, hp, hmakes⟩
  · cases heq
  · simp only [patterns, List.mem_cons, List.not_mem_nil, or_false] at hp
    rcases hp with rfl | rfl | hp
    · rcases makes_markup hmakes with ⟨body, heq⟩
      cases heq
    · rcases makes_link hmakes with ⟨label, target, heq⟩
      cases heq
    · exact ⟨p, by simpa [Rollable.tokenPatterns] using hp, hmakes⟩

end DiceRoller
