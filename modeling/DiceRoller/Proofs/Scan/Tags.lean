import DiceRoller.Proofs.Scan.Pieces
import DiceRoller.Proofs.Text.Search

/-!
# Where markup begins and ends

A tag begins with a `<` and ends with the next `>`, and a mark ends with its end; so what is markup at
a place depends on the text up to that end, and a text without a further `>` has no markup.  The
pieces of a scanned text agree with this: each markup among them is what is taken at its place, and
no markup begins inside the others.

Main results:

- Theorem `take_tag_append`: what a tag takes, given where it ends.
- Theorem `take_eq_none_iff`: when a `<` is no markup.
- Theorem `take_of_take`: markup stays markup when the text behind it is exchanged.
- Theorem `bare_splitAtTag`: no markup begins in front of the first opener of a tag.
- Theorem `agrees_pieces`: the pieces of a text agree with its markup.
-/

namespace DiceRoller

open Text

/-- The body of a piece, if it is a text. -/
def Piece.text? : Piece → Option (List Char)
  | text body => some body
  | _ => none

/-- A text that ends or goes on with a tag. -/
def StopsAtTag (behind : List Char) : Prop :=
  behind = [] ∨ behind.head? = some '<'

namespace Markup

/-! ## Openers of tags -/

/-- Whether a tag opens is decided by the first character. -/
theorem opensTag_append {cs : List Char} (hne : cs ≠ []) (rest : List Char) :
    opensTag (cs ++ rest) = opensTag cs := by
  cases cs with
  | nil => exact absurd rfl hne
  | cons c cs => rfl

/-- No tag opens where one has been taken. -/
theorem opensTag_of_stops {rest : List Char} (h : StopsAtTag rest) : opensTag rest = false := by
  rcases h with rfl | hhead
  · rfl
  · cases rest with
    | nil => rfl
    | cons c rest =>
      cases hhead
      rfl

/-- Nothing opens at the end of the text. -/
theorem ne_nil_of_opensTag {cs : List Char} (h : opensTag cs = true) : cs ≠ [] := by
  intro hnil
  rw [hnil] at h
  cases h

/-! ## What is taken -/

/-- A tag starts with an angle bracket. -/
theorem take_of_head_ne {c : Char} {cs : List Char} (h : c ≠ '<') : take (c :: cs) = none := by
  unfold take
  split
  · rename_i heq
    exact absurd (List.cons.inj heq).1 h
  · rfl

/-- An angle bracket alone is no tag. -/
theorem take_of_not_opensTag {cs : List Char} (h : opensTag cs = false) :
    take ('<' :: cs) = none := by
  rw [take, if_neg (by simp [h])]

/-- What a tag takes and what it leaves of the text behind it: the tag of a mark takes all of the
mark. -/
def takeBehind (tag after : List Char) : List Char × List Char :=
  if opensMark tag then
    match through markEnd after with
    | some (content, rest) => (tag ++ content, rest)
    | none => (tag ++ after, [])
  else (tag, after)

variable {tag after content rest : List Char}

/-- A tag that opens no mark is taken alone. -/
theorem takeBehind_of_not_mark (h : ¬ opensMark tag = true) : takeBehind tag after = (tag, after) := by
  rw [takeBehind, if_neg h]

/-- A mark is taken up to its end. -/
theorem takeBehind_of_mark (h : opensMark tag = true)
    (hend : through markEnd after = some (content, rest)) :
    takeBehind tag after = (tag ++ content, rest) := by
  simp [takeBehind, h, hend]

/-- A mark without an end takes in all of the text. -/
theorem takeBehind_of_unended (h : opensMark tag = true) (hend : through markEnd after = none) :
    takeBehind tag after = (tag ++ after, []) := by
  simp [takeBehind, h, hend]

/-- The ways in which a tag goes on. -/
theorem takeBehind_cases (tag after : List Char) :
    (¬ opensMark tag = true ∧ takeBehind tag after = (tag, after)) ∨
      (opensMark tag = true ∧ ∃ content rest, through markEnd after = some (content, rest) ∧
        takeBehind tag after = (tag ++ content, rest)) ∨
      (opensMark tag = true ∧ through markEnd after = none ∧
        takeBehind tag after = (tag ++ after, [])) := by
  by_cases hmark : opensMark tag = true
  · right
    cases hend : through markEnd after with
    | none => exact Or.inr ⟨hmark, rfl, takeBehind_of_unended hmark hend⟩
    | some found => exact Or.inl ⟨hmark, found.1, found.2, rfl, takeBehind_of_mark hmark hend⟩
  · exact Or.inl ⟨hmark, takeBehind_of_not_mark hmark⟩

/-- What is taken for a tag, given the text between its first character and its last one. -/
theorem take_tag_append (hopens : opensTag tag = true) (htag : '>' ∉ tag) (after : List Char) :
    take ('<' :: tag ++ '>' :: after) = some (takeBehind ('<' :: tag ++ ['>']) after) := by
  have hopens' : opensTag (tag ++ '>' :: after) = true := by
    rw [opensTag_append (ne_nil_of_opensTag hopens), hopens]
  have hfound : through ['>'] ('<' :: tag ++ '>' :: after) = some ('<' :: tag ++ ['>'], after) := by
    apply through_singleton_append
    simp [htag]
  rw [List.cons_append, take, if_pos hopens', ← List.cons_append, hfound, takeBehind]
  generalize '<' :: tag ++ ['>'] = whole
  by_cases hmark : opensMark whole = true
  · cases hend : through markEnd after with
    | none => simp [hmark, hend]
    | some found => simp [hmark, hend]
  · simp [hmark]

/-- A `<` begins no markup if it does not open a tag or if the tag has no end. -/
theorem take_eq_none_iff {cs : List Char} :
    take ('<' :: cs) = none ↔ opensTag cs = false ∨ '>' ∉ cs := by
  by_cases hopens : opensTag cs = true
  · by_cases hmem : '>' ∈ cs
    · rcases List.eq_append_cons_of_mem hmem with ⟨tag, after, rfl, htag⟩
      have hopens' : opensTag tag = true := by
        cases tag with
        | nil => cases hopens
        | cons c tag => exact hopens
      rw [← List.cons_append, take_tag_append hopens' htag]
      simp [hopens]
    · have hfound : through ['>'] ('<' :: cs) = none := by
        rw [through_singleton_eq_none_iff]
        simp [hmem]
      rw [take, if_pos hopens, hfound]
      simp [hmem]
  · rw [take, if_neg hopens]
    simp [hopens]

/-- The shape of a taken text: a tag, and behind the tag of a mark everything up to its end. -/
theorem exists_of_take {cs front back : List Char} (h : take cs = some (front, back)) :
    ∃ tag after, cs = '<' :: tag ++ '>' :: after ∧ opensTag tag = true ∧ '>' ∉ tag := by
  cases cs with
  | nil => cases h
  | cons c cs =>
    by_cases hc : c = '<'
    · rw [hc] at h ⊢
      have hsome : ¬ (opensTag cs = false ∨ '>' ∉ cs) := by
        rw [← take_eq_none_iff, h]
        simp
      rw [not_or, not_not, Bool.not_eq_false] at hsome
      rcases hsome with ⟨hopens, hmem⟩
      rcases List.eq_append_cons_of_mem hmem with ⟨tag, after, rfl, htag⟩
      refine ⟨tag, after, rfl, ?_, htag⟩
      cases tag with
      | nil => cases hopens
      | cons d tag => exact hopens
    · rw [take_of_head_ne hc] at h
      cases h

/-- A tag has its end. -/
theorem mem_of_take {cs front back : List Char} (h : take cs = some (front, back)) :
    '>' ∈ front := by
  rcases exists_of_take h with ⟨tag, after, rfl, hopens, htag⟩
  rw [take_tag_append hopens htag] at h
  have hfront : front = (takeBehind ('<' :: tag ++ ['>']) after).1 := by
    rw [Option.some.inj h]
  rw [hfront]
  rcases takeBehind_cases ('<' :: tag ++ ['>']) after with
    ⟨-, htaken⟩ | ⟨-, content, rest, -, htaken⟩ | ⟨-, -, htaken⟩
  · rw [htaken]
    simp
  · rw [htaken]
    simp
  · rw [htaken]
    simp

/-- Markup is still taken when the text behind it is exchanged; only a mark without an end takes what
is put behind it. -/
theorem take_of_take {cs front back : List Char} (h : take cs = some (front, back))
    (hend : back = [] → rest = []) : take (front ++ rest) = some (front, rest) := by
  rcases exists_of_take h with ⟨tag, after, rfl, hopens, htag⟩
  have hsplit : ∀ behind, '<' :: tag ++ ['>'] ++ behind = '<' :: tag ++ '>' :: behind := by
    intro behind
    rw [List.append_assoc, List.singleton_append]
  rw [take_tag_append hopens htag] at h
  rcases takeBehind_cases ('<' :: tag ++ ['>']) after with
    ⟨hmark, htaken⟩ | ⟨hmark, content, after', hfound, htaken⟩ | ⟨hmark, hnone, htaken⟩
  · rw [htaken] at h
    cases h
    rw [hsplit, take_tag_append hopens htag, takeBehind_of_not_mark hmark]
  · rw [htaken] at h
    cases h
    have hfound' := through_of_through (by decide) hfound rest
    rw [List.append_assoc, hsplit, take_tag_append hopens htag, takeBehind_of_mark hmark hfound']
  · rw [htaken] at h
    cases h
    have htake := take_tag_append hopens htag after
    rw [takeBehind_of_unended hmark hnone, ← hsplit] at htake
    rw [hend rfl, List.append_nil, htake]

/-! ## Texts without markup -/

/-- No markup begins in a text that goes on with `rest`. -/
def Bare : List Char → List Char → Prop
  | [], _ => True
  | c :: cs, rest => take (c :: (cs ++ rest)) = none ∧ Bare cs rest

/-- A text without tags can be cut anywhere. -/
theorem bare_append {xs ys : List Char} :
    Bare (xs ++ ys) rest ↔ Bare xs (ys ++ rest) ∧ Bare ys rest := by
  induction xs with
  | nil => simp [Bare]
  | cons x xs ih => rw [List.cons_append, Bare, Bare, ih, List.append_assoc, and_assoc]

/-- No markup begins in a text without `<`. -/
theorem bare_of_not_mem {front : List Char} (h : '<' ∉ front) (rest : List Char) :
    Bare front rest := by
  induction front with
  | nil => trivial
  | cons c front ih =>
    have hc : c ≠ '<' := fun heq => h (heq ▸ List.mem_cons_self)
    exact ⟨take_of_head_ne hc, ih fun hmem => h (List.mem_cons_of_mem c hmem)⟩

end Markup

namespace Pattern

/-- Where a pattern does not match, one character is text. -/
theorem cutAfter_of_none {p : Pattern} {before : Option Char} {c : Char} {cs : List Char}
    (h : p.match? before (c :: cs) = none) :
    p.cutAfter before (c :: cs) = Piece.pushText [c] (p.cutAfter (some c) cs) := by
  rw [cutAfter]
  split
  · rfl
  · rename_i m hm
    rw [h] at hm
    cases hm

/-- Where it matches, the piece stands between what leads to it and what follows in the match. -/
theorem cutAfter_of_some {p : Pattern} {before : Option Char} {cs : List Char} {m : Match}
    {piece : Piece} (h : p.match? before cs = some m) (hpiece : m.piece? = some piece) :
    p.cutAfter before cs =
      Piece.pushText m.lead (piece :: Piece.pushText m.tail (p.cutAfter m.whole.getLast? m.rest)) := by
  cases cs with
  | nil => exact absurd (p.length_rest_lt h) (Nat.not_lt_zero _)
  | cons c cs =>
    rw [cutAfter]
    split
    · rename_i hnone
      rw [h] at hnone
      cases hnone
    · rename_i m' hm
      rw [h] at hm
      cases hm
      split
      · rename_i hnone
        rw [hpiece] at hnone
        cases hnone
      · rename_i piece' hsome
        rw [hpiece] at hsome
        cases hsome
        rfl

/-- A match that makes no piece is text as a whole. -/
theorem cutAfter_of_some_none {p : Pattern} {before : Option Char} {cs : List Char} {m : Match}
    (h : p.match? before cs = some m) (hpiece : m.piece? = none) :
    p.cutAfter before cs = Piece.pushText m.whole (p.cutAfter m.whole.getLast? m.rest) := by
  cases cs with
  | nil => exact absurd (p.length_rest_lt h) (Nat.not_lt_zero _)
  | cons c cs =>
    rw [cutAfter]
    split
    · rename_i hnone
      rw [h] at hnone
      cases hnone
    · rename_i m' hm
      rw [h] at hm
      cases hm
      split
      · rfl
      · rename_i piece hsome
        rw [hpiece] at hsome
        cases hsome

/-- If the character in front of a place makes no difference to what a pattern matches there, it makes
none to the cut of a text. -/
theorem cutAfter_eq_cut {p : Pattern}
    (h : ∀ before cs, p.match? before cs = p.match? none cs) (before : Option Char)
    (cs : List Char) : p.cutAfter before cs = p.cut cs := by
  rw [cut]
  cases hmatch : p.match? none cs with
  | none =>
    cases cs with
    | nil => rw [cutAfter, cutAfter]
    | cons c cs => rw [cutAfter_of_none hmatch, cutAfter_of_none ((h before _).trans hmatch)]
  | some m =>
    have hbefore := (h before cs).trans hmatch
    cases hpiece : m.piece? with
    | none => rw [cutAfter_of_some_none hmatch hpiece, cutAfter_of_some_none hbefore hpiece]
    | some piece => rw [cutAfter_of_some hmatch hpiece, cutAfter_of_some hbefore hpiece]

/-- Such a pattern cuts nothing off a text in which no match begins, whatever follows. -/
theorem cut_append_of_none {p : Pattern}
    (hp : ∀ before cs, p.match? before cs = p.match? none cs) {cs rest : List Char}
    (h : ∀ front c back, cs = front ++ c :: back → p.match? none (c :: (back ++ rest)) = none) :
    p.cut (cs ++ rest) = Piece.pushText cs (p.cut rest) := by
  induction cs with
  | nil => rw [List.nil_append, Piece.pushText_nil]
  | cons c cs ih =>
    have hothers := ih fun front d back heq => h (c :: front) d back (by rw [heq, List.cons_append])
    rw [List.cons_append, cut, cutAfter_of_none (h [] c cs rfl), cutAfter_eq_cut hp, hothers,
      Piece.pushText_pushText, List.singleton_append]

end Pattern

namespace Markup

/-- The character in front of a place makes no difference to the markup there. -/
theorem cutAfter_eq_cut (before : Option Char) (cs : List Char) :
    pattern.cutAfter before cs = pattern.cut cs :=
  Pattern.cutAfter_eq_cut (fun _ _ => rfl) before cs

/-- Markup is cut off. -/
theorem cut_of_take {cs front back : List Char} (h : take cs = some (front, back)) :
    pattern.cut cs = .markup front :: pattern.cut back := by
  have hmatch : pattern.match? none cs = some ⟨[], front, [], back, some (.markup front)⟩ := by
    show (take cs).map _ = _
    rw [h]
    rfl
  rw [Pattern.cut, Pattern.cutAfter_of_some hmatch rfl, Piece.pushText_nil, Piece.pushText_nil,
    cutAfter_eq_cut]

/-- Where no markup begins, nothing is cut off. -/
theorem cut_append_of_bare {cs rest : List Char} (h : Bare cs rest) :
    pattern.cut (cs ++ rest) = Piece.pushText cs (pattern.cut rest) := by
  apply Pattern.cut_append_of_none (fun _ _ => rfl)
  intro front c back heq
  rw [heq] at h
  have hnone : take (c :: (back ++ rest)) = none := (bare_append.1 h).2.1
  show (take _).map _ = _
  rw [hnone]
  rfl

/-- A text without angle brackets holds no markup. -/
theorem cut_of_not_mem {front : List Char} (h : '<' ∉ front) :
    pattern.cut front = Piece.pushText front [] := by
  have hcut := cut_append_of_bare (bare_of_not_mem h [])
  rwa [List.append_nil, Pattern.cut_nil] at hcut

/-! ## The texts between markup -/

/-- The texts between the markup of a text, which are all that the patterns for links and tokens
see. -/
def between (cs : List Char) : List (List Char) :=
  (pattern.cut cs).filterMap Piece.text?

/-- There is nothing between the tags of the empty text. -/
@[simp]
theorem between_nil : between [] = [] := by
  rw [between, Pattern.cut_nil, List.filterMap_nil]

/-- A tag does not count as text between tags. -/
theorem between_of_take {cs front back : List Char} (h : take cs = some (front, back)) :
    between cs = between back := by
  rw [between, cut_of_take h, List.filterMap_cons_none rfl, between]

/-- A text in front of markup, or at the end, is one of the texts between markup unless it is
empty. -/
theorem between_append {cs rest : List Char} (h : Bare cs rest)
    (hrest : rest = [] ∨ take rest ≠ none) :
    between (cs ++ rest) = [cs].filter (· ≠ []) ++ between rest := by
  have hhead : ∀ body, (pattern.cut rest).head? ≠ some (.text body) := by
    intro body
    rcases hrest with rfl | hsome
    · rw [Pattern.cut_nil]
      simp
    · rcases Option.ne_none_iff_exists'.1 hsome with ⟨⟨front, back⟩, htaken⟩
      rw [cut_of_take htaken]
      simp
  rw [between, cut_append_of_bare h, between]
  by_cases hcs : cs = []
  · simp [hcs]
  · rw [Piece.pushText_eq_cons hcs hhead]
    simp [hcs, Piece.text?]

/-! ## The first opener of a tag -/

/-- A text cut in front of the first `<` that opens a tag. -/
def splitAtTag : List Char → List Char × List Char
  | [] => ([], [])
  | c :: cs =>
    if c = '<' ∧ opensTag cs = true then ([], c :: cs)
    else (c :: (splitAtTag cs).1, (splitAtTag cs).2)

/-- A text is what it is cut into at its first tag. -/
theorem splitAtTag_append (cs : List Char) : (splitAtTag cs).1 ++ (splitAtTag cs).2 = cs := by
  induction cs with
  | nil => rfl
  | cons c cs ih =>
    rw [splitAtTag]
    split
    · rfl
    · rw [List.cons_append, ih]

/-- The second part is empty or begins with a tag. -/
theorem splitAtTag_snd (cs : List Char) :
    (splitAtTag cs).2 = [] ∨ ∃ tag, (splitAtTag cs).2 = '<' :: tag ∧ opensTag tag = true := by
  induction cs with
  | nil => exact Or.inl rfl
  | cons c cs ih =>
    rw [splitAtTag]
    split
    · rename_i hopens
      exact Or.inr ⟨cs, by rw [hopens.1], hopens.2⟩
    · exact ih

/-- So a text stops there. -/
theorem stopsAtTag_splitAtTag (cs : List Char) : StopsAtTag (splitAtTag cs).2 := by
  rcases splitAtTag_snd cs with hnil | ⟨tag, htag, -⟩
  · exact Or.inl hnil
  · right
    rw [htag]
    rfl

/-- No markup begins in front of the first opener of a tag. -/
theorem bare_splitAtTag {rest : List Char} (h : opensTag rest = false) (cs : List Char) :
    Bare (splitAtTag cs).1 rest := by
  induction cs with
  | nil => trivial
  | cons c cs ih =>
    rw [splitAtTag]
    split
    · trivial
    · rename_i hopens
      refine ⟨?_, ih⟩
      by_cases hc : c = '<'
      · rw [hc]
        apply take_of_not_opensTag
        by_cases hnil : (splitAtTag cs).1 = []
        · rw [hnil, List.nil_append, h]
        · rw [opensTag_append hnil, ← opensTag_append hnil (splitAtTag cs).2, splitAtTag_append]
          simpa [hc] using hopens
      · exact take_of_head_ne hc

/-! ## Pieces and the markup of their text -/

/-- The pieces of a text agree with its markup: markup is what is taken at its place, and no markup
begins inside another piece. -/
def Agrees : List Piece → Prop
  | [] => True
  | .markup body :: pieces =>
    take (body ++ Piece.sources pieces) = some (body, Piece.sources pieces) ∧ Agrees pieces
  | piece :: pieces => Bare piece.source (Piece.sources pieces) ∧ Agrees pieces

/-- In front of other pieces, a piece without tags agrees with them. -/
theorem agrees_cons_of_not_markup {piece : Piece} {pieces : List Piece}
    (h : ∀ body, piece ≠ .markup body) :
    Agrees (piece :: pieces) ↔ Bare piece.source (Piece.sources pieces) ∧ Agrees pieces := by
  cases piece with
  | text body => rfl
  | markup body => exact absurd rfl (h body)
  | link label body => rfl
  | token t => rfl

/-- So does a row of such pieces. -/
theorem agrees_append_of_bare {xs ys : List Piece} (hnot : ∀ piece ∈ xs, ∀ body, piece ≠ .markup body)
    (hbare : Bare (Piece.sources xs) (Piece.sources ys)) (hys : Agrees ys) : Agrees (xs ++ ys) := by
  induction xs with
  | nil => exact hys
  | cons piece xs ih =>
    rcases List.forall_mem_cons.1 hnot with ⟨hpiece, hothers⟩
    rw [Piece.sources_cons, bare_append] at hbare
    rw [List.cons_append, agrees_cons_of_not_markup hpiece, Piece.sources_append]
    exact ⟨hbare.1, ih hothers hbare.2⟩

/-- Text without markup may be put in front of pieces. -/
theorem agrees_pushText {cs : List Char} {pieces : List Piece}
    (hbare : Bare cs (Piece.sources pieces)) (h : Agrees pieces) :
    Agrees (Piece.pushText cs pieces) := by
  cases pieces with
  | nil =>
    cases cs with
    | nil => trivial
    | cons c cs => exact ⟨hbare, trivial⟩
  | cons piece pieces =>
    by_cases htext : ∃ body, piece = .text body
    · rcases htext with ⟨body, rfl⟩
      rw [Piece.sources_cons] at hbare
      exact ⟨bare_append.2 ⟨hbare, h.1⟩, h.2⟩
    · have hnot : ∀ body, piece ≠ .text body := fun body heq => htext ⟨body, heq⟩
      rw [Piece.pushText_of_not_text hnot]
      cases cs with
      | nil => exact h
      | cons c cs => exact ⟨hbare, h⟩

/-- The cut of a text into markup and text agrees with its tags. -/
theorem agrees_cut (cs : List Char) : Agrees (pattern.cut cs) := by
  have h : ∀ before, Agrees (pattern.cutAfter before cs) := by
    intro before
    fun_induction pattern.cutAfter before cs with
    | case1 => trivial
    | case2 before c cs hnone ih =>
      apply agrees_pushText _ ih
      rw [Pattern.sources_cutAfter]
      exact ⟨Option.map_eq_none_iff.1 hnone, trivial⟩
    | case3 before c cs m hm hlt pieces hpiece =>
      rcases Option.map_eq_some_iff.1 hm with ⟨taken, -, rfl⟩
      cases hpiece
    | case4 before c cs m hm hlt pieces piece hpiece ih =>
      rcases Option.map_eq_some_iff.1 hm with ⟨taken, htaken, rfl⟩
      cases hpiece
      rw [Piece.pushText_nil, Piece.pushText_nil]
      have hsources : Piece.sources pieces = taken.2 := Pattern.sources_cutAfter _ _ _
      refine ⟨?_, ih⟩
      rw [hsources, take_append htaken, htaken]
  exact h none

/-- Cutting further keeps the agreement, if no more markup is made. -/
theorem agrees_refine {p : Pattern} (hp : ∀ piece, p.Makes piece → ∀ body, piece ≠ .markup body)
    {pieces : List Piece} (h : Agrees pieces) : Agrees (p.refine pieces) := by
  induction pieces with
  | nil => trivial
  | cons piece pieces ih =>
    cases piece with
    | text body =>
      rw [Pattern.refine_text_cons]
      apply agrees_append_of_bare
      · intro piece hmem body' heq
        rcases Pattern.mem_cut hmem with ⟨body'', rfl⟩ | hmakes
        · cases heq
        · exact hp piece hmakes body' heq
      · rw [Pattern.sources_cut, Pattern.sources_refine]
        exact h.1
      · exact ih h.2
    | markup body =>
      rw [Pattern.refine_cons_of_not_text p pieces (by simp)]
      refine ⟨?_, ih h.2⟩
      rw [Pattern.sources_refine]
      exact h.1
    | link label body =>
      rw [Pattern.refine_cons_of_not_text p pieces (by simp)]
      refine ⟨?_, ih h.2⟩
      rw [Pattern.sources_refine]
      exact h.1
    | token t =>
      rw [Pattern.refine_cons_of_not_text p pieces (by simp)]
      refine ⟨?_, ih h.2⟩
      rw [Pattern.sources_refine]
      exact h.1

/-- Nor do the other patterns change the markup. -/
theorem agrees_foldl {ps : List Pattern} (hps : ∀ p ∈ ps, p ∈ Rollable.tokenPatterns)
    {pieces : List Piece} (h : Agrees pieces) :
    Agrees (ps.foldl (fun pieces pattern => pattern.refine pieces) pieces) := by
  induction ps generalizing pieces with
  | nil => exact h
  | cons p ps ih =>
    rcases List.forall_mem_cons.1 hps with ⟨hp, hothers⟩
    apply ih hothers
    apply agrees_refine _ h
    intro piece hmakes body
    rcases Rollable.makes_token hp hmakes with ⟨t, rfl⟩
    simp

/-- The pieces of a text agree with its markup. -/
theorem agrees_pieces (cs : List Char) : Agrees (pieces cs) := by
  have hlinks : Agrees (Link.pattern.refine (pattern.cut cs)) := by
    apply agrees_refine _ (agrees_cut cs)
    intro piece hmakes body
    rcases makes_link hmakes with ⟨label, target, rfl⟩
    simp
  rw [pieces_eq_foldl]
  exact agrees_foldl (fun p hp => hp) hlinks

end Markup
end DiceRoller
