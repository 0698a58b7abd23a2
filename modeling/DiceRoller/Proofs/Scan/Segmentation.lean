import Mathlib.Data.List.Chain
import DiceRoller.Proofs.Scan.Barriers

/-!
# The segments of a text

Before anything else is looked for, a text is cut into segments, which are markup or text.  The rule says
what markup is at its place, and what a text between markup may not hold; together with the order of the
segments this leaves no choice, so there is just one segmentation of each text, and it is what the cut
finds.  The cut ends on every text, as each of its steps leaves less of it.

Main results:

- Theorem `take_eq_some_iff_isMarkup`: what is taken for markup, by the rule.
- Theorem `bare_iff`: where no markup begins, by the rule.
- Theorem `IsSegmentation.cons_iff`: the first segment of a text, and the others behind it.
- Theorem `IsSegmentation.eq_placed`: a segmentation from some byte on is what the cut finds there.
- Theorem `isSegmentation_split`: the segmentation of a text.
-/

namespace DiceRoller

open Text

/-! ## The rule -/

/-- Markup by the rule, in front of the rest of a text: a complete tag; or, for a tag that opens a mark,
everything up to the first end of a mark behind it, or up to the end of the text if there is none. -/
inductive IsMarkup : List Char → List Char → Prop where
  | tag {tag rest : List Char} (complete : IsTag tag)
      (plain : "</".toList <+: tag ∨ ¬ markAttribute <:+: tag) : IsMarkup tag rest
  | mark {tag content rest : List Char} (opening : IsMarkTag tag) (first : ¬ markEnd <:+: content) :
      IsMarkup (tag ++ content ++ markEnd) rest
  | unended {tag content : List Char} (opening : IsMarkTag tag) (none : ¬ markEnd <:+: content) :
      IsMarkup (tag ++ content) []

/-- Text by the rule, in front of the rest of a text: no `<` in it opens a tag that has an end. -/
def IsText (body rest : List Char) : Prop :=
  ∀ passed behind, body = passed ++ '<' :: behind →
    Markup.opensTag (behind ++ rest) = false ∨ '>' ∉ behind ++ rest

namespace Segment

/-- A segment with this body in front of the rest of a text is what the rule says. -/
def Obeys (segment : Segment) (body rest : List Char) : Prop :=
  if segment.isMarkup then IsMarkup body rest else IsText body rest

end Segment

/-- Segments that follow each other without a gap, from one byte up to another. -/
def Leads : Nat → List Segment → Nat → Prop
  | start, [], stop => start = stop
  | start, segment :: segments, stop => segment.start = start ∧ Leads segment.stop segments stop

/-- A segmentation of the text behind `passed`: every segment stands for characters of the text and is
what the rule says, the segments cover the text in order, and no text stands next to another one. -/
structure IsSegmentation (passed cs : List Char) (segments : List Segment) : Prop where
  parts : ∀ segment ∈ segments, ∃ front body rest, passed ++ cs = front ++ body ++ rest ∧ body ≠ [] ∧
    segment.start = byteLength front ∧ segment.stop = byteLength (front ++ body) ∧
      segment.Obeys body rest
  tiles : Leads (byteLength passed) segments (byteLength (passed ++ cs))
  apart : segments.IsChain fun a b => a.isMarkup = true ∨ b.isMarkup = true

namespace Markup

/-! ## Markup at a place -/

theorem isTag_of_opensTag {tag : List Char} (hopens : opensTag tag = true) (htag : '>' ∉ tag) :
    IsTag ('<' :: tag ++ ['>']) := by
  cases tag with
  | nil => cases hopens
  | cons c inner =>
    refine ⟨c, inner, rfl, ?_, fun hmem => htag (List.mem_cons_of_mem c hmem)⟩
    simpa [opensTag, or_assoc] using hopens

/-- The content of a mark goes up to the first end of a mark. -/
theorem not_infix_of_through_markEnd {after content rest : List Char}
    (h : through markEnd after = some (content, rest)) :
    ∃ passed, content = passed ++ markEnd ∧ ¬ markEnd <:+: passed := by
  rcases (through_eq_some_iff (by decide)).1 h with ⟨passed, hcontent, -, hfirst⟩
  refine ⟨passed, hcontent, ?_⟩
  intro hinside
  rcases hinside with ⟨xs, zs, heq⟩
  apply hfirst xs (markEnd ++ zs) (by rw [← heq, List.append_assoc])
  · exact List.append_ne_nil_of_left_ne_nil (by decide) zs
  · rw [List.append_assoc]
    exact List.prefix_append markEnd _

theorem isMarkup_of_take {cs front back : List Char} (h : take cs = some (front, back)) :
    IsMarkup front back := by
  rcases exists_of_take h with ⟨tag, after, rfl, hopens, htag⟩
  have hcomplete := isTag_of_opensTag hopens htag
  rw [take_tag_append hopens htag] at h
  generalize '<' :: tag ++ ['>'] = whole at hcomplete h
  rcases takeBehind_cases whole after with
    ⟨hmark, htaken⟩ | ⟨hmark, content, rest, hend, htaken⟩ | ⟨hmark, hend, htaken⟩
  · rw [htaken] at h
    cases h
    rw [opensMark_iff, not_and_or, not_not] at hmark
    exact .tag hcomplete hmark
  · rw [htaken] at h
    cases h
    rcases opensMark_iff.1 hmark with ⟨hclosing, hmarked⟩
    rcases not_infix_of_through_markEnd hend with ⟨passed, rfl, hfirst⟩
    rw [← List.append_assoc]
    exact .mark ⟨hcomplete, hclosing, hmarked⟩ hfirst
  · rw [htaken] at h
    cases h
    rcases opensMark_iff.1 hmark with ⟨hclosing, hmarked⟩
    exact .unended ⟨hcomplete, hclosing, hmarked⟩ (through_eq_none_iff.1 hend)

/-- What is taken for markup, by the rule. -/
theorem take_eq_some_iff_isMarkup {front back : List Char} :
    take (front ++ back) = some (front, back) ↔ IsMarkup front back := by
  refine ⟨isMarkup_of_take, ?_⟩
  intro h
  cases h with
  | tag complete plain => exact take_tag_barrier complete plain back
  | mark opening first => exact take_mark_barrier opening first back
  | unended opening hnone =>
    rw [List.append_nil]
    exact take_unended_mark_tag opening hnone

/-- Where no markup begins, by the rule. -/
theorem bare_iff {body rest : List Char} : Bare body rest ↔ IsText body rest := by
  induction body with
  | nil =>
    refine ⟨?_, fun _ => trivial⟩
    intro _ passed behind heq
    exact absurd heq.symm (by simp)
  | cons c body ih =>
    rw [Bare, ih]
    constructor
    · intro h passed behind heq
      cases passed with
      | nil =>
        cases heq
        exact take_eq_none_iff.1 h.1
      | cons d passed => exact h.2 passed behind (List.cons.inj heq).2
    · intro h
      refine ⟨?_, fun passed behind heq => h (c :: passed) behind (by rw [heq, List.cons_append])⟩
      by_cases hc : c = '<'
      · rw [hc]
        exact take_eq_none_iff.2 (h [] body (by rw [hc, List.nil_append]))
      · exact take_of_head_ne hc

end Markup

/-! ## The first segment and the others -/

/-- A text is cut in one way at a byte. -/
theorem append_inj_of_byteLength {xs ys xs' ys' : List Char} (h : xs ++ ys = xs' ++ ys')
    (hlength : byteLength xs = byteLength xs') : xs = xs' ∧ ys = ys' := by
  have hsplit := splitAtByte_byteLength xs ys
  rw [h, hlength, splitAtByte_byteLength] at hsplit
  exact ⟨(congrArg Prod.fst hsplit).symm, (congrArg Prod.snd hsplit).symm⟩

namespace IsSegmentation

variable {passed cs : List Char} {segment : Segment} {segments : List Segment}

theorem nil_iff : IsSegmentation passed cs [] ↔ cs = [] := by
  constructor
  · intro h
    have htiles : byteLength passed = byteLength (passed ++ cs) := h.tiles
    rw [byteLength_append] at htiles
    by_contra hne
    have hpos := byteLength_pos hne
    omega
  · rintro rfl
    exact ⟨by simp, by rw [List.append_nil]; rfl, List.IsChain.nil⟩

/-- The first segment stands at the start of the text, and the others make up a segmentation behind
it. -/
theorem cons_iff :
    IsSegmentation passed cs (segment :: segments) ↔
      ∃ body rest, cs = body ++ rest ∧ body ≠ [] ∧ segment.start = byteLength passed ∧
        segment.stop = byteLength (passed ++ body) ∧ segment.Obeys body rest ∧
        (∀ next ∈ segments.head?, segment.isMarkup = true ∨ next.isMarkup = true) ∧
        IsSegmentation (passed ++ body) rest segments := by
  constructor
  · intro h
    rcases h.parts segment List.mem_cons_self with
      ⟨front, body, rest, heq, hbody, hstart, hstop, hobeys⟩
    rcases h.tiles with ⟨hfirst, htiles⟩
    rcases List.isChain_cons.1 h.apart with ⟨hnext, hapart⟩
    rw [List.append_assoc] at heq
    rcases append_inj_of_byteLength heq (hfirst.symm.trans hstart) with ⟨rfl, rfl⟩
    refine ⟨body, rest, rfl, hbody, hstart, hstop, hobeys, hnext, ?_, ?_, hapart⟩
    · intro other hother
      rw [List.append_assoc]
      exact h.parts other (List.mem_cons_of_mem segment hother)
    · rwa [List.append_assoc, ← hstop]
  · rintro ⟨body, rest, rfl, hbody, hstart, hstop, hobeys, hnext, hrest⟩
    refine ⟨?_, ⟨hstart, ?_⟩, List.isChain_cons.2 ⟨hnext, hrest.apart⟩⟩
    · rw [List.forall_mem_cons, ← List.append_assoc]
      exact ⟨⟨passed, body, rest, rfl, hbody, hstart, hstop, hobeys⟩, hrest.parts⟩
    · rw [hstop, ← List.append_assoc]
      exact hrest.tiles

end IsSegmentation

/-! ## The cut -/

/-- Pieces of a text that are markup by the rule or text by the rule, as a cut finds them, make up a
segmentation. -/
theorem isSegmentation_placed {front : Option Piece} {pieces : List Piece}
    (hkind : ∀ piece ∈ pieces, (∃ body, piece = .text body) ∨ Markup.pattern.Makes piece)
    (hagrees : Markup.Agrees pieces) (hseparate : Piece.EachText Piece.Separate front pieces)
    (passed : List Char) :
    IsSegmentation passed (Piece.sources pieces)
      ((Piece.placed (byteLength passed) pieces).map Segment.ofPlaced) := by
  induction pieces generalizing front passed with
  | nil => exact IsSegmentation.nil_iff.2 rfl
  | cons piece pieces ih =>
    rcases List.forall_mem_cons.1 hkind with ⟨hpiece, hothers⟩
    rcases hseparate with ⟨htext, hseparate⟩
    have hrest : ∀ body, IsSegmentation (passed ++ body) (Piece.sources pieces)
        ((Piece.placed (byteLength passed + byteLength body) pieces).map Segment.ofPlaced) := by
      intro body
      rw [← byteLength_append]
      refine ih hothers ?_ hseparate (passed ++ body)
      cases piece <;> exact hagrees.2
    rw [Piece.sources_cons, Piece.placed, List.map_cons, IsSegmentation.cons_iff]
    rcases hpiece with ⟨body, rfl⟩ | hmakes
    · refine ⟨body, Piece.sources pieces, rfl, (htext body rfl).1, rfl,
        (byteLength_append passed body).symm, Markup.bare_iff.1 hagrees.1, ?_, hrest body⟩
      -- Behind text there is markup, if there is anything.
      intro next hnext
      cases pieces with
      | nil => cases hnext
      | cons other pieces =>
        rcases hothers other List.mem_cons_self with ⟨body', rfl⟩ | hmakes
        · exact absurd (hseparate.1 body' rfl) (Piece.not_separate_text body body')
        · rcases makes_markup hmakes with ⟨body', rfl⟩
          cases hnext
          exact Or.inr rfl
    · have hbody := hmakes.source_ne_nil
      rcases makes_markup hmakes with ⟨body, rfl⟩
      exact ⟨body, Piece.sources pieces, rfl, hbody, rfl, (byteLength_append passed body).symm,
        Markup.isMarkup_of_take hagrees.1, fun _ _ => Or.inl rfl, hrest body⟩

/-- A segmentation from some byte on is what the cut finds there. -/
theorem IsSegmentation.eq_placed {passed cs : List Char} {segments : List Segment}
    (h : IsSegmentation passed cs segments) :
    segments = (Piece.placed (byteLength passed) (Markup.pattern.cut cs)).map Segment.ofPlaced := by
  induction segments generalizing passed cs with
  | nil =>
    rw [nil_iff.1 h, Pattern.cut_nil]
    rfl
  | cons segment segments ih =>
    rcases cons_iff.1 h with ⟨body, rest, rfl, hbody, hstart, hstop, hobeys, hnext, hrest⟩
    have hothers := ih hrest
    rw [byteLength_append] at hstop hothers
    cases segment with
    | markup start stop =>
      simp only [Segment.start, Segment.stop] at hstart hstop
      have hcut := Markup.cut_of_take (Markup.take_eq_some_iff_isMarkup.2 hobeys)
      rw [hcut, Piece.placed, List.map_cons, Piece.source, ← hothers, hstart, hstop]
      rfl
    | text start stop =>
      simp only [Segment.start, Segment.stop] at hstart hstop
      have hhead : ∀ other, (Markup.pattern.cut rest).head? ≠ some (.text other) := by
        intro other hother
        rcases List.head?_eq_some_iff.1 hother with ⟨pieces, hcut⟩
        rw [hcut] at hothers
        rcases hnext (.text _ _) (by rw [hothers]; rfl) with htext | htext
        · cases htext
        · cases htext
      have hcut := Markup.cut_append_of_bare (Markup.bare_iff.2 hobeys)
      rw [Piece.pushText_eq_cons hbody hhead] at hcut
      rw [hcut, Piece.placed, List.map_cons, Piece.source, ← hothers, hstart, hstop]
      rfl

/-- There are no more segments than bytes. -/
theorem IsSegmentation.length_le {passed cs : List Char} {segments : List Segment}
    (h : IsSegmentation passed cs segments) : segments.length ≤ byteLength cs := by
  induction segments generalizing passed cs with
  | nil => exact Nat.zero_le _
  | cons segment segments ih =>
    rcases cons_iff.1 h with ⟨body, rest, rfl, hbody, -, -, -, -, hrest⟩
    have hothers := ih hrest
    have hpos := byteLength_pos hbody
    rw [List.length_cons, byteLength_append]
    omega

/-- The cut of a text ends, with no more segments than there are bytes, and finds the segmentation of
the text by the rule, which has no other. -/
theorem isSegmentation_split (cs : List Char) :
    IsSegmentation [] cs (Markup.split cs) ∧
      (∀ segments, IsSegmentation [] cs segments → segments = Markup.split cs) ∧
      (Markup.split cs).length ≤ byteLength cs := by
  have hsplit := isSegmentation_placed (fun _ hmem => Pattern.mem_cut hmem) (Markup.agrees_cut cs)
    (Markup.eachText_separate_cut cs) []
  rw [Pattern.sources_cut] at hsplit
  exact ⟨hsplit, fun segments h => h.eq_placed, hsplit.length_le⟩

/-- A `<` in front of a blank is text, as is one of a tag without an end; a mark goes up to its end. -/
example : Markup.split "1 < 2 <b data-dicemark>1d4</b></span><i".toList =
    [.text 0 6, .markup 6 37, .text 37 39] := by
  decide +kernel

end DiceRoller
