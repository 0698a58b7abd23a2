import DiceRoller.Proofs.Scan.Quiet
import DiceRoller.Proofs.Scan.Spans

/-!
# Barriers

A tag, a mark and a link keep what stands before them apart from what stands behind them: the text on
each side is scanned as if it were a text of its own.  For a tag this needs that no other tag is open
in front of it, and for a link that no other bracket is.  A mark without an end hides everything that
follows.

Main results:

- Theorem `pieces_append_of_take`: the pieces of a text around markup.
- Theorem `pieces_append_written`: the pieces of a text around a link.
- Theorem `scan_annotate_barrier`: the tokens and the annotated text around a barrier.
-/

namespace DiceRoller

open Text

/-! ## Tags -/

/-- A complete tag: a `<` with a letter, `/` or `!` behind it, up to the first `>`. -/
def IsTag (tag : List Char) : Prop :=
  ∃ c inner, tag = '<' :: c :: inner ++ ['>'] ∧ (c.isAlpha = true ∨ c = '/' ∨ c = '!') ∧
    '>' ∉ inner

/-- A complete tag that opens a mark: it is no closing tag and carries the attribute of marks. -/
structure IsMarkTag (tag : List Char) : Prop where
  complete : IsTag tag
  not_closing : ¬ "</".toList <+: tag
  marked : markAttribute <:+: tag

namespace Markup

/-- A complete tag is read as such. -/
theorem take_append_of_isTag {tag : List Char} (h : IsTag tag) (after : List Char) :
    take (tag ++ after) = some (takeBehind tag after) := by
  rcases h with ⟨c, inner, rfl, hc, hinner⟩
  have hopens : opensTag (c :: inner) = true := by
    rcases hc with halpha | rfl | rfl
    · simp [opensTag, halpha]
    · rfl
    · rfl
  have hnotEnd : '>' ∉ c :: inner := by
    intro hmem
    rcases List.mem_cons.1 hmem with rfl | hmem
    · rcases hc with halpha | hslash | hmark
      · exact absurd halpha (by decide)
      · exact absurd hslash (by decide)
      · exact absurd hmark (by decide)
    · exact hinner hmem
  have htake := take_tag_append hopens hnotEnd after
  rwa [← List.singleton_append (l := after), ← List.append_assoc] at htake

variable {tag content : List Char}

theorem take_tag_barrier (h : IsTag tag) (hplain : "</".toList <+: tag ∨ ¬ markAttribute <:+: tag)
    (behind : List Char) : take (tag ++ behind) = some (tag, behind) := by
  have hnot : ¬ opensMark tag = true := by
    rw [opensMark_iff, not_and_or, not_not]
    exact hplain
  rw [take_append_of_isTag h, takeBehind_of_not_mark hnot]

theorem take_mark_barrier (h : IsMarkTag tag) (hcontent : ¬ markEnd <:+: content)
    (behind : List Char) :
    take (tag ++ content ++ markEnd ++ behind) = some (tag ++ content ++ markEnd, behind) := by
  have hopens : opensMark tag = true := opensMark_iff.2 ⟨h.not_closing, h.marked⟩
  have hsplit : tag ++ content ++ markEnd ++ behind = tag ++ (content ++ markEnd ++ behind) := by
    simp only [List.append_assoc]
  rw [hsplit, take_append_of_isTag h.complete,
    takeBehind_of_mark hopens (through_markEnd hcontent behind), List.append_assoc]

theorem take_unended_mark_tag (h : IsMarkTag tag) (hcontent : ¬ markEnd <:+: content) :
    take (tag ++ content) = some (tag ++ content, []) := by
  have hopens : opensMark tag = true := opensMark_iff.2 ⟨h.not_closing, h.marked⟩
  rw [take_append_of_isTag h.complete,
    takeBehind_of_unended hopens (through_eq_none_iff.2 hcontent)]

end Markup

/-! ## Pieces around a barrier -/

/-- Markup that begins behind a text without `<` keeps the pieces on its two sides apart. -/
theorem pieces_append_of_take {front rest m behind : List Char} (hfront : '<' ∉ front)
    (htake : Markup.take rest = some (m, behind)) :
    pieces (front ++ rest) = pieces front ++ .markup m :: pieces behind := by
  have hnot : ∀ body, Piece.markup m ≠ .text body := by simp
  have hsplit : Piece.markup m :: Markup.pattern.cut behind =
      [.markup m] ++ Markup.pattern.cut behind := rfl
  rw [pieces_eq_refineAll, Markup.cut_append_of_bare (Markup.bare_of_not_mem hfront rest),
    Markup.cut_of_take htake, Piece.pushText_of_not_text hnot, hsplit, Pattern.refineAll_append,
    Pattern.refineAll_append, Pattern.refineAll_of_not_text _ hnot, ← Markup.cut_of_not_mem hfront,
    ← pieces_eq_refineAll, ← pieces_eq_refineAll]
  rfl

/-- What a pattern cuts off the front of every text, it cuts off the front of pieces. -/
theorem Pattern.refine_pushText {p : Pattern} {cs : List Char} {cutOff : List Piece}
    (h : ∀ rest, p.cut (cs ++ rest) = cutOff ++ p.cut rest) (pieces : List Piece) :
    p.refine (Piece.pushText cs pieces) = cutOff ++ p.refine pieces := by
  have hcs : p.refine (Piece.pushText cs []) = cutOff := by
    have hcut := h []
    rw [List.append_nil, Pattern.cut_nil, List.append_nil] at hcut
    rw [← hcut]
    cases cs with
    | nil => exact (Pattern.cut_nil p).symm
    | cons c cs => exact (Pattern.refine_text_cons p (c :: cs) []).trans (List.append_nil _)
  cases pieces with
  | nil => rw [hcs, Pattern.refine_nil, List.append_nil]
  | cons piece pieces =>
    by_cases htext : ∃ body, piece = .text body
    · rcases htext with ⟨body, rfl⟩
      rw [Piece.pushText, Pattern.refine_text_cons, Pattern.refine_text_cons, h, List.append_assoc]
    · have hnot : ∀ body, piece ≠ .text body := fun body heq => htext ⟨body, heq⟩
      rw [Piece.pushText_of_not_text hnot, Pattern.refine, List.flatMap_append]
      rw [Pattern.refine] at hcs
      rw [hcs, Pattern.refine]

namespace Link

/-- No link begins in a text without an opening bracket, whatever follows. -/
theorem cut_append_of_not_mem {front : List Char} (h : '[' ∉ front) (rest : List Char) :
    pattern.cut (front ++ rest) = Piece.pushText front (pattern.cut rest) := by
  apply Pattern.cut_append_of_none (fun _ _ => rfl)
  intro xs c ys heq
  rw [Option.eq_none_iff_forall_not_mem]
  intro m hm
  rcases match_eq_some_iff.1 hm with ⟨label, target, rest', htaken, -⟩
  rcases take_eq_some_iff.1 htaken with ⟨hwritten, -⟩
  apply h
  rw [heq, (List.cons.inj hwritten).1]
  exact List.mem_append_right xs List.mem_cons_self

variable {label target : List Char}

theorem cut_written_append (hne : label ≠ []) (hlabel : ∀ c ∈ label, isLabelChar c = true)
    (htarget : ∀ c ∈ target, isTargetChar c = true) (rest : List Char) :
    pattern.cut (written label target ++ rest) =
      .link label (written label target) :: pattern.cut rest := by
  have htake : take (written label target ++ rest) = some (label, target, rest) :=
    take_eq_some_iff.2 ⟨rfl, hne, hlabel, htarget⟩
  have hmatch : pattern.match? none (written label target ++ rest) =
      some ⟨[], written label target, [], rest, some (.link label (written label target))⟩ :=
    match_eq_some_iff.2 ⟨label, target, rest, htake, rfl⟩
  rw [Pattern.cut, Pattern.cutAfter_of_some hmatch rfl, Piece.pushText_nil, Piece.pushText_nil,
    Pattern.cutAfter_eq_cut (fun _ _ => rfl)]

end Link

/-- A link without `<` that stands behind a text without `<` and without brackets keeps the pieces on
its two sides apart. -/
theorem pieces_append_written {front label target : List Char} (hfront : '<' ∉ front)
    (hbracket : '[' ∉ front) (hne : label ≠ [])
    (hlabel : ∀ c ∈ label, Link.isLabelChar c = true)
    (htarget : ∀ c ∈ target, Link.isTargetChar c = true)
    (hwritten : '<' ∉ Link.written label target) (behind : List Char) :
    pieces (front ++ Link.written label target ++ behind) =
      pieces front ++ .link label (Link.written label target) :: pieces behind := by
  generalize hbody : Link.written label target = body at hwritten ⊢
  have hnot : ∀ text, Piece.link label body ≠ .text text := by simp
  have hplain : '<' ∉ front ++ body := by simp [hfront, hwritten]
  have hcut : ∀ rest, Link.pattern.cut (front ++ body ++ rest) =
      (Link.pattern.refine (Markup.pattern.cut front) ++ [.link label body]) ++
        Link.pattern.cut rest := by
    intro rest
    have hfrontCut : Link.pattern.refine (Markup.pattern.cut front) = Piece.pushText front [] := by
      rw [Markup.cut_of_not_mem hfront]
      cases front with
      | nil => rfl
      | cons c front =>
        exact Pattern.refine_of_silent (List.cons_ne_nil c front) (Link.silent_of_not_mem hbracket)
    rw [hfrontCut, List.append_assoc, Link.cut_append_of_not_mem hbracket, ← hbody,
      Link.cut_written_append hne hlabel htarget, hbody, Piece.pushText_of_not_text hnot,
      List.append_assoc, List.singleton_append]
  rw [pieces_eq_refineAll, Markup.cut_append_of_bare (Markup.bare_of_not_mem hplain behind),
    Pattern.refineAll_cons, Pattern.refine_pushText hcut, Pattern.refineAll_append,
    Pattern.refineAll_append, Pattern.refineAll_of_not_text _ hnot, ← Pattern.refineAll_cons,
    ← Pattern.refineAll_cons, ← pieces_eq_refineAll, ← pieces_eq_refineAll, List.append_assoc,
    List.singleton_append]

/-! ## Tokens around a barrier -/

/-- A token some bytes further on. -/
def PlacedToken.shift (n : Nat) (placed : PlacedToken) : PlacedToken :=
  ⟨placed.token, placed.start + n⟩

theorem placeTokens_append (start : Nat) (xs ys : List Piece) :
    placeTokens start (xs ++ ys) =
      placeTokens start xs ++ placeTokens (start + byteLength (Piece.sources xs)) ys := by
  rw [placeTokens_eq_filterMap, Piece.placed_append, List.filterMap_append,
    ← placeTokens_eq_filterMap, ← placeTokens_eq_filterMap]

theorem placeTokens_add (start n : Nat) (pieces : List Piece) :
    placeTokens (start + n) pieces = (placeTokens start pieces).map (PlacedToken.shift n) := by
  induction pieces generalizing start with
  | nil => rfl
  | cons piece pieces ih =>
    have hothers := ih (start + byteLength piece.source)
    have hplace : start + n + byteLength piece.source = start + byteLength piece.source + n := by
      omega
    rw [placeTokens, placeTokens, hplace, hothers]
    cases piece.token? with
    | none => rfl
    | some token => rfl

/-- Around a piece that is no token, the tokens are those of the two sides. -/
theorem scan_of_pieces {cs front behind : List Char} {piece : Piece} (htoken : piece.token? = none)
    (h : pieces cs = pieces front ++ piece :: pieces behind) :
    scan cs = scan front ++
      (scan behind).map (PlacedToken.shift (byteLength (front ++ piece.source))) := by
  have hplace : 0 + byteLength front + byteLength piece.source =
      0 + byteLength (front ++ piece.source) := by
    rw [byteLength_append, Nat.add_assoc]
  rw [scan, h, placeTokens_append, sources_pieces, placeTokens, htoken, hplace, placeTokens_add]
  rfl

/-- Around a piece, the annotated text is that of the two sides. -/
theorem annotate_of_pieces {cs front behind : List Char} {piece : Piece}
    (h : pieces cs = pieces front ++ piece :: pieces behind) :
    annotate cs = annotate front ++ piece.annotated ++ annotate behind := by
  rw [annotate, h, List.flatMap_append, List.flatMap_cons, annotate, annotate, List.append_assoc]

/-! ## Barriers -/

/-- What keeps a text apart from the text that follows, and how it stands in the annotated text: a
tag that opens no mark, a mark, and, if there is no bracket in front of it, a link. -/
inductive Barrier (front : List Char) : List Char → List Char → Prop
  | tag {tag : List Char} (complete : IsTag tag)
      (plain : "</".toList <+: tag ∨ ¬ markAttribute <:+: tag) : Barrier front tag tag
  | mark {tag content : List Char} (opening : IsMarkTag tag) (ended : ¬ markEnd <:+: content) :
      Barrier front (tag ++ content ++ markEnd) (tag ++ content ++ markEnd)
  | link {label target : List Char} (unbracketed : '[' ∉ front) (labelled : label ≠ [])
      (label_chars : ∀ c ∈ label, c ≠ '[' ∧ c ≠ ']' ∧ c ≠ '<')
      (target_chars : ∀ c ∈ target, c ≠ '(' ∧ c ≠ ')' ∧ c ≠ '<') :
      Barrier front (Link.written label target) (keywordMark label)

/-- A barrier is a piece of its own between the pieces of its two sides. -/
theorem Barrier.exists_piece {front m marked : List Char} (h : Barrier front m marked)
    (hfront : '<' ∉ front) (behind : List Char) :
    ∃ piece : Piece, piece.token? = none ∧ piece.source = m ∧ piece.annotated = marked ∧
      pieces (front ++ m ++ behind) = pieces front ++ piece :: pieces behind := by
  cases h with
  | tag complete plain =>
    refine ⟨.markup m, rfl, rfl, rfl, ?_⟩
    rw [List.append_assoc]
    exact pieces_append_of_take hfront (Markup.take_tag_barrier complete plain behind)
  | mark opening ended =>
    refine ⟨.markup _, rfl, rfl, rfl, ?_⟩
    rw [List.append_assoc]
    exact pieces_append_of_take hfront (Markup.take_mark_barrier opening ended behind)
  | @link label target unbracketed labelled label_chars target_chars =>
    have hlabel : ∀ c ∈ label, Link.isLabelChar c = true := by
      intro c hc
      simp [Link.isLabelChar, label_chars c hc]
    have htarget : ∀ c ∈ target, Link.isTargetChar c = true := by
      intro c hc
      simp [Link.isTargetChar, target_chars c hc]
    have hwritten : '<' ∉ Link.written label target := by
      have hlabelTag : '<' ∉ label := fun hmem => (label_chars _ hmem).2.2 rfl
      have htargetTag : '<' ∉ target := fun hmem => (target_chars _ hmem).2.2 rfl
      simp [Link.written, hlabelTag, htargetTag]
    exact ⟨.link label (Link.written label target), rfl, rfl, rfl,
      pieces_append_written hfront unbracketed labelled hlabel htarget hwritten behind⟩

/-- Behind a text without `<`, a barrier splits a text in two: the tokens are those of the two sides,
each in its place, and each side is annotated on its own.  A mark without an end hides everything
that follows and stays as it is. -/
theorem scan_annotate_barrier {front : List Char} (hfront : '<' ∉ front) :
    (∀ m marked behind, Barrier front m marked →
      scan (front ++ m ++ behind) =
          scan front ++ (scan behind).map (PlacedToken.shift (byteLength (front ++ m))) ∧
        annotate (front ++ m ++ behind) = annotate front ++ marked ++ annotate behind) ∧
    ∀ tag content, IsMarkTag tag → ¬ markEnd <:+: content →
      scan (front ++ (tag ++ content)) = scan front ∧
        annotate (front ++ (tag ++ content)) = annotate front ++ (tag ++ content) := by
  refine ⟨?_, ?_⟩
  · intro m marked behind hbarrier
    rcases hbarrier.exists_piece hfront behind with ⟨piece, htoken, rfl, rfl, hpieces⟩
    exact ⟨scan_of_pieces htoken hpieces, annotate_of_pieces hpieces⟩
  · intro tag content htag hcontent
    have htake := Markup.take_unended_mark_tag htag hcontent
    have hpieces := pieces_append_of_take hfront htake
    have hscan := scan_of_pieces rfl hpieces
    have hannotate := annotate_of_pieces hpieces
    have hnil : pieces [] = [] := by
      rw [pieces_eq_refineAll, Pattern.cut_nil, Pattern.refineAll_nil]
    have hscanNil : scan [] = [] := by
      rw [scan, hnil]
      rfl
    have hannotateNil : annotate [] = [] := by
      rw [annotate, hnil]
      rfl
    rw [hscanNil, List.map_nil, List.append_nil] at hscan
    rw [hannotateNil, List.append_nil] at hannotate
    exact ⟨hscan, hannotate⟩

/-- Dice in front of a link, of a tag with an attribute that looks like dice, and of a mark without an
end. -/
theorem scan_annotate_barrier_fire :
    '<' ∉ "2d6 ".toList ∧
      Barrier "2d6 ".toList "[fire](1d4)".toList (keywordMark "fire".toList) ∧
      Barrier "2d6 ".toList "<b id='1d4'>".toList "<b id='1d4'>".toList ∧
      IsMarkTag "<i data-dicemark>".toList ∧ ¬ markEnd <:+: "1d8</i>".toList ∧
      (∀ behind, scan ("2d6 ".toList ++ "[fire](1d4)".toList ++ behind) =
        scan "2d6 ".toList ++ (scan behind).map (PlacedToken.shift 15)) ∧
      (∀ behind, annotate ("2d6 ".toList ++ "<b id='1d4'>".toList ++ behind) =
        annotate "2d6 ".toList ++ "<b id='1d4'>".toList ++ annotate behind) ∧
      scan ("2d6 ".toList ++ ("<i data-dicemark>".toList ++ "1d8</i>".toList)) =
        scan "2d6 ".toList := by
  have hfront : '<' ∉ "2d6 ".toList := by decide
  have hlink : Barrier "2d6 ".toList "[fire](1d4)".toList (keywordMark "fire".toList) := by
    have hwritten : "[fire](1d4)".toList = Link.written "fire".toList "1d4".toList := by decide
    rw [hwritten]
    exact Barrier.link (by decide) (by decide) (by simp) (by simp)
  have htag : Barrier "2d6 ".toList "<b id='1d4'>".toList "<b id='1d4'>".toList :=
    Barrier.tag ⟨'b', " id='1d4'".toList, by decide, by decide, by decide⟩ (by decide)
  have hmark : IsMarkTag "<i data-dicemark>".toList :=
    ⟨⟨'i', " data-dicemark".toList, by decide, by decide, by decide⟩, by decide, by decide⟩
  have hcontent : ¬ markEnd <:+: "1d8</i>".toList := by decide
  have hbarriers := scan_annotate_barrier hfront
  exact ⟨hfront, hlink, htag, hmark, hcontent,
    fun behind => (hbarriers.1 _ _ behind hlink).1, fun behind => (hbarriers.1 _ _ behind htag).2,
    (hbarriers.2 _ _ hmark hcontent).1⟩

end DiceRoller
