import DiceRoller.Proofs.Scan.Formulas
import DiceRoller.Proofs.Scan.Rereading
import DiceRoller.Proofs.Scan.Spans

/-!
# Reading marks back

A text without `<` can be told from the marks that are put into it.  What counts as markup in the
annotated text are the marks, each as it was written, and what counts as text is the text that was
copied.  So a further scan finds nothing that reaches into a mark, and the attribute with the notation
of a token says what the token stands for.

Main results:

- Theorem `cut_annotate`: the markup and the texts of an annotated text.
- Theorem `apart_of_mem_cut`: no token reaches into markup.
- Theorem `attribute?_notation`: the notation in the mark of a token.
- Theorem `annotate_decoded`: what can be read off an annotated text.
-/

namespace DiceRoller

open Text

/-! ## Markup and texts between it -/

/-- The given spans of a text as markup that stands in their places, and the texts between them as they
were; the text begins at the given byte. -/
def segments (start : Nat) : List Edit → List Char → List Piece
  | [], cs => Piece.pushText cs []
  | edit :: edits, cs =>
    let ahead := splitAtByte (edit.start - start) cs
    let span := splitAtByte (edit.stop - edit.start) ahead.2
    Piece.pushText ahead.1 (.markup edit.replacement :: segments edit.stop edits span.2)

/-- Text in front of all spans stays in front. -/
theorem segments_append {start : Nat} {edits : List Edit} {front back : List Char}
    (h : ∀ edit ∈ edits, start + byteLength front ≤ edit.start) :
    segments start edits (front ++ back) =
      Piece.pushText front (segments (start + byteLength front) edits back) := by
  cases edits with
  | nil => rw [segments, segments, Piece.pushText_pushText]
  | cons edit edits =>
    have hstart := h edit List.mem_cons_self
    have hn : edit.start - start - byteLength front = edit.start - (start + byteLength front) := by
      omega
    rw [segments, segments, splitAtByte_append_of_le (by omega), hn, Piece.pushText_pushText]

/-- A span at the start of a text. -/
theorem segments_cons {start stop : Nat} {edits : List Edit} {front back replacement : List Char}
    (h : stop = start + byteLength front) :
    segments start (⟨start, stop, replacement⟩ :: edits) (front ++ back) =
      .markup replacement :: segments stop edits back := by
  rw [segments, Nat.sub_self, splitAtByte_zero]
  simp only [Piece.pushText_nil, splitAtByte_span h]

namespace Piece

/-- A piece of a text without `<`. -/
structure Unopened (piece : Piece) : Prop where
  not_markup : ∀ body, piece ≠ markup body
  no_opener : '<' ∉ piece.source
  marked : ∀ content, piece.content? = some content → piece.Marked content

variable {piece : Piece} {content : List Char}

/-- The mark of a piece is cut off as it was written. -/
theorem Unopened.cut_annotated (h : piece.Unopened) (hcontent : piece.content? = some content)
    (rest : List Char) :
    Markup.pattern.cut (piece.annotated ++ rest) =
      .markup piece.annotated :: Markup.pattern.cut rest := by
  have hmarked := h.marked content hcontent
  have hnone : ¬ markEnd <:+: content := by
    intro hinside
    apply h.no_opener
    exact (hinside.trans hmarked.part).subset (by decide)
  exact Markup.cut_of_take (Markup.take_mark hmarked.mark hnone rest)

theorem edit?_of_content (h : piece.content? = some content) (start : Nat) :
    edit? (start, piece) = some ⟨start, start + byteLength piece.source, piece.annotated⟩ := by
  cases piece with
  | text body => cases h
  | markup body => cases h
  | link label body => rfl
  | token t => rfl

/-- The markup of annotated pieces are their marks, in the places of what was marked. -/
theorem cut_flatMap_annotated (start : Nat) {pieces : List Piece}
    (h : ∀ piece ∈ pieces, piece.Unopened) :
    Markup.pattern.cut (pieces.flatMap annotated) =
      segments start ((placed start pieces).filterMap edit?) (sources pieces) := by
  induction pieces generalizing start with
  | nil => exact Pattern.cut_nil _
  | cons piece pieces ih =>
    rcases List.forall_mem_cons.1 h with ⟨hpiece, hothers⟩
    have hrest := ih (start + byteLength piece.source) hothers
    rw [List.flatMap_cons, sources_cons, placed]
    cases hcontent : piece.content? with
    | some content =>
      rw [List.filterMap_cons_some (edit?_of_content hcontent start), segments_cons rfl,
        hpiece.cut_annotated hcontent, hrest]
    | none =>
      -- A piece without a mark is text, as it is no markup.
      cases piece with
      | text body =>
        rw [List.filterMap_cons_none rfl, segments_append fun edit hedit => le_start_of_edit hedit,
          ← hrest]
        exact Markup.cut_append_of_bare (Markup.bare_of_not_mem hpiece.no_opener _)
      | markup body => exact absurd rfl (hpiece.not_markup body)
      | link label body => cases hcontent
      | token t => cases hcontent

end Piece

/-- The pieces of a text without `<`. -/
theorem unopened_of_mem_pieces {cs : List Char} (h : '<' ∉ cs) {piece : Piece}
    (hmem : piece ∈ pieces cs) : piece.Unopened where
  not_markup := by
    intro body
    rw [pieces_eq_foldl, Markup.cut_of_not_mem h] at hmem
    rcases Pattern.mem_foldl_refine hmem with ⟨body', rfl⟩ | ⟨p, hp, hmakes⟩ | hmem
    · simp
    · rcases Rollable.makes_token hp hmakes with ⟨t, rfl⟩
      simp
    · rcases Pattern.mem_refine hmem with ⟨body', rfl⟩ | hmakes | hmem
      · simp
      · rcases makes_link hmakes with ⟨label, target, rfl⟩
        simp
      · rcases Piece.mem_pushText hmem with ⟨body', rfl⟩ | hnone
        · simp
        · cases hnone
  no_opener := by
    intro hopener
    apply h
    rw [← sources_pieces cs]
    exact List.mem_flatMap.2 ⟨piece, hmem, hopener⟩
  marked content hcontent := marked_of_mem_pieces hmem hcontent

/-- What is markup in an annotated text are the marks of its tokens and links. -/
theorem cut_annotate {cs : List Char} (h : '<' ∉ cs) :
    Markup.pattern.cut (annotate cs) = segments 0 (edits cs) cs := by
  have hcut := Piece.cut_flatMap_annotated 0 fun piece hmem => unopened_of_mem_pieces h hmem
  rwa [sources_pieces, ← edits_eq_filterMap] at hcut

/-! ## Tokens and markup -/

theorem Pattern.sources_refineAll (ps : List Pattern) (pieces : List Piece) :
    Piece.sources (refineAll ps pieces) = Piece.sources pieces := by
  induction ps generalizing pieces with
  | nil => rfl
  | cons p ps ih => rw [refineAll_cons, ih, sources_refine]

/-- What is no text stays where it is when the texts are cut further. -/
theorem Pattern.mem_placed_refineAll {ps : List Pattern} {pieces : List Piece} {piece : Piece}
    {start n : Nat} (hnot : ∀ body, piece ≠ .text body) (h : (n, piece) ∈ Piece.placed start pieces) :
    (n, piece) ∈ Piece.placed start (refineAll ps pieces) := by
  rcases Piece.exists_of_mem_placed h with ⟨xs, ys, rfl, rfl⟩
  have hsplit : xs ++ piece :: ys = xs ++ ([piece] ++ ys) := rfl
  rw [hsplit, refineAll_append, refineAll_append, refineAll_of_not_text ps hnot,
    Piece.placed_append, sources_refineAll]
  exact List.mem_append_right _ List.mem_cons_self

/-- No token of a text reaches into its markup. -/
theorem apart_of_mem_cut {cs mark : List Char} {placed : PlacedToken} {n : Nat}
    (hplaced : placed ∈ scan cs)
    (hmark : (n, .markup mark) ∈ Piece.placed 0 (Markup.pattern.cut cs)) :
    placed.stop ≤ n ∨ n + byteLength mark ≤ placed.start := by
  have hmem : (n, .markup mark) ∈ Piece.placed 0 (pieces cs) := by
    rw [pieces_eq_refineAll]
    exact Pattern.mem_placed_refineAll (by simp) hmark
  exact before_or_before (mem_placed_of_mem_scan hplaced) hmem (by simp)

/-! ## Attributes of marks -/

/-- The value of an attribute of the tag at the start of a text: what stands between the quotes behind
the first occurrence of its name. -/
def attribute? (name cs : List Char) : Option (List Char) :=
  (through (' ' :: name ++ ['=', '"']) cs).map fun found => found.2.takeWhile (· ≠ '"')

/-- An attribute is read as it was written, if its name does not occur in front of it. -/
theorem attribute?_append {name front value : List Char}
    (hfront : through (' ' :: name ++ ['=', '"']) (front ++ (' ' :: name ++ ['=', '"'])) =
      some (front ++ (' ' :: name ++ ['=', '"']), []))
    (hvalue : '"' ∉ value) (rest : List Char) :
    attribute? name (front ++ renderAttribute name value ++ rest) = some value := by
  have hsplit : front ++ renderAttribute name value ++ rest =
      front ++ (' ' :: name ++ ['=', '"']) ++ (value ++ '"' :: rest) := by
    simp [renderAttribute]
  have hfound := through_of_through (by simp) hfront (value ++ '"' :: rest)
  have hclosed : (value ++ '"' :: rest).takeWhile (· ≠ '"') = value := by
    rw [List.takeWhile_append_of_pos]
    · simp
    · intro c hc
      have hne : c ≠ '"' := fun heq => hvalue (heq ▸ hc)
      simpa using hne
  rw [attribute?, hsplit, hfound, Option.map_some, hclosed]

theorem renderMark_append (className front value back body : List Char) :
    renderMark className (front ++ value ++ back) body =
      ("<span".toList ++ renderAttribute "class".toList className ++ front) ++ value ++
        (back ++ '>' :: body ++ markEnd) := by
  unfold renderMark
  generalize "<span".toList ++ renderAttribute "class".toList className = start
  simp

theorem Kind.name_mem (kind : Kind) :
    kind.name ∈ ["plain-dice".toList, "attack-bonus".toList, "saving-throw-dc".toList] := by
  cases kind with
  | dice => exact List.mem_cons_self
  | attack bonus => exact List.mem_cons_of_mem _ List.mem_cons_self
  | save dc ability => exact List.mem_cons_of_mem _ (List.mem_cons_of_mem _ List.mem_cons_self)

/-- The mark of a token carries its notation. -/
theorem attribute?_notation {t : Token} {phrase : Phrase} (h : t.HasPhrase phrase) :
    attribute? "data-notation".toList t.mark = some t.formula := by
  have hquote : '"' ∉ t.formula := by
    intro hmem
    exact absurd (h.mem_notationChars _ hmem) (by decide)
  -- The attributes in front are the class and the name of the kind, which are fixed texts.
  have hfront : ∀ name ∈ ["plain-dice".toList, "attack-bonus".toList, "saving-throw-dc".toList],
      through (' ' :: "data-notation".toList ++ ['=', '"'])
          ("<span".toList ++ renderAttribute "class".toList "dicemark-roll".toList ++
            renderAttribute markAttribute name ++ (' ' :: "data-notation".toList ++ ['=', '"'])) =
        some ("<span".toList ++ renderAttribute "class".toList "dicemark-roll".toList ++
          renderAttribute markAttribute name ++ (' ' :: "data-notation".toList ++ ['=', '"']), []) := by
    decide +kernel
  rw [Token.mark, renderMark_append]
  exact attribute?_append (hfront t.kind.name t.kind.name_mem) hquote _

/-! ## What can be read off an annotated text -/

/-- A text without `<` is annotated in a way that can be read back: the markup of the annotated text
consists of the marks of its tokens and links, each as it was written, with the other texts between
them; no token that is found in the annotated text reaches into a mark; and the notation in the mark
of a token is read as the descriptor of the token. -/
theorem annotate_decoded {cs : List Char} (h : '<' ∉ cs) :
    Markup.pattern.cut (annotate cs) = segments 0 (edits cs) cs ∧
    (∀ placed ∈ scan (annotate cs), ∀ n mark,
      (n, .markup mark) ∈ Piece.placed 0 (segments 0 (edits cs) cs) →
        placed.stop ≤ n ∨ n + byteLength mark ≤ placed.start) ∧
    ∀ placed ∈ scan cs, ∃ written d,
      attribute? "data-notation".toList placed.token.mark = some written ∧
        Descriptor.parse written = .ok d ∧
        placed.token.query.map Query.descriptor = .ok d := by
  refine ⟨cut_annotate h, ?_, ?_⟩
  · intro placed hplaced n mark hmark
    rw [← cut_annotate h] at hmark
    exact apart_of_mem_cut hplaced hmark
  · intro placed hplaced
    have hmem := Piece.mem_of_mem_placed (mem_placed_of_mem_scan hplaced)
    rcases exists_phrase_of_mem_pieces hmem with ⟨phrase, hphrase⟩
    rcases hphrase.exists_query with ⟨d, hparse, -, hquery⟩
    refine ⟨placed.token.formula, d, attribute?_notation hphrase, hparse, ?_⟩
    rw [hquery]
    rfl

/-- Dice and a link. -/
theorem annotate_decoded_fire :
    '<' ∉ "2d6 [fire](x)".toList ∧
    Markup.pattern.cut (annotate "2d6 [fire](x)".toList) =
      [.markup (Token.mark ⟨"2d6".toList, .dice⟩), .text [' '], .markup (keywordMark "fire".toList)] ∧
    ∃ written d, attribute? "data-notation".toList (Token.mark ⟨"2d6".toList, .dice⟩) = some written ∧
      Descriptor.parse written = .ok d := by
  have hopener : '<' ∉ "2d6 [fire](x)".toList := by decide
  have hdecoded := annotate_decoded hopener
  have hsegments : segments 0 (edits "2d6 [fire](x)".toList) "2d6 [fire](x)".toList =
      [.markup (Token.mark ⟨"2d6".toList, .dice⟩), .text [' '],
        .markup (keywordMark "fire".toList)] := by
    rw [edits_eq_filterMap]
    decide +kernel
  refine ⟨hopener, hdecoded.1.trans hsegments, ?_⟩
  have htoken : ⟨⟨"2d6".toList, .dice⟩, 0⟩ ∈ scan "2d6 [fire](x)".toList := by decide +kernel
  rcases hdecoded.2.2 _ htoken with ⟨written, d, hwritten, hparse, -⟩
  exact ⟨written, d, hwritten, hparse⟩

end DiceRoller
