import Mathlib.Data.List.Pairwise
import DiceRoller.Proofs.Scan.Pieces

/-!
# Spans of tokens and links

What a scan finds lies in the text without overlaps, and annotating a text means to exchange just
these spans: each token for its mark, and each link for the mark of its label.  Everything else is
copied.  The pieces of a text tile it, and places are counted along them.

Main results:

- Theorem `pairwise_placed`: no two pieces overlap.
- Theorem `applyEdits_placed`: exchanging the spans of pieces in their text gives the pieces as they
  are annotated.
- Theorem `annotate_eq_applyEdits`: the spans of tokens and links, and the annotated text.
-/

namespace DiceRoller

open Text

/-! ## Exchanging spans of a text -/

/-- A span of a text, from a byte up to another, and what is to stand there instead. -/
structure Edit where
  start : Nat
  stop : Nat
  replacement : List Char
  deriving DecidableEq, Repr

/-- Exchanges the given spans, from left to right, in a text that begins at the given byte. -/
def applyEdits (start : Nat) : List Edit → List Char → List Char
  | [], cs => cs
  | edit :: edits, cs =>
    let ahead := splitAtByte (edit.start - start) cs
    let span := splitAtByte (edit.stop - edit.start) ahead.2
    ahead.1 ++ edit.replacement ++ applyEdits edit.stop edits span.2

/-- A cut behind a part of a text is a cut in what follows the part. -/
theorem splitAtByte_append_of_le {n : Nat} {front back : List Char} (h : byteLength front ≤ n) :
    splitAtByte n (front ++ back) =
      (front ++ (splitAtByte (n - byteLength front) back).1,
        (splitAtByte (n - byteLength front) back).2) := by
  induction front generalizing n with
  | nil => rfl
  | cons c front ih =>
    rw [byteLength_cons] at h
    have hrest := ih (n := n - c.utf8Size) (by omega)
    have hn : n - c.utf8Size - byteLength front = n - (c.utf8Size + byteLength front) := by omega
    rw [List.cons_append, splitAtByte, if_pos (by omega), hrest, hn, byteLength_cons]
    rfl

/-- Text in front of all spans is copied. -/
theorem applyEdits_append {start : Nat} {edits : List Edit} {front back : List Char}
    (h : ∀ edit ∈ edits, start + byteLength front ≤ edit.start) :
    applyEdits start edits (front ++ back) =
      front ++ applyEdits (start + byteLength front) edits back := by
  cases edits with
  | nil => rfl
  | cons edit edits =>
    have hstart := h edit List.mem_cons_self
    have hn : edit.start - start - byteLength front = edit.start - (start + byteLength front) := by
      omega
    rw [applyEdits, applyEdits, splitAtByte_append_of_le (by omega), hn]
    simp only [List.append_assoc]

/-- Nothing stands in front of the first byte. -/
theorem splitAtByte_zero (cs : List Char) : splitAtByte 0 cs = ([], cs) :=
  splitAtByte_byteLength [] cs

/-- A span is cut off where it ends. -/
theorem splitAtByte_span {start stop : Nat} {front : List Char}
    (h : stop = start + byteLength front) (back : List Char) :
    splitAtByte (stop - start) (front ++ back) = (front, back) := by
  rw [h, Nat.add_sub_cancel_left]
  exact splitAtByte_byteLength front back

/-- A span at the start of a text is exchanged. -/
theorem applyEdits_cons {start stop : Nat} {edits : List Edit} {front back replacement : List Char}
    (h : stop = start + byteLength front) :
    applyEdits start (⟨start, stop, replacement⟩ :: edits) (front ++ back) =
      replacement ++ applyEdits stop edits back := by
  rw [applyEdits, Nat.sub_self, splitAtByte_zero]
  simp only [List.nil_append, splitAtByte_span h]

/-! ## Places of pieces -/

namespace Piece

/-- No piece is placed in front of the start. -/
theorem le_of_mem_placed {start n : Nat} {piece : Piece} {pieces : List Piece}
    (h : (n, piece) ∈ placed start pieces) : start ≤ n := by
  induction pieces generalizing start with
  | nil => cases h
  | cons first pieces ih =>
    rcases List.mem_cons.1 h with heq | hmem
    · have hn : n = start := congrArg Prod.fst heq
      omega
    · have hle := ih hmem
      omega

/-- A piece is placed behind the text of the pieces in front of it. -/
theorem exists_of_mem_placed {start n : Nat} {piece : Piece} {pieces : List Piece}
    (h : (n, piece) ∈ placed start pieces) :
    ∃ xs ys, pieces = xs ++ piece :: ys ∧ n = start + byteLength (sources xs) := by
  induction pieces generalizing start with
  | nil => cases h
  | cons first pieces ih =>
    rcases List.mem_cons.1 h with heq | hmem
    · cases heq
      exact ⟨[], pieces, rfl, rfl⟩
    · rcases ih hmem with ⟨xs, ys, rfl, hn⟩
      refine ⟨first :: xs, ys, rfl, ?_⟩
      rw [hn, sources_cons, byteLength_append, Nat.add_assoc]

/-- A placed piece is one of the pieces. -/
theorem mem_of_mem_placed {start n : Nat} {piece : Piece} {pieces : List Piece}
    (h : (n, piece) ∈ placed start pieces) : piece ∈ pieces := by
  rcases exists_of_mem_placed h with ⟨xs, ys, rfl, -⟩
  exact List.mem_append_right xs List.mem_cons_self

/-- What is read off placed pieces with their places stands no earlier than they do. -/
theorem le_of_mem_filterMap_placed {α : Type} {read : Nat × Piece → Option α} {place : α → Nat}
    (hread : ∀ found a, read found = some a → place a = found.1) {start : Nat}
    {pieces : List Piece} {a : α} (h : a ∈ (placed start pieces).filterMap read) :
    start ≤ place a := by
  rcases List.mem_filterMap.1 h with ⟨found, hmem, hfound⟩
  rw [hread found a hfound]
  exact le_of_mem_placed hmem

/-- The first of two placed pieces ends before the second starts. -/
def Before (a b : Nat × Piece) : Prop :=
  a.1 + byteLength a.2.source ≤ b.1

/-- No two pieces overlap. -/
theorem pairwise_placed (start : Nat) (pieces : List Piece) :
    (placed start pieces).Pairwise Before := by
  induction pieces generalizing start with
  | nil => exact List.Pairwise.nil
  | cons piece pieces ih =>
    rw [placed]
    apply List.Pairwise.cons
    · intro other hother
      exact le_of_mem_placed hother
    · exact ih (start + byteLength piece.source)

/-- The exchange of a placed piece for another text, if there is one for it. -/
def exchange? (replacement? : Piece → Option (List Char)) (found : Nat × Piece) : Option Edit :=
  (replacement? found.2).map fun replacement =>
    ⟨found.1, found.1 + byteLength found.2.source, replacement⟩

/-- Nor is an exchange. -/
theorem le_start_of_exchange {replacement? : Piece → Option (List Char)} {start : Nat}
    {pieces : List Piece} {edit : Edit}
    (h : edit ∈ (placed start pieces).filterMap (exchange? replacement?)) : start ≤ edit.start := by
  apply le_of_mem_filterMap_placed _ h
  intro found edit' hedit
  rcases Option.map_eq_some_iff.1 hedit with ⟨replacement, -, rfl⟩
  rfl

/-- Exchanging the spans of some pieces in their text leaves the other pieces as they are. -/
theorem applyEdits_exchange (replacement? : Piece → Option (List Char)) (start : Nat)
    (pieces : List Piece) :
    applyEdits start ((placed start pieces).filterMap (exchange? replacement?)) (sources pieces) =
      pieces.flatMap fun piece => (replacement? piece).getD piece.source := by
  induction pieces generalizing start with
  | nil => rfl
  | cons piece pieces ih =>
    rw [sources_cons, List.flatMap_cons, placed]
    cases hpiece : replacement? piece with
    | none =>
      have hnone : exchange? replacement? (start, piece) = none := by
        rw [exchange?, hpiece]
        rfl
      rw [List.filterMap_cons_none hnone,
        applyEdits_append (fun edit h => le_start_of_exchange h), ih]
      rfl
    | some replacement =>
      have hsome : exchange? replacement? (start, piece) =
          some ⟨start, start + byteLength piece.source, replacement⟩ := by
        rw [exchange?, hpiece]
        rfl
      rw [List.filterMap_cons_some hsome, applyEdits_cons rfl, ih]
      rfl

/-- The exchange that annotating makes of a placed piece. -/
def edit? : Nat × Piece → Option Edit
  | (start, link label body) => some ⟨start, start + byteLength body, keywordMark label⟩
  | (start, token t) => some ⟨start, start + byteLength t.matched, t.mark⟩
  | _ => none

/-- The text that annotating puts in the place of a piece. -/
def mark? : Piece → Option (List Char)
  | link label _ => some (keywordMark label)
  | token t => some t.mark
  | _ => none

/-- The edit of a piece exchanges it for its mark. -/
theorem edit?_eq_exchange (found : Nat × Piece) : edit? found = exchange? mark? found := by
  rcases found with ⟨n, piece⟩
  cases piece with
  | _ => rfl

/-- A piece is annotated by its mark, if it has one. -/
theorem annotated_eq_getD (piece : Piece) : piece.annotated = piece.mark?.getD piece.source := by
  cases piece with
  | _ => rfl

/-- No edit is in front of the start. -/
theorem le_start_of_edit {start : Nat} {pieces : List Piece} {edit : Edit}
    (h : edit ∈ (placed start pieces).filterMap edit?) : start ≤ edit.start := by
  rw [funext edit?_eq_exchange] at h
  exact le_start_of_exchange h

/-- Exchanging the spans of pieces in their text gives the pieces as they are annotated. -/
theorem applyEdits_placed (start : Nat) (pieces : List Piece) :
    applyEdits start ((placed start pieces).filterMap edit?) (sources pieces) =
      pieces.flatMap annotated := by
  rw [funext edit?_eq_exchange, funext annotated_eq_getD]
  exact applyEdits_exchange mark? start pieces

end Piece

/-! ## Tokens and links of a text -/

/-- A link of a text: its label, all that is written, and the byte at which it starts. -/
structure PlacedLink where
  label : List Char
  body : List Char
  start : Nat
  deriving DecidableEq, Repr

/-- The byte behind a link. -/
def PlacedLink.stop (link : PlacedLink) : Nat :=
  link.start + byteLength link.body

/-- The token of a placed piece, if it is one. -/
def Piece.tokenAt? (placed : Nat × Piece) : Option PlacedToken :=
  placed.2.token?.map fun token => ⟨token, placed.1⟩

/-- The link of a placed piece, if it is one. -/
def Piece.linkAt? : Nat × Piece → Option PlacedLink
  | (start, .link label body) => some ⟨label, body, start⟩
  | _ => none

/-- The links of a text with their places, from left to right: what the pattern for links finds in
the text between markup. -/
def links (cs : List Char) : List PlacedLink :=
  (Piece.placed 0 (Link.pattern.refine (Markup.pattern.cut cs))).filterMap Piece.linkAt?

/-- A token is exchanged for its mark. -/
def PlacedToken.edit (placed : PlacedToken) : Edit :=
  ⟨placed.start, placed.stop, placed.token.mark⟩

/-- A link is exchanged for the mark of its label. -/
def PlacedLink.edit (link : PlacedLink) : Edit :=
  ⟨link.start, link.stop, keywordMark link.label⟩

/-- The exchanges that the tokens and the links of a text ask for, from left to right. -/
def edits (cs : List Char) : List Edit :=
  ((scan cs).map PlacedToken.edit).merge ((links cs).map PlacedLink.edit)
    fun a b => a.start ≤ b.start

/-- The placed tokens are the placed pieces that are tokens. -/
theorem tokenAt?_eq_some_iff {found : Nat × Piece} {placed : PlacedToken} :
    Piece.tokenAt? found = some placed ↔ found = (placed.start, .token placed.token) := by
  rcases found with ⟨n, piece⟩
  rcases placed with ⟨token, start⟩
  cases piece with
  | text body => simp [Piece.tokenAt?, Piece.token?]
  | markup body => simp [Piece.tokenAt?, Piece.token?]
  | link label body => simp [Piece.tokenAt?, Piece.token?]
  | token t => simp [Piece.tokenAt?, Piece.token?, and_comm]

/-- The placed links are the placed pieces that are links. -/
theorem linkAt?_eq_some_iff {found : Nat × Piece} {link : PlacedLink} :
    Piece.linkAt? found = some link ↔ found = (link.start, .link link.label link.body) := by
  rcases found with ⟨n, piece⟩
  rcases link with ⟨label, body, start⟩
  cases piece with
  | text body => simp [Piece.linkAt?]
  | markup body => simp [Piece.linkAt?]
  | link label body =>
    simp only [Piece.linkAt?, Option.some.injEq, PlacedLink.mk.injEq, Prod.mk.injEq,
      Piece.link.injEq]
    exact ⟨fun h => ⟨h.2.2, h.1, h.2.1⟩, fun h => ⟨h.2.1, h.2.2, h.1⟩⟩
  | token t => simp [Piece.linkAt?]

/-- Placing tokens is placing pieces and leaving out what is no token. -/
theorem placeTokens_eq_filterMap (start : Nat) (pieces : List Piece) :
    placeTokens start pieces = (Piece.placed start pieces).filterMap Piece.tokenAt? := by
  induction pieces generalizing start with
  | nil => rfl
  | cons piece pieces ih =>
    rw [placeTokens, Piece.placed]
    cases htoken : piece.token? with
    | none =>
      have hat : Piece.tokenAt? (start, piece) = none := by rw [Piece.tokenAt?, htoken]; rfl
      rw [List.filterMap_cons_none hat, ih]
    | some token =>
      have hat : Piece.tokenAt? (start, piece) = some ⟨token, start⟩ := by
        rw [Piece.tokenAt?, htoken]
        rfl
      rw [List.filterMap_cons_some hat, ih]

/-- A token of the scan is one of the placed pieces. -/
theorem mem_placed_of_mem_scan {cs : List Char} {placed : PlacedToken} (h : placed ∈ scan cs) :
    (placed.start, .token placed.token) ∈ Piece.placed 0 (pieces cs) := by
  rw [scan, placeTokens_eq_filterMap] at h
  rcases List.mem_filterMap.1 h with ⟨found, hmem, hfound⟩
  rwa [tokenAt?_eq_some_iff.1 hfound] at hmem

/-- What is cut by a pattern for tokens holds no link. -/
theorem filterMap_linkAt?_cut {p : Pattern} (hp : p ∈ Rollable.tokenPatterns) (start : Nat)
    (body : List Char) : (Piece.placed start (p.cut body)).filterMap Piece.linkAt? = [] := by
  apply List.filterMap_eq_nil_iff.2
  intro placed hplaced
  rcases placed with ⟨n, piece⟩
  rcases Pattern.mem_cut (Piece.mem_of_mem_placed hplaced) with ⟨body', rfl⟩ | hmakes
  · rfl
  · rcases Rollable.makes_token hp hmakes with ⟨t, rfl⟩
    rfl

/-- Looking for tokens leaves the links where they are. -/
theorem filterMap_linkAt?_refine {p : Pattern} (hp : p ∈ Rollable.tokenPatterns) (start : Nat)
    (pieces : List Piece) :
    (Piece.placed start (p.refine pieces)).filterMap Piece.linkAt? =
      (Piece.placed start pieces).filterMap Piece.linkAt? := by
  induction pieces generalizing start with
  | nil => rfl
  | cons piece pieces ih =>
    cases piece with
    | text body =>
      rw [Pattern.refine_text_cons, Piece.placed_append, List.filterMap_append,
        filterMap_linkAt?_cut hp, Pattern.sources_cut, ih]
      rfl
    | markup body =>
      rw [Pattern.refine_cons_of_not_text p pieces (by simp), Piece.placed, Piece.placed,
        List.filterMap_cons, List.filterMap_cons, ih]
    | link label body =>
      rw [Pattern.refine_cons_of_not_text p pieces (by simp), Piece.placed, Piece.placed,
        List.filterMap_cons, List.filterMap_cons, ih]
    | token t =>
      rw [Pattern.refine_cons_of_not_text p pieces (by simp), Piece.placed, Piece.placed,
        List.filterMap_cons, List.filterMap_cons, ih]

/-- The patterns for tokens leave the links where they are. -/
theorem filterMap_linkAt?_foldl {ps : List Pattern} (hps : ∀ p ∈ ps, p ∈ Rollable.tokenPatterns)
    (pieces : List Piece) :
    (Piece.placed 0 (ps.foldl (fun pieces pattern => pattern.refine pieces) pieces)).filterMap
        Piece.linkAt? =
      (Piece.placed 0 pieces).filterMap Piece.linkAt? := by
  induction ps generalizing pieces with
  | nil => rfl
  | cons p ps ih =>
    rcases List.forall_mem_cons.1 hps with ⟨hp, hps⟩
    rw [List.foldl_cons, ih hps, filterMap_linkAt?_refine hp]

/-- The links of a text are the links among its pieces. -/
theorem links_eq_filterMap (cs : List Char) :
    links cs = (Piece.placed 0 (pieces cs)).filterMap Piece.linkAt? := by
  rw [pieces_eq_foldl, filterMap_linkAt?_foldl (fun p hp => hp), links]

/-- A link of the text is one of the placed pieces. -/
theorem mem_placed_of_mem_links {cs : List Char} {link : PlacedLink} (h : link ∈ links cs) :
    (link.start, .link link.label link.body) ∈ Piece.placed 0 (pieces cs) := by
  rw [links_eq_filterMap] at h
  rcases List.mem_filterMap.1 h with ⟨found, hmem, hfound⟩
  rwa [linkAt?_eq_some_iff.1 hfound] at hmem

/-! ## All exchanges in order -/

/-- In a merge, an edit in front of all of the other list comes first. -/
theorem cons_merge_of_le {le : Edit → Edit → Bool} {a : Edit} {xs ys : List Edit}
    (h : ∀ b ∈ ys, le a b = true) : (a :: xs).merge ys le = a :: xs.merge ys le := by
  cases ys with
  | nil => rw [List.merge_right, List.merge_right]
  | cons b ys => rw [List.cons_merge_cons, if_pos (h b List.mem_cons_self)]

/-- So does one of the other list. -/
theorem merge_cons_of_not_le {le : Edit → Edit → Bool} {b : Edit} {xs ys : List Edit}
    (h : ∀ a ∈ xs, le a b = false) : xs.merge (b :: ys) le = b :: xs.merge ys le := by
  cases xs with
  | nil => rw [List.nil_merge, List.nil_merge]
  | cons a xs => rw [List.cons_merge_cons, if_neg (by simp [h a List.mem_cons_self])]

/-- No token is in front of the start. -/
theorem le_start_of_token {start : Nat} {pieces : List Piece} {edit : Edit}
    (h : edit ∈ ((Piece.placed start pieces).filterMap Piece.tokenAt?).map PlacedToken.edit) :
    start ≤ edit.start := by
  rcases List.mem_map.1 h with ⟨placed, hplaced, rfl⟩
  apply Piece.le_of_mem_filterMap_placed _ hplaced
  intro found placed' hfound
  rw [tokenAt?_eq_some_iff.1 hfound]
  rfl

/-- No link is in front of the start. -/
theorem le_start_of_link {start : Nat} {pieces : List Piece} {edit : Edit}
    (h : edit ∈ ((Piece.placed start pieces).filterMap Piece.linkAt?).map PlacedLink.edit) :
    start ≤ edit.start := by
  rcases List.mem_map.1 h with ⟨link, hlink, rfl⟩
  apply Piece.le_of_mem_filterMap_placed _ hlink
  intro found link' hfound
  rw [linkAt?_eq_some_iff.1 hfound]
  rfl

/-- A text that is not empty has bytes. -/
theorem byteLength_pos {cs : List Char} (h : cs ≠ []) : 0 < byteLength cs := by
  cases cs with
  | nil => exact absurd rfl h
  | cons c cs =>
    have hpos := Char.utf8Size_pos c
    rw [byteLength_cons]
    omega

/-- The tokens and the links of pieces, put in order, are the exchanges of the pieces. -/
theorem merge_edits {start : Nat} {pieces : List Piece}
    (h : ∀ piece ∈ pieces, (∀ body, piece ≠ .text body) → piece.source ≠ []) :
    (((Piece.placed start pieces).filterMap Piece.tokenAt?).map PlacedToken.edit).merge
        (((Piece.placed start pieces).filterMap Piece.linkAt?).map PlacedLink.edit)
        (fun a b => a.start ≤ b.start) =
      (Piece.placed start pieces).filterMap Piece.edit? := by
  induction pieces generalizing start with
  | nil => exact List.merge_right []
  | cons piece pieces ih =>
    rcases List.forall_mem_cons.1 h with ⟨hpiece, hothers⟩
    have hrest := @ih (start + byteLength piece.source) hothers
    rw [Piece.placed]
    cases piece with
    | text body => exact hrest
    | markup body => exact hrest
    | link label body =>
      have hpos := byteLength_pos (hpiece (by simp))
      have hlink : Piece.linkAt? (start, .link label body) = some ⟨label, body, start⟩ := rfl
      have hedit : Piece.edit? (start, .link label body) =
          some (PlacedLink.edit ⟨label, body, start⟩) := rfl
      have htoken : Piece.tokenAt? (start, .link label body) = none := rfl
      rw [List.filterMap_cons_none htoken, List.filterMap_cons_some hlink,
        List.filterMap_cons_some hedit, List.map_cons, merge_cons_of_not_le, hrest]
      intro edit hmem
      have hle := le_start_of_token hmem
      apply decide_eq_false
      show ¬ edit.start ≤ start
      omega
    | token t =>
      have hlink : Piece.linkAt? (start, .token t) = none := rfl
      have hedit : Piece.edit? (start, .token t) = some (PlacedToken.edit ⟨t, start⟩) := rfl
      have htoken : Piece.tokenAt? (start, .token t) = some ⟨t, start⟩ := rfl
      rw [List.filterMap_cons_some htoken, List.filterMap_cons_none hlink,
        List.filterMap_cons_some hedit, List.map_cons, cons_merge_of_le, hrest]
      intro edit hmem
      have hle := le_start_of_link hmem
      apply decide_eq_true
      show start ≤ edit.start
      omega

/-- The edits, sorted by their places, are those of the placed pieces in order. -/
theorem edits_eq_filterMap (cs : List Char) :
    edits cs = (Piece.placed 0 (pieces cs)).filterMap Piece.edit? := by
  rw [edits, scan, placeTokens_eq_filterMap, links_eq_filterMap]
  apply merge_edits
  intro piece hmem hnot
  exact source_ne_nil_of_mem_pieces hmem hnot

/-! ## Spans -/

/-- A piece of a text stands for a part of it. -/
theorem exists_split_of_mem_placed {cs : List Char} {n : Nat} {piece : Piece}
    (h : (n, piece) ∈ Piece.placed 0 (pieces cs)) :
    ∃ front back, cs = front ++ piece.source ++ back ∧ n = byteLength front := by
  rcases Piece.exists_of_mem_placed h with ⟨xs, ys, heq, hn⟩
  refine ⟨Piece.sources xs, Piece.sources ys, ?_, by rw [hn, Nat.zero_add]⟩
  rw [← sources_pieces cs, heq, Piece.sources_append, Piece.sources_cons, List.append_assoc]

/-- The tokens of a scan are in order and do not overlap. -/
theorem pairwise_scan (cs : List Char) : (scan cs).Pairwise fun a b => a.stop ≤ b.start := by
  rw [scan, placeTokens_eq_filterMap]
  apply List.Pairwise.filterMap Piece.tokenAt? _ (Piece.pairwise_placed 0 (pieces cs))
  intro a b hbefore placed hplaced placed' hplaced'
  rw [tokenAt?_eq_some_iff.1 hplaced, tokenAt?_eq_some_iff.1 hplaced'] at hbefore
  exact hbefore

/-- Neither do the links. -/
theorem pairwise_links (cs : List Char) : (links cs).Pairwise fun a b => a.stop ≤ b.start := by
  rw [links_eq_filterMap]
  apply List.Pairwise.filterMap Piece.linkAt? _ (Piece.pairwise_placed 0 (pieces cs))
  intro a b hbefore link hlink link' hlink'
  rw [linkAt?_eq_some_iff.1 hlink, linkAt?_eq_some_iff.1 hlink'] at hbefore
  exact hbefore

/-- Of two different pieces of a text one ends before the other starts. -/
theorem before_or_before {cs : List Char} {a b : Nat × Piece}
    (ha : a ∈ Piece.placed 0 (pieces cs)) (hb : b ∈ Piece.placed 0 (pieces cs)) (hne : a ≠ b) :
    Piece.Before a b ∨ Piece.Before b a := by
  have hpairwise : (Piece.placed 0 (pieces cs)).Pairwise
      fun a b => Piece.Before a b ∨ Piece.Before b a :=
    (Piece.pairwise_placed 0 (pieces cs)).imp Or.inl
  have : Std.Symm fun a b => Piece.Before a b ∨ Piece.Before b a := ⟨fun a b h => h.symm⟩
  exact hpairwise.forall ha hb hne

/-- The links of a text are written as links are. -/
theorem exists_target_of_mem_links {cs : List Char} {link : PlacedLink} (h : link ∈ links cs) :
    ∃ target, link.body = Link.written link.label target := by
  have hmem := Piece.mem_of_mem_placed (mem_placed_of_mem_links h)
  rcases makes_link (makes_of_mem_link hmem) with ⟨label, target, heq⟩
  rcases Piece.link.inj heq with ⟨hlabel, hbody⟩
  exact ⟨target, by rw [hbody, hlabel]⟩

/-- The tokens and the links of a text lie in it without overlaps, and its annotated text is the
text with each token exchanged for its mark and each link for the mark of its label. -/
theorem annotate_eq_applyEdits (cs : List Char) :
    (∀ placed ∈ scan cs, placed.token.matched ≠ [] ∧
      ∃ front back, cs = front ++ placed.token.matched ++ back ∧
        placed.start = byteLength front ∧ placed.stop = byteLength (front ++ placed.token.matched)) ∧
    (scan cs).Pairwise (fun a b => a.stop ≤ b.start) ∧
    (∀ link ∈ links cs, (∃ target, link.body = Link.written link.label target) ∧
      ∃ front back, cs = front ++ link.body ++ back ∧ link.start = byteLength front) ∧
    (links cs).Pairwise (fun a b => a.stop ≤ b.start) ∧
    (∀ placed ∈ scan cs, ∀ link ∈ links cs,
      placed.stop ≤ link.start ∨ link.stop ≤ placed.start) ∧
    annotate cs = applyEdits 0 (edits cs) cs ∧
    (scan cs = [] ∧ links cs = [] → annotate cs = cs) := by
  have hannotate : annotate cs = applyEdits 0 (edits cs) cs := by
    have hpieces := Piece.applyEdits_placed 0 (pieces cs)
    rw [sources_pieces] at hpieces
    rw [edits_eq_filterMap, hpieces, annotate]
  refine ⟨?_, pairwise_scan cs, ?_, pairwise_links cs, ?_, hannotate, ?_⟩
  · intro placed hplaced
    have hmem := mem_placed_of_mem_scan hplaced
    rcases exists_split_of_mem_placed hmem with ⟨front, back, hcs, hstart⟩
    refine ⟨?_, front, back, hcs, hstart, ?_⟩
    · exact source_ne_nil_of_mem_pieces (Piece.mem_of_mem_placed hmem) (by simp)
    · rw [PlacedToken.stop, hstart, byteLength_append]
  · intro link hlink
    exact ⟨exists_target_of_mem_links hlink,
      exists_split_of_mem_placed (mem_placed_of_mem_links hlink)⟩
  · intro placed hplaced link hlink
    exact before_or_before (mem_placed_of_mem_scan hplaced) (mem_placed_of_mem_links hlink)
      (by simp)
  · intro h
    rw [hannotate, edits, h.1, h.2, List.map_nil, List.map_nil, List.merge_right, applyEdits]

/-- A link and dice are exchanged where they stand, and the text between them is copied. -/
example :
    edits "[fire](spell) é 1d6!".toList =
        [⟨0, 13, keywordMark "fire".toList⟩, ⟨17, 20, (Token.mk "1d6".toList .dice).mark⟩] ∧
      annotate "[fire](spell) é 1d6!".toList =
        keywordMark "fire".toList ++ " é ".toList ++ (Token.mk "1d6".toList .dice).mark ++ ['!'] := by
  rw [edits_eq_filterMap]
  decide +kernel

end DiceRoller
