import DiceRoller.Proofs.Scan.Spans
import DiceRoller.Scan.Cursor

/-!
# The cursor never goes wrong

Going through the bytes of a text with a cursor finds what cutting the text into pieces finds.  The
pieces of a text, each with the byte at which it starts, are the regions that the cursor goes through; so
every part of the text that is asked for can be cut out of it, and no place is off by a byte.

Main results:

- Theorem `gather?_findsAfter`: what a cursor makes of the finds of a pattern.
- Theorem `refine?_ofPieces`: a pattern among regions and among pieces.
- Theorem `regions?_eq`: the regions of a text are its pieces with their places.
- Theorems `scanFrom?_eq` and `annotateFrom?_eq`: so the cursor finds the tokens of a scan and puts
  together the annotated text.
-/

namespace DiceRoller

open Text

/-! ## The regions of pieces -/

/-- The region of a placed piece. -/
def Region.ofPlaced : Nat × Piece → Region
  | (start, .text body) => text start (start + byteLength body)
  | (start, .markup body) => markup start (start + byteLength body)
  | (start, .link label _) => keyword (start + 1) (start + 1 + byteLength label)
  | (start, .token t) => token ⟨t, start⟩

/-- The regions of some pieces, the first of which starts at the given byte. -/
def Region.ofPieces (start : Nat) (pieces : List Piece) : List Region :=
  (Piece.placed start pieces).map ofPlaced

namespace Region

/-- The region of the first piece, and those of the pieces behind it. -/
theorem ofPieces_cons (start : Nat) (piece : Piece) (pieces : List Piece) :
    ofPieces start (piece :: pieces) =
      ofPlaced (start, piece) :: ofPieces (start + byteLength piece.source) pieces :=
  rfl

/-- The regions of pieces behind others. -/
theorem ofPieces_append (start : Nat) (xs ys : List Piece) :
    ofPieces start (xs ++ ys) =
      ofPieces start xs ++ ofPieces (start + byteLength (Piece.sources xs)) ys := by
  rw [ofPieces, Piece.placed_append, List.map_append]
  rfl

/-- The text that a cursor leaves behind is a piece of its own, if there is any. -/
theorem between_eq_ofPieces (start : Nat) (gap : List Char) :
    between start (start + byteLength gap) = ofPieces start (Piece.pushText gap []) := by
  cases gap with
  | nil => exact if_neg (Nat.lt_irrefl _)
  | cons c gap =>
    have hpos := byteLength_pos (List.cons_ne_nil c gap)
    exact if_pos (by omega)

/-- What was found at a byte where it stands is the region of the piece. -/
theorem ofFound?_eq {cs front back : List Char} {piece : Piece}
    (h : cs = front ++ piece.source ++ back) :
    ofFound? cs (byteLength front) piece = some (ofPlaced (byteLength front, piece)) := by
  cases piece with
  | text body => rfl
  | markup body => rfl
  | link label body => rfl
  | token t =>
    have hslice : slice? (byteLength front) (byteLength front + byteLength t.matched) cs =
        some t.matched :=
      slice?_eq_some_iff.2 ⟨front, back, h, rfl, (byteLength_append front t.matched).symm⟩
    rw [ofFound?, hslice]
    rfl

/-! ## Looking for a pattern -/

/-- A cursor that is behind by a gap makes of the finds of a pattern the pieces of the cut, with the gap
in front of them.  The induction goes along the cut, and the gap grows by what is no part of a piece. -/
theorem gather?_findsAfter {p : Pattern} (hp : ∀ piece, p.Makes piece → ∀ body, piece ≠ .text body)
    {cs front gap back : List Char} {before : Option Char} {body : List Char}
    {base passed stop : Nat} (hcs : cs = front ++ gap ++ body ++ back)
    (hpassed : base + passed = byteLength (front ++ gap))
    (hstop : stop = byteLength (front ++ gap ++ body)) :
    gather? cs base (byteLength front) stop (p.findsAfter before passed body) =
      some (ofPieces (byteLength front) (Piece.pushText gap (p.cutAfter before body))) := by
  fun_induction p.cutAfter before body generalizing front gap passed with
  | case1 before =>
    rw [Pattern.findsAfter, gather?, hstop, List.append_nil, byteLength_append, between_eq_ofPieces]
  | case2 before c cs' hnone ih =>
    rw [Pattern.findsAfter_of_none hnone, Piece.pushText_pushText]
    have hfront : front ++ (gap ++ [c]) = front ++ gap ++ [c] := (List.append_assoc _ _ _).symm
    apply ih
    · rw [hfront, hcs]
      simp
    · rw [hfront, byteLength_append, ← hpassed, Nat.add_assoc]
      rfl
    · rw [hfront, hstop]
      simp
  | case3 before c cs' m hm hlt pieces hpiece =>
    rename_i ih
    rw [Pattern.findsAfter_of_some hm, hpiece, Piece.pushText_pushText]
    have hfront : front ++ (gap ++ m.whole) = front ++ gap ++ m.whole :=
      (List.append_assoc _ _ _).symm
    rw [← p.covers hm] at hcs hstop
    apply ih
    · rw [hfront, hcs]
      simp
    · rw [hfront, byteLength_append, ← hpassed, Nat.add_assoc]
    · rw [hfront, hstop]
      simp
  | case4 before c cs' m hm hlt pieces piece hpiece =>
    rename_i ih
    have hsource := p.source_piece hm hpiece
    rw [← p.covers hm, Match.whole, ← hsource] at hcs hstop
    rw [Pattern.findsAfter_of_some hm, hpiece, Piece.pushText_pushText,
      Piece.pushText_of_not_text (hp piece ⟨before, _, m, hm, hpiece⟩), ofPieces_append, ofPieces_cons,
      Piece.sources_pushText, Piece.sources_nil, List.append_nil, ← between_eq_ofPieces,
      ← byteLength_append]
    -- The piece stands behind the gap and the lead of the match, and then the cursor behind the piece.
    have hstart : base + (passed + byteLength m.lead) = byteLength (front ++ (gap ++ m.lead)) := by
      rw [← Nat.add_assoc, hpassed, ← byteLength_append, List.append_assoc]
    have hfound := @ofFound?_eq cs (front ++ (gap ++ m.lead)) (m.tail ++ m.rest ++ back) piece
      (by rw [hcs]; simp)
    have hbehind := @ih (front ++ (gap ++ m.lead) ++ piece.source) m.tail
      (passed + byteLength m.whole) (by rw [hcs]; simp)
      (by
        rw [Match.whole, ← hsource, byteLength_append, byteLength_append, byteLength_append,
          byteLength_append, ← hstart]
        omega)
      (by rw [hstop]; simp)
    rw [byteLength_append _ piece.source] at hbehind
    simp only [Option.map_some, Option.toList_some, List.singleton_append, gather?, hstart, hfound,
      hbehind]
    rfl

/-- A pattern makes of the text between two bytes the pieces of its cut. -/
theorem gather?_cut {p : Pattern} (hp : ∀ piece, p.Makes piece → ∀ body, piece ≠ .text body)
    {cs front body back : List Char} (h : cs = front ++ body ++ back) :
    gather? cs (byteLength front) (byteLength front) (byteLength (front ++ body))
        (p.findsAfter none 0 body) =
      some (ofPieces (byteLength front) (p.cut body)) := by
  have hgather := @gather?_findsAfter p hp cs front [] back none body (byteLength front) 0
    (byteLength (front ++ body)) (by rw [h, List.append_nil]) (by rw [List.append_nil, Nat.add_zero])
    (by rw [List.append_nil])
  rwa [Piece.pushText_nil] at hgather

/-- Looking for a pattern among the regions of pieces is looking for it among the pieces. -/
theorem refine?_ofPieces {p : Pattern} (hp : ∀ piece, p.Makes piece → ∀ body, piece ≠ .text body)
    {cs front back : List Char} {pieces : List Piece} (h : cs = front ++ Piece.sources pieces ++ back) :
    refine? p cs (ofPieces (byteLength front) pieces) =
      some (ofPieces (byteLength front) (p.refine pieces)) := by
  induction pieces generalizing front with
  | nil => rfl
  | cons piece pieces ih =>
    rw [Piece.sources_cons] at h
    have hothers := @ih (front ++ piece.source) (by rw [h]; simp only [List.append_assoc])
    rw [byteLength_append] at hothers
    rw [ofPieces_cons]
    cases piece with
    | text body =>
      have hpart : slice? (byteLength front) (byteLength front + byteLength body) cs = some body :=
        slice?_eq_some_iff.2 ⟨front, Piece.sources pieces ++ back,
          by rw [h]; simp only [Piece.source, List.append_assoc], rfl,
          (byteLength_append front body).symm⟩
      have hfound := @gather?_cut p hp cs front body (Piece.sources pieces ++ back)
        (by rw [h]; simp only [Piece.source, List.append_assoc])
      rw [byteLength_append] at hfound
      simp only [Piece.source] at hothers ⊢
      rw [Pattern.refine_text_cons, ofPieces_append, Pattern.sources_cut, ofPlaced, refine?, hpart]
      simp only [Option.bind_eq_bind, Option.bind_some, hfound, hothers]
      rfl
    | markup body =>
      rw [Pattern.refine_cons_of_not_text p pieces (by simp), ofPieces_cons, ofPlaced, refine?, hothers]
      · rfl
      · simp
    | link label body =>
      rw [Pattern.refine_cons_of_not_text p pieces (by simp), ofPieces_cons, ofPlaced, refine?, hothers]
      · rfl
      · simp
    | token t =>
      rw [Pattern.refine_cons_of_not_text p pieces (by simp), ofPieces_cons, ofPlaced, refine?, hothers]
      · rfl
      · simp

end Region

/-! ## The regions of a text -/

/-- The segments of a text are the regions of its markup and of the text between. -/
theorem map_ofSegment_split (cs : List Char) :
    (Markup.split cs).map Region.ofSegment = Region.ofPieces 0 (Markup.pattern.cut cs) := by
  rw [Markup.split, Region.ofPieces, List.map_map]
  refine List.map_congr_left fun found hfound => ?_
  rcases found with ⟨start, piece⟩
  rcases Pattern.mem_cut (Piece.mem_of_mem_placed hfound) with ⟨body, rfl⟩ | hmakes
  · rfl
  · rcases makes_markup hmakes with ⟨body, rfl⟩
    rfl

/-- Several patterns, one after the other. -/
theorem foldlM_refine? {ps : List Pattern}
    (hps : ∀ p ∈ ps, ∀ piece, p.Makes piece → ∀ body, piece ≠ .text body) (pieces : List Piece) :
    ps.foldlM (fun regions p => Region.refine? p (Piece.sources pieces) regions)
        (Region.ofPieces 0 pieces) =
      some (Region.ofPieces 0 (ps.foldl (fun pieces p => p.refine pieces) pieces)) := by
  induction ps generalizing pieces with
  | nil => rfl
  | cons p ps ih =>
    rcases List.forall_mem_cons.1 hps with ⟨hp, hps⟩
    have hfirst := @Region.refine?_ofPieces p hp (Piece.sources pieces) [] [] pieces
      (by rw [List.nil_append, List.append_nil])
    have hothers := ih hps (p.refine pieces)
    rw [Pattern.sources_refine] at hothers
    rw [List.foldlM_cons, List.foldl_cons, ← hothers]
    exact congrArg (· >>= _) hfirst

/-- The regions of a text are its pieces with their places: every part of the text that the cursor asks
for can be cut out. -/
theorem regions?_eq (cs : List Char) : regions? cs = some (Region.ofPieces 0 (pieces cs)) := by
  have hps : ∀ p ∈ Link.pattern :: Rollable.tokenPatterns,
      ∀ piece, p.Makes piece → ∀ body, piece ≠ .text body := by
    intro p hp piece hmakes body
    rcases List.mem_cons.1 hp with rfl | hp
    · rcases makes_link hmakes with ⟨label, target, rfl⟩
      simp
    · rcases Rollable.makes_token hp hmakes with ⟨t, rfl⟩
      simp
  have hregions := foldlM_refine? hps (Markup.pattern.cut cs)
  rw [Pattern.sources_cut, ← map_ofSegment_split, List.foldl_cons, ← pieces_eq_foldl] at hregions
  exact hregions

/-! ## Scanning and annotating -/

/-- The cursor finds the tokens of a scan, at their places. -/
theorem scanFrom?_eq (cs : List Char) : scanFrom? cs = some (scan cs) := by
  rw [scanFrom?, regions?_eq, Option.map_some, Region.ofPieces, List.filterMap_map, scan,
    placeTokens_eq_filterMap]
  congr 2
  funext found
  rcases found with ⟨start, piece⟩
  cases piece with
  | _ => rfl

/-- A region of a text stands in the annotated text as its piece does. -/
theorem annotated?_ofPlaced {cs : List Char} {start : Nat} {piece : Piece}
    (h : (start, piece) ∈ Piece.placed 0 (pieces cs)) :
    Region.annotated? cs (Region.ofPlaced (start, piece)) = some piece.annotated := by
  rcases exists_split_of_mem_placed h with ⟨front, back, hcs, rfl⟩
  have hslice : slice? (byteLength front) (byteLength front + byteLength piece.source) cs =
      some piece.source :=
    slice?_eq_some_iff.2 ⟨front, back, hcs, rfl, (byteLength_append front _).symm⟩
  cases piece with
  | text body => exact hslice
  | markup body => exact hslice
  | token t => rfl
  | link label body =>
    rcases makes_link (makes_of_mem_link (Piece.mem_of_mem_placed h)) with ⟨label', target, heq⟩
    cases heq
    -- The label stands behind the first bracket.
    have hlabel : slice? (byteLength front + 1) (byteLength front + 1 + byteLength label) cs =
        some label := by
      refine slice?_eq_some_iff.2 ⟨front ++ ['['], ']' :: '(' :: target ++ [')'] ++ back, ?_, ?_, ?_⟩
      · rw [hcs]
        simp [Piece.source, Link.written]
      · rw [byteLength_append]
        rfl
      · rw [byteLength_append, byteLength_append]
        rfl
    rw [Region.ofPlaced, Region.annotated?, hlabel]
    rfl

/-- The regions of some pieces as they stand in the annotated text. -/
theorem mapM_annotated?_ofPieces {cs : List Char} {start : Nat} {pieces : List Piece}
    (h : ∀ found ∈ Piece.placed start pieces,
      Region.annotated? cs (Region.ofPlaced found) = some found.2.annotated) :
    (Region.ofPieces start pieces).mapM (Region.annotated? cs) =
      some (pieces.map Piece.annotated) := by
  induction pieces generalizing start with
  | nil => rfl
  | cons piece pieces ih =>
    rcases List.forall_mem_cons.1 h with ⟨hpiece, hothers⟩
    rw [Region.ofPieces_cons, List.mapM_cons, hpiece, ih hothers]
    rfl

/-- The cursor puts the annotated text together. -/
theorem annotateFrom?_eq (cs : List Char) : annotateFrom? cs = some (annotate cs) := by
  have hparts : (Region.ofPieces 0 (pieces cs)).mapM (Region.annotated? cs) =
      some ((pieces cs).map Piece.annotated) :=
    mapM_annotated?_ofPieces fun _ hfound => annotated?_ofPlaced hfound
  rw [annotate, List.flatMap_def]
  simp only [annotateFrom?, regions?_eq, Option.bind_eq_bind, Option.bind_some, hparts]
  rfl

end DiceRoller
