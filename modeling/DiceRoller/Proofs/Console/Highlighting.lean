import DiceRoller.Console.Highlight
import DiceRoller.Proofs.Scan.Spans

/-!
# The highlighted line

Highlighting cuts the line that is being typed at the spans of its tokens: what lies between two
tokens is copied, and each token is put between the sequence for cyan and the reset.  The spans are
in order and do not overlap, so each of these cuts can be made, and nothing is lost or shown twice.

Main results:

- Theorem `escape_not_mem_matched`: no token holds the character that starts a reset.
- Theorem `highlightFrom?_scan`: going through the tokens with a cursor.
- Theorem `highlight_wraps_tokens`: the highlighted line, and how to get back what was typed.
-/

namespace DiceRoller

open Text

/-! ## The characters of tokens -/

/-- A token is made of blanks, signs, the letter of dice, and digits. -/
theorem Rollable.mem_matched_of_makes {p : Pattern} (hp : p ∈ tokenPatterns) {t : Token}
    (h : p.Makes (.token t)) {c : Char} (hc : c ∈ t.matched) :
    isBlank c = true ∨ (c = '+' ∨ c = '-') ∨ IsDieLetter c ∨ isDecimalDigit c = true := by
  rcases origin_of_makes hp h with ⟨bonus, hbonus, hpiece⟩ |
    ⟨count, letter, sides, modifier, rest, hcount, hletter, hnumber, hmodifier, hpiece⟩ |
    ⟨dc, ability, hnumber, hability, hpiece⟩
  · have hmatched : t.matched = bonus := source_attackPiece _ hpiece
    rw [hmatched] at hc
    rcases hbonus with ⟨sign, digits, rfl, hsign, hnumber⟩
    rcases List.mem_cons.1 hc with rfl | hdigit
    · exact Or.inr (Or.inl hsign)
    · exact Or.inr (Or.inr (Or.inr (hnumber.digits c hdigit)))
  · have hmatched : t.matched = count ++ letter :: sides ++ modifier := source_dicePiece _ hpiece
    rw [hmatched] at hc
    simp only [List.mem_append, List.mem_cons] at hc
    rcases hc with (hdigit | rfl | hdigit) | hmem
    · exact Or.inr (Or.inr (Or.inr (hcount c hdigit)))
    · exact Or.inr (Or.inr (Or.inl hletter))
    · exact Or.inr (Or.inr (Or.inr (hnumber.digits c hdigit)))
    · rcases hmodifier with hmodifier | ⟨rfl, -⟩
      · rcases hmodifier.mem hmem with hblank | hsign | hdigit
        · exact Or.inl hblank
        · exact Or.inr (Or.inl hsign)
        · exact Or.inr (Or.inr (Or.inr hdigit))
      · cases hmem
  · have hmatched : t.matched = dc := source_savePiece _ hpiece
    rw [hmatched] at hc
    exact Or.inr (Or.inr (Or.inr (hnumber.digits c hc)))

/-- No token holds the character that starts a reset. -/
theorem escape_not_mem_matched {line : List Char} {t : Token} (h : .token t ∈ pieces line) :
    '\x1b' ∉ t.matched := by
  intro hc
  rcases makes_of_mem_token h with ⟨p, hp, hmakes⟩
  rcases Rollable.mem_matched_of_makes hp hmakes hc with hblank | hsign | hletter | hdigit
  · revert hblank
    decide
  · revert hsign
    decide
  · rcases hletter with heq | heq
    · revert heq
      decide
    · revert heq
      decide
  · revert hdigit
    decide +kernel

/-! ## Wrapped tokens -/

theorem Piece.token?_eq_some_iff {piece : Piece} {t : Token} :
    piece.token? = some t ↔ piece = .token t := by
  cases piece with
  | text body => simp [token?]
  | markup body => simp [token?]
  | link label body => simp [token?]
  | token t' => simp [token?]

/-- A piece that is no token is shown as it is. -/
theorem Piece.highlight_of_token?_eq_none {piece : Piece} (h : piece.token? = none)
    (coloured : Bool) : piece.highlight coloured = piece.source := by
  rw [highlight, h]

/-- A token between the sequence that turns a terminal to cyan and the one that resets it. -/
def Token.wrapped (t : Token) : List Char :=
  "\x1b[36m".toList ++ t.matched ++ "\x1b[0m".toList

theorem Token.wrapped_eq (t : Token) :
    t.wrapped = Tint.cyan.sequence ++ t.matched ++ Tint.reset :=
  rfl

/-- A token is exchanged for the wrapped token. -/
def PlacedToken.wrap (placed : PlacedToken) : Edit :=
  ⟨placed.start, placed.stop, placed.token.wrapped⟩

namespace Piece

/-- The text that highlighting puts in the place of a piece. -/
def wrapped? (piece : Piece) : Option (List Char) :=
  piece.token?.map Token.wrapped

/-- A token without escape characters is highlighted by wrapping it. -/
theorem highlight_of_escape_not_mem {piece : Piece}
    (h : ∀ t, piece = .token t → '\x1b' ∉ t.matched) :
    piece.highlight true = piece.wrapped?.getD piece.source := by
  cases piece with
  | text body => rfl
  | markup body => rfl
  | link label body => rfl
  | token t =>
    show Tint.cyan.sequence ++ Tint.renew Tint.cyan.sequence t.matched ++ Tint.reset = t.wrapped
    rw [Tint.renew_of_not_mem (h t rfl), Token.wrapped_eq]

theorem exchange?_wrapped? (found : Nat × Piece) :
    exchange? wrapped? found = (tokenAt? found).map PlacedToken.wrap := by
  rcases found with ⟨n, piece⟩
  cases piece with
  | _ => rfl

end Piece

/-- The highlighted line, with its tokens wrapped. -/
theorem highlight_eq_flatMap (line : List Char) :
    highlight true line = (pieces line).flatMap fun piece => piece.wrapped?.getD piece.source := by
  apply List.flatMap_congr
  intro piece hpiece
  apply Piece.highlight_of_escape_not_mem
  rintro t rfl
  exact escape_not_mem_matched hpiece

/-- Highlighting exchanges each token of the line for the wrapped token. -/
theorem highlight_eq_applyEdits (line : List Char) :
    highlight true line = applyEdits 0 ((scan line).map PlacedToken.wrap) line := by
  have hedits : (scan line).map PlacedToken.wrap =
      (Piece.placed 0 (pieces line)).filterMap (Piece.exchange? Piece.wrapped?) := by
    rw [scan, placeTokens_eq_filterMap, List.map_filterMap, funext Piece.exchange?_wrapped?]
  have happly := Piece.applyEdits_exchange Piece.wrapped? 0 (pieces line)
  rw [sources_pieces] at happly
  rw [hedits, happly, highlight_eq_flatMap]

/-! ## Back to what was typed -/

/-- The spans of the two sequences around a token, in a line into which so many bytes were put in
front of the token; each is exchanged for nothing. -/
def PlacedToken.unwrap (inserted : Nat) (placed : PlacedToken) : List Edit :=
  let opened := inserted + byteLength Tint.cyan.sequence
  [⟨placed.start + inserted, placed.start + opened, []⟩,
    ⟨placed.stop + opened, placed.stop + opened + byteLength Tint.reset, []⟩]

/-- The spans of all sequences that were put around some tokens. -/
def unwrapAll (inserted : Nat) : List PlacedToken → List Edit
  | [] => []
  | placed :: others =>
    placed.unwrap inserted ++
      unwrapAll (inserted + byteLength Tint.cyan.sequence + byteLength Tint.reset) others

theorem le_start_of_unwrapAll {start inserted : Nat} {pieces : List Piece} {edit : Edit}
    (h : edit ∈ unwrapAll inserted (placeTokens start pieces)) : start + inserted ≤ edit.start := by
  induction pieces generalizing start inserted with
  | nil => cases h
  | cons piece pieces ih =>
    rw [placeTokens] at h
    cases htoken : piece.token? with
    | none =>
      simp only [htoken] at h
      have hle := ih h
      omega
    | some t =>
      simp only [htoken, unwrapAll, PlacedToken.unwrap, List.mem_append, List.mem_cons,
        List.not_mem_nil, or_false] at h
      rcases h with (rfl | rfl) | hmem
      · exact Nat.le_refl _
      · simp only [PlacedToken.stop]
        omega
      · have hle := ih hmem
        omega

/-- Deleting the sequences around a token gives back the token. -/
theorem applyEdits_unwrap {start inserted : Nat} {t : Token} {edits : List Edit} {rest : List Char}
    (h : ∀ edit ∈ edits, start + inserted + byteLength t.wrapped ≤ edit.start) :
    applyEdits (start + inserted) (PlacedToken.unwrap inserted ⟨t, start⟩ ++ edits)
        (t.wrapped ++ rest) =
      t.matched ++ applyEdits (start + inserted + byteLength t.wrapped) edits rest := by
  have hopened : start + (inserted + byteLength Tint.cyan.sequence) =
      start + inserted + byteLength Tint.cyan.sequence := by
    omega
  have hstop : start + byteLength t.matched + (inserted + byteLength Tint.cyan.sequence) =
      start + inserted + byteLength Tint.cyan.sequence + byteLength t.matched := by
    omega
  have hclosed : start + inserted + byteLength t.wrapped =
      start + inserted + byteLength Tint.cyan.sequence + byteLength t.matched +
        byteLength Tint.reset := by
    rw [Token.wrapped_eq, byteLength_append, byteLength_append]
    omega
  rw [hclosed] at h ⊢
  simp only [Token.wrapped_eq, PlacedToken.unwrap, PlacedToken.stop, List.cons_append,
    List.nil_append, hopened, hstop, List.append_assoc]
  -- The first sequence is deleted, the token is copied, and the reset is deleted.
  rw [applyEdits_cons rfl, List.nil_append, applyEdits_append, applyEdits_cons rfl,
    List.nil_append]
  intro edit hedit
  rcases List.mem_cons.1 hedit with rfl | hmem
  · exact Nat.le_refl _
  · have hle := h edit hmem
    omega

/-- Deleting the sequences around the tokens of some pieces gives back the text of the pieces. -/
theorem applyEdits_unwrapAll (start inserted : Nat) (pieces : List Piece) :
    applyEdits (start + inserted) (unwrapAll inserted (placeTokens start pieces))
        (pieces.flatMap fun piece => piece.wrapped?.getD piece.source) = Piece.sources pieces := by
  induction pieces generalizing start inserted with
  | nil => rfl
  | cons piece pieces ih =>
    rw [List.flatMap_cons, Piece.sources_cons, placeTokens]
    cases htoken : piece.token? with
    | none =>
      have hpiece : piece.wrapped?.getD piece.source = piece.source := by
        rw [Piece.wrapped?, htoken]
        rfl
      have hbehind : ∀ edit ∈ unwrapAll inserted
          (placeTokens (start + byteLength piece.source) pieces),
          start + inserted + byteLength piece.source ≤ edit.start := by
        intro edit hedit
        have hle := le_start_of_unwrapAll hedit
        omega
      simp only [hpiece]
      rw [applyEdits_append hbehind, Nat.add_right_comm, ih]
    | some t =>
      rw [Piece.token?_eq_some_iff.1 htoken]
      have hpiece : (Piece.token t).wrapped?.getD (Piece.token t).source = t.wrapped := rfl
      have hsource : (Piece.token t).source = t.matched := rfl
      have hbehind : ∀ edit ∈ unwrapAll
          (inserted + byteLength Tint.cyan.sequence + byteLength Tint.reset)
          (placeTokens (start + byteLength t.matched) pieces),
          start + inserted + byteLength t.wrapped ≤ edit.start := by
        intro edit hedit
        have hle := le_start_of_unwrapAll hedit
        rw [Token.wrapped_eq, byteLength_append, byteLength_append]
        omega
      have hstart : start + inserted + byteLength t.wrapped = start + byteLength t.matched +
          (inserted + byteLength Tint.cyan.sequence + byteLength Tint.reset) := by
        rw [Token.wrapped_eq, byteLength_append, byteLength_append]
        omega
      simp only [hpiece, unwrapAll]
      rw [hsource, applyEdits_unwrap hbehind, hstart, ih]

/-! ## Cutting out with a cursor -/

theorem highlightFrom?_cons {coloured : Bool} {line between behind : List Char} {cursor : Nat}
    {placed : PlacedToken} {others : List PlacedToken}
    (hbetween : slice? cursor placed.start line = some between)
    (hbehind : highlightFrom? coloured line placed.stop others = some behind) :
    highlightFrom? coloured line cursor (placed :: others) =
      some (between ++ Tint.cyan.paint coloured placed.token.matched ++ behind) := by
  rw [highlightFrom?, hbetween, hbehind]
  rfl

/-- The cursor stands behind some part of the line, and the pieces follow at some distance: the text
in between is still to be copied. -/
theorem highlightFrom?_placeTokens (coloured : Bool) {line front gap : List Char}
    {pieces : List Piece} (h : line = front ++ gap ++ Piece.sources pieces) :
    highlightFrom? coloured line (byteLength front)
        (placeTokens (byteLength (front ++ gap)) pieces) =
      some (gap ++ pieces.flatMap (Piece.highlight coloured)) := by
  induction pieces generalizing front gap with
  | nil =>
    rw [placeTokens, highlightFrom?, List.flatMap_nil, List.append_nil, slice?_eq_some_iff]
    rw [Piece.sources_nil, List.append_nil] at h
    exact ⟨front, [], by rw [h, List.append_nil], rfl, by rw [h]⟩
  | cons piece pieces ih =>
    rw [Piece.sources_cons] at h
    rw [placeTokens, List.flatMap_cons, ← List.append_assoc]
    cases htoken : piece.token? with
    | none =>
      -- The distance grows by this piece.
      have hrest := @ih front (gap ++ piece.source) (by rw [h]; simp only [List.append_assoc])
      rw [← List.append_assoc, byteLength_append] at hrest
      rw [Piece.highlight_of_token?_eq_none htoken coloured]
      exact hrest
    | some t =>
      -- The part in front of the token is cut out, and the cursor goes behind the token.
      rw [Piece.token?_eq_some_iff.1 htoken] at h ⊢
      have hbetween : slice? (byteLength front) (byteLength (front ++ gap)) line = some gap :=
        slice?_eq_some_iff.2 ⟨front, t.matched ++ Piece.sources pieces, h, rfl, rfl⟩
      have hbehind := @ih (front ++ gap ++ t.matched) [] (by rw [h]; simp [Piece.source])
      rw [List.append_nil, byteLength_append, List.nil_append] at hbehind
      exact highlightFrom?_cons hbetween hbehind

/-- Every part that the cursor asks for can be cut out, and all that is shown is the highlighted
line. -/
theorem highlightFrom?_scan (coloured : Bool) (line : List Char) :
    highlightFrom? coloured line 0 (scan line) = some (highlight coloured line) := by
  have hline : line = [] ++ [] ++ Piece.sources (pieces line) := by
    rw [sources_pieces, List.append_nil, List.nil_append]
  have hshown := highlightFrom?_placeTokens coloured hline
  rwa [List.append_nil, byteLength_nil, List.nil_append] at hshown

/-- Highlighting neither changes nor drops what was typed.  Without colours the line is shown as it
is.  With colours each token that a scan finds, and nothing else, is put between the sequence for
cyan and the reset where it stands, so deleting these sequences gives back what was typed.  Going
through the tokens with a cursor asks only for parts of the line that can be cut out. -/
theorem highlight_wraps_tokens (line : List Char) :
    highlight false line = line ∧
    (∀ placed ∈ scan line,
      slice? placed.start placed.stop line = some placed.token.matched) ∧
    highlight true line = applyEdits 0 ((scan line).map PlacedToken.wrap) line ∧
    applyEdits 0 (unwrapAll 0 (scan line)) (highlight true line) = line ∧
    ∀ coloured, highlightFrom? coloured line 0 (scan line) = some (highlight coloured line) := by
  refine ⟨highlight_plain line, ?_, highlight_eq_applyEdits line, ?_,
    fun coloured => highlightFrom?_scan coloured line⟩
  · intro placed hplaced
    rcases exists_split_of_mem_placed (mem_placed_of_mem_scan hplaced) with
      ⟨front, back, hline, hstart⟩
    refine slice?_eq_some_iff.2 ⟨front, back, hline, hstart, ?_⟩
    rw [PlacedToken.stop, hstart, byteLength_append]
  · have hdeleted := applyEdits_unwrapAll 0 0 (pieces line)
    rwa [sources_pieces, ← highlight_eq_flatMap] at hdeleted

end DiceRoller
