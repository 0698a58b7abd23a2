import DiceRoller.Scan.Pattern
import DiceRoller.Text.Search

/-!
# Markup and links

What a scan leaves alone.  A tag is markup: a `<` with a letter, `/` or `!` behind it, up to the next
`>`.  A tag that carries the attribute of a mark opens a mark, which is markup up to its end, content
included.  What lies between markup is text; both are segments, which are ranges of bytes.  A link
`[label](target)` is reduced to its label.
-/

namespace DiceRoller

namespace Markup

/-- Whether a `<` opens a tag, given the text behind it. -/
def opensTag : List Char → Bool
  | c :: _ => c.isAlpha || c == '/' || c == '!'
  | [] => false

/-- Whether a tag opens a mark. -/
def opensMark (tag : List Char) : Bool :=
  !("</".toList.isPrefixOf tag) && Text.occursIn markAttribute tag

/-- The tag at the start of a text, and the rest; for the tag of a mark, all of the mark.  A mark
without an end takes all of the text. -/
def take (cs : List Char) : Option (List Char × List Char) :=
  match cs with
  | '<' :: rest =>
    if opensTag rest then
      match Text.through ['>'] cs with
      | none => none
      | some (tag, after) =>
        if opensMark tag then
          match Text.through markEnd after with
          | some (content, after) => some (tag ++ content, after)
          | none => some (tag ++ after, [])
        else some (tag, after)
    else none
  | _ => none

/-- Markup and the rest make up the text. -/
theorem take_append {cs front back : List Char} (h : take cs = some (front, back)) :
    front ++ back = cs := by
  unfold take at h
  split at h
  · split at h
    · split at h
      · simp at h
      · rename_i tag after htag
        have hcs := Text.through_append htag
        split at h
        · split at h
          · rename_i content after' hcontent
            simp only [Option.some.injEq, Prod.mk.injEq] at h
            rw [← h.1, ← h.2, List.append_assoc, Text.through_append hcontent, hcs]
          · simp only [Option.some.injEq, Prod.mk.injEq] at h
            rw [← h.1, ← h.2, List.append_nil, hcs]
        · simp only [Option.some.injEq, Prod.mk.injEq] at h
          rw [← h.1, ← h.2, hcs]
    · simp at h
  · simp at h

/-- Markup is not empty. -/
theorem take_ne_nil {cs front back : List Char} (h : take cs = some (front, back)) :
    front ≠ [] := by
  rintro rfl
  unfold take at h
  split at h
  · split at h
    · split at h
      · simp at h
      · rename_i rest _ tag after htag
        have htag_ne : tag ≠ [] := by
          rintro rfl
          rw [Text.through] at htag
          split at htag <;> simp_all
        split at h
        · split at h <;> simp_all
        · simp_all
    · simp at h
  · simp at h

/-- Tags and marks. -/
def pattern : Pattern where
  match? _ cs := (take cs).map fun taken => ⟨[], taken.1, [], taken.2, some (.markup taken.1)⟩
  covers := by
    intro before cs m h
    obtain ⟨taken, htaken, rfl⟩ := Option.map_eq_some_iff.1 h
    simpa [Match.whole] using take_append htaken
  body_ne_nil := by
    intro before cs m h
    obtain ⟨taken, htaken, rfl⟩ := Option.map_eq_some_iff.1 h
    exact take_ne_nil htaken
  source_piece := by
    intro before cs m piece h hpiece
    obtain ⟨taken, htaken, rfl⟩ := Option.map_eq_some_iff.1 h
    simp only [Option.some.injEq] at hpiece
    rw [← hpiece, Piece.source]

end Markup

/-! ## Segments -/

/-- A segment of a text: a range of its bytes that is markup, or that is text. -/
inductive Segment where
  | markup (start stop : Nat)
  | text (start stop : Nat)
  deriving DecidableEq, Repr

namespace Segment

/-- The byte at which a segment starts. -/
def start : Segment → Nat
  | markup start _ => start
  | text start _ => start

/-- The byte behind a segment. -/
def stop : Segment → Nat
  | markup _ stop => stop
  | text _ stop => stop

/-- Whether a segment is markup. -/
def isMarkup : Segment → Bool
  | markup _ _ => true
  | text _ _ => false

/-- The segment of a placed piece. -/
def ofPlaced : Nat × Piece → Segment
  | (start, .markup body) => markup start (start + Text.byteLength body)
  | (start, piece) => text start (start + Text.byteLength piece.source)

end Segment

namespace Markup

/-- The segments of a text. -/
def split (cs : List Char) : List Segment :=
  (Piece.placed 0 (pattern.cut cs)).map Segment.ofPlaced

end Markup

/-! ## Links -/

namespace Link

/-- Whether a character may stand in the label of a link. -/
def isLabelChar (c : Char) : Bool :=
  c != '[' && c != ']'

/-- Whether a character may stand in the target of a link. -/
def isTargetChar (c : Char) : Bool :=
  c != '(' && c != ')'

/-- The label and the target of a link at the start of a text, and the rest. -/
def take (cs : List Char) : Option (List Char × List Char × List Char) :=
  match cs with
  | '[' :: inner =>
    match inner.takeWhile isLabelChar, inner.dropWhile isLabelChar with
    | c :: label, ']' :: '(' :: more =>
      match more.dropWhile isTargetChar with
      | ')' :: rest => some (c :: label, more.takeWhile isTargetChar, rest)
      | _ => none
    | _, _ => none
  | _ => none

/-- A link as it is written. -/
def written (label target : List Char) : List Char :=
  '[' :: label ++ ']' :: '(' :: target ++ [')']

/-- A link and the rest make up the text. -/
theorem take_append {cs label target rest : List Char} (h : take cs = some (label, target, rest)) :
    written label target ++ rest = cs := by
  unfold take at h
  split at h
  · rename_i inner
    split at h
    · rename_i c label' more hlabel hafter
      split at h
      · rename_i rest' hrest
        simp only [Option.some.injEq, Prod.mk.injEq] at h
        obtain ⟨rfl, rfl, rfl⟩ := h
        have hinner := List.takeWhile_append_dropWhile (p := isLabelChar) (l := inner)
        have hmore := List.takeWhile_append_dropWhile (p := isTargetChar) (l := more)
        rw [hlabel, hafter] at hinner
        rw [hrest] at hmore
        rw [← hinner]
        simp [written, hmore]
      · simp at h
    · simp at h
  · simp at h

/-- Links. -/
def pattern : Pattern where
  match? _ cs := (take cs).map fun taken =>
    ⟨[], written taken.1 taken.2.1, [], taken.2.2,
      some (.link taken.1 (written taken.1 taken.2.1))⟩
  covers := by
    intro before cs m h
    obtain ⟨taken, htaken, rfl⟩ := Option.map_eq_some_iff.1 h
    simpa [Match.whole] using take_append htaken
  body_ne_nil := by
    intro before cs m h
    obtain ⟨taken, htaken, rfl⟩ := Option.map_eq_some_iff.1 h
    simp [written]
  source_piece := by
    intro before cs m piece h hpiece
    obtain ⟨taken, htaken, rfl⟩ := Option.map_eq_some_iff.1 h
    simp only [Option.some.injEq] at hpiece
    rw [← hpiece, Piece.source]

end Link
end DiceRoller
