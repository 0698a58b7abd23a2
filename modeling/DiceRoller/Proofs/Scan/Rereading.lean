import DiceRoller.Proofs.Scan.Marks
import DiceRoller.Proofs.Scan.Quiet

/-!
# How an annotated text is read again

A scan of an annotated text goes over what was made of the pieces of the first scan, one by one.  Marks
and markup are markup again, and texts are texts, with one exception: a text may hold an open tag, a
`<` that opens a tag without a `>` behind it.  The tag of the next mark closes it.  An open tag then
takes the whole mark; but an open closing tag, such as `</b`, takes only the tag of the mark, and lays
its content open.

Main results:

- Theorem `Scanned.rereads`: what is read of annotated pieces, whatever open tag is in front of them.
- Theorem `between_annotate`: the texts between the markup of an annotated text.
-/

namespace DiceRoller

open Text

/-- What stands in the mark of a piece, if it gets one. -/
def Piece.content? : Piece → Option (List Char)
  | link label _ => some label
  | token t => some t.matched
  | _ => none

/-- Where the scan of an annotated text stands between two pieces: outside of markup, in markup that
goes on up to the end of the next mark, or in a closing tag that goes on up to the end of the next
tag. -/
inductive Reading where
  | outside
  | hidden
  | closing
  deriving DecidableEq, Repr

namespace Reading

/-- Where a scan stands behind a text, given the text from its first opener of a tag on. -/
def behindText (opener : List Char) : Reading :=
  if opener = [] then outside
  else if "</".toList.isPrefixOf opener then closing
  else hidden

/-- Where a scan stands behind the end of a mark whose content it has read as text, given the content
from its first opener of a tag on. -/
def behindContent (opener : List Char) : Reading :=
  if Markup.opensMark (opener ++ markEnd) then hidden else outside

/-- Where a scan stands behind a piece. -/
def next : Reading → Piece → Reading
  | outside, .text body => behindText (Markup.splitAtTag body).2
  | outside, _ => outside
  | hidden, piece => if piece.content?.isSome then outside else hidden
  | closing, piece =>
    match piece.content? with
    | some content => behindContent (Markup.splitAtTag content).2
    | none => closing

/-- The content of a mark, if it is read as text; only up to a tag that is opened in it. -/
def laidOpen : Reading → Piece → List (List Char)
  | closing, piece => (piece.content?.map fun content => (Markup.splitAtTag content).1).toList
  | _, _ => []

/-- What is read as text of a piece.  An open tag in the last piece has no end. -/
def shown (last : Bool) : Reading → Piece → List (List Char)
  | outside, .text body => [if last then body else (Markup.splitAtTag body).1]
  | reading, piece => reading.laidOpen piece

/-- The contents of marks that are read as text. -/
def allLaidOpen : Reading → List Piece → List (List Char)
  | _, [] => []
  | reading, piece :: pieces => reading.laidOpen piece ++ allLaidOpen (reading.next piece) pieces

/-- All that is read as text. -/
def allShown : Reading → List Piece → List (List Char)
  | _, [] => []
  | reading, piece :: pieces =>
    reading.shown pieces.isEmpty piece ++ allShown (reading.next piece) pieces

variable {piece : Piece} {content : List Char} {pieces : List Piece}

/-- Outside of a tag a marked piece is all markup. -/
theorem allShown_outside_of_content (h : piece.content? = some content) :
    allShown outside (piece :: pieces) = allShown outside pieces := by
  cases piece with
  | text body => cases h
  | markup body => cases h
  | link label body => rfl
  | token t => rfl

/-- Inside an opened tag its mark closes the tag, so nothing of it is shown either. -/
theorem allShown_hidden_of_content (h : piece.content? = some content) :
    allShown hidden (piece :: pieces) = allShown outside pieces := by
  have hnext : next hidden piece = outside := by simp [next, h]
  rw [allShown, hnext]
  rfl

/-- Inside a closing tag its mark ends the tag, and its content is shown up to the next tag. -/
theorem allShown_closing_of_content (h : piece.content? = some content) :
    allShown closing (piece :: pieces) =
      [(Markup.splitAtTag content).1] ++
        allShown (behindContent (Markup.splitAtTag content).2) pieces := by
  simp [allShown, shown, laidOpen, next, h]

/-- What is shown of a text that is not the last piece. -/
theorem allShown_outside_text (body : List Char) (h : pieces ≠ []) :
    allShown outside (.text body :: pieces) =
      [(Markup.splitAtTag body).1] ++
        allShown (behindText (Markup.splitAtTag body).2) pieces := by
  have hlast : pieces.isEmpty = false := by simpa using h
  rw [allShown, hlast]
  rfl

/-- A text that breaks off in a closing tag. -/
theorem behindText_of_slash {tag : List Char} (h : tag.head? = some '/') :
    behindText ('<' :: tag) = closing := by
  cases tag with
  | nil => cases h
  | cons c tag =>
    cases h
    rfl

/-- A text that breaks off in an opened tag. -/
theorem behindText_of_not_slash {tag : List Char} (h : tag.head? ≠ some '/') :
    behindText ('<' :: tag) = hidden := by
  have hclosing : "</".toList = ['<', '/'] := by decide
  have hnot : ¬ "</".toList.isPrefixOf ('<' :: tag) = true := by
    rw [hclosing, List.isPrefixOf_iff_prefix, List.cons_prefix_cons]
    rintro ⟨-, more, rfl⟩
    exact h rfl
  rw [behindText, if_neg (List.cons_ne_nil _ _), if_neg hnot]

end Reading

/-! ## The pieces of a scan -/

/-- What is known of a piece that gets a mark with a content. -/
structure Piece.Marked (piece : Piece) (content : List Char) : Prop where
  mark : IsMark content piece.annotated
  part : content <:+: piece.source
  no_link : '[' ∉ content

/-- What is known of the pieces of a scan, given the piece in front of them. -/
structure Scanned (front : Option Piece) (pieces : List Piece) : Prop where
  agrees : Markup.Agrees pieces
  texts : Piece.EachText Leftover front pieces
  marked : ∀ piece ∈ pieces, ∀ content, piece.content? = some content → piece.Marked content
  source_ne_nil : ∀ piece ∈ pieces, piece.source ≠ []
  tokens : ∀ t, .token t ∈ pieces → t.IsPlain

/-- The mark of a link has the label as its content. -/
theorem marked_of_link {label target : List Char} (hlabel : ∀ c ∈ label, Link.isLabelChar c = true) :
    (Piece.link label (Link.written label target)).Marked label where
  mark := isMark_keywordMark label
  part := ⟨['['], ']' :: '(' :: target ++ [')'], by simp [Link.written, Piece.source]⟩
  no_link := fun hmem => absurd (hlabel _ hmem) (by decide)

/-- The mark of a plain token has the matched text as its content. -/
theorem marked_of_token {t : Token} (h : t.IsPlain) : (Piece.token t).Marked t.matched where
  mark := isMark_mark h
  part := List.infix_refl t.matched
  no_link := h.matched.not_mem.2.2

/-- The label of a link holds no brackets. -/
theorem isLabelChar_of_makes {label body : List Char} (h : Link.pattern.Makes (.link label body)) :
    ∃ target, body = Link.written label target ∧ ∀ c ∈ label, Link.isLabelChar c = true := by
  rcases h with ⟨before, cs, m, hm, hpiece⟩
  rcases Link.match_eq_some_iff.1 hm with ⟨label', target, rest, htaken, rfl⟩
  cases hpiece
  rcases Link.take_eq_some_iff.1 htaken with ⟨-, -, hlabel, -⟩
  exact ⟨target, rfl, hlabel⟩

/-- The tokens of a scan are plain. -/
theorem isPlain_of_mem_pieces {cs : List Char} {t : Token} (h : .token t ∈ pieces cs) :
    t.IsPlain := by
  rcases makes_of_mem_token h with ⟨p, hp, hmakes⟩
  exact Rollable.plain_of_makes hp hmakes

/-- So every piece with a content is marked by it. -/
theorem marked_of_mem_pieces {cs content : List Char} {piece : Piece} (h : piece ∈ pieces cs)
    (hcontent : piece.content? = some content) : piece.Marked content := by
  cases piece with
  | text body => cases hcontent
  | markup body => cases hcontent
  | link label body =>
    cases hcontent
    rcases isLabelChar_of_makes (makes_of_mem_link h) with ⟨target, rfl, hlabel⟩
    exact marked_of_link hlabel
  | token t =>
    cases hcontent
    exact marked_of_token (isPlain_of_mem_pieces h)

/-- The pieces of a scan are such a row. -/
theorem scanned_pieces (cs : List Char) : Scanned none (pieces cs) where
  agrees := Markup.agrees_pieces cs
  texts := eachText_pieces cs
  marked piece hmem content hcontent := marked_of_mem_pieces hmem hcontent
  source_ne_nil := by
    intro piece hmem
    by_cases htext : ∃ body, piece = .text body
    · rcases htext with ⟨body, rfl⟩
      rcases (eachText_pieces cs).exists_of_mem hmem with ⟨front, hleft⟩
      exact hleft.separate.1
    · exact source_ne_nil_of_mem_pieces hmem fun body heq => htext ⟨body, heq⟩
  tokens t hmem := isPlain_of_mem_pieces hmem

namespace Scanned

variable {front : Option Piece} {piece : Piece} {pieces : List Piece}

/-- What follows the first piece is such a row too. -/
theorem tail (h : Scanned front (piece :: pieces)) : Scanned (some piece) pieces where
  agrees := by
    have hagrees := h.agrees
    cases piece with
    | text body => exact hagrees.2
    | markup body => exact hagrees.2
    | link label body => exact hagrees.2
    | token t => exact hagrees.2
  texts := h.texts.2
  marked other hmem := h.marked other (List.mem_cons_of_mem piece hmem)
  source_ne_nil other hmem := h.source_ne_nil other (List.mem_cons_of_mem piece hmem)
  tokens t hmem := h.tokens t (List.mem_cons_of_mem piece hmem)

/-- The pieces behind a text do not begin with another one. -/
theorem head_ne_text {body : List Char} (h : Scanned (some (.text body)) pieces) :
    ∀ body', pieces.head? ≠ some (.text body') :=
  h.texts.head_ne_text fun body' hleft => Piece.not_separate_text body body' hleft.separate

/-- No piece is left out of the text. -/
theorem annotated_eq_nil (h : Scanned front pieces) (hsources : Piece.sources pieces = []) :
    pieces.flatMap Piece.annotated = [] := by
  cases pieces with
  | nil => rfl
  | cons piece pieces =>
    rw [Piece.sources_cons, List.append_eq_nil_iff] at hsources
    exact absurd hsources.1 (h.source_ne_nil piece List.mem_cons_self)

/-- Without a further end of a tag there is no markup. -/
theorem ne_markup (h : Scanned front (piece :: pieces))
    (hends : '>' ∉ Piece.sources (piece :: pieces)) (body : List Char) : piece ≠ .markup body := by
  rintro rfl
  apply hends
  rw [Piece.sources_cons]
  exact List.mem_append_left _ (Markup.mem_of_take h.agrees.1)

/-- No tag starts in a piece that is no markup. -/
theorem bare (h : Scanned front (piece :: pieces)) (hnot : ∀ body, piece ≠ .markup body) :
    Markup.Bare piece.source (Piece.sources pieces) :=
  ((Markup.agrees_cons_of_not_markup hnot).1 h.agrees).1

/-- The content of a mark holds no end of a mark. -/
theorem not_markEnd {content : List Char} (h : Scanned front (piece :: pieces))
    (hcontent : piece.content? = some content) : ¬ markEnd <:+: content := by
  intro hinside
  have hnot : ∀ body, piece ≠ .markup body := by
    rintro body rfl
    cases hcontent
  have hbare := h.bare hnot
  rcases hinside.trans (h.marked piece List.mem_cons_self content hcontent).part with
    ⟨xs, ys, hsource⟩
  rw [← hsource, List.append_assoc, Markup.bare_append, Markup.bare_append] at hbare
  have hnone : Markup.take ('<' :: ("/span>".toList ++ (ys ++ Piece.sources pieces))) = none :=
    hbare.2.1.1
  rw [Markup.take_eq_none_iff] at hnone
  rcases hnone with hopens | hends
  · cases hopens
  · apply hends
    apply List.mem_append_left
    decide

/-- A mark in the annotated text is markup again. -/
theorem take_mark {content : List Char} (h : Scanned front (piece :: pieces))
    (hcontent : piece.content? = some content) (rest : List Char) :
    Markup.take (piece.annotated ++ rest) = some (piece.annotated, rest) :=
  Markup.take_mark (h.marked piece List.mem_cons_self content hcontent).mark
    (h.not_markEnd hcontent) rest

/-- Markup is markup again in the annotated text. -/
theorem take_markup {body : List Char} (h : Scanned front (.markup body :: pieces)) :
    Markup.take (body ++ pieces.flatMap Piece.annotated) =
      some (body, pieces.flatMap Piece.annotated) :=
  Markup.take_of_take h.agrees.1 h.tail.annotated_eq_nil

/-- What follows a text begins with markup. -/
theorem take_annotated (h : Scanned front pieces)
    (hhead : ∀ body, pieces.head? ≠ some (.text body)) :
    pieces.flatMap Piece.annotated = [] ∨ Markup.take (pieces.flatMap Piece.annotated) ≠ none := by
  cases pieces with
  | nil => exact Or.inl rfl
  | cons piece pieces =>
    right
    rw [List.flatMap_cons]
    cases piece with
    | text body => exact absurd rfl (hhead body)
    | markup body =>
      rw [Piece.annotated, h.take_markup]
      simp
    | link label body =>
      rw [h.take_mark rfl]
      simp
    | token t =>
      rw [h.take_mark rfl]
      simp

end Scanned

/-- Where a tag can be taken, or nothing is left, a text stops. -/
theorem Markup.stopsAtTag_of_take {rest : List Char} (h : rest = [] ∨ take rest ≠ none) :
    StopsAtTag rest := by
  rcases h with rfl | hsome
  · exact Or.inl rfl
  · right
    cases rest with
    | nil => exact absurd rfl hsome
    | cons c rest =>
      by_contra hc
      apply hsome
      apply take_of_head_ne
      intro heq
      rw [heq] at hc
      exact hc rfl

/-! ## Reading on piece by piece -/

/-- The first piece, if there is one, gets a mark. -/
def StartsMarked (pieces : List Piece) : Prop :=
  ∃ piece others content, pieces = piece :: others ∧ piece.content? = some content

/-- The empty row starts with no mark. -/
theorem not_startsMarked_nil : ¬ StartsMarked [] := by
  rintro ⟨piece, others, content, heq, -⟩
  cases heq

/-- Nor does a row that starts with text. -/
theorem not_startsMarked_text (body : List Char) (pieces : List Piece) :
    ¬ StartsMarked (.text body :: pieces) := by
  rintro ⟨piece, others, content, heq, hcontent⟩
  cases heq
  cases hcontent

/-- Where no end of a tag follows a text, the row goes on with a mark. -/
theorem Scanned.startsMarked {body : List Char} {pieces : List Piece}
    (h : Scanned (some (.text body)) pieces) (hne : pieces ≠ [])
    (hends : '>' ∉ Piece.sources pieces) : StartsMarked pieces := by
  cases pieces with
  | nil => exact absurd rfl hne
  | cons piece pieces =>
    cases piece with
    | text body' => exact absurd rfl (h.head_ne_text body')
    | markup body' => exact absurd rfl (h.ne_markup hends body')
    | link label body' => exact ⟨_, _, _, rfl, rfl⟩
    | token t => exact ⟨_, _, _, rfl, rfl⟩

/-- The annotated text of such a row holds the end of a tag. -/
theorem Scanned.mem_annotated {front : Option Piece} {pieces : List Piece} (h : Scanned front pieces)
    (hstarts : StartsMarked pieces) : '>' ∈ pieces.flatMap Piece.annotated := by
  rcases hstarts with ⟨piece, others, content, rfl, hcontent⟩
  rw [List.flatMap_cons]
  apply List.mem_append_left
  exact Markup.mem_of_take (h.take_mark hcontent (others.flatMap Piece.annotated))

/-- Behind an open tag there is no end of a tag. -/
theorem Scanned.not_mem_of_opener {front : Option Piece} {body tag : List Char}
    {pieces : List Piece} (h : Scanned front (.text body :: pieces))
    (hopener : (Markup.splitAtTag body).2 = '<' :: tag) (hopens : Markup.opensTag tag = true) :
    '>' ∉ tag ∧ '>' ∉ Piece.sources pieces := by
  have hbare := h.bare (by simp)
  rw [Piece.source, ← Markup.splitAtTag_append body, Markup.bare_append, hopener] at hbare
  have hnone : Markup.take ('<' :: (tag ++ Piece.sources pieces)) = none := hbare.2.1
  rw [Markup.take_eq_none_iff, Markup.opensTag_append (Markup.ne_nil_of_opensTag hopens),
    hopens] at hnone
  rcases hnone with hfalse | hnot
  · cases hfalse
  · rwa [List.mem_append, not_or] at hnot

/-- What is read of annotated pieces, given the text in front of them: nothing, a tag of a mark that
has not ended, an open tag, or an open closing tag. -/
structure Rereads (pieces : List Piece) : Prop where
  outside :
    Markup.between (pieces.flatMap Piece.annotated) =
      (Reading.allShown .outside pieces).filter (· ≠ [])
  unended : '>' ∉ Piece.sources pieces → ∀ {tag passed}, Markup.opensTag tag = true → '>' ∉ tag →
    Markup.opensMark ('<' :: tag ++ ['>']) = true → '>' ∉ passed →
    Markup.between ('<' :: tag ++ '>' :: passed ++ pieces.flatMap Piece.annotated) =
      (Reading.allShown .hidden pieces).filter (· ≠ [])
  openTag : '>' ∉ Piece.sources pieces → StartsMarked pieces → ∀ {tag}, Markup.opensTag tag = true →
    '>' ∉ tag → tag.head? ≠ some '/' →
    Markup.between ('<' :: tag ++ pieces.flatMap Piece.annotated) =
      (Reading.allShown .hidden pieces).filter (· ≠ [])
  closingTag : '>' ∉ Piece.sources pieces → StartsMarked pieces → ∀ {tag}, '>' ∉ tag →
    tag.head? = some '/' →
    Markup.between ('<' :: tag ++ pieces.flatMap Piece.annotated) =
      (Reading.allShown .closing pieces).filter (· ≠ [])

/-- There is nothing to read again in the empty row. -/
theorem rereads_nil : Rereads [] where
  outside := by simp [Reading.allShown]
  unended _ := by
    intro tag passed hopens htag hmark hpassed
    rcases Markup.take_unended hopens htag hmark hpassed with ⟨front, htaken⟩
    rw [List.flatMap_nil, List.append_nil, Markup.between_of_take htaken, Markup.between_nil]
    rfl
  openTag _ hstarts := absurd hstarts not_startsMarked_nil
  closingTag _ hstarts := absurd hstarts not_startsMarked_nil

/-- A markup in front is read as it was. -/
theorem rereads_markup {front : Option Piece} {body : List Char} {pieces : List Piece}
    (h : Scanned front (.markup body :: pieces)) (ih : Rereads pieces) :
    Rereads (.markup body :: pieces) where
  outside := by
    rw [List.flatMap_cons, Piece.annotated, Markup.between_of_take h.take_markup, ih.outside]
    rfl
  unended hends := absurd rfl (h.ne_markup hends body)
  openTag hends := absurd rfl (h.ne_markup hends body)
  closingTag hends := absurd rfl (h.ne_markup hends body)

/-- A tag that is opened can be taken if its end follows anywhere. -/
theorem Markup.take_opener_ne_none {tag rest : List Char} (hopens : opensTag tag = true)
    (hrest : '>' ∈ rest) : take ('<' :: tag ++ rest) ≠ none := by
  rw [List.cons_append, ne_eq, take_eq_none_iff, opensTag_append (ne_nil_of_opensTag hopens),
    hopens]
  simp [hrest]

/-- The end of a mark is a tag of its own. -/
theorem Markup.take_markEnd (rest : List Char) : take (markEnd ++ rest) = some (markEnd, rest) := by
  have hmarkEnd : markEnd = '<' :: "/span".toList ++ ['>'] := by decide
  have hsplit : markEnd ++ rest = '<' :: "/span".toList ++ '>' :: rest := by
    rw [hmarkEnd, List.append_assoc]
    rfl
  rw [hsplit, take_tag_append (by decide) (by decide), takeBehind_of_not_mark (by decide), hmarkEnd]

/-- What is read behind a tag that is opened in the content of a mark and closed by its end. -/
theorem Rereads.between_opener {pieces : List Piece} (ih : Rereads pieces)
    (hends : '>' ∉ Piece.sources pieces) {tag : List Char} (hopens : Markup.opensTag tag = true)
    (htag : '>' ∉ tag) :
    Markup.between ('<' :: tag ++ (markEnd ++ pieces.flatMap Piece.annotated)) =
      (Reading.allShown (Reading.behindContent ('<' :: tag)) pieces).filter (· ≠ []) := by
  have hmarkEnd : markEnd = "</span".toList ++ ['>'] := by decide
  have hclosed : '<' :: tag ++ markEnd = '<' :: (tag ++ "</span".toList) ++ ['>'] := by
    rw [hmarkEnd, ← List.append_assoc, List.cons_append]
  have hsplit : '<' :: tag ++ (markEnd ++ pieces.flatMap Piece.annotated) =
      '<' :: (tag ++ "</span".toList) ++ '>' :: pieces.flatMap Piece.annotated := by
    rw [← List.append_assoc, hclosed, List.append_assoc, List.singleton_append]
  have hopens' : Markup.opensTag (tag ++ "</span".toList) = true := by
    rw [Markup.opensTag_append (Markup.ne_nil_of_opensTag hopens), hopens]
  have htag' : '>' ∉ tag ++ "</span".toList := by
    rw [List.mem_append, not_or]
    exact ⟨htag, by decide⟩
  rw [hsplit, Reading.behindContent, hclosed]
  by_cases hmark : Markup.opensMark ('<' :: (tag ++ "</span".toList) ++ ['>']) = true
  · have hread := ih.unended hends hopens' htag' hmark List.not_mem_nil
    rw [if_pos hmark, ← hread, List.append_assoc]
    rfl
  · have htaken : Markup.take
        ('<' :: (tag ++ "</span".toList) ++ '>' :: pieces.flatMap Piece.annotated) =
          some ('<' :: (tag ++ "</span".toList) ++ ['>'], pieces.flatMap Piece.annotated) := by
      rw [Markup.take_tag_append hopens' htag', Markup.takeBehind_of_not_mark hmark]
    rw [if_neg hmark, Markup.between_of_take htaken, ih.outside]

/-- What is read of the content of a mark whose tag is gone. -/
theorem Rereads.between_content {pieces : List Piece} (ih : Rereads pieces)
    (hends : '>' ∉ Piece.sources pieces) {content : List Char} (hcontent : '>' ∉ content) :
    Markup.between (content ++ (markEnd ++ pieces.flatMap Piece.annotated)) =
      ([(Markup.splitAtTag content).1] ++
        Reading.allShown (Reading.behindContent (Markup.splitAtTag content).2) pieces).filter
          (· ≠ []) := by
  have hcut := Markup.splitAtTag_append content
  have hbare : ∀ rest, Markup.opensTag rest = false →
      Markup.Bare (Markup.splitAtTag content).1 rest :=
    fun rest hrest => Markup.bare_splitAtTag hrest content
  rw [List.filter_append]
  rcases Markup.splitAtTag_snd content with hnil | ⟨tag, hopener, hopens⟩
  · -- Nothing is opened in the content, and the end of its mark is a tag of its own.
    have hmarkEnd := Markup.take_markEnd (pieces.flatMap Piece.annotated)
    have hbehind : Reading.behindContent [] = .outside := by decide
    rw [hnil, List.append_nil] at hcut
    rw [hcut] at hbare
    rw [hnil, hbehind, hcut, Markup.between_append (hbare _ rfl) (Or.inr (by rw [hmarkEnd]; simp)),
      Markup.between_of_take hmarkEnd, ih.outside]
  · have hsplit : content ++ (markEnd ++ pieces.flatMap Piece.annotated) =
        (Markup.splitAtTag content).1 ++
          ('<' :: tag ++ (markEnd ++ pieces.flatMap Piece.annotated)) := by
      rw [← hopener, ← List.append_assoc (Markup.splitAtTag content).1, hcut]
    have htag : '>' ∉ tag := by
      rw [← hcut, hopener] at hcontent
      simp only [List.mem_append, List.mem_cons, not_or] at hcontent
      exact hcontent.2.2
    have hmem : '>' ∈ markEnd ++ pieces.flatMap Piece.annotated :=
      List.mem_append_left _ (by decide)
    have hsome := Markup.take_opener_ne_none hopens hmem
    rw [hsplit, Markup.between_append (hbare _ rfl) (Or.inr hsome), hopener,
      ih.between_opener hends hopens htag]

/-- A marked piece in front ends what was open before it. -/
theorem rereads_of_content {front : Option Piece} {piece : Piece} {content : List Char}
    {pieces : List Piece} (h : Scanned front (piece :: pieces))
    (hcontent : piece.content? = some content) (ih : Rereads pieces) : Rereads (piece :: pieces) := by
  have hmarked := h.marked piece List.mem_cons_self content hcontent
  have hends : '>' ∉ Piece.sources (piece :: pieces) →
      '>' ∉ content ∧ '>' ∉ Piece.sources pieces := by
    intro hnot
    rw [Piece.sources_cons, List.mem_append, not_or] at hnot
    exact ⟨fun hmem => hnot.1 (hmarked.part.subset hmem), hnot.2⟩
  constructor
  case outside =>
    rw [List.flatMap_cons, Markup.between_of_take (h.take_mark hcontent _), ih.outside,
      Reading.allShown_outside_of_content hcontent]
  case unended =>
    intro hnot tag passed hopens htag hmark hpassed
    rcases Markup.take_unended_mark hopens htag hmark hpassed hmarked.mark (hends hnot).1
      (pieces.flatMap Piece.annotated) with ⟨taken, htaken⟩
    rw [List.flatMap_cons, ← List.append_assoc, Markup.between_of_take htaken, ih.outside,
      Reading.allShown_hidden_of_content hcontent]
  case openTag =>
    intro _ _ tag hopens htag hslash
    have htaken := Markup.take_tag_mark hopens htag hslash hmarked.mark (h.not_markEnd hcontent)
      (pieces.flatMap Piece.annotated)
    rw [List.flatMap_cons, ← List.append_assoc, Markup.between_of_take htaken, ih.outside,
      Reading.allShown_hidden_of_content hcontent]
  case closingTag =>
    intro hnot _ tag htag hslash
    rcases Markup.take_closing_tag_mark hslash htag hmarked.mark
      (pieces.flatMap Piece.annotated) with ⟨taken, htaken⟩
    rw [List.flatMap_cons, ← List.append_assoc, Markup.between_of_take htaken,
      ih.between_content (hends hnot).2 (hends hnot).1,
      Reading.allShown_closing_of_content hcontent]

/-- What is read of a text. -/
theorem between_text {front : Option Piece} {body : List Char} {pieces : List Piece}
    (h : Scanned front (.text body :: pieces)) (ih : Rereads pieces) :
    Markup.between (body ++ pieces.flatMap Piece.annotated) =
      (Reading.allShown .outside (.text body :: pieces)).filter (· ≠ []) := by
  by_cases hlast : pieces = []
  · -- An open tag in the last piece stays open.
    have hbare : Markup.Bare body [] := by
      have hbody := h.bare (by simp)
      rwa [hlast] at hbody
    rw [hlast, List.flatMap_nil, Markup.between_append hbare (Or.inl rfl), Markup.between_nil]
    simp [Reading.allShown, Reading.shown]
  · have hnext := h.tail.take_annotated h.tail.head_ne_text
    have hstops := Markup.stopsAtTag_of_take hnext
    have hbare := Markup.bare_splitAtTag (Markup.opensTag_of_stops hstops) body
    have hcut := Markup.splitAtTag_append body
    rw [Reading.allShown_outside_text body hlast, List.filter_append]
    rcases Markup.splitAtTag_snd body with hnil | ⟨tag, hopener, hopens⟩
    · have hbehind : Reading.behindText [] = .outside := rfl
      rw [hnil, List.append_nil] at hcut
      rw [hcut] at hbare
      rw [hnil, hbehind, hcut, Markup.between_append hbare hnext, ih.outside]
    · have hsplit : body ++ pieces.flatMap Piece.annotated =
          (Markup.splitAtTag body).1 ++ ('<' :: tag ++ pieces.flatMap Piece.annotated) := by
        rw [← hopener, ← List.append_assoc, hcut]
      have hends := h.not_mem_of_opener hopener hopens
      have hstarts := h.tail.startsMarked hlast hends.2
      have hsome := Markup.take_opener_ne_none hopens (h.tail.mem_annotated hstarts)
      rw [hsplit, Markup.between_append (Markup.bare_splitAtTag rfl body) (Or.inr hsome), hopener]
      by_cases hslash : tag.head? = some '/'
      · rw [ih.closingTag hends.2 hstarts hends.1 hslash, Reading.behindText_of_slash hslash]
      · rw [ih.openTag hends.2 hstarts hopens hends.1 hslash,
          Reading.behindText_of_not_slash hslash]

/-- A text in front is read as text, up to a tag that breaks off at its end. -/
theorem rereads_text {front : Option Piece} {body : List Char} {pieces : List Piece}
    (h : Scanned front (.text body :: pieces)) (ih : Rereads pieces) :
    Rereads (.text body :: pieces) := by
  constructor
  case outside => exact between_text h ih
  case unended =>
    intro hnot tag passed hopens htag hmark hpassed
    rw [Piece.sources_cons, List.mem_append, not_or] at hnot
    have hpassed' : '>' ∉ passed ++ body := by
      rw [List.mem_append, not_or]
      exact ⟨hpassed, hnot.1⟩
    have hread := ih.unended hnot.2 hopens htag hmark hpassed'
    have hsplit : '<' :: tag ++ '>' :: passed ++ (body ++ pieces.flatMap Piece.annotated) =
        '<' :: tag ++ '>' :: (passed ++ body) ++ pieces.flatMap Piece.annotated := by
      simp
    rw [List.flatMap_cons, Piece.annotated, hsplit, hread]
    rfl
  case openTag =>
    intro _ hstarts
    exact absurd hstarts (not_startsMarked_text body pieces)
  case closingTag =>
    intro _ hstarts
    exact absurd hstarts (not_startsMarked_text body pieces)

/-- So the annotated text of a scan can be read again, by induction along its pieces. -/
theorem Scanned.rereads {front : Option Piece} {pieces : List Piece} (h : Scanned front pieces) :
    Rereads pieces := by
  induction pieces generalizing front with
  | nil => exact rereads_nil
  | cons piece pieces ih =>
    cases piece with
    | text body => exact rereads_text h (ih h.tail)
    | markup body => exact rereads_markup h (ih h.tail)
    | link label body => exact rereads_of_content h rfl (ih h.tail)
    | token t => exact rereads_of_content h rfl (ih h.tail)

/-- The texts that are seen between the markup of an annotated text. -/
theorem between_annotate (cs : List Char) :
    Markup.between (annotate cs) =
      (Reading.allShown .outside (pieces cs)).filter (· ≠ []) :=
  (scanned_pieces cs).rereads.outside

end DiceRoller
