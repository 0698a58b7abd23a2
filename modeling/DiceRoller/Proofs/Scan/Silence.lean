import Mathlib.Data.List.Basic
import DiceRoller.Scan.Pattern

/-!
# What a pattern leaves behind

A pattern that has cut a text finds nothing in the parts that it left: not at the places that it
tried, and not at the places inside its matches that it passed over.  The laws that a pattern has to
obey for that are collected in one structure, and each kind of pattern shows them on its own.

Main results:

- Theorem `cutAfter_of_silent`: a pattern leaves a text alone in which it finds nothing.
- Theorem `eachText_cut`: what a local pattern leaves of a text is silent for that pattern.
-/

namespace DiceRoller

namespace Piece

/-- Every text among some pieces has a property that may depend on the piece in front of it. -/
def EachText (holds : Option Piece → List Char → Prop) : Option Piece → List Piece → Prop
  | _, [] => True
  | front, piece :: pieces =>
    (∀ body, piece = .text body → holds front body) ∧ EachText holds (some piece) pieces

variable {holds : Option Piece → List Char → Prop}

/-- Texts among two rows of pieces, the second behind the first. -/
theorem eachText_append {front : Option Piece} {xs ys : List Piece} :
    EachText holds front (xs ++ ys) ↔
      EachText holds front xs ∧ EachText holds (xs.getLast?.or front) ys := by
  induction xs generalizing front with
  | nil => simp [EachText]
  | cons piece xs ih =>
    have hlast : (piece :: xs).getLast?.or front = xs.getLast?.or (some piece) := by
      rw [List.getLast?_cons]
      cases xs.getLast? <;> rfl
    rw [List.cons_append, EachText, EachText, ih, hlast, and_assoc]

/-- A property of texts may be weakened. -/
theorem EachText.mono {holds' : Option Piece → List Char → Prop} {front : Option Piece}
    {pieces : List Piece} (h : EachText holds front pieces)
    (himp : ∀ front body, holds front body → holds' front body) :
    EachText holds' front pieces := by
  induction pieces generalizing front with
  | nil => trivial
  | cons piece pieces ih =>
    exact ⟨fun body hbody => himp front body (h.1 body hbody), ih h.2⟩

/-- Each text has the property behind some piece. -/
theorem EachText.exists_of_mem {front : Option Piece} {pieces : List Piece}
    (h : EachText holds front pieces) {body : List Char} (hmem : text body ∈ pieces) :
    ∃ front, holds front body := by
  induction pieces generalizing front with
  | nil => cases hmem
  | cons piece pieces ih =>
    rcases List.mem_cons.1 hmem with heq | hmem
    · exact ⟨front, h.1 body heq.symm⟩
    · exact ih h.2 hmem

/-- Text that is put in front of what is no text makes a piece of its own, if there is any. -/
theorem pushText_of_not_text {cs : List Char} {piece : Piece} {pieces : List Piece}
    (h : ∀ body, piece ≠ text body) :
    pushText cs (piece :: pieces) = pushText cs [] ++ piece :: pieces := by
  cases piece with
  | text body => exact absurd rfl (h body)
  | markup body => cases cs <;> rfl
  | link label body => cases cs <;> rfl
  | token t => cases cs <;> rfl

/-- Text makes a piece of its own in front of pieces that begin with no text. -/
theorem pushText_eq_cons {cs : List Char} {pieces : List Piece} (hcs : cs ≠ [])
    (hhead : ∀ body, pieces.head? ≠ some (text body)) :
    pushText cs pieces = text cs :: pieces := by
  rw [pushText, if_neg (by simpa using hcs)]
  rintro body others rfl
  exact hhead body rfl

/-- Two texts in front are one. -/
theorem pushText_pushText (xs ys : List Char) (pieces : List Piece) :
    pushText xs (pushText ys pieces) = pushText (xs ++ ys) pieces := by
  cases pieces with
  | nil => cases xs <;> cases ys <;> simp [pushText]
  | cons piece pieces =>
    cases piece with
    | text body => simp [pushText]
    | markup body => cases xs <;> cases ys <;> simp [pushText]
    | link label body => cases xs <;> cases ys <;> simp [pushText]
    | token t => cases xs <;> cases ys <;> simp [pushText]

/-- An empty text in front is none. -/
@[simp]
theorem pushText_nil (pieces : List Piece) : pushText [] pieces = pieces := by
  cases pieces with
  | nil => rfl
  | cons piece pieces => cases piece <;> rfl

/-- A single text. -/
theorem eachText_pushText_nil {front : Option Piece} {cs : List Char} :
    EachText holds front (pushText cs []) ↔ (cs ≠ [] → holds front cs) := by
  cases cs with
  | nil => simp [pushText, EachText]
  | cons c cs => simp [pushText, EachText]

end Piece

namespace Pattern

/-! ## Silence -/

/-- A pattern finds nothing at any place of a text, given the character before the text. -/
def Silent (p : Pattern) (before : Option Char) (cs : List Char) : Prop :=
  ∀ front back m, cs = front ++ back → p.match? (front.getLast?.or before) back = some m →
    m.piece? = none

/-- What is silent is so from any place on. -/
theorem Silent.drop {p : Pattern} {before : Option Char} {xs ys : List Char}
    (h : p.Silent before (xs ++ ys)) : p.Silent (xs.getLast?.or before) ys := by
  intro front back m heq hm
  apply h (xs ++ front) back m (by rw [heq, List.append_assoc])
  rw [List.getLast?_append, Option.or_assoc]
  exact hm

/-- A pattern leaves a text alone in which it finds nothing. -/
theorem cutAfter_of_silent {p : Pattern} {before : Option Char} {cs : List Char}
    (h : p.Silent before cs) : p.cutAfter before cs = Piece.pushText cs [] := by
  fun_induction p.cutAfter before cs with
  | case1 => rfl
  | case2 before c cs hnone ih =>
    rw [← List.singleton_append] at h
    rw [ih h.drop, Piece.pushText_pushText, List.singleton_append]
  | case3 before c cs m hm hlt pieces hpiece ih =>
    have hcs := p.covers hm
    have hrest : p.Silent m.whole.getLast? m.rest := by
      intro front back m' heq hm'
      apply h (m.whole ++ front) back m' (by rw [← hcs, heq, List.append_assoc])
      have hne : m.whole ≠ [] := by simp [Match.whole, p.body_ne_nil hm]
      rw [List.getLast?_append, Option.or_assoc]
      rwa [List.getLast?_eq_some_getLast hne] at hm' ⊢
    have hpieces : pieces = Piece.pushText m.rest [] := ih hrest
    rw [hpieces, Piece.pushText_pushText, hcs]
  | case4 before c cs m hm hlt pieces piece hpiece ih =>
    have hnone := h [] (c :: cs) m rfl hm
    rw [hpiece] at hnone
    cases hnone

/-- A silent text is not cut. -/
theorem cut_of_silent {p : Pattern} {cs : List Char} (h : p.Silent none cs) :
    p.cut cs = Piece.pushText cs [] :=
  cutAfter_of_silent h

/-! ## Local patterns -/

end Pattern

/-- A match, as it stands in a text that goes on. -/
def Match.appendRest (m : Match) (behind : List Char) : Match :=
  { m with rest := m.rest ++ behind }

/-- A part of a match that a search passes over and leaves as text: all of a match without a piece,
otherwise what is in front of the piece and behind it. -/
def Match.LeavesAt (m : Match) (place : Nat) : Prop :=
  m.piece? = none ∨ place < m.lead.length ∨ (m.lead ++ m.body).length ≤ place

namespace Pattern

/-- The laws of a pattern whose matches depend on nothing far away.  `Joins slice behind` says that a
match in `slice` is not disturbed by the text behind it; `Follows piece rest` is what the pattern
promises about the text behind one of its pieces. -/
structure Local (p : Pattern) (Joins : List Char → List Char → Prop)
    (Follows : Piece → List Char → Prop) : Prop where
  /-- Nothing behind a slice disturbs nothing. -/
  joins_nil : ∀ slice, Joins slice []
  /-- What does not disturb a slice does not disturb the end of it. -/
  joins_drop : ∀ {front back behind}, Joins (front ++ back) behind → Joins back behind
  /-- The text in front of a piece is not disturbed by the piece. -/
  joins_lead : ∀ {passed before cs m piece}, p.match? before cs = some m → m.piece? = some piece →
    passed = [] ∨ before = passed.getLast? →
    Joins (passed ++ m.lead) (m.body ++ m.tail ++ m.rest)
  /-- A match in a slice is a match in the text that goes on. -/
  extends_right : ∀ {before slice behind m}, p.match? before slice = some m → Joins slice behind →
    p.match? before (slice ++ behind) = some (m.appendRest behind)
  /-- No match begins in what another match passes over. -/
  apart : ∀ {before cs m front back}, p.match? before cs = some m → cs = front ++ back →
    front ≠ [] → front.length < m.whole.length → m.LeavesAt front.length →
    p.match? front.getLast? back = none
  /-- No match begins where the text behind a piece begins with more of the match. -/
  silent_tail : ∀ {before cs m rest}, p.match? before cs = some m → m.tail ≠ [] →
    p.match? none (m.tail ++ rest) = none
  /-- Behind a piece it makes no difference that the text in front is cut off. -/
  restart : ∀ {before cs m piece rest}, p.match? before cs = some m → m.piece? = some piece →
    m.tail = [] → rest <+: m.rest → p.match? none rest = p.match? m.whole.getLast? rest
  follows : ∀ {before cs m piece rest}, p.match? before cs = some m → m.piece? = some piece →
    rest <+: m.rest → Follows piece (m.tail ++ rest)
  not_text : ∀ {before cs m piece}, p.match? before cs = some m → m.piece? = some piece →
    ∀ body, piece ≠ .text body

/-- What is known of a text that a pattern has left of `whole`, which stood behind `outer`: it is not
empty and silent, it is a slice of `whole`, and it stands where `whole` began or behind a piece. -/
structure Left (p : Pattern) (Joins : List Char → List Char → Prop)
    (Follows : Piece → List Char → Prop) (outer : Option Piece) (whole : List Char)
    (front : Option Piece) (body : List Char) : Prop where
  ne_nil : body ≠ []
  silent : p.Silent none body
  slice : ∃ passed behind, whole = passed ++ body ++ behind ∧ Joins body behind ∧
    ((front = outer ∧ passed = []) ∨ ∃ piece, front = some piece ∧ Follows piece body)

/-- No piece begins in a text that is followed by more. -/
def SilentIn (p : Pattern) (passed more : List Char) : Prop :=
  ∀ front back m, passed = front ++ back → back ≠ [] →
    p.match? front.getLast? (back ++ more) = some m → m.piece? = none

/-- No piece begins in what has been passed, wherever the slice ends that goes on into `cs`. -/
def Passes (p : Pattern) (Joins : List Char → List Char → Prop) (passed cs : List Char) : Prop :=
  ∀ more behind, cs = more ++ behind → Joins (passed ++ more) behind → p.SilentIn passed more

variable {p : Pattern} {Joins : List Char → List Char → Prop} {Follows : Piece → List Char → Prop}

/-- No piece begins in the empty text. -/
theorem silentIn_nil (p : Pattern) (more : List Char) : p.SilentIn [] more := by
  intro front back m heq hne
  exact absurd (List.nil_eq_append_iff.1 heq).2 hne

/-- At the start nothing has been passed. -/
theorem passes_nil (cs : List Char) : p.Passes Joins [] cs :=
  fun more _ _ _ => silentIn_nil p more

/-- What has been passed grows by what is passed next. -/
theorem SilentIn.append {xs ys more : List Char} (hxs : p.SilentIn xs (ys ++ more))
    (hys : ∀ front back m, ys = front ++ back → back ≠ [] →
      p.match? (xs ++ front).getLast? (back ++ more) = some m → m.piece? = none) :
    p.SilentIn (xs ++ ys) more := by
  intro front back m heq hne hm
  rcases List.append_eq_append_iff.1 heq with ⟨zs, hfront, hback⟩ | ⟨zs, hfront, hback⟩
  · rw [hfront] at hm
    exact hys zs back m hback hne hm
  · cases zs with
    | nil =>
      rw [List.append_nil] at hfront
      rw [hback, ← hfront] at hm
      exact hys [] ys m rfl (by rwa [hback] at hne) (by rwa [List.append_nil])
    | cons z zs =>
      rw [hback, List.append_assoc] at hm
      exact hxs front (z :: zs) m hfront (List.cons_ne_nil z zs) hm

/-- A text that has been passed to its end is silent. -/
theorem SilentIn.silent {cs : List Char} (h : p.SilentIn cs []) : p.Silent none cs := by
  intro front back m heq hm
  have hne : back ≠ [] := by
    rintro rfl
    exact absurd (p.covers hm) (by simp [Match.whole, p.body_ne_nil hm])
  rw [Option.or_none] at hm
  exact h front back m heq hne (by rwa [List.append_nil])

/-- A match is not empty. -/
theorem whole_ne_nil {before : Option Char} {cs : List Char} {m : Match}
    (h : p.match? before cs = some m) : m.whole ≠ [] := by
  simp [Match.whole, p.body_ne_nil h]

/-- The places behind the first one of a match that is passed over are silent. -/
theorem Local.not_match_inside (hp : p.Local Joins Follows) {before : Option Char}
    {cs front back more behind : List Char} {m m' : Match} (hm : p.match? before cs = some m)
    (hcs : cs = front ++ (back ++ more ++ behind)) (hne : front ≠ [])
    (hlt : front.length < m.whole.length) (hleaves : m.LeavesAt front.length)
    (hjoins : Joins (back ++ more) behind) :
    p.match? front.getLast? (back ++ more) ≠ some m' := by
  intro hm'
  have hnone := hp.apart hm hcs hne hlt hleaves
  rw [hp.extends_right hm' hjoins] at hnone
  cases hnone

/-- Going on over a character at which nothing matches. -/
theorem Passes.step (hp : p.Local Joins Follows) {before : Option Char} {passed cs : List Char}
    {c : Char} (h : p.Passes Joins passed (c :: cs))
    (hrestart : ∀ more, more <+: c :: cs → p.match? passed.getLast? more = p.match? before more)
    (hnone : p.match? before (c :: cs) = none) : p.Passes Joins (passed ++ [c]) cs := by
  intro more behind hcs hjoins
  rw [List.append_assoc] at hjoins
  refine (h ([c] ++ more) behind (by rw [hcs]; rfl) hjoins).append ?_
  intro x y m heq hne hm
  obtain ⟨rfl, rfl⟩ : x = [] ∧ y = [c] := by
    rcases List.singleton_eq_append_iff.1 heq with ⟨hx, hy⟩ | ⟨hx, hy⟩
    · exact ⟨hx, hy⟩
    · exact absurd hy hne
  rw [List.append_nil, hrestart _ ⟨behind, by rw [hcs]; rfl⟩] at hm
  have hext := hp.extends_right hm (hp.joins_drop hjoins)
  rw [List.append_assoc, ← hcs, List.singleton_append, hnone] at hext
  cases hext

/-- Going on over a match without a piece. -/
theorem Passes.step_match (hp : p.Local Joins Follows) {before : Option Char}
    {passed cs : List Char} {m : Match} (h : p.Passes Joins passed cs)
    (hrestart : ∀ more, more <+: cs → p.match? passed.getLast? more = p.match? before more)
    (hm : p.match? before cs = some m) (hpiece : m.piece? = none) :
    p.Passes Joins (passed ++ m.whole) m.rest := by
  intro more behind hrest hjoins
  have hcs : cs = m.whole ++ more ++ behind := by
    rw [← p.covers hm, hrest]
    simp
  rw [List.append_assoc] at hjoins
  refine (h (m.whole ++ more) behind hcs hjoins).append ?_
  intro x y m' heq hne hm'
  cases x with
  | nil =>
    rw [List.append_nil, ← heq.trans (List.nil_append y), hrestart _ ⟨behind, hcs.symm⟩] at hm'
    have hext := hp.extends_right hm' (hp.joins_drop hjoins)
    rw [← hcs, hm] at hext
    rw [Option.some.inj hext] at hpiece
    exact hpiece
  | cons z x =>
    rw [List.getLast?_append_of_ne_nil _ (List.cons_ne_nil z x)] at hm'
    have hplace : cs = (z :: x) ++ (y ++ more ++ behind) := by
      rw [hcs, heq]
      simp
    have hshort : (z :: x).length < m.whole.length := by
      rw [heq, List.length_append]
      have := List.length_pos_iff.2 hne
      omega
    have hjoins' : Joins (y ++ more) behind := by
      rw [heq, List.append_assoc] at hjoins
      exact hp.joins_drop (hp.joins_drop hjoins)
    exact absurd hm'
      (hp.not_match_inside hm hplace (List.cons_ne_nil z x) hshort (Or.inl hpiece) hjoins')

/-- The text in front of a piece is silent. -/
theorem Passes.silent_lead (hp : p.Local Joins Follows) {before : Option Char}
    {passed cs : List Char} {m : Match} {piece : Piece} (h : p.Passes Joins passed cs)
    (hrestart : ∀ more, more <+: cs → p.match? passed.getLast? more = p.match? before more)
    (hm : p.match? before cs = some m) (hpiece : m.piece? = some piece)
    (hbefore : passed = [] ∨ before = passed.getLast?) : p.Silent none (passed ++ m.lead) := by
  have hjoins := hp.joins_lead hm hpiece hbefore
  have hcs : cs = m.lead ++ (m.body ++ m.tail ++ m.rest) := by
    rw [← p.covers hm, Match.whole]
    simp
  have hpassed : p.SilentIn passed (m.lead ++ []) := by
    rw [List.append_nil]
    exact h m.lead (m.body ++ m.tail ++ m.rest) hcs hjoins
  refine (hpassed.append ?_).silent
  intro x y m' heq hne hm'
  cases x with
  | nil =>
    -- A match inside the lead would be the whole match, which is longer than its lead.
    rw [List.append_nil, List.append_nil, ← heq.trans (List.nil_append y),
      hrestart _ ⟨_, hcs.symm⟩] at hm'
    have hext := hp.extends_right hm' (hp.joins_drop hjoins)
    rw [← hcs, hm] at hext
    have hrest : m.rest = m'.rest ++ (m.body ++ m.tail ++ m.rest) :=
      congrArg Match.rest (Option.some.inj hext)
    have hlength := congrArg List.length hrest
    have hbody := List.length_pos_iff.2 (p.body_ne_nil hm)
    simp only [List.length_append] at hlength
    omega
  | cons z x =>
    rw [List.getLast?_append_of_ne_nil _ (List.cons_ne_nil z x)] at hm'
    have hshort : (z :: x).length < m.lead.length := by
      rw [heq, List.length_append]
      have := List.length_pos_iff.2 hne
      omega
    have hplace : cs = (z :: x) ++ (y ++ [] ++ (m.body ++ m.tail ++ m.rest)) := by
      rw [hcs, heq]
      simp
    have hlt : (z :: x).length < m.whole.length := by
      rw [Match.whole, List.length_append, List.length_append]
      omega
    have hjoins' : Joins (y ++ []) (m.body ++ m.tail ++ m.rest) := by
      rw [heq, ← List.append_assoc] at hjoins
      rw [List.append_nil]
      exact hp.joins_drop hjoins
    exact absurd hm'
      (hp.not_match_inside hm hplace (List.cons_ne_nil z x) hlt (Or.inr (Or.inl hshort)) hjoins')

/-- No piece begins in the end of a match, which stands behind its piece. -/
theorem Local.passes_tail (hp : p.Local Joins Follows) {before : Option Char} {cs : List Char}
    {m : Match} (hm : p.match? before cs = some m) : p.Passes Joins m.tail m.rest := by
  intro more behind hrest hjoins x y m' heq hne hm'
  have htail : m.tail ≠ [] := by
    intro hnil
    rw [hnil] at heq
    exact hne (List.nil_eq_append_iff.1 heq).2
  cases x with
  | nil =>
    rw [← heq.trans (List.nil_append y), List.getLast?_nil, hp.silent_tail hm htail] at hm'
    cases hm'
  | cons z x =>
    have hlast : (m.lead ++ m.body ++ z :: x).getLast? = (z :: x).getLast? :=
      List.getLast?_append_of_ne_nil _ (List.cons_ne_nil z x)
    rw [← hlast] at hm'
    have hplace : cs = (m.lead ++ m.body ++ z :: x) ++ (y ++ more ++ behind) := by
      rw [← p.covers hm, Match.whole, heq, hrest]
      simp
    have hlt : (m.lead ++ m.body ++ z :: x).length < m.whole.length := by
      rw [Match.whole, heq]
      have := List.length_pos_iff.2 hne
      simp only [List.length_append]
      omega
    have hleaves : m.LeavesAt (m.lead ++ m.body ++ z :: x).length := Or.inr (Or.inr (by simp))
    have hjoins' : Joins (y ++ more) behind := by
      rw [heq, List.append_assoc] at hjoins
      exact hp.joins_drop hjoins
    exact absurd hm' (hp.not_match_inside hm hplace (by simp) hlt hleaves hjoins')

/-! ## What is left while a text is cut -/

/-- What is known while `whole` is cut: `passed` is what has been passed since the piece `front`, and
`cs` is still to come.  The character `before` is in front of `cs`, also when it is in a piece. -/
structure Progress (p : Pattern) (Joins : List Char → List Char → Prop)
    (Follows : Piece → List Char → Prop) (outer : Option Piece) (whole : List Char)
    (front : Option Piece) (before : Option Char) (passed cs : List Char) : Prop where
  place : ∃ done, whole = done ++ passed ++ cs ∧ ((front = outer ∧ done = []) ∨
    ∃ piece, front = some piece ∧ ∀ more, more <+: cs → Follows piece (passed ++ more))
  restart : ∀ more, more <+: cs → p.match? passed.getLast? more = p.match? before more
  edge : passed = [] ∨ before = passed.getLast?
  passes : p.Passes Joins passed cs

section

variable {outer front : Option Piece} {before : Option Char} {whole passed cs : List Char}
  {m : Match} {piece : Piece}

/-- What is known before the first step. -/
theorem Progress.start (outer : Option Piece) (whole : List Char) :
    p.Progress Joins Follows outer whole outer none [] whole where
  place := ⟨[], rfl, Or.inl ⟨rfl, rfl⟩⟩
  restart _ _ := rfl
  edge := Or.inl rfl
  passes := passes_nil whole

/-- What has been passed grows by a part of what is still to come. -/
theorem Progress.grow (h : p.Progress Joins Follows outer whole front before passed cs)
    {part rest : List Char} (hcs : cs = part ++ rest) (hne : part ≠ [])
    (hpasses : p.Passes Joins (passed ++ part) rest) :
    p.Progress Joins Follows outer whole front part.getLast? (passed ++ part) rest := by
  have hlast : (passed ++ part).getLast? = part.getLast? := List.getLast?_append_of_ne_nil _ hne
  rcases h.place with ⟨done, hwhole, hfront⟩
  refine ⟨⟨done, ?_, ?_⟩, fun more _ => by rw [hlast], Or.inr hlast.symm, hpasses⟩
  · rw [hwhole, hcs]
    simp
  · rcases hfront with hfront | ⟨piece, hpiece, hfollows⟩
    · exact Or.inl hfront
    · refine Or.inr ⟨piece, hpiece, fun more hmore => ?_⟩
      rw [List.append_assoc]
      apply hfollows
      rw [hcs]
      exact (List.prefix_append_right_inj part).2 hmore

/-- Behind a piece, the end of its match is what has been passed. -/
theorem Progress.behind_piece (h : p.Progress Joins Follows outer whole front before passed cs)
    (hp : p.Local Joins Follows) (hm : p.match? before cs = some m)
    (hpiece : m.piece? = some piece) :
    p.Progress Joins Follows outer whole (some piece) m.whole.getLast? m.tail m.rest := by
  have hlast : m.tail ≠ [] → m.whole.getLast? = m.tail.getLast? := by
    intro hne
    rw [Match.whole, List.getLast?_append_of_ne_nil _ hne]
  rcases h.place with ⟨done, hwhole, -⟩
  refine ⟨⟨done ++ passed ++ m.lead ++ m.body, ?_, ?_⟩, ?_, ?_, hp.passes_tail hm⟩
  · rw [hwhole, ← p.covers hm, Match.whole]
    simp
  · exact Or.inr ⟨piece, rfl, fun more hmore => hp.follows hm hpiece hmore⟩
  · intro more hmore
    by_cases hne : m.tail = []
    · rw [hne]
      exact hp.restart hm hpiece hne hmore
    · rw [hlast hne]
  · by_cases hne : m.tail = []
    · exact Or.inl hne
    · exact Or.inr (hlast hne)

/-- A text is left where what has been passed ends, with a part of what is still to come. -/
theorem Progress.left (h : p.Progress Joins Follows outer whole front before passed cs)
    {lead rest : List Char} (hcs : cs = lead ++ rest) (hne : passed ++ lead ≠ [])
    (hsilent : p.Silent none (passed ++ lead)) (hjoins : Joins (passed ++ lead) rest) :
    p.Left Joins Follows outer whole front (passed ++ lead) := by
  rcases h.place with ⟨done, hwhole, hfront⟩
  refine ⟨hne, hsilent, done, rest, ?_, hjoins, ?_⟩
  · rw [hwhole, hcs]
    simp
  · rcases hfront with hfront | ⟨piece, hpiece, hfollows⟩
    · exact Or.inl hfront
    · exact Or.inr ⟨piece, hpiece, hfollows lead ⟨rest, hcs.symm⟩⟩

/-- What a local pattern leaves of a text that it has passed in part. -/
theorem Progress.eachText (h : p.Progress Joins Follows outer whole front before passed cs)
    (hp : p.Local Joins Follows) :
    Piece.EachText (p.Left Joins Follows outer whole) front
      (Piece.pushText passed (p.cutAfter before cs)) := by
  -- The text between two pieces grows at its end; `passed` is what there is of it so far.
  fun_induction p.cutAfter before cs generalizing front passed with
  | case1 before =>
    refine Piece.eachText_pushText_nil.2 fun hne => ?_
    have hsilent := (h.passes [] [] rfl (hp.joins_nil _)).silent
    rw [← List.append_nil passed] at hne hsilent ⊢
    exact h.left rfl hne hsilent (hp.joins_nil _)
  | case2 before c cs hnone ih =>
    rw [Piece.pushText_pushText]
    exact ih (h.grow rfl (List.cons_ne_nil c []) (h.passes.step hp h.restart hnone))
  | case3 before c cs m hm hlt pieces hpiece =>
    rename_i ih
    rw [Piece.pushText_pushText]
    exact ih (h.grow (p.covers hm).symm (whole_ne_nil hm)
      (h.passes.step_match hp h.restart hm hpiece))
  | case4 before c cs m hm hlt pieces piece hpiece =>
    rename_i ih
    have hcs : c :: cs = m.lead ++ (m.body ++ m.tail ++ m.rest) := by
      rw [← p.covers hm, Match.whole]
      simp
    rw [Piece.pushText_pushText, Piece.pushText_of_not_text (hp.not_text hm hpiece),
      Piece.eachText_append]
    constructor
    · exact Piece.eachText_pushText_nil.2 fun hne =>
        h.left hcs hne (h.passes.silent_lead hp h.restart hm hpiece h.edge)
          (hp.joins_lead hm hpiece h.edge)
    · exact ⟨fun body hbody => absurd hbody (hp.not_text hm hpiece body),
        ih (h.behind_piece hp hm hpiece)⟩

end

/-- What a local pattern leaves of a text is silent for that pattern. -/
theorem eachText_cut (hp : p.Local Joins Follows) (outer : Option Piece) (whole : List Char) :
    Piece.EachText (p.Left Joins Follows outer whole) outer (p.cut whole) := by
  have hstart : p.Progress Joins Follows outer whole outer none [] whole :=
    Progress.start outer whole
  have hleft := hstart.eachText hp
  rwa [Piece.pushText_nil] at hleft

/-- What a local pattern leaves whole is silent for it. -/
theorem Local.silent_of_cut (hp : p.Local Joins Follows) {body : List Char}
    (h : p.cut body = [.text body]) : p.Silent none body := by
  have hleft := eachText_cut hp none body
  rw [h] at hleft
  exact (hleft.1 body rfl).silent

end Pattern
end DiceRoller
