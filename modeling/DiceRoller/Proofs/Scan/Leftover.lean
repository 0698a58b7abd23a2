import DiceRoller.Proofs.Scan.Locality.Attack
import DiceRoller.Proofs.Scan.Locality.Link
import DiceRoller.Proofs.Scan.Locality.Save

/-!
# The text that a scan leaves

What is known of the texts among the pieces of a scanned text.  Each pattern in turn finds nothing
more in what it left, and a later pattern only cuts such a text further, at places that make no
difference to the patterns before it.  There is one exception: dice may be cut off in front of a bonus
such as `+5 to hit`, which then stands at the start of a text.

Main results:

- Theorem `eachText_refine`: what a local pattern makes of the texts among some pieces.
- Theorem `Silent.of_left`: a text that is silent for a pattern stays so when it is cut by another.
- Theorem `eachText_pieces`: the texts that a scan leaves.
-/

namespace DiceRoller

open Text

namespace Piece

variable {holds holds' : Option Piece → List Char → Prop}

/-- What stands in front of a piece that is no text makes no difference. -/
theorem EachText.of_not_text {front front' : Option Piece} {pieces : List Piece}
    (h : EachText holds front pieces) (hhead : ∀ body, pieces.head? ≠ some (text body)) :
    EachText holds front' pieces := by
  cases pieces with
  | nil => trivial
  | cons piece pieces =>
    refine ⟨?_, h.2⟩
    intro body hbody
    exact absurd (congrArg some hbody) (hhead body)

/-- A row in which no text may stand behind what is in front does not begin with one. -/
theorem EachText.head_ne_text {front : Option Piece} {pieces : List Piece}
    (h : EachText holds front pieces) (hsep : ∀ body, ¬ holds front body) :
    ∀ body, pieces.head? ≠ some (text body) := by
  intro body hhead
  cases pieces with
  | nil => cases hhead
  | cons piece pieces => exact hsep body (h.1 body (Option.some.inj hhead))

/-- A text that is not empty and does not stand behind another one. -/
def Separate (front : Option Piece) (body : List Char) : Prop :=
  body ≠ [] ∧ ∀ other, front ≠ some (text other)

/-- No text is separate from the text in front of it. -/
theorem not_separate_text (other body : List Char) : ¬ Separate (some (text other)) body :=
  fun h => h.2 other rfl

/-- Text that is put in front of pieces stays apart from the text in them. -/
theorem eachText_separate_pushText {front : Option Piece} {cs : List Char} {pieces : List Piece}
    (hfront : ∀ other, front ≠ some (text other)) (h : EachText Separate front pieces) :
    EachText Separate front (pushText cs pieces) := by
  by_cases hcs : cs = []
  · rwa [hcs, pushText_nil]
  · cases pieces with
    | nil => exact eachText_pushText_nil.2 fun hne => ⟨hne, hfront⟩
    | cons piece pieces =>
      by_cases htext : ∃ body, piece = text body
      · rcases htext with ⟨body, rfl⟩
        refine ⟨?_, h.2.of_not_text (h.2.head_ne_text (not_separate_text body))⟩
        intro body' hbody'
        rw [← text.inj hbody']
        exact ⟨by simp [hcs], hfront⟩
      · have hnot : ∀ body, piece ≠ text body := fun body heq => htext ⟨body, heq⟩
        rw [pushText_of_not_text hnot, eachText_append]
        refine ⟨eachText_pushText_nil.2 fun hne => ⟨hne, hfront⟩, h.of_not_text ?_⟩
        intro body hhead
        exact hnot body (Option.some.inj hhead)

end Piece

namespace Pattern

variable {p q : Pattern}

/-- A cut leaves no empty texts and no two texts side by side. -/
theorem eachText_separate_cutAfter (hp : ∀ piece, p.Makes piece → ∀ body, piece ≠ .text body)
    {front : Option Piece} (hfront : ∀ other, front ≠ some (.text other)) (before : Option Char)
    (cs : List Char) : Piece.EachText Piece.Separate front (p.cutAfter before cs) := by
  fun_induction p.cutAfter before cs generalizing front with
  | case1 => trivial
  | case2 before c cs hnone ih => exact Piece.eachText_separate_pushText hfront (ih hfront)
  | case3 before c cs m hm hlt pieces hpiece =>
    rename_i ih
    exact Piece.eachText_separate_pushText hfront (ih hfront)
  | case4 before c cs m hm hlt pieces piece hpiece =>
    rename_i ih
    have hnot := hp piece ⟨before, c :: cs, m, hm, hpiece⟩
    have hsome : ∀ other, some piece ≠ some (.text other) :=
      fun other heq => hnot other (Option.some.inj heq)
    apply Piece.eachText_separate_pushText hfront
    refine ⟨fun body hbody => absurd hbody (hnot body), ?_⟩
    exact Piece.eachText_separate_pushText hsome (ih hsome)

variable {Joins Joins' : List Char → List Char → Prop} {Follows Follows' : Piece → List Char → Prop}

/-- What a local pattern makes of the texts among some pieces, none of which stands behind another
one. -/
theorem eachText_refine {holds holds' : Option Piece → List Char → Prop}
    (hp : p.Local Joins Follows) {front : Option Piece} {pieces : List Piece}
    (h : Piece.EachText holds front pieces) (hsep : ∀ other body, ¬ holds (some (.text other)) body)
    (hstep : ∀ outer whole front body, holds outer whole →
      p.Left Joins Follows outer whole front body → holds' front body) :
    Piece.EachText holds' front (p.refine pieces) := by
  induction pieces generalizing front with
  | nil => trivial
  | cons piece pieces ih =>
    rcases h with ⟨hpiece, hrest⟩
    have hothers := ih hrest
    by_cases htext : ∃ whole, piece = .text whole
    · rcases htext with ⟨whole, rfl⟩
      rw [refine_text_cons, Piece.eachText_append]
      constructor
      · exact (eachText_cut hp front whole).mono fun front' body hleft =>
          hstep front whole front' body (hpiece whole rfl) hleft
      · apply hothers.of_not_text
        -- The next piece is no text, so it is the first one that is left behind this text.
        have hhead := hrest.head_ne_text (hsep whole)
        intro body
        cases pieces with
        | nil => simp
        | cons next pieces =>
          have hnext : ∀ body, next ≠ .text body := fun body heq => hhead body (by rw [heq]; rfl)
          rw [refine_cons_of_not_text p pieces hnext]
          exact fun heq => hnext body (Option.some.inj heq)
    · have hnot : ∀ body, piece ≠ .text body := fun body heq => htext ⟨body, heq⟩
      rw [refine_cons_of_not_text p pieces hnot]
      exact ⟨fun body hbody => absurd hbody (hnot body), hothers⟩

/-- A text that is silent for a pattern stays so when it is cut by another one, if the cuts of the
other make no difference: neither at the end of a slice nor, behind a piece, at its start. -/
theorem Silent.of_left (hp : p.Local Joins Follows) {b : Option Char} {outer front : Option Piece}
    {whole body : List Char} (h : p.Silent b whole)
    (hleft : q.Left Joins' Follows' outer whole front body)
    (hjoins : ∀ slice behind, Joins' slice behind → Joins slice behind)
    (hstart : ∀ piece, Follows' piece body → ∀ c, p.match? b body = p.match? (some c) body) :
    p.Silent b body := by
  rcases hleft.slice with ⟨passed, behind, hwhole, hseam, hfront⟩
  intro x y m hbody hm
  have hy : Joins y behind := by
    rw [hbody] at hseam
    exact hp.joins_drop (hjoins _ _ hseam)
  by_cases hinside : x = [] ∧ passed ≠ []
  · rcases hinside with ⟨rfl, hpassed⟩
    rcases hfront with ⟨-, hnil⟩ | ⟨piece, -, hfollows⟩
    · exact absurd hnil hpassed
    · rw [List.nil_append] at hbody
      rw [List.getLast?_nil, Option.none_or, ← hbody,
        hstart piece hfollows (passed.getLast hpassed)] at hm
      have hext := hp.extends_right hm (hbody ▸ hy)
      have hlast := List.getLast?_eq_some_getLast hpassed
      have hplace : whole = passed ++ (body ++ behind) := by
        rw [hwhole, List.append_assoc]
      apply h passed (body ++ behind) (m.appendRest behind) hplace
      rw [hlast, Option.some_or]
      exact hext
  · have hbefore : (passed ++ x).getLast?.or b = x.getLast?.or b := by
      by_cases hx : x = []
      · have hpassed : passed = [] := by
          by_contra hne
          exact hinside ⟨hx, hne⟩
        rw [hpassed, List.nil_append]
      · rw [List.getLast?_append_of_ne_nil _ hx]
    have hplace : whole = (passed ++ x) ++ (y ++ behind) := by
      rw [hwhole, hbody]
      simp only [List.append_assoc]
    apply h (passed ++ x) (y ++ behind) (m.appendRest behind) hplace
    rw [hbefore]
    exact hp.extends_right hm hy

end Pattern

namespace Rollable

/-! ## A bonus at the start of a text -/

/-- A text that begins with a bonus in front of the words ` to hit`. -/
def StartsWithBonus (body : List Char) : Prop :=
  ∃ m, matchBonusToHit [] body = some m ∧ m.piece? ≠ none

/-- A bonus that ends with its slice is one in the text that goes on. -/
theorem StartsWithBonus.append {body behind : List Char} (h : StartsWithBonus body)
    (hseam : WordSeam body behind) : StartsWithBonus (body ++ behind) := by
  rcases h with ⟨m, hm, hpiece⟩
  rcases matchBonusToHit_eq_some_iff.1 hm with ⟨bonus, words, rest, rfl, hbonus, hwords, hedge, rfl⟩
  refine ⟨⟨[], bonus, words, rest ++ behind, attackPiece bonus⟩, ?_, hpiece⟩
  apply matchBonusToHit_eq_some_iff.2
  refine ⟨bonus, words, rest ++ behind, by simp only [List.append_assoc], hbonus, hwords, ?_, rfl⟩
  exact hseam.edge_append ((endsWord_of_map_foldCase hwords rfl (by decide)).append bonus) hedge

/-- Behind some character the pattern for bonuses finds less than at the start of a text. -/
theorem matchToHit_none_of_some {c : Char} {cs : List Char} {m : Match}
    (h : matchToHit (some c) cs = some m) : matchToHit none cs = some m := by
  rcases matchToHit_eq_some_iff.1 h with ⟨hstart, -⟩ | hbehind
  · cases hstart
  · exact matchToHit_eq_some_iff.2 (Or.inr hbehind)

/-- A bonus to hit does not depend on which character is in front of it. -/
theorem matchToHit_some_eq_some (c d : Char) (cs : List Char) :
    matchToHit (some c) cs = matchToHit (some d) cs :=
  rfl

/-- What a silent text lacks is a bonus at its start and anything behind one of its characters. -/
theorem silent_toHit_iff {body : List Char} :
    toHit.Silent none body ↔ (∀ c, toHit.Silent (some c) body) ∧ ¬ StartsWithBonus body := by
  constructor
  · intro h
    refine ⟨?_, ?_⟩
    · intro c x y m hbody hm
      cases hlast : x.getLast? with
      | none =>
        rw [hlast, Option.none_or] at hm
        apply h x y m hbody
        rw [hlast, Option.none_or]
        exact matchToHit_none_of_some (c := c) hm
      | some d =>
        apply h x y m hbody
        rw [hlast] at hm ⊢
        exact hm
    · intro hbonus
      rcases hbonus with ⟨m, hm, hpiece⟩
      apply hpiece
      apply h [] body m rfl
      exact matchToHit_eq_some_iff.2 (Or.inl ⟨rfl, hm⟩)
  · intro h
    rcases h with ⟨hsilent, hbonus⟩
    intro x y m hbody hm
    cases hlast : x.getLast? with
    | none =>
      have hx : x = [] := List.getLast?_eq_none_iff.1 hlast
      rw [hlast, Option.none_or] at hm
      rw [hx, List.nil_append] at hbody
      rcases matchToHit_eq_some_iff.1 hm with ⟨-, hstart⟩ | hbehind
      · by_contra hpiece
        exact hbonus ⟨m, by rwa [hbody], hpiece⟩
      · apply hsilent ' ' [] y m hbody
        show matchToHit (some ' ') y = some m
        exact matchToHit_eq_some_iff.2 (Or.inr hbehind)
    | some d =>
      apply hsilent ' ' x y m hbody
      rw [hlast] at hm ⊢
      exact hm

/-! ## Behind a token -/

/-- Behind a token the patterns that begin with a word find nothing, whether or not the text in front
is cut off. -/
theorem FollowsToken.labelled {piece : Piece} {body : List Char} (h : FollowsToken piece body)
    (c : Char) : labelled.match? none body = labelled.match? (some c) body := by
  show matchLabelled none body = matchLabelled (some c) body
  rw [matchLabelled_of_edge h.2, matchLabelled_of_edge h.2]

/-- Behind a token dice are looked for as behind any character. -/
theorem FollowsToken.dice {piece : Piece} {body : List Char} (h : FollowsToken piece body)
    (c : Char) : dice.match? none body = dice.match? (some c) body := by
  show matchDice none body = matchDice (some c) body
  rw [matchDice_of_edge h.2, matchDice_of_edge h.2]

/-- A token is no text. -/
theorem FollowsToken.ne_text {piece : Piece} {body : List Char} (h : FollowsToken piece body)
    (other : List Char) : some piece ≠ some (.text other) := by
  rcases h.1 with ⟨t, rfl⟩
  simp

end Rollable

open Rollable

/-! ## The texts that are left -/

/-- What is known of a text behind the pattern for dice, given the piece in front of it. -/
structure LeftByDice (front : Option Piece) (body : List Char) : Prop where
  separate : Piece.Separate front body
  links : Link.pattern.Silent none body
  labelled : Rollable.labelled.Silent none body
  toHit : ∀ c, Rollable.toHit.Silent (some c) body
  bonus : StartsWithBonus body → ∃ t, front = some (.token t)
  dice : Rollable.dice.Silent none body

/-- What is known of a text among the pieces of a scanned text, given the piece in front of it. -/
structure Leftover (front : Option Piece) (body : List Char) : Prop extends
    LeftByDice front body where
  save : Rollable.save.Silent none body

variable {q : Pattern} {Joins : List Char → List Char → Prop} {outer front : Option Piece}
  {whole body : List Char}

/-- What a pattern leaves is separate from what is in front of it. -/
theorem separate_of_left (h : Piece.Separate outer whole)
    (hleft : q.Left Joins FollowsToken outer whole front body) : Piece.Separate front body := by
  refine ⟨hleft.ne_nil, ?_⟩
  rcases hleft.slice with ⟨passed, behind, -, -, ⟨rfl, -⟩ | ⟨piece, rfl, hfollows⟩⟩
  · exact h.2
  · exact hfollows.ne_text

/-- It holds no links if the whole text held none. -/
theorem links_of_left (h : Link.pattern.Silent none whole)
    (hleft : q.Left Joins FollowsToken outer whole front body) : Link.pattern.Silent none body :=
  h.of_left local_link hleft (fun _ _ _ => trivial) fun _ _ _ => rfl

/-- Nor labelled bonuses, where no word runs over the end. -/
theorem labelled_of_left (hjoins : ∀ slice behind, Joins slice behind → WordSeam slice behind)
    (h : Rollable.labelled.Silent none whole)
    (hleft : q.Left Joins FollowsToken outer whole front body) :
    Rollable.labelled.Silent none body :=
  h.of_left local_labelled hleft hjoins fun _ hfollows => hfollows.labelled

/-- Nor bonuses to hit. -/
theorem toHit_of_left (hjoins : ∀ slice behind, Joins slice behind → WordSeam slice behind)
    (h : ∀ c, Rollable.toHit.Silent (some c) whole)
    (hleft : q.Left Joins FollowsToken outer whole front body) :
    ∀ c, Rollable.toHit.Silent (some c) body := by
  intro c
  exact (h c).of_left local_toHit hleft hjoins fun _ _ d => matchToHit_some_eq_some c d body

/-- A bonus stands at the start of a text only where a token has been cut off in front of it. -/
theorem bonus_of_left (hjoins : ∀ slice behind, Joins slice behind → WordSeam slice behind)
    (h : StartsWithBonus whole → ∃ t, outer = some (.token t))
    (hleft : q.Left Joins FollowsToken outer whole front body) :
    StartsWithBonus body → ∃ t, front = some (.token t) := by
  intro hbonus
  rcases hleft.slice with ⟨passed, behind, hwhole, hseam, ⟨rfl, rfl⟩ | ⟨piece, rfl, hfollows⟩⟩
  · apply h
    rw [hwhole, List.nil_append]
    exact hbonus.append (hjoins _ _ hseam)
  · rcases hfollows.1 with ⟨t, rfl⟩
    exact ⟨t, rfl⟩

/-- Nor dice, where no dice run over the end either. -/
theorem dice_of_left (h : Rollable.dice.Silent none whole)
    (hleft : q.Left DiceSeam FollowsToken outer whole front body) :
    Rollable.dice.Silent none body :=
  h.of_left local_dice hleft (fun _ _ hseam => hseam) fun _ hfollows => hfollows.dice

/-- Cutting off dice may bring a bonus to the start of a text. -/
theorem leftByDice_of_left (hseparate : Piece.Separate outer whole)
    (hlinks : Link.pattern.Silent none whole) (hlabelled : Rollable.labelled.Silent none whole)
    (htoHit : Rollable.toHit.Silent none whole)
    (hleft : Rollable.dice.Left DiceSeam FollowsToken outer whole front body) :
    LeftByDice front body where
  separate := separate_of_left hseparate hleft
  links := links_of_left hlinks hleft
  labelled := labelled_of_left (fun _ _ hseam => hseam.word) hlabelled hleft
  toHit := toHit_of_left (fun _ _ hseam => hseam.word) (silent_toHit_iff.1 htoHit).1 hleft
  bonus := by
    apply bonus_of_left (fun _ _ hseam => hseam.word) _ hleft
    intro hbonus
    exact absurd hbonus (silent_toHit_iff.1 htoHit).2
  dice := hleft.silent

/-- What the pattern for saving throws leaves of a text in which the others found nothing. -/
theorem LeftByDice.leftover_of_left (h : LeftByDice outer whole)
    (hleft : Rollable.save.Left DiceSeam FollowsToken outer whole front body) :
    Leftover front body where
  separate := separate_of_left h.separate hleft
  links := links_of_left h.links hleft
  labelled := labelled_of_left (fun _ _ hseam => hseam.word) h.labelled hleft
  toHit := toHit_of_left (fun _ _ hseam => hseam.word) h.toHit hleft
  bonus := bonus_of_left (fun _ _ hseam => hseam.word) h.bonus hleft
  dice := dice_of_left h.dice hleft
  save := hleft.silent

/-- The texts among markup are separate from each other. -/
theorem Markup.eachText_separate_cut (cs : List Char) :
    Piece.EachText Piece.Separate none (pattern.cut cs) := by
  apply Pattern.eachText_separate_cutAfter
  · intro piece hmakes body
    rcases makes_markup hmakes with ⟨m, rfl⟩
    simp
  · simp

/-- The texts that a scan leaves. -/
theorem eachText_pieces (cs : List Char) : Piece.EachText Leftover none (pieces cs) := by
  have hlinks : Piece.EachText
      (fun front body => Piece.Separate front body ∧ Link.pattern.Silent none body) none
      (Link.pattern.refine (Markup.pattern.cut cs)) := by
    apply Pattern.eachText_refine local_link (Markup.eachText_separate_cut cs)
      Piece.not_separate_text
    intro outer whole front body h hleft
    refine ⟨⟨hleft.ne_nil, ?_⟩, hleft.silent⟩
    rcases hleft.slice with ⟨passed, behind, -, -, ⟨rfl, -⟩ | ⟨piece, rfl, label, body', rfl⟩⟩
    · exact h.2
    · simp
  have hlabelled := Pattern.eachText_refine local_labelled hlinks
    (fun other body h => Piece.not_separate_text other body h.1)
    (fun outer whole front body h hleft =>
      And.intro (separate_of_left h.1 hleft) (And.intro (links_of_left h.2 hleft) hleft.silent))
  have htoHit := Pattern.eachText_refine local_toHit hlabelled
    (fun other body h => Piece.not_separate_text other body h.1)
    (fun outer whole front body h hleft =>
      And.intro (separate_of_left h.1 hleft)
        (And.intro (links_of_left h.2.1 hleft)
          (And.intro (labelled_of_left (fun _ _ hseam => hseam) h.2.2 hleft) hleft.silent)))
  have hdice := Pattern.eachText_refine local_dice htoHit
    (fun other body h => Piece.not_separate_text other body h.1)
    (fun outer whole front body h hleft => leftByDice_of_left h.1 h.2.1 h.2.2.1 h.2.2.2 hleft)
  have hsave := Pattern.eachText_refine local_save hdice
    (fun other body h => Piece.not_separate_text other body h.separate)
    (fun outer whole front body h hleft => h.leftover_of_left hleft)
  rw [pieces_eq_foldl]
  exact hsave

end DiceRoller
