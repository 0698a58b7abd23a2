import Mathlib.Data.List.Induction
import DiceRoller.Proofs.Notation.Grammar

/-!
# Terminals of dice notation

A notation is a row of terminals: runs of digits, the letter `d`, the keywords `kh` and `kl`, and
signs.  Terminals are read off a text as a whole, a run of digits with all digits that stand there.
A row of them begins a notation when some phrase starts with it, and a reader that has come so far
stands at one of ten places of the grammar, which tells what may come next.

Main results:

- Theorem `Reads.comparable`: of two rows at the start of a text one goes on where the other ends.
- Theorem `reads_terminals`: a phrase is written as the row of its terminals.
- Theorem `exists_walk_terminals`: the terminals of a phrase lead from place to place.
- Theorems `behind_of_walk` and `Behind.exists_phrase`: from every place that a row of terminals
  leads to, some phrase goes on.
-/

namespace DiceRoller

/-- A terminal of dice notation. -/
inductive Terminal where
  | digits (run : List Char)
  | letter
  | keep (side : KeepEnd)
  | sign (sign : Sign)
  deriving DecidableEq, Repr

namespace Terminal

open Phrase (IsDigits StopsDigits)

/-! ## Terminals in a text -/

/-- The characters of a terminal. -/
def text : Terminal → List Char
  | digits run => run
  | letter => ['d']
  | keep side => Phrase.renderKeepEnd side
  | sign s => [s.char]

/-- A terminal is whole in front of a text: a run of digits takes in all digits that stand there. -/
def IsWhole : Terminal → List Char → Prop
  | digits run, back => IsDigits run ∧ StopsDigits back
  | _, _ => True

/-- A text starts with a row of whole terminals, and goes on with `rest`. -/
inductive Reads : List Terminal → List Char → List Char → Prop
  | nil {cs : List Char} : Reads [] cs cs
  | cons {t : Terminal} {ts : List Terminal} {back rest : List Char}
      (whole : t.IsWhole back) (others : Reads ts back rest) : Reads (t :: ts) (t.text ++ back) rest

/-- The characters of a row of terminals. -/
def textOf (ts : List Terminal) : List Char :=
  ts.flatMap text

/-- The terminal at the start of a text, and the rest. -/
def first? (cs : List Char) : Option (Terminal × List Char) :=
  match Phrase.takeDigits cs with
  | (c :: run, rest) => some (digits (c :: run), rest)
  | ([], _) =>
    match cs with
    | 'd' :: rest => some (letter, rest)
    | cs =>
      match Phrase.takeKeepEnd cs with
      | some (side, rest) => some (keep side, rest)
      | none => (Phrase.takeSign cs).map fun taken => (sign taken.1, taken.2)

variable {t u : Terminal} {ts us : List Terminal} {cs back back' rest rest' : List Char}

/-- The terminal at the start of a text is found when it is whole. -/
theorem first?_text_append (h : t.IsWhole back) : first? (t.text ++ back) = some (t, back) := by
  cases t with
  | digits run =>
    have htaken : Phrase.takeDigits (run ++ back) = (run, back) :=
      Phrase.takeDigits_eq_iff.2 ⟨rfl, h.1.digits, h.2⟩
    unfold first?
    rw [text, htaken]
    cases run with
    | nil => exact absurd rfl h.1.ne_nil
    | cons c run => rfl
  | letter => rfl
  | keep side => cases side <;> rfl
  | sign s => cases s <;> rfl

/-- The terminal at the start of a text is the only one there. -/
theorem text_append_inj (ht : t.IsWhole back) (hu : u.IsWhole back')
    (h : t.text ++ back = u.text ++ back') : t = u ∧ back = back' := by
  have hfirst := first?_text_append ht
  rw [h, first?_text_append hu, Option.some.injEq, Prod.mk.injEq] at hfirst
  exact ⟨hfirst.1.symm, hfirst.2.symm⟩

/-- A whole terminal has characters. -/
theorem IsWhole.text_ne_nil (h : t.IsWhole back) : t.text ≠ [] := by
  cases t with
  | digits run => exact h.1.ne_nil
  | letter => exact List.cons_ne_nil _ _
  | keep side => cases side <;> exact List.cons_ne_nil _ _
  | sign s => exact List.cons_ne_nil _ _

/-- A text is the row read off its start, followed by the rest. -/
theorem Reads.eq_append (h : Reads ts cs rest) : cs = textOf ts ++ rest := by
  induction h with
  | nil => rfl
  | cons whole others ih => rw [textOf, List.flatMap_cons, List.append_assoc, ih, textOf]

/-- So the rest behind a row is determined. -/
theorem Reads.rest_eq (h : Reads ts cs rest) (h' : Reads ts cs rest') : rest = rest' :=
  List.append_cancel_left (h.eq_append.symm.trans h'.eq_append)

/-- Two rows are read one after the other. -/
theorem reads_append_iff :
    Reads (ts ++ us) cs rest ↔ ∃ back, Reads ts cs back ∧ Reads us back rest := by
  induction ts generalizing cs with
  | nil =>
    constructor
    · intro h
      exact ⟨cs, .nil, h⟩
    · rintro ⟨back, hnil, h⟩
      cases hnil
      exact h
  | cons t ts ih =>
    constructor
    · intro h
      cases h with
      | cons whole others =>
        rcases ih.1 others with ⟨back, hts, hus⟩
        exact ⟨back, .cons whole hts, hus⟩
    · rintro ⟨back, h, hus⟩
      cases h with
      | cons whole others => exact .cons whole (ih.2 ⟨back, others, hus⟩)

/-- The last terminal of a row is read behind the others. -/
theorem reads_append_singleton_iff :
    Reads (ts ++ [t]) cs rest ↔ Reads ts cs (t.text ++ rest) ∧ t.IsWhole rest := by
  rw [reads_append_iff]
  constructor
  · rintro ⟨back, hts, ht⟩
    cases ht with
    | cons whole others =>
      cases others
      exact ⟨hts, whole⟩
  · rintro ⟨hts, whole⟩
    exact ⟨_, hts, .cons whole .nil⟩

/-- Of two rows at the start of a text one goes on where the other ends. -/
theorem Reads.comparable (h : Reads ts cs rest) (h' : Reads us cs rest') :
    ts <+: us ∨ us <+: ts := by
  induction ts generalizing us cs with
  | nil => exact Or.inl List.nil_prefix
  | cons t ts ih =>
    generalize hcs : cs = whole at h'
    cases h' with
    | nil => exact Or.inr List.nil_prefix
    | cons hu hus =>
      cases h with
      | cons ht hts =>
        rcases text_append_inj ht hu hcs with ⟨rfl, rfl⟩
        simpa using ih hts hus

end Terminal

/-! ## The terminals of a phrase -/

namespace Phrase

open Terminal (Reads reads_append_iff)

/-- The terminals of the number of dice, which may be left out. -/
def countTerminals (count : List Char) : List Terminal :=
  if count = [] then [] else [.digits count]

def keepTerminals : Option KeepDigits → List Terminal
  | none => []
  | some rule => [.keep rule.side, .digits rule.digits]

def signedTerminals : Option SignedDigits → List Terminal
  | none => []
  | some part => [.sign part.sign, .digits part.digits]

/-- The terminals of a phrase, in order. -/
def terminals : Phrase → List Terminal
  | dice count sides keep modifier =>
    countTerminals count ++ .letter :: .digits sides ::
      (keepTerminals keep ++ signedTerminals modifier)
  | flat sign digits => (sign.map Terminal.sign).toList ++ [.digits digits]

/-- A run of digits that ends is read as one terminal. -/
theorem reads_digits {run back : List Char} (h : IsDigits run) (hstop : StopsDigits back) :
    Reads [.digits run] (run ++ back) back :=
  .cons (t := .digits run) ⟨h, hstop⟩ .nil

/-- The number of dice is read as its terminals, if it is there. -/
theorem reads_countTerminals {count back : List Char} (h : ∀ c ∈ count, c.isDigit = true)
    (hstop : StopsDigits back) : Reads (countTerminals count) (count ++ back) back := by
  rw [countTerminals]
  split
  · rename_i hnil
    rw [hnil]
    exact .nil
  · rename_i hne
    exact reads_digits ⟨hne, h⟩ hstop

/-- A keep rule is read as its terminals, if it is there. -/
theorem reads_keepTerminals {keep : Option KeepDigits} {back : List Char}
    (h : ∀ rule, keep = some rule → IsDigits rule.digits) (hstop : StopsDigits back) :
    Reads (keepTerminals keep) (renderKeep keep ++ back) back := by
  cases keep with
  | none => exact .nil
  | some rule =>
    have hdigits := reads_digits (h rule rfl) hstop
    have hkeep := Reads.cons (t := .keep rule.side) trivial hdigits
    rwa [Terminal.text, ← List.append_assoc] at hkeep

/-- A modifier that ends the text is read as its terminals, if it is there. -/
theorem reads_signedTerminals {modifier : Option SignedDigits}
    (h : ∀ part, modifier = some part → IsDigits part.digits) :
    Reads (signedTerminals modifier) (renderSigned modifier) [] := by
  cases modifier with
  | none => exact .nil
  | some part =>
    have hdigits := reads_digits (h part rfl) stopsDigits_nil
    have hsigned := Reads.cons (t := .sign part.sign) trivial hdigits
    rwa [Terminal.text, List.append_nil] at hsigned

/-- A phrase is written as the row of its terminals. -/
theorem reads_terminals {phrase : Phrase} (h : phrase.WellFormed) :
    Reads phrase.terminals phrase.render [] := by
  cases phrase with
  | dice count sides keep modifier =>
    rcases h with ⟨hcount, hsides, hkeep, hmodifier⟩
    have hmodifier := reads_signedTerminals hmodifier
    have hkeep := reads_keepTerminals hkeep (stopsDigits_renderSigned modifier)
    have hrules := reads_append_iff.2 ⟨_, hkeep, hmodifier⟩
    have hsides := reads_digits hsides (stopsDigits_renderKeep_append keep modifier)
    have hletter := Reads.cons (t := .letter) trivial (reads_append_iff.2 ⟨_, hsides, hrules⟩)
    have hdice := reads_append_iff.2 ⟨_, reads_countTerminals hcount (stopsDigits_d _), hletter⟩
    simpa [terminals, render, Terminal.text] using hdice
  | flat sign digits =>
    have hdigits := reads_digits h stopsDigits_nil
    rw [List.append_nil] at hdigits
    cases sign with
    | none => exact hdigits
    | some sign => exact .cons (t := .sign sign) trivial hdigits

/-! ## Phrases that grow -/

section Growth

variable {count sides : List Char} {keep : Option KeepDigits}

/-- Dice without any rules. -/
theorem wellFormed_plain (hcount : ∀ c ∈ count, c.isDigit = true) (hsides : IsDigits sides) :
    (dice count sides none none).WellFormed :=
  ⟨hcount, hsides, by simp, by simp⟩

/-- Dice may get a keep rule. -/
theorem wellFormed_keep (h : (dice count sides none none).WellFormed) (rule : KeepDigits)
    (hdigits : IsDigits rule.digits) : (dice count sides (some rule) none).WellFormed :=
  ⟨h.1, h.2.1, by simpa using hdigits, by simp⟩

/-- Dice may get a modifier, with a keep rule or without. -/
theorem wellFormed_modifier (h : (dice count sides keep none).WellFormed) (part : SignedDigits)
    (hdigits : IsDigits part.digits) : (dice count sides keep (some part)).WellFormed :=
  ⟨h.1, h.2.1, h.2.2.1, by simpa using hdigits⟩

/-- The terminals of dice without any rules. -/
theorem terminals_plain :
    (dice count sides none none).terminals =
      countTerminals count ++ [.letter] ++ [.digits sides] := by
  simp [terminals, keepTerminals, signedTerminals]

/-- A keep rule adds its terminals at the end. -/
theorem terminals_keep (side : KeepEnd) (digits : List Char) :
    (dice count sides (some ⟨side, digits⟩) none).terminals =
      (dice count sides none none).terminals ++ [.keep side] ++ [.digits digits] := by
  simp [terminals, keepTerminals, signedTerminals]

/-- So does a modifier. -/
theorem terminals_modifier (sign : Sign) (digits : List Char) :
    (dice count sides keep (some ⟨sign, digits⟩)).terminals =
      (dice count sides keep none).terminals ++ [.sign sign] ++ [.digits digits] := by
  simp [terminals, signedTerminals]

end Growth

/-- A number that fits wherever one is missing. -/
theorem isDigits_one : IsDigits ['1'] :=
  ⟨List.cons_ne_nil _ _, List.forall_mem_singleton.2 rfl⟩

end Phrase

/-! ## Places of the grammar -/

/-- Where a reader of a notation stands. -/
inductive Place where
  | start
  | count
  | leadingSign
  | flat
  | letter
  | sides
  | keepEnd
  | keepCount
  | sign
  | modifier
  deriving DecidableEq, Repr

namespace Place

/-- The place behind a terminal, if the grammar has one there.  Digits at the start may be a plain
number or a number of dice. -/
def next : Place → Terminal → Option Place
  | start, .digits _ => some count
  | start, .letter => some letter
  | start, .sign _ => some leadingSign
  | count, .letter => some letter
  | leadingSign, .digits _ => some flat
  | letter, .digits _ => some sides
  | sides, .keep _ => some keepEnd
  | sides, .sign _ => some sign
  | keepEnd, .digits _ => some keepCount
  | keepCount, .sign _ => some sign
  | sign, .digits _ => some modifier
  | _, _ => none

/-- The place behind a row of terminals. -/
def walk : Place → List Terminal → Option Place
  | place, [] => some place
  | place, t :: ts => (place.next t).bind fun place => place.walk ts

/-- What is expected at a place. -/
def expected : Place → Expected
  | start => .phrase
  | leadingSign | letter | keepEnd | sign => .number
  | sides => .keepSignOrEnd
  | keepCount => .signOrEnd
  | count | flat | modifier => .endOfText

/-- Two rows are walked one after the other. -/
theorem walk_append (place : Place) (ts us : List Terminal) :
    place.walk (ts ++ us) = (place.walk ts).bind fun place => place.walk us := by
  induction ts generalizing place with
  | nil => rfl
  | cons t ts ih =>
    rw [List.cons_append, walk, walk]
    cases place.next t with
    | none => rfl
    | some place => exact ih place

/-- The last step of a walk. -/
theorem walk_append_singleton (place : Place) (ts : List Terminal) (t : Terminal) :
    place.walk (ts ++ [t]) = (place.walk ts).bind fun place => place.next t := by
  have hwalk : ∀ place : Place, place.walk [t] = place.next t := by
    intro place
    rw [walk]
    cases place.next t with
    | none => rfl
    | some place => rfl
  simp only [walk_append, hwalk]

/-- Behind the `d` it makes no difference whether a number of dice is in front. -/
theorem walk_countTerminals (count : List Char) (ts : List Terminal) :
    start.walk (Phrase.countTerminals count ++ .letter :: ts) = letter.walk ts := by
  rw [Phrase.countTerminals]
  split <;> rfl

/-- The place behind the terminals of a phrase. -/
theorem exists_walk_terminals (phrase : Phrase) :
    ∃ place, start.walk phrase.terminals = some place := by
  cases phrase with
  | dice count sides keep modifier =>
    rw [Phrase.terminals, walk_countTerminals]
    cases keep with
    | none =>
      cases modifier with
      | none => exact ⟨.sides, rfl⟩
      | some part => exact ⟨.modifier, rfl⟩
    | some rule =>
      cases modifier with
      | none => exact ⟨.keepCount, rfl⟩
      | some part => exact ⟨.modifier, rfl⟩
  | flat sign digits =>
    cases sign with
    | none => exact ⟨.count, rfl⟩
    | some sign => exact ⟨.flat, rfl⟩

/-! ## Rows that lead to a place -/

open Phrase

/-- The rows of terminals that lead to a place. -/
def Behind (ts : List Terminal) : Place → Prop
  | start => ts = []
  | count => ∃ run, IsDigits run ∧ ts = [.digits run]
  | leadingSign => ∃ s, ts = [.sign s]
  | flat => ∃ s run, IsDigits run ∧ ts = [.sign s, .digits run]
  | letter => ∃ count, (∀ c ∈ count, c.isDigit = true) ∧ ts = countTerminals count ++ [.letter]
  | sides => ∃ count sides, (dice count sides none none).WellFormed ∧
      ts = (dice count sides none none).terminals
  | keepEnd => ∃ count sides side, (dice count sides none none).WellFormed ∧
      ts = (dice count sides none none).terminals ++ [.keep side]
  | keepCount => ∃ count sides rule, (dice count sides (some rule) none).WellFormed ∧
      ts = (dice count sides (some rule) none).terminals
  | sign => ∃ count sides keep s, (dice count sides keep none).WellFormed ∧
      ts = (dice count sides keep none).terminals ++ [.sign s]
  | modifier => ∃ count sides keep part, (dice count sides keep (some part)).WellFormed ∧
      ts = (dice count sides keep (some part)).terminals

variable {ts : List Terminal} {t : Terminal} {place after : Place} {cs back rest : List Char}

/-- One more whole terminal leads to the next place. -/
theorem Behind.next (h : Behind ts place) (hwhole : t.IsWhole back)
    (hnext : place.next t = some after) : Behind (ts ++ [t]) after := by
  -- Of the forty pairs of a place and a terminal, eleven lead on.
  cases place <;> cases t <;> cases hnext
  case start.digits.refl run => exact ⟨run, hwhole.1, by rw [h, List.nil_append]⟩
  case start.letter.refl => exact ⟨[], by simp, by rw [h]; rfl⟩
  case start.sign.refl s => exact ⟨s, by rw [h, List.nil_append]⟩
  case count.letter.refl =>
    rcases h with ⟨run, hrun, rfl⟩
    exact ⟨run, hrun.digits, by rw [countTerminals, if_neg hrun.ne_nil]⟩
  case leadingSign.digits.refl run =>
    rcases h with ⟨s, rfl⟩
    exact ⟨s, run, hwhole.1, rfl⟩
  case letter.digits.refl run =>
    rcases h with ⟨count, hcount, rfl⟩
    exact ⟨count, run, wellFormed_plain hcount hwhole.1, terminals_plain.symm⟩
  case sides.keep.refl side =>
    rcases h with ⟨count, sides, hwell, rfl⟩
    exact ⟨count, sides, side, hwell, rfl⟩
  case sides.sign.refl s =>
    rcases h with ⟨count, sides, hwell, rfl⟩
    exact ⟨count, sides, none, s, hwell, rfl⟩
  case keepEnd.digits.refl run =>
    rcases h with ⟨count, sides, side, hwell, rfl⟩
    exact ⟨count, sides, ⟨side, run⟩, wellFormed_keep hwell _ hwhole.1,
      (terminals_keep side run).symm⟩
  case keepCount.sign.refl s =>
    rcases h with ⟨count, sides, rule, hwell, rfl⟩
    exact ⟨count, sides, some rule, s, hwell, rfl⟩
  case sign.digits.refl run =>
    rcases h with ⟨count, sides, keep, s, hwell, rfl⟩
    exact ⟨count, sides, keep, ⟨s, run⟩, wellFormed_modifier hwell _ hwhole.1,
      (terminals_modifier s run).symm⟩

/-- A row of whole terminals leads to the place that it is walked to. -/
theorem behind_of_walk (hreads : Terminal.Reads ts cs rest) (hwalk : start.walk ts = some place) :
    Behind ts place := by
  induction ts using List.reverseRecOn generalizing rest place with
  | nil =>
    cases hwalk
    rfl
  | append_singleton ts t ih =>
    rcases Terminal.reads_append_singleton_iff.1 hreads with ⟨hts, hwhole⟩
    rw [walk_append_singleton, Option.bind_eq_some_iff] at hwalk
    rcases hwalk with ⟨before, hbefore, hnext⟩
    exact (ih hts hbefore).next hwhole hnext

/-- From every place some phrase goes on; where a number is missing, any number will do. -/
theorem Behind.exists_phrase (h : Behind ts place) :
    ∃ phrase : Phrase, phrase.WellFormed ∧ ts <+: phrase.terminals := by
  cases place with
  | start => exact ⟨.flat none ['1'], isDigits_one, by rw [h]; exact List.nil_prefix⟩
  | count =>
    rcases h with ⟨run, hrun, rfl⟩
    exact ⟨.flat none run, hrun, List.prefix_rfl⟩
  | leadingSign =>
    rcases h with ⟨s, rfl⟩
    exact ⟨.flat (some s) ['1'], isDigits_one, [.digits ['1']], rfl⟩
  | flat =>
    rcases h with ⟨s, run, hrun, rfl⟩
    exact ⟨.flat (some s) run, hrun, List.prefix_rfl⟩
  | letter =>
    rcases h with ⟨count, hcount, rfl⟩
    exact ⟨_, wellFormed_plain hcount isDigits_one, _, terminals_plain.symm⟩
  | sides =>
    rcases h with ⟨count, sides, hwell, rfl⟩
    exact ⟨_, hwell, List.prefix_rfl⟩
  | keepEnd =>
    rcases h with ⟨count, sides, side, hwell, rfl⟩
    exact ⟨_, wellFormed_keep hwell ⟨side, ['1']⟩ isDigits_one, _, (terminals_keep side _).symm⟩
  | keepCount =>
    rcases h with ⟨count, sides, rule, hwell, rfl⟩
    exact ⟨_, hwell, List.prefix_rfl⟩
  | sign =>
    rcases h with ⟨count, sides, keep, s, hwell, rfl⟩
    exact ⟨_, wellFormed_modifier hwell ⟨s, ['1']⟩ isDigits_one, _, (terminals_modifier s _).symm⟩
  | modifier =>
    rcases h with ⟨count, sides, keep, part, hwell, rfl⟩
    exact ⟨_, hwell, List.prefix_rfl⟩

end Place
end DiceRoller
