import DiceRoller.Proofs.Notation.Respelling
import DiceRoller.Proofs.Notation.Terminals

/-!
# Where reading stops

A text that is no notation is refused at the end of its longest row of whole terminals with which
some notation begins, and what is expected there can be told from the last two terminals of the
row.  The reader never looks for this row: it tries the parts of a phrase in order, and stops where
the first part that has to be there is missing.

Main results:

- Theorem `begins_iff`: a row begins a notation when it leads to a place of the grammar.
- Theorem `expectedAfter_of_walk`: the last two terminals of a row tell what is expected behind it.
- Theorem `Halts.isPrefix_of_begins`: where the reader has stopped, no longer row begins a notation.
- Theorem `exists_halts`: the reader stops nowhere else.
- Theorem `parse_refused_at`: the report on a text that is no notation.
-/

namespace DiceRoller
namespace Terminal

/-! ## Beginnings -/

/-- A row of whole terminals at the start of a text, with which some notation begins. -/
def Begins (cs : List Char) (ts : List Terminal) : Prop :=
  (∃ rest, Reads ts cs rest) ∧ ∃ phrase : Phrase, phrase.WellFormed ∧ ts <+: phrase.terminals

/-- No other such row has more characters. -/
def IsLongestBeginning (cs : List Char) (ts : List Terminal) : Prop :=
  Begins cs ts ∧ ∀ us, Begins cs us → (textOf us).length ≤ (textOf ts).length

/-- What is expected behind terminals, the last one first. -/
def namesBehind : List Terminal → String
  | [] => "notation"
  | digits _ :: letter :: _ => "EOI, sign, keep_hi, or keep_lo"
  | digits _ :: keep _ :: _ => "EOI or sign"
  | digits _ :: _ => "EOI"
  | _ :: _ => "number"

/-- What is expected behind a row of terminals. -/
def expectedAfter (ts : List Terminal) : String :=
  namesBehind ts.reverse

variable {t : Terminal} {ts us : List Terminal} {place after : Place} {cs whole rest : List Char}
  {fault : GrammarFault}

theorem Begins.of_append (h : Begins cs (ts ++ us)) : Begins cs ts := by
  rcases h with ⟨⟨rest, hreads⟩, phrase, hwell, hstarts⟩
  rcases reads_append_iff.1 hreads with ⟨back, hts, -⟩
  exact ⟨⟨back, hts⟩, phrase, hwell, (List.prefix_append ts us).trans hstarts⟩

/-- The rows that begin a notation are those that lead to a place of the grammar. -/
theorem begins_iff :
    Begins cs ts ↔ (∃ rest, Reads ts cs rest) ∧ ∃ place, Place.start.walk ts = some place := by
  constructor
  · rintro ⟨hreads, phrase, -, others, hterminals⟩
    rcases Place.exists_walk_terminals phrase with ⟨last, hlast⟩
    rw [← hterminals, Place.walk_append] at hlast
    rcases Option.bind_eq_some_iff.1 hlast with ⟨place, hplace, -⟩
    exact ⟨hreads, place, hplace⟩
  · rintro ⟨⟨rest, hreads⟩, place, hwalk⟩
    exact ⟨⟨rest, hreads⟩, (Place.behind_of_walk hreads hwalk).exists_phrase⟩

/-- The last two terminals tell what is expected at a place. -/
theorem namesBehind_of_next {before : Place} {u : Terminal}
    (ht : before.next t = some place) (hu : place.next u = some after) (front : List Terminal) :
    namesBehind (u :: t :: front) = after.expected.names := by
  cases before <;> cases t <;> cases ht <;> cases u <;> cases hu <;> rfl

/-- The place that a row of terminals leads to tells what is expected behind it. -/
theorem expectedAfter_of_walk (h : Place.start.walk ts = some place) :
    expectedAfter ts = place.expected.names := by
  rcases List.eq_nil_or_concat ts with rfl | ⟨front, u, rfl⟩
  · cases h
    rfl
  · rw [List.concat_eq_append, Place.walk_append_singleton, Option.bind_eq_some_iff] at h
    rcases h with ⟨before, hbefore, hu⟩
    rw [expectedAfter, List.concat_eq_append, List.reverse_append, List.reverse_singleton,
      List.singleton_append]
    rcases List.eq_nil_or_concat front with rfl | ⟨front, t, rfl⟩
    · cases hbefore
      cases u <;> cases hu <;> rfl
    · rw [List.concat_eq_append, Place.walk_append_singleton, Option.bind_eq_some_iff] at hbefore
      rcases hbefore with ⟨first, -, ht⟩
      rw [List.concat_eq_append, List.reverse_append, List.reverse_singleton, List.singleton_append]
      exact namesBehind_of_next ht hu front.reverse

/-! ## Stopping -/

/-- A reader has stopped with a fault behind the terminals `ts` of a text, and no further terminal
of the text goes on with a notation. -/
structure Halts (whole : List Char) (ts : List Terminal) (fault : GrammarFault) : Prop where
  begins : Begins whole ts
  stuck : ∀ t, ¬ Begins whole (ts ++ [t])
  canonical : fault.canonical = whole
  read : fault.read = (textOf ts).length
  names : fault.expected.names = expectedAfter ts

/-- A reader stands at a place of the grammar, behind the terminals `ts` of a text and in front of
`rest`. -/
structure Stands (whole : List Char) (ts : List Terminal) (rest : List Char) (place : Place) :
    Prop where
  reads : Reads ts whole rest
  walk : Place.start.walk ts = some place

theorem stands_start (whole : List Char) : Stands whole [] whole .start :=
  ⟨.nil, rfl⟩

/-- A reader that takes a whole terminal moves on to the next place. -/
theorem Stands.next (h : Stands whole ts (t.text ++ rest) place) (hwhole : t.IsWhole rest)
    (hnext : place.next t = some after) : Stands whole (ts ++ [t]) rest after where
  reads := reads_append_singleton_iff.2 ⟨h.reads, hwhole⟩
  walk := by
    rw [Place.walk_append_singleton, h.walk]
    exact hnext

/-- A reader stops rightly when nothing that may come next stands in the text. -/
theorem Stands.halts (h : Stands whole ts rest place)
    (hstuck : ∀ t back, rest = t.text ++ back → t.IsWhole back → place.next t = none) :
    Halts whole ts ⟨whole, Phrase.readBefore whole rest, place.expected⟩ where
  begins := begins_iff.2 ⟨⟨rest, h.reads⟩, place, h.walk⟩
  stuck := by
    intro t hbegins
    rcases begins_iff.1 hbegins with ⟨⟨back, hlonger⟩, after, hafter⟩
    rcases reads_append_singleton_iff.1 hlonger with ⟨hreads, hwhole⟩
    rw [Place.walk_append_singleton, h.walk, Option.bind_some,
      hstuck t back (h.reads.rest_eq hreads) hwhole] at hafter
    cases hafter
  canonical := rfl
  read := by
    show whole.length - rest.length = (textOf ts).length
    rw [h.reads.eq_append, List.length_append, Nat.add_sub_cancel]
  names := (expectedAfter_of_walk h.walk).symm

/-- Where a reader has stopped, no longer row begins a notation. -/
theorem Halts.isPrefix_of_begins (h : Halts whole ts fault) (hus : Begins whole us) :
    us <+: ts := by
  rcases h.begins.1 with ⟨rest, hreads⟩
  rcases hus.1 with ⟨rest', hreads'⟩
  rcases hreads.comparable hreads' with hlonger | hshorter
  · rcases hlonger with ⟨others, rfl⟩
    cases others with
    | nil => exact ⟨[], by simp⟩
    | cons t others =>
      rw [List.append_cons] at hus
      exact absurd hus.of_append (h.stuck t)
  · exact hshorter

theorem Halts.isLongestBeginning (h : Halts whole ts fault) : IsLongestBeginning whole ts := by
  refine ⟨h.begins, ?_⟩
  intro us hus
  rcases h.isPrefix_of_begins hus with ⟨others, rfl⟩
  rw [textOf, textOf, List.flatMap_append, List.length_append]
  exact Nat.le_add_right _ _

/-- There is no second longest beginning. -/
theorem Halts.eq_of_isLongestBeginning (h : Halts whole ts fault)
    (hus : IsLongestBeginning whole us) : us = ts := by
  rcases h.isPrefix_of_begins hus.1 with ⟨others, rfl⟩
  cases others with
  | nil => exact (List.append_nil us).symm
  | cons t others =>
    -- No whole terminal is empty, so `us` would not be the longest.
    rcases h.begins.1 with ⟨rest, hreads⟩
    rcases reads_append_iff.1 hreads with ⟨back, -, hothers⟩
    cases hothers with
    | cons hwhole _ =>
      have hpos := List.length_pos_iff.2 hwhole.text_ne_nil
      have hle := hus.2 _ h.begins
      rw [textOf, textOf, List.flatMap_append, List.flatMap_cons, List.length_append,
        List.length_append] at hle
      omega

end Terminal

/-! ## The reader -/

namespace Phrase

open Terminal (Stands Halts stands_start)

variable {ts : List Terminal} {place : Place} {whole cs count : List Char} {fault : GrammarFault}

theorem eq_of_needDigits_eq_error (h : needDigits whole cs = .error fault) :
    fault = ⟨whole, readBefore whole cs, .number⟩ := by
  unfold needDigits at h
  split at h
  · cases h
    rfl
  · cases h

/-- Where a number is expected, nothing else may come next. -/
theorem next_eq_none_of_number (h : place.expected = .number) {t : Terminal}
    (ht : ∀ run, t ≠ .digits run) : place.next t = none := by
  cases t with
  | digits run => exact absurd rfl (ht run)
  | letter => cases place <;> first | rfl | cases h
  | keep side => cases place <;> first | rfl | cases h
  | sign s => cases place <;> first | rfl | cases h

/-- Where a number is expected, a reader that finds no digits stops rightly. -/
theorem halts_of_needDigits (hstands : Stands whole ts cs place)
    (hnumber : place.expected = .number) (h : needDigits whole cs = .error fault) :
    Halts whole ts fault := by
  rw [eq_of_needDigits_eq_error h, ← hnumber]
  apply hstands.halts
  intro t back hback hwhole
  apply next_eq_none_of_number hnumber
  rintro run rfl
  have hread : needDigits whole cs = .ok (run, back) :=
    needDigits_eq_ok_iff.2 ⟨hback, hwhole.1, hwhole.2⟩
  rw [h] at hread
  cases hread

/-- Digits that have to end the text are missing, or something stands behind them. -/
theorem lastDigits_eq_error {α : Type} {f : List Char → α}
    (h : (do
      match ← needDigits whole cs with
      | (digits, []) => .ok (f digits)
      | (_, rest) => stop whole rest .endOfText) = .error fault) :
    needDigits whole cs = .error fault ∨
      ∃ digits rest, cs = digits ++ rest ∧ IsDigits digits ∧ StopsDigits rest ∧
        fault = ⟨whole, readBefore whole rest, .endOfText⟩ := by
  rcases bind_eq_error_iff.1 h with hneed | ⟨⟨digits, rest⟩, hneed, hrest⟩
  · exact Or.inl hneed
  · rcases needDigits_eq_ok_iff.1 hneed with ⟨hcs, hdigits, hstop⟩
    refine Or.inr ⟨digits, rest, hcs, hdigits, hstop, ?_⟩
    cases rest with
    | nil => cases hrest
    | cons c rest =>
      cases hrest
      rfl

/-- A modifier that cannot be read, behind the sides or the number of kept dice. -/
theorem exists_halts_of_parseModifier (hstands : Stands whole ts cs place)
    (hsign : ∀ s, place.next (.sign s) = some .sign)
    (hothers : ∀ t back, cs = t.text ++ back → (∀ s, t ≠ .sign s) → place.next t = none)
    (h : parseModifier whole cs place.expected = .error fault) : ∃ ts, Halts whole ts fault := by
  unfold parseModifier at h
  split at h
  · cases h
  · split at h
    · rename_i hnone
      cases h
      refine ⟨ts, hstands.halts ?_⟩
      intro t back hback hwhole
      apply hothers t back hback
      rintro s rfl
      rw [takeSign_eq_some_iff.2 hback] at hnone
      cases hnone
    · rename_i sign rest htaken
      rw [takeSign_eq_some_iff.1 htaken] at hstands
      have hsigned := hstands.next (t := .sign sign) trivial (hsign sign)
      rcases lastDigits_eq_error h with hneed | ⟨digits, rest', rfl, hdigits, hstop, rfl⟩
      · exact ⟨_, halts_of_needDigits hsigned rfl hneed⟩
      · have hmodifier := hsigned.next (t := .digits digits) ⟨hdigits, hstop⟩ rfl
        exact ⟨_, hmodifier.halts fun _ _ _ _ => rfl⟩

/-- What follows the `d` cannot be read. -/
theorem exists_halts_of_parseDice (hstands : Stands whole ts cs .letter)
    (h : parseDice whole count cs = .error fault) : ∃ ts, Halts whole ts fault := by
  rcases bind_eq_error_iff.1 h with hneed | ⟨⟨sides, rest⟩, hneed, hmore⟩
  · exact ⟨_, halts_of_needDigits hstands rfl hneed⟩
  · rcases needDigits_eq_ok_iff.1 hneed with ⟨rfl, hsides, hstop⟩
    have hbehindSides := hstands.next (t := .digits sides) ⟨hsides, hstop⟩ rfl
    dsimp only at hmore
    split at hmore
    · rename_i side rest' hkeep
      rw [takeKeepEnd_eq_some_iff.1 hkeep] at hbehindSides
      have hbehindEnd := hbehindSides.next (t := .keep side) trivial rfl
      rcases bind_eq_error_iff.1 hmore with hneed | ⟨⟨digits, rest''⟩, hneed, hlast⟩
      · exact ⟨_, halts_of_needDigits hbehindEnd rfl hneed⟩
      · rcases needDigits_eq_ok_iff.1 hneed with ⟨rfl, hdigits, hstop⟩
        have hbehindRule := hbehindEnd.next (t := .digits digits) ⟨hdigits, hstop⟩ rfl
        rcases bind_eq_error_iff.1 hlast with hmodifier | ⟨modifier, -, hok⟩
        · refine exists_halts_of_parseModifier hbehindRule (fun _ => rfl) ?_ hmodifier
          intro t back hback hother
          cases t with
          | sign s => exact absurd rfl (hother s)
          | digits run => rfl
          | letter => rfl
          | keep side => rfl
        · cases hok
    · rename_i hkeep
      rcases bind_eq_error_iff.1 hmore with hmodifier | ⟨modifier, -, hok⟩
      · refine exists_halts_of_parseModifier hbehindSides (fun _ => rfl) ?_ hmodifier
        intro t back hback hother
        cases t with
        | sign s => exact absurd rfl (hother s)
        | digits run => rfl
        | letter => rfl
        | keep side =>
          rw [takeKeepEnd_eq_some_iff.2 hback] at hkeep
          cases hkeep
      · cases hok

/-- A reader stands behind the `d`, whether a number of dice stands in front of it or not. -/
theorem exists_stands_letter {rest : List Char} (h : takeDigits cs = (count, 'd' :: rest)) :
    ∃ ts, Stands cs ts rest .letter := by
  rcases takeDigits_eq_iff.1 h with ⟨rfl, hcount, hstop⟩
  have hstart := stands_start (count ++ 'd' :: rest)
  by_cases hnil : count = []
  · subst hnil
    exact ⟨_, hstart.next (t := .letter) trivial rfl⟩
  · have hbehindCount := hstart.next (t := .digits count) ⟨⟨hnil, hcount⟩, hstop⟩ rfl
    exact ⟨_, hbehindCount.next (t := .letter) trivial rfl⟩

/-- The reader stops nowhere but behind the longest row that begins a notation. -/
theorem exists_halts (h : parse cs = .error fault) : ∃ ts, Halts cs ts fault := by
  unfold parse at h
  split at h
  · rename_i count rest htaken
    rcases exists_stands_letter htaken with ⟨ts, hstands⟩
    exact exists_halts_of_parseDice hstands h
  · rename_i back hletter htaken
    -- Without digits and a `d`, the text has to start with the sign of a plain number.
    split at h
    · rename_i sign rest hsign
      rcases takeSign_eq_some_iff.1 hsign with rfl
      have hsigned := (stands_start (sign.char :: rest)).next (t := .sign sign) trivial rfl
      rcases lastDigits_eq_error h with hneed | ⟨digits, rest', rfl, hdigits, hstop, rfl⟩
      · exact ⟨_, halts_of_needDigits hsigned rfl hneed⟩
      · have hflat := hsigned.next (t := .digits digits) ⟨hdigits, hstop⟩ rfl
        exact ⟨_, hflat.halts fun _ _ _ _ => rfl⟩
    · rename_i hsign
      cases h
      refine ⟨[], (stands_start cs).halts ?_⟩
      intro t rest hrest hwhole
      cases t with
      | digits run =>
        have hrun := takeDigits_eq_iff.2 ⟨hrest, hwhole.1.digits, hwhole.2⟩
        rw [htaken, Prod.mk.injEq] at hrun
        exact absurd hrun.1.symm hwhole.1.ne_nil
      | letter =>
        have hnone : takeDigits ('d' :: rest) = ([], 'd' :: rest) := rfl
        rw [hrest] at htaken
        exact absurd (congrArg Prod.snd (htaken.symm.trans hnone)) (hletter rest)
      | keep side => rfl
      | sign s =>
        rw [takeSign_eq_some_iff.2 hrest] at hsign
        cases hsign
  · rename_i hdice hnone
    -- The digits could have been a number of dice, but no `d` stands behind them.
    rcases lastDigits_eq_error h with hneed | ⟨digits, rest, rfl, hdigits, hstop, rfl⟩
    · unfold needDigits at hneed
      split at hneed
      · rename_i htaken
        exact absurd htaken (hnone _)
      · cases hneed
    · have hstart := stands_start (digits ++ rest)
      have hbehindCount := hstart.next (t := .digits digits) ⟨hdigits, hstop⟩ rfl
      refine ⟨_, hbehindCount.halts ?_⟩
      intro t back hback hwhole
      cases t with
      | letter =>
        have htaken : takeDigits (digits ++ rest) = (digits, 'd' :: back) :=
          takeDigits_eq_iff.2 ⟨congrArg (digits ++ ·) hback, hdigits.digits, stopsDigits_d back⟩
        exact absurd htaken (hdice digits back)
      | digits run => rfl
      | keep side => rfl
      | sign s => rfl

end Phrase

/-! ## The report -/

/-- A notation is one line. -/
theorem Notation.newline_notMem_canonical (cs : List Char) : '\n' ∉ canonical cs := by
  intro hmem
  exact absurd (isWhitespace_of_mem_canonical hmem) (by decide)

/-- A text is refused for its form when it is no notation. -/
theorem Descriptor.exists_grammar_fault_iff {cs : List Char} :
    (∃ fault, Descriptor.parse cs = .error (.grammar fault)) ↔
      ¬ ∃ phrase : Phrase, phrase.WellFormed ∧ phrase.render = Notation.canonical cs := by
  simp only [Descriptor.parse_eq_grammar_iff, exists_error_iff, Phrase.parse_eq_ok_iff]

/-- A text that is no notation is refused behind the longest row of whole terminals at its start
with which some notation begins.  The report is about a single line, counts the characters of the
row, and names what is expected behind the row. -/
theorem parse_refused_at {cs : List Char}
    (h : ¬ ∃ phrase : Phrase, phrase.WellFormed ∧ phrase.render = Notation.canonical cs) :
    let c := Notation.canonical cs
    '\n' ∉ c ∧
    ∃ ts, Terminal.IsLongestBeginning c ts ∧
      (∀ us, Terminal.IsLongestBeginning c us → us = ts) ∧
      ∃ fault, Descriptor.parse cs = .error (.grammar fault) ∧ fault.canonical = c ∧
        fault.read = (Terminal.textOf ts).length ∧
        fault.expected.names = Terminal.expectedAfter ts ∧
        (Error.grammar fault).message =
          " --> 1:" ++ toString ((Terminal.textOf ts).length + 1) ++
            "\n  |\n1 | " ++ String.ofList c ++ "\n  | " ++
            String.ofList (List.replicate (Terminal.textOf ts).length ' ') ++
            "^---\n  |\n" ++ ("  = expected " ++ Terminal.expectedAfter ts) := by
  intro c
  rcases Descriptor.exists_grammar_fault_iff.2 h with ⟨fault, hfault⟩
  rcases Phrase.exists_halts (Descriptor.parse_eq_grammar_iff.1 hfault) with ⟨ts, hhalts⟩
  refine ⟨Notation.newline_notMem_canonical cs, ts, hhalts.isLongestBeginning, ?_, fault, hfault,
    hhalts.canonical, hhalts.read, hhalts.names, ?_⟩
  · intro us hus
    exact hhalts.eq_of_isLongestBeginning hus
  · have hcanonical : c = fault.canonical := hhalts.canonical.symm
    rw [← hhalts.read, ← hhalts.names, hcanonical]
    rfl

/-- A keep rule with a slip in its keyword is refused behind the sides. -/
theorem parse_refused_at_misspelled_keep :
    let cs := "4 D6 kx 3".toList
    (¬ ∃ phrase : Phrase, phrase.WellFormed ∧ phrase.render = Notation.canonical cs) ∧
      Descriptor.parse cs = .error (.grammar ⟨"4d6kx3".toList, 3, .keepSignOrEnd⟩) ∧
      ∃ ts, Terminal.IsLongestBeginning "4d6kx3".toList ts ∧ (Terminal.textOf ts).length = 3 ∧
        Terminal.expectedAfter ts = "EOI, sign, keep_hi, or keep_lo" := by
  intro cs
  have hcanonical : Notation.canonical cs = "4d6kx3".toList := by decide +kernel
  have hparse : Descriptor.parse cs = .error (.grammar ⟨"4d6kx3".toList, 3, .keepSignOrEnd⟩) := by
    decide +kernel
  have hrefused : ¬ ∃ phrase : Phrase, phrase.WellFormed ∧ phrase.render = Notation.canonical cs :=
    Descriptor.exists_grammar_fault_iff.1 ⟨_, hparse⟩
  rcases parse_refused_at hrefused with ⟨-, ts, hlongest, -, fault, hfault, -, hread, hnames, -⟩
  rw [hparse, Except.error.injEq, Error.grammar.injEq] at hfault
  rw [hcanonical] at hlongest
  rw [← hfault] at hread hnames
  exact ⟨hrefused, hparse, ts, hlongest, hread.symm, hnames.symm⟩

end DiceRoller
