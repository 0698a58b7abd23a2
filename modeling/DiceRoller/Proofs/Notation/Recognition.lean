import DiceRoller.Proofs.Notation.Recognizer
import DiceRoller.Proofs.Notation.Respelling

/-!
# The reader against the rules

The reader of phrases takes their parts in order and stops at the first one that is missing, with what
is expected there as a constant.  The recognizer tries the rules of the grammar one by one, goes back
where the second of two rules may still fit, and finds out from the rules that failed what was expected.
Both accept the same texts, and both stop at the same place with the same rules.

Main results:

- Theorems `exists_settles_dice`, `exists_settles_signed`, `exists_settles_digits` and
  `recognize_phrase_start`: one for each way in which a text can begin.
- Theorem `failure?_eq`: what the rules report is what the reader reports.
- Theorem `Descriptor.failure?_of_parse`: so it is for every text as typed.
-/

namespace DiceRoller

namespace Grammar

open Phrase (IsDigits StopsDigits takeDigits takeSign takeKeepEnd renderKeepEnd)

variable {attempts after : Attempts} {cs run rest back whole count : List Char}

/-! ## What the reader reports -/

/-- The end of a recognizer that was to read a text of `size` characters to its end, against what the
reader says. -/
def Reports {α : Type} (size : Nat) (ended : Option (List Char) × Attempts) :
    Except GrammarFault α → Prop
  | .ok _ => ended.1 = some []
  | .error fault => ended.1 = none ∧ size - ended.2.left = fault.read ∧
      inOrder ended.2.rules = fault.expected.rules

variable {α : Type} {expected : Expected} {result : Except GrammarFault α}

/-- A recognizer that failed at a place against a reader that stops there. -/
theorem reports_stop {rules : List GrammarRule} (h : inOrder rules = expected.rules) :
    Reports whole.length (none, ⟨rest.length, rules⟩)
      (Phrase.stop whole rest expected : Except GrammarFault α) :=
  ⟨rfl, rfl, h⟩

/-- Digits behind a sign, which end the text. -/
theorem reports_lastDigits {f : List Char → α} (hlt : rest.length < attempts.left)
    (hrun : IsDigits run) (hstop : StopsDigits rest) (hcs : cs = run ++ rest) :
    Reports whole.length (ending.recognize rest attempts)
      (do
        match ← Phrase.needDigits whole cs with
        | (last, []) => .ok (f last)
        | (_, rest) => Phrase.stop whole rest .endOfText) := by
  have hneed : Phrase.needDigits whole cs = .ok (run, rest) :=
    Phrase.needDigits_eq_ok_iff.2 ⟨hcs, hrun, hstop⟩
  rw [hneed]
  cases rest with
  | nil => rfl
  | cons c rest =>
    rw [recognize_ending_of_ne_nil (List.cons_ne_nil _ _), Attempts.fail_of_lt_left hlt]
    exact reports_stop rfl

/-- Digits that are missing. -/
theorem reports_needDigits {f : List Char × List Char → Except GrammarFault α}
    (h : takeDigits cs = ([], rest)) :
    Reports whole.length (none, ⟨cs.length, [.number]⟩) (Phrase.needDigits whole cs >>= f) := by
  have hneed : Phrase.needDigits whole cs = Phrase.stop whole cs .number := by
    rw [Phrase.needDigits, h]
  rw [hneed]
  exact reports_stop rfl

/-- The modifier that ends a roll of dice, where the rules in front of it tell what else is expected. -/
theorem reports_modifier (hcs : IsCompact cs) (hle : cs.length ≤ attempts.left)
    (hexpected : inOrder (attempts.rulesAt cs.length ++ [.sign, .textEnd]) = expected.rules) :
    ∃ rest after, (maybe modifier).recognize cs attempts = (some rest, after) ∧
      Reports whole.length (ending.recognize rest after)
        (Phrase.parseModifier whole cs expected) := by
  cases hsign : takeSign cs with
  | none =>
    have hmodifier : modifier.recognize cs attempts = (none, attempts.fail .sign cs.length) :=
      recognize_rule_of_fail (recognize_andThen_of_none _ (recognize_sign_of_none attempts hcs hsign))
    refine ⟨cs, _, recognize_maybe_of_none hmodifier, ?_⟩
    rw [Attempts.fail_of_le hle]
    unfold Phrase.parseModifier
    cases cs with
    | nil => rfl
    | cons c cs =>
      rw [recognize_ending_of_ne_nil (List.cons_ne_nil _ _), Attempts.fail_of_le le_rfl,
        Attempts.rulesAt_left]
      simp only [hsign]
      exact reports_stop (by rw [List.append_assoc]; exact hexpected)
  | some taken =>
    rcases taken with ⟨s, back⟩
    rcases Phrase.takeSign_eq_some_iff.1 hsign with rfl
    have hlt : back.length < attempts.left := hle
    have hbody : (andThen sign number).recognize (s.char :: back) attempts =
        number.recognize back attempts :=
      recognize_andThen_of_some _ hcs (recognize_sign s back attempts)
    unfold Phrase.parseModifier
    simp only [hsign]
    rcases takeDigits_cases back with ⟨rest, hnone⟩ | ⟨run, rest, rfl, hrun, hstop⟩
    · -- The sign was read in vain; the end of the text, which comes next, fails in front of it.
      rw [recognize_number_of_none attempts hnone, Attempts.fail_of_lt_left hlt] at hbody
      have hfurther : back.length < (s.char :: back).length := Nat.lt_succ_self _
      refine ⟨_, _, recognize_maybe_of_none (recognize_rule_of_further hbody hfurther), ?_⟩
      rw [recognize_ending_of_ne_nil (List.cons_ne_nil _ _), Attempts.fail_of_lt hfurther]
      exact reports_needDigits hnone
    · rw [recognize_number attempts hrun hstop] at hbody
      refine ⟨rest, attempts, recognize_maybe_of_some (recognize_rule_of_some hbody), ?_⟩
      rw [List.length_append] at hlt
      exact reports_lastDigits (by omega) hrun hstop rfl

/-! ## Whole texts -/

/-- A step that cannot fail changes nothing about what is reported. -/
theorem Reports.bind_ok {size : Nat} {ended : Option (List Char) × Attempts} {β : Type}
    (h : Reports size ended result) (f : α → β) :
    Reports size ended (result >>= fun a => .ok (f a)) := by
  cases result with
  | error fault => exact h
  | ok a => exact h

/-- The reader behind the sides, where no keep rule follows. -/
theorem parseDice_of_none (hrun : IsDigits run) (hstop : StopsDigits cs)
    (h : takeKeepEnd cs = none) :
    Phrase.parseDice whole count (run ++ cs) =
      (Phrase.parseModifier whole cs .keepSignOrEnd >>= fun last =>
        .ok (.dice count run none last)) := by
  have hneed : Phrase.needDigits whole (run ++ cs) = .ok (run, cs) :=
    Phrase.needDigits_eq_ok_iff.2 ⟨rfl, hrun, hstop⟩
  simp only [Phrase.parseDice, hneed, bind, Except.bind, h]

/-- The reader behind the sides, where a keep rule follows. -/
theorem parseDice_of_some {side : KeepEnd} (hrun : IsDigits run) (hstop : StopsDigits cs)
    (h : takeKeepEnd cs = some (side, back)) :
    Phrase.parseDice whole count (run ++ cs) =
      (Phrase.needDigits whole back >>= fun kept =>
        Phrase.parseModifier whole kept.2 .signOrEnd >>= fun last =>
          .ok (.dice count run (some ⟨side, kept.1⟩) last)) := by
  have hneed : Phrase.needDigits whole (run ++ cs) = .ok (run, cs) :=
    Phrase.needDigits_eq_ok_iff.2 ⟨rfl, hrun, hstop⟩
  simp only [Phrase.parseDice, hneed, bind, Except.bind, h]

/-- The keep rule and the modifier behind the sides.  Both may be missing, and what is left over is
refused by the end of the text. -/
theorem reports_rules (hrun : IsDigits run) (hstop : StopsDigits cs) (hcs : IsCompact cs)
    (hlt : cs.length < attempts.left) :
    ∃ rest after, (andThen keeps (maybe modifier)).recognize cs attempts = (some rest, after) ∧
      Reports whole.length (ending.recognize rest after)
        (Phrase.parseDice whole count (run ++ cs)) := by
  cases hkeep : takeKeepEnd cs with
  | none =>
    rw [parseDice_of_none hrun hstop hkeep]
    have hkeeps := recognize_keeps_of_none hcs hlt.le hkeep
    rw [Attempts.rulesAt_of_lt hlt] at hkeeps
    have hexpected : inOrder ((Attempts.mk cs.length [.keepHigh, .keepLow]).rulesAt cs.length ++
        [.sign, .textEnd]) = Expected.keepSignOrEnd.rules := by
      rw [Attempts.rulesAt_left]
      rfl
    rcases reports_modifier hcs le_rfl hexpected with ⟨rest, after, hmodifier, hreports⟩
    exact ⟨rest, after, (recognize_andThen_of_some _ hcs hkeeps).trans hmodifier, hreports.bind_ok _⟩
  | some taken =>
    rcases taken with ⟨side, back⟩
    rw [parseDice_of_some hrun hstop hkeep]
    rcases Phrase.takeKeepEnd_eq_some_iff.1 hkeep with rfl
    have hback : IsCompact back := hcs.of_suffix (List.suffix_append _ back)
    rcases takeDigits_cases back with ⟨rest, hnone⟩ | ⟨digits, rest, rfl, hdigits, hstop⟩
    · -- The end of the text, which comes next, fails in front of the keyword.
      have hlength := lt_length_renderKeepEnd_append side back
      refine ⟨_, _, recognize_rules_of_number hcs hlt.le hnone, ?_⟩
      rw [recognize_ending_of_ne_nil (List.ne_nil_of_length_pos (by omega)),
        Attempts.fail_of_lt hlength]
      exact reports_needDigits hnone
    · have hrest : IsCompact rest := hback.of_suffix (List.suffix_append digits rest)
      rcases recognize_keeps hcs hlt.le hdigits hstop with ⟨after, hkeeps, hle⟩
      have hlt : rest.length < after.left := by
        simp only [List.length_append] at hle
        have hpos := List.length_pos_iff.2 hdigits.ne_nil
        omega
      have hneed : Phrase.needDigits whole (digits ++ rest) = .ok (digits, rest) :=
        Phrase.needDigits_eq_ok_iff.2 ⟨rfl, hdigits, hstop⟩
      have hexpected : inOrder (after.rulesAt rest.length ++ [.sign, .textEnd]) =
          Expected.signOrEnd.rules := by
        rw [Attempts.rulesAt_of_lt hlt]
        rfl
      rcases reports_modifier hrest hlt.le hexpected with ⟨rest', after', hmodifier, hreports⟩
      refine ⟨rest', after', (recognize_andThen_of_some _ hcs hkeeps).trans hmodifier, ?_⟩
      rw [hneed]
      exact hreports.bind_ok _

/-- What follows the `d`.  Only the sides have to be there. -/
theorem reports_behindLetter (whole count : List Char) {attempts : Attempts} (hcs : IsCompact cs)
    (hlt : cs.length < attempts.left) :
    (behindLetter.recognize cs attempts = (none, ⟨cs.length, [.number]⟩) ∧
      Reports whole.length (none, ⟨cs.length, [.number]⟩) (Phrase.parseDice whole count cs)) ∨
    ∃ rest after, behindLetter.recognize cs attempts = (some rest, after) ∧
      Reports whole.length (ending.recognize rest after) (Phrase.parseDice whole count cs) := by
  rcases takeDigits_cases cs with ⟨back, hnone⟩ | ⟨run, rest, rfl, hrun, hstop⟩
  · left
    have hsides : sides.recognize cs attempts = (none, attempts.fail .number cs.length) :=
      recognize_rule_of_fail (recognize_number_of_none attempts hnone)
    rw [Attempts.fail_of_lt_left hlt] at hsides
    exact ⟨recognize_andThen_of_none _ hsides, reports_needDigits hnone⟩
  · right
    have hrest : IsCompact rest := hcs.of_suffix (List.suffix_append run rest)
    have hsides : sides.recognize (run ++ rest) attempts = (some rest, attempts) :=
      recognize_rule_of_some (recognize_number attempts hrun hstop)
    have hlt : rest.length < attempts.left := by
      rw [List.length_append] at hlt
      omega
    rcases reports_rules hrun hstop hrest hlt with ⟨rest', after, hrules, hreports⟩
    exact ⟨rest', after, (recognize_andThen_of_some _ hcs hsides).trans hrules, hreports⟩

/-- How the recognizer of a whole text ended, less the rule around it, against what the reader says of
the text.  If it failed, it did so behind the start. -/
structure Settles (cs : List Char) (ended : Option (List Char) × Attempts)
    (result : Except GrammarFault Phrase) : Prop where
  recognize : (andThen (orElse dice flat) ending).recognize cs ⟨cs.length, []⟩ = ended
  reports : Reports cs.length ended result
  further : ended.1 = none → ended.2.left < cs.length

/-- A text that goes on behind one of the two kinds of notation, up to the end of the text. -/
theorem settles_ending {result : Except GrammarFault Phrase} (hcs : IsCompact cs)
    (hread : (orElse dice flat).recognize cs ⟨cs.length, []⟩ = (some rest, after))
    (hlt : rest.length < cs.length)
    (hreports : Reports cs.length (ending.recognize rest after) result) :
    Settles cs (ending.recognize rest after) result where
  recognize := recognize_andThen_of_some _ hcs hread
  reports := hreports
  further := by
    intro hnone
    cases rest with
    | nil => cases hnone
    | cons c rest =>
      rw [recognize_ending_of_ne_nil (List.cons_ne_nil _ _)]
      exact Attempts.left_fail_le.trans_lt hlt

/-- Where the sides are missing, the text is no plain number either: there is no number in front of the
`d`, or it does not end the text. -/
theorem recognize_of_dice_eq_none (hcs : IsCompact (count ++ 'd' :: cs))
    (hcount : ∀ c ∈ count, c.isDigit = true) (hle : after.left ≤ cs.length)
    (hdice : dice.recognize (count ++ 'd' :: cs) attempts = (none, after)) :
    (andThen (orElse dice flat) ending).recognize (count ++ 'd' :: cs) attempts = (none, after) := by
  have hlt : after.left < ('d' :: cs).length := Nat.lt_succ_of_le hle
  by_cases hnil : count = []
  · subst hnil
    have hsign := recognize_maybe_sign hcs hlt rfl
    have hnumber := recognize_number_of_none after (rfl : takeDigits ('d' :: cs) = ([], 'd' :: cs))
    rw [Attempts.fail_of_lt hlt] at hnumber
    have hflat : flat.recognize ('d' :: cs) after = (none, after) :=
      recognize_rule_of_further ((recognize_andThen_of_some _ hcs hsign).trans hnumber) hlt
    exact recognize_andThen_of_none _ ((recognize_orElse_of_none hdice).trans hflat)
  · have hdigits : IsDigits count := ⟨hnil, hcount⟩
    have hlength : ('d' :: cs).length ≤ (count ++ 'd' :: cs).length :=
      (List.suffix_append count ('d' :: cs)).length_le
    have hsign := recognize_maybe_sign hcs (hlt.trans_le hlength) (takeSign_of_isDigits hdigits)
    have hflat : flat.recognize (count ++ 'd' :: cs) after = (some ('d' :: cs), after) :=
      recognize_rule_of_some ((recognize_andThen_of_some _ hcs hsign).trans
        (recognize_number after hdigits (Phrase.stopsDigits_d cs)))
    rw [recognize_andThen_of_some _ hcs ((recognize_orElse_of_none hdice).trans hflat),
      recognize_ending_of_ne_nil (List.cons_ne_nil _ _), Attempts.fail_of_lt hlt]

/-- A text that begins with an optional number of dice and a `d`. -/
theorem exists_settles_dice (hcs : IsCompact (count ++ 'd' :: cs))
    (hcount : ∀ c ∈ count, c.isDigit = true) :
    ∃ ended, Settles (count ++ 'd' :: cs) ended
      (Phrase.parseDice (count ++ 'd' :: cs) count cs) := by
  have hletter : IsCompact ('d' :: cs) := hcs.of_suffix (List.suffix_append count _)
  have hbehind : IsCompact cs := hletter.of_suffix (List.suffix_cons 'd' cs)
  have hlt : cs.length < (count ++ 'd' :: cs).length := by
    simp
    omega
  rcases recognize_maybe_count hcount (Phrase.stopsDigits_d cs) with ⟨before, hmaybe, hleft⟩
  -- Up to the `d` nothing can fail but the number of dice, which may be left out.
  have hfront : (andThen (maybe Grammar.count) (andThen (word ['d']) behindLetter)).recognize
      (count ++ 'd' :: cs) ⟨(count ++ 'd' :: cs).length, []⟩ = behindLetter.recognize cs before :=
    (recognize_andThen_of_some _ hcs hmaybe).trans (recognize_andThen_of_some _ hletter rfl)
  rcases reports_behindLetter (count ++ 'd' :: cs) count hbehind (hlt.trans_eq hleft.symm) with
    ⟨hnone, hreports⟩ | ⟨rest, after, hrest, hreports⟩
  · have hdice : dice.recognize _ _ = (none, _) :=
      recognize_rule_of_further (hfront.trans hnone) hlt
    exact ⟨_, recognize_of_dice_eq_none hcs hcount le_rfl hdice, hreports, fun _ => hlt⟩
  · have hdice : dice.recognize _ _ = (some rest, after) :=
      recognize_rule_of_some (hfront.trans hrest)
    have hle := (suffix_of_recognize hrest).length_le
    exact ⟨_, settles_ending hcs (recognize_orElse_of_some hdice) (hle.trans_lt hlt) hreports⟩

/-- A text that begins with a sign. -/
theorem exists_settles_signed (s : Sign) (hcs : IsCompact (s.char :: cs)) :
    ∃ ended, Settles (s.char :: cs) ended (Phrase.parseFlat (s.char :: cs) (some s) cs) := by
  have hnone : takeDigits (s.char :: cs) = ([], s.char :: cs) := by
    cases s <;> rfl
  have hletter : ∀ rest, s.char :: cs ≠ 'd' :: rest := by
    intro rest h
    cases s <;> cases h
  have hdice := recognize_dice_of_none hcs hnone hletter
  have hfront := recognize_andThen_of_some number hcs (recognize_maybe_of_some
    (recognize_sign s cs ⟨(s.char :: cs).length, [.number]⟩))
  have hlt : cs.length < (s.char :: cs).length := Nat.lt_succ_self _
  rcases takeDigits_cases cs with ⟨rest, hnone⟩ | ⟨run, rest, rfl, hrun, hstop⟩
  · have hnumber := recognize_number_of_none ⟨(s.char :: cs).length, [.number]⟩ hnone
    rw [Attempts.fail_of_lt_left hlt] at hnumber
    have hflat : flat.recognize (s.char :: cs) ⟨(s.char :: cs).length, [.number]⟩ =
        (none, ⟨cs.length, [.number]⟩) :=
      recognize_rule_of_further (hfront.trans hnumber) hlt
    exact ⟨_, recognize_andThen_of_none _ ((recognize_orElse_of_none hdice).trans hflat),
      reports_needDigits hnone, fun _ => hlt⟩
  · have hnumber := recognize_number ⟨(s.char :: (run ++ rest)).length, [.number]⟩ hrun hstop
    have hflat : flat.recognize _ _ = (some rest, _) :=
      recognize_rule_of_some (hfront.trans hnumber)
    have hrest : rest.length < (s.char :: (run ++ rest)).length := by
      rw [List.length_cons, List.length_append]
      omega
    exact ⟨_, settles_ending hcs ((recognize_orElse_of_none hdice).trans hflat) hrest
      (reports_lastDigits hrest hrun hstop rfl)⟩

/-- A text that begins with a number, and no `d` behind it. -/
theorem exists_settles_digits (hcs : IsCompact (run ++ rest)) (hrun : IsDigits run)
    (hstop : StopsDigits rest) (h : ∀ back, rest ≠ 'd' :: back) :
    ∃ ended, Settles (run ++ rest) ended (Phrase.parseFlat (run ++ rest) none (run ++ rest)) := by
  have hdice := recognize_dice_of_digits hcs hrun hstop h
  have hsign := recognize_sign_of_none ⟨(run ++ rest).length, [.dice]⟩ hcs
    (takeSign_of_isDigits hrun)
  rw [Attempts.fail_of_le le_rfl] at hsign
  have hflat : flat.recognize (run ++ rest) _ = (some rest, _) :=
    recognize_rule_of_some ((recognize_andThen_of_some _ hcs (recognize_maybe_of_none hsign)).trans
      (recognize_number _ hrun hstop))
  have hrest : rest.length < (run ++ rest).length := by
    rw [List.length_append]
    have hpos := List.length_pos_iff.2 hrun.ne_nil
    omega
  exact ⟨_, settles_ending hcs ((recognize_orElse_of_none hdice).trans hflat) hrest
    (reports_lastDigits hrest hrun hstop rfl)⟩

/-- At the start of a text several rules fail, which are all parts of one. -/
theorem recognize_phrase_start (hcs : IsCompact cs) (hnone : takeDigits cs = ([], rest))
    (h : ∀ rest, cs ≠ 'd' :: rest) (hsign : takeSign cs = none) :
    phrase.recognize cs ⟨cs.length, []⟩ = (none, ⟨cs.length, [.phrase]⟩) := by
  have hdice := recognize_dice_of_none hcs hnone h
  have hsign := recognize_sign_of_none ⟨cs.length, [.number]⟩ hcs hsign
  rw [Attempts.fail_of_le le_rfl, Attempts.rulesAt_left] at hsign
  have hnumber := recognize_number_of_none ⟨cs.length, [.number] ++ [.sign]⟩ hnone
  rw [Attempts.fail_of_le le_rfl, Attempts.rulesAt_left] at hnumber
  have hflat : flat.recognize cs ⟨cs.length, [.number]⟩ = (none, ⟨cs.length, [.number, .flat]⟩) := by
    rw [flat, recognize, recognize_andThen_of_some _ hcs (recognize_maybe_of_none hsign), hnumber]
    simp [Attempts.note]
  have hbody := recognize_andThen_of_none ending
    ((recognize_orElse_of_none hdice).trans hflat)
  rw [phrase, recognize, recognize_andThen_of_some _ hcs (recognize.eq_1 cs _), hbody]
  simp [Attempts.note]

/-- What the reader says of a text, in the words of the recognizer. -/
def report : Except GrammarFault Phrase → Option (Nat × List GrammarRule)
  | .ok _ => none
  | .error fault => some (fault.read, fault.expected.rules)

/-- So the rule around it changes nothing. -/
theorem Settles.failure?_eq {ended : Option (List Char) × Attempts}
    {result : Except GrammarFault Phrase} (hcs : IsCompact cs) (h : Settles cs ended result) :
    failure? cs = report result := by
  have hbody : (andThen textStart (andThen (orElse dice flat) ending)).recognize cs
      ⟨cs.length, []⟩ = ended :=
    (recognize_andThen_of_some _ hcs (recognize.eq_1 cs _)).trans h.recognize
  rcases ended with ⟨_ | rest, after⟩
  · have hphrase : phrase.recognize cs ⟨cs.length, []⟩ = (none, after) :=
      recognize_rule_of_further hbody (h.further rfl)
    rw [failure?, hphrase]
    cases result with
    | ok read => cases h.reports
    | error fault =>
      rcases h.reports with ⟨-, hread, hrules⟩
      rw [report, ← hread, ← hrules]
  · have hphrase : phrase.recognize cs ⟨cs.length, []⟩ = (some rest, after) :=
      recognize_rule_of_some hbody
    rw [failure?, hphrase]
    cases result with
    | ok read => rfl
    | error fault => cases h.reports.1

/-- On a text without capitals and white space the rules report what the reader does. -/
theorem failure?_eq (hcs : IsCompact cs) : failure? cs = report (Phrase.parse cs) := by
  unfold Phrase.parse
  split
  · rename_i count rest htaken
    rcases Phrase.takeDigits_eq_iff.1 htaken with ⟨rfl, hcount, -⟩
    rcases exists_settles_dice hcs hcount with ⟨ended, hsettles⟩
    exact hsettles.failure?_eq hcs
  · rename_i back hletter htaken
    have hne : ∀ rest, cs ≠ 'd' :: rest := by
      intro rest hrest
      have hcut : takeDigits ('d' :: rest) = ([], 'd' :: rest) := rfl
      rw [hrest, hcut] at htaken
      exact hletter rest (Prod.mk.inj htaken).2.symm
    split
    · rename_i s rest hsign
      rcases Phrase.takeSign_eq_some_iff.1 hsign with rfl
      rcases exists_settles_signed s hcs with ⟨ended, hsettles⟩
      exact hsettles.failure?_eq hcs
    · rename_i hsign
      rw [failure?, recognize_phrase_start hcs htaken hne hsign]
      show some (cs.length - cs.length, inOrder [.phrase]) =
        some (cs.length - cs.length, Expected.phrase.rules)
      rfl
  · rename_i hdice hdigits
    rcases takeDigits_cases cs with ⟨rest, hnone⟩ | ⟨run, rest, rfl, hrun, hstop⟩
    · exact absurd hnone (hdigits rest)
    · have htaken : takeDigits (run ++ rest) = (run, rest) :=
        Phrase.takeDigits_eq_iff.2 ⟨rfl, hrun.digits, hstop⟩
      have hne : ∀ back, rest ≠ 'd' :: back := by
        rintro back rfl
        exact hdice run back htaken
      rcases exists_settles_digits hcs hrun hstop hne with ⟨ended, hsettles⟩
      exact hsettles.failure?_eq hcs

/-! ## Texts as typed -/

/-- A canonical text has neither capitals nor white space. -/
theorem isCompact_canonical (cs : List Char) : IsCompact (Notation.canonical cs) := by
  intro c hc
  exact ⟨Notation.toLower_of_mem_canonical hc, Notation.isWhitespace_of_mem_canonical hc⟩

/-- What the rules report of a text as typed: nothing, if it has the form of a notation, and otherwise
the place and the names of the fault. -/
theorem failure?_canonical (cs : List Char) :
    failure? (Notation.canonical cs) = report (Phrase.parse (Notation.canonical cs)) :=
  failure?_eq (isCompact_canonical cs)

end Grammar

/-- A fault in the form of a notation is at the furthest place where a rule of the grammar fails, and
names the rules that fail there. -/
theorem Descriptor.failure?_of_parse {cs : List Char} {fault : GrammarFault}
    (h : Descriptor.parse cs = .error (.grammar fault)) :
    Grammar.failure? (Notation.canonical cs) = some (fault.read, fault.expected.rules) := by
  rw [Grammar.failure?_canonical, Descriptor.parse_eq_grammar_iff.1 h]
  rfl

/-- A keep rule with a slip in its keyword: behind the sides four rules fail. -/
example : Grammar.failure? "4d6kx3".toList =
    some (3, [.textEnd, .sign, .keepHigh, .keepLow]) := by decide

end DiceRoller
