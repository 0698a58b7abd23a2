import DiceRoller.Notation.Recognizer
import DiceRoller.Proofs.Notation.Grammar

/-!
# Trying a grammar

What the recognizer leaves of a text, and what it keeps of the rules that fail, for each way to put a
grammar together and for the parts of dice notation.  In a text without capitals and white space a part
is taken as it is written, and nothing is passed over between two parts.

Main results:

- Theorems `Attempts.note_of_lt`, `Attempts.fail_of_le` and `Attempts.note_fail`: which failures are
  kept, and which of two rules one inside the other stands for both.
- Theorems `recognize_keeps_of_none`, `recognize_keeps_of_number` and `recognize_keeps`: what there may
  be of a keep rule.
-/

namespace DiceRoller

/-! ## Failed rules -/

namespace Attempts

variable {attempts : Attempts} {rule other : GrammarRule} {rules : List GrammarRule}
  {left before : Nat}

/-- A rule failed without a failure inside it. -/
def fail (attempts : Attempts) (rule : GrammarRule) (left : Nat) : Attempts :=
  attempts.note rule left (attempts.rulesAt left).length

@[simp]
theorem rulesAt_left : (Attempts.mk left rules).rulesAt left = rules :=
  if_pos rfl

/-- Nothing has failed yet at a place further on. -/
theorem rulesAt_of_lt (h : left < attempts.left) : attempts.rulesAt left = [] :=
  if_neg (Nat.ne_of_gt h)

/-- What fails behind the furthest place is not kept. -/
theorem note_of_lt (h : attempts.left < left) : attempts.note rule left before = attempts := by
  have hnone : attempts.rulesAt left = [] := if_neg (Nat.ne_of_lt h)
  rw [note, hnone, if_neg (by simp), if_neg (Nat.not_le.2 h)]

/-- Such a failure leaves everything as it is. -/
theorem fail_of_lt (h : attempts.left < left) : attempts.fail rule left = attempts :=
  note_of_lt h

/-- At the furthest place, or further on, it is kept behind the others there. -/
theorem fail_of_le (h : left ≤ attempts.left) :
    attempts.fail rule left = ⟨left, attempts.rulesAt left ++ [rule]⟩ := by
  rw [fail, note, if_neg (Nat.ne_of_lt (Nat.lt_succ_self _)), if_pos h, List.take_length]

/-- Further on, nothing else is kept any more. -/
theorem fail_of_lt_left (h : left < attempts.left) : attempts.fail rule left = ⟨left, [rule]⟩ := by
  rw [fail_of_le h.le, rulesAt_of_lt h, List.nil_append]

/-- A failure at the furthest place, or further on, is where the furthest place is then. -/
theorem left_fail_of_le (h : left ≤ attempts.left) : (attempts.fail rule left).left = left := by
  rw [fail_of_le h]

/-- The furthest place is never behind a failure. -/
theorem left_fail_le : (attempts.fail rule left).left ≤ left := by
  rcases Nat.lt_or_ge attempts.left left with hlt | hle
  · exact (fail_of_lt hlt).symm ▸ hlt.le
  · exact (left_fail_of_le hle).le

/-- The only failure inside a rule stands for the rule. -/
theorem note_fail :
    (attempts.fail rule left).note other left (attempts.rulesAt left).length =
      attempts.fail rule left := by
  rcases Nat.lt_or_ge attempts.left left with hlt | hle
  · rw [fail_of_lt hlt, note_of_lt hlt]
  · rw [fail_of_le hle, note, rulesAt_left, if_pos (by simp)]

end Attempts

namespace Grammar

open Phrase (IsDigits StopsDigits takeDigits takeSign takeKeepEnd renderKeepEnd)

/-! ## Trying a grammar -/

/-- A text without capital letters and white space. -/
def IsCompact (cs : List Char) : Prop :=
  ∀ c ∈ cs, c.toLower = c ∧ c.isWhitespace = false

variable {first second part body : Grammar} {name : GrammarRule} {attempts after : Attempts}
  {cs run rest back whole count : List Char}

theorem IsCompact.of_suffix (h : IsCompact cs) (hrest : rest <:+ cs) : IsCompact rest :=
  fun c hc => h c (hrest.subset hc)

/-- There is nothing to pass over in it. -/
theorem IsCompact.dropWhile_eq (h : IsCompact cs) : cs.dropWhile Char.isWhitespace = cs := by
  cases cs with
  | nil => rfl
  | cons c cs => exact List.dropWhile_cons_of_neg (by simp [(h c List.mem_cons_self).2])

/-- The second part is tried behind the first one, with nothing between them. -/
theorem recognize_andThen_of_some (second : Grammar) (hcs : IsCompact cs)
    (h : first.recognize cs attempts = (some rest, after)) :
    (andThen first second).recognize cs attempts = second.recognize rest after := by
  simp only [recognize, h, (hcs.of_suffix (suffix_of_recognize h)).dropWhile_eq]

/-- Without its first part a row of two fails. -/
theorem recognize_andThen_of_none (second : Grammar)
    (h : first.recognize cs attempts = (none, after)) :
    (andThen first second).recognize cs attempts = (none, after) := by
  simp only [recognize, h]

/-- Of two ways the first one that fits is taken. -/
theorem recognize_orElse_of_some (h : first.recognize cs attempts = (some rest, after)) :
    (orElse first second).recognize cs attempts = (some rest, after) := by
  simp only [recognize, h]

/-- Where the first way does not fit, the second one is tried at the same place. -/
theorem recognize_orElse_of_none (h : first.recognize cs attempts = (none, after)) :
    (orElse first second).recognize cs attempts = second.recognize cs after := by
  simp only [recognize, h]

/-- An optional part that fits is taken. -/
theorem recognize_maybe_of_some (h : part.recognize cs attempts = (some rest, after)) :
    (maybe part).recognize cs attempts = (some rest, after) := by
  simp only [recognize, h]

/-- An optional part that does not fit takes nothing, but its failures are kept. -/
theorem recognize_maybe_of_none (h : part.recognize cs attempts = (none, after)) :
    (maybe part).recognize cs attempts = (some cs, after) := by
  simp only [recognize, h]

/-- A rule that fits leaves no trace. -/
theorem recognize_rule_of_some (h : body.recognize cs attempts = (some rest, after)) :
    (rule name body).recognize cs attempts = (some rest, after) := by
  simp only [recognize, h]

/-- A rule that fails with nothing inside it failing. -/
theorem recognize_rule_of_none (h : body.recognize cs attempts = (none, attempts)) :
    (rule name body).recognize cs attempts = (none, attempts.fail name cs.length) := by
  simp only [recognize, h]
  rfl

/-- A rule that fails where exactly one rule inside it has failed. -/
theorem recognize_rule_of_fail {inner : GrammarRule}
    (h : body.recognize cs attempts = (none, attempts.fail inner cs.length)) :
    (rule name body).recognize cs attempts = (none, attempts.fail inner cs.length) := by
  simp only [recognize, h, Attempts.note_fail]

/-- A rule that fails where something behind its start has failed. -/
theorem recognize_rule_of_further (h : body.recognize cs attempts = (none, after))
    (hlt : after.left < cs.length) :
    (rule name body).recognize cs attempts = (none, after) := by
  simp only [recognize, h, Attempts.note_of_lt hlt]

/-! ## Numbers, signs and keywords -/

/-- A number takes in all digits that stand there. -/
theorem recognize_number (attempts : Attempts) (hrun : IsDigits run) (hstop : StopsDigits rest) :
    number.recognize (run ++ rest) attempts = (some rest, attempts) := by
  apply recognize_rule_of_some
  have htaken : takeDigits (run ++ rest) = (run, rest) :=
    Phrase.takeDigits_eq_iff.2 ⟨rfl, hrun.digits, hstop⟩
  rw [recognize, htaken]
  cases run with
  | nil => exact absurd rfl hrun.ne_nil
  | cons c run => rfl

/-- Without digits the rule of numbers fails. -/
theorem recognize_number_of_none (attempts : Attempts) (h : takeDigits cs = ([], rest)) :
    number.recognize cs attempts = (none, attempts.fail .number cs.length) := by
  apply recognize_rule_of_none
  rw [recognize, h]

/-- A sign is one character. -/
theorem recognize_sign (s : Sign) (rest : List Char) (attempts : Attempts) :
    sign.recognize (s.char :: rest) attempts = (some rest, attempts) := by
  cases s <;> rfl

/-- Without a sign the rule of signs fails. -/
theorem recognize_sign_of_none (attempts : Attempts) (hcs : IsCompact cs)
    (h : takeSign cs = none) :
    sign.recognize cs attempts = (none, attempts.fail .sign cs.length) := by
  apply recognize_rule_of_none
  cases cs with
  | nil => rfl
  | cons c cs =>
    have hplus : c ≠ '+' := by
      rintro rfl
      cases h
    have hminus : c ≠ '-' := by
      rintro rfl
      cases h
    simp [recognize, dropWord?, (hcs c List.mem_cons_self).1, hplus, hminus]

/-- A word is read off the start of a text. -/
theorem dropWord?_append (letters : List Char) (h : IsCompact letters) (rest : List Char) :
    dropWord? letters (letters ++ rest) = some rest := by
  induction letters with
  | nil => rfl
  | cons letter letters ih =>
    rw [List.cons_append, dropWord?, if_pos (h letter List.mem_cons_self).1]
    exact ih (h.of_suffix (List.suffix_cons letter letters))

/-- A text without capitals begins with the word that was read off it. -/
theorem eq_append_of_dropWord? {letters : List Char} (hcs : IsCompact cs)
    (h : dropWord? letters cs = some rest) : cs = letters ++ rest := by
  induction letters generalizing cs with
  | nil => exact Option.some.inj h
  | cons letter letters ih =>
    cases cs with
    | nil => cases h
    | cons c cs =>
      rw [dropWord?, (hcs c List.mem_cons_self).1] at h
      split at h
      · rename_i hletter
        rw [hletter, ih (hcs.of_suffix (List.suffix_cons c cs)) h, List.cons_append]
      · cases h

/-- A word that stands there is passed over. -/
theorem recognize_word {letters : List Char} (h : IsCompact letters) (rest : List Char)
    (attempts : Attempts) :
    (word letters).recognize (letters ++ rest) attempts = (some rest, attempts) := by
  rw [recognize, dropWord?_append letters h]

/-- A word that does not stand there fails, but it is no rule. -/
theorem recognize_word_of_ne (letters : List Char) (attempts : Attempts) (hcs : IsCompact cs)
    (h : ∀ rest, cs ≠ letters ++ rest) : (word letters).recognize cs attempts = (none, attempts) := by
  have hnone : dropWord? letters cs = none :=
    Option.eq_none_iff_forall_ne_some.2 fun rest hrest => h rest (eq_append_of_dropWord? hcs hrest)
  rw [recognize, hnone]

/-- The keywords are written small. -/
theorem isCompact_renderKeepEnd (side : KeepEnd) : IsCompact (renderKeepEnd side) := by
  cases side <;>
    exact List.forall_mem_cons.2 ⟨by decide, List.forall_mem_singleton.2 (by decide)⟩

/-- Without its keyword a keep rule fails. -/
theorem recognize_keep_of_none {side : KeepEnd} (attempts : Attempts) (hcs : IsCompact cs)
    (h : ∀ rest, cs ≠ renderKeepEnd side ++ rest) :
    (keep side).recognize cs attempts = (none, attempts.fail (.keep side) cs.length) :=
  recognize_rule_of_none (recognize_andThen_of_none number (recognize_word_of_ne _ attempts hcs h))

/-- A keyword is not empty. -/
theorem lt_length_renderKeepEnd_append (side : KeepEnd) (rest : List Char) :
    rest.length < (renderKeepEnd side ++ rest).length := by
  have hpos : 0 < (renderKeepEnd side).length := by
    cases side <;> exact Nat.zero_lt_succ _
  rw [List.length_append]
  omega

/-- Behind the keyword of a keep rule the number may be missing. -/
theorem recognize_keep_of_number {side : KeepEnd} (hcs : IsCompact (renderKeepEnd side ++ rest))
    (h : takeDigits rest = ([], back)) (hlt : rest.length < attempts.left) :
    (keep side).recognize (renderKeepEnd side ++ rest) attempts =
      (none, ⟨rest.length, [.number]⟩) := by
  apply recognize_rule_of_further
  · rw [recognize_andThen_of_some _ hcs (recognize_word (isCompact_renderKeepEnd side) rest _),
      recognize_number_of_none attempts h, Attempts.fail_of_lt_left hlt]
  · exact lt_length_renderKeepEnd_append side rest

/-- A keep rule that fits. -/
theorem recognize_keep {side : KeepEnd} (attempts : Attempts)
    (hcs : IsCompact (renderKeepEnd side ++ (run ++ rest))) (hrun : IsDigits run)
    (hstop : StopsDigits rest) :
    (keep side).recognize (renderKeepEnd side ++ (run ++ rest)) attempts =
      (some rest, attempts) := by
  apply recognize_rule_of_some
  rw [recognize_andThen_of_some _ hcs (recognize_word (isCompact_renderKeepEnd side) _ attempts)]
  exact recognize_number attempts hrun hstop

/-- The end of the text is no place in front of it. -/
theorem recognize_ending_of_ne_nil (h : cs ≠ []) :
    ending.recognize cs attempts = (none, attempts.fail .textEnd cs.length) := by
  apply recognize_rule_of_none
  cases cs with
  | nil => exact absurd rfl h
  | cons c cs => rfl

/-- Digits stand at the start of a text, or they do not. -/
theorem takeDigits_cases (cs : List Char) :
    (∃ rest, takeDigits cs = ([], rest)) ∨
      ∃ run rest, cs = run ++ rest ∧ IsDigits run ∧ StopsDigits rest := by
  rcases htaken : takeDigits cs with ⟨run, rest⟩
  rcases Phrase.takeDigits_eq_iff.1 htaken with ⟨hcs, hrun, hstop⟩
  cases run with
  | nil => exact Or.inl ⟨rest, rfl⟩
  | cons c run => exact Or.inr ⟨c :: run, rest, hcs, ⟨List.cons_ne_nil _ _, hrun⟩, hstop⟩

/-! ## Keep rules -/

/-- No text begins with both keywords. -/
theorem ne_renderKeepEnd_append {side other : KeepEnd} (hne : side ≠ other) (rest back : List Char) :
    renderKeepEnd side ++ rest ≠ renderKeepEnd other ++ back := by
  intro h
  have hside := Phrase.takeKeepEnd_eq_some_iff.2 h
  rw [Phrase.takeKeepEnd_eq_some_iff.2 rfl, Option.some.injEq, Prod.mk.injEq] at hside
  exact hne hside.1

/-- Without a keyword both keep rules fail. -/
theorem recognize_keeps_of_none (hcs : IsCompact cs) (hle : cs.length ≤ attempts.left)
    (h : takeKeepEnd cs = none) :
    keeps.recognize cs attempts =
      (some cs, ⟨cs.length, attempts.rulesAt cs.length ++ [.keepHigh, .keepLow]⟩) := by
  have hnone : ∀ side rest, cs ≠ renderKeepEnd side ++ rest := by
    intro side rest hrest
    rw [Phrase.takeKeepEnd_eq_some_iff.2 hrest] at h
    cases h
  have hhigh := recognize_keep_of_none attempts hcs (hnone .highest)
  rw [Attempts.fail_of_le hle] at hhigh
  have hlow := recognize_keep_of_none
    ⟨cs.length, attempts.rulesAt cs.length ++ [.keepHigh]⟩ hcs (hnone .lowest)
  rw [Attempts.fail_of_le le_rfl, Attempts.rulesAt_left, List.append_assoc] at hlow
  exact recognize_maybe_of_none ((recognize_orElse_of_none hhigh).trans hlow)

/-- A keyword without digits behind it: the keep rule is left out, but the missing number is kept. -/
theorem recognize_keeps_of_number {side : KeepEnd} (hcs : IsCompact (renderKeepEnd side ++ rest))
    (hle : (renderKeepEnd side ++ rest).length ≤ attempts.left) (h : takeDigits rest = ([], back)) :
    keeps.recognize (renderKeepEnd side ++ rest) attempts =
      (some (renderKeepEnd side ++ rest), ⟨rest.length, [.number]⟩) := by
  have hlength := lt_length_renderKeepEnd_append side rest
  apply recognize_maybe_of_none
  cases side with
  | highest =>
    have hhigh := recognize_keep_of_number hcs h (hlength.trans_le hle)
    have hlow := recognize_keep_of_none ⟨rest.length, [.number]⟩ hcs
      (ne_renderKeepEnd_append (by decide : KeepEnd.highest ≠ .lowest) rest)
    rw [Attempts.fail_of_lt hlength] at hlow
    exact (recognize_orElse_of_none hhigh).trans hlow
  | lowest =>
    have hhigh := recognize_keep_of_none attempts hcs
      (ne_renderKeepEnd_append (by decide : KeepEnd.lowest ≠ .highest) rest)
    rw [Attempts.fail_of_le hle] at hhigh
    exact (recognize_orElse_of_none hhigh).trans (recognize_keep_of_number hcs h hlength)

/-- Nor is there a modifier in front of the keyword. -/
theorem recognize_rules_of_number {side : KeepEnd} (hcs : IsCompact (renderKeepEnd side ++ rest))
    (hle : (renderKeepEnd side ++ rest).length ≤ attempts.left) (h : takeDigits rest = ([], back)) :
    (andThen keeps (maybe modifier)).recognize (renderKeepEnd side ++ rest) attempts =
      (some (renderKeepEnd side ++ rest), ⟨rest.length, [.number]⟩) := by
  have hlength := lt_length_renderKeepEnd_append side rest
  have hnone : takeSign (renderKeepEnd side ++ rest) = none := by
    cases side <;> rfl
  have hsign := recognize_sign_of_none ⟨rest.length, [.number]⟩ hcs hnone
  rw [Attempts.fail_of_lt hlength] at hsign
  have hmodifier : modifier.recognize _ _ = (none, _) :=
    recognize_rule_of_further (recognize_andThen_of_none number hsign) hlength
  exact (recognize_andThen_of_some _ hcs (recognize_keeps_of_number hcs hle h)).trans
    (recognize_maybe_of_none hmodifier)

/-- A keep rule that fits is taken, whichever of the two it is. -/
theorem recognize_keeps {side : KeepEnd}
    (hcs : IsCompact (renderKeepEnd side ++ (run ++ rest)))
    (hle : (renderKeepEnd side ++ (run ++ rest)).length ≤ attempts.left) (hrun : IsDigits run)
    (hstop : StopsDigits rest) :
    ∃ after, keeps.recognize (renderKeepEnd side ++ (run ++ rest)) attempts = (some rest, after) ∧
      (renderKeepEnd side ++ (run ++ rest)).length ≤ after.left := by
  cases side with
  | highest =>
    have hhigh := recognize_keep attempts hcs hrun hstop
    exact ⟨attempts, recognize_maybe_of_some (recognize_orElse_of_some hhigh), hle⟩
  | lowest =>
    have hhigh := recognize_keep_of_none attempts hcs
      (ne_renderKeepEnd_append (by decide : KeepEnd.lowest ≠ .highest) _)
    have hlow := (recognize_orElse_of_none hhigh).trans (recognize_keep _ hcs hrun hstop)
    exact ⟨_, recognize_maybe_of_some hlow, (Attempts.left_fail_of_le hle).ge⟩

/-! ## The start of a roll of dice -/

/-- No number begins with a sign. -/
theorem takeSign_of_isDigits (hrun : IsDigits run) : takeSign (run ++ rest) = none := by
  cases run with
  | nil => exact absurd rfl hrun.ne_nil
  | cons c run =>
    rw [Option.eq_none_iff_forall_ne_some]
    rintro ⟨s, back⟩ hsign
    have hdigit := hrun.digits c List.mem_cons_self
    rw [(List.cons.inj (Phrase.takeSign_eq_some_iff.1 hsign)).1] at hdigit
    cases s <;> cases hdigit

/-- The optional sign of a plain number, where something has failed further on. -/
theorem recognize_maybe_sign (hcs : IsCompact cs) (hlt : attempts.left < cs.length)
    (h : takeSign cs = none) : (maybe sign).recognize cs attempts = (some cs, attempts) := by
  have hsign := recognize_sign_of_none attempts hcs h
  rw [Attempts.fail_of_lt hlt] at hsign
  exact recognize_maybe_of_none hsign

/-- The number of dice, which may be left out. -/
theorem recognize_maybe_count (hcount : ∀ c ∈ count, c.isDigit = true) (hstop : StopsDigits rest) :
    ∃ after, (maybe Grammar.count).recognize (count ++ rest) ⟨(count ++ rest).length, []⟩ =
        (some rest, after) ∧ after.left = (count ++ rest).length := by
  by_cases hnil : count = []
  · subst hnil
    have htaken : takeDigits rest = ([], rest) :=
      Phrase.takeDigits_eq_iff.2 ⟨rfl, by simp, hstop⟩
    have hcount : Grammar.count.recognize rest ⟨rest.length, []⟩ =
        (none, ⟨rest.length, [.number]⟩) := by
      rw [Grammar.count, recognize_rule_of_fail (recognize_number_of_none _ htaken),
        Attempts.fail_of_le le_rfl, Attempts.rulesAt_left]
      rfl
    exact ⟨_, recognize_maybe_of_none hcount, rfl⟩
  · have hcount := recognize_number ⟨(count ++ rest).length, []⟩ ⟨hnil, hcount⟩ hstop
    exact ⟨_, recognize_maybe_of_some (recognize_rule_of_some hcount), rfl⟩

/-- A text that begins with neither a number nor a `d`. -/
theorem recognize_dice_of_none (hcs : IsCompact cs) (hnone : takeDigits cs = ([], rest))
    (h : ∀ rest, cs ≠ 'd' :: rest) :
    dice.recognize cs ⟨cs.length, []⟩ = (none, ⟨cs.length, [.number]⟩) := by
  have hcount : Grammar.count.recognize cs ⟨cs.length, []⟩ =
      (none, Attempts.fail ⟨cs.length, []⟩ .number cs.length) :=
    recognize_rule_of_fail (recognize_number_of_none _ hnone)
  have hbody := (recognize_andThen_of_some _ hcs (recognize_maybe_of_none hcount)).trans
    (recognize_andThen_of_none behindLetter (recognize_word_of_ne ['d'] _ hcs h))
  rw [dice, recognize_rule_of_fail hbody, Attempts.fail_of_le le_rfl, Attempts.rulesAt_left]
  rfl

/-- A text that begins with a number without a `d` behind it. -/
theorem recognize_dice_of_digits (hcs : IsCompact (run ++ rest)) (hrun : IsDigits run)
    (hstop : StopsDigits rest) (h : ∀ back, rest ≠ 'd' :: back) :
    dice.recognize (run ++ rest) ⟨(run ++ rest).length, []⟩ =
      (none, ⟨(run ++ rest).length, [.dice]⟩) := by
  have hrest : IsCompact rest := hcs.of_suffix (List.suffix_append run rest)
  have hcount : Grammar.count.recognize (run ++ rest) ⟨(run ++ rest).length, []⟩ =
      (some rest, ⟨(run ++ rest).length, []⟩) :=
    recognize_rule_of_some (recognize_number _ hrun hstop)
  have hbody := (recognize_andThen_of_some _ hcs (recognize_maybe_of_some hcount)).trans
    (recognize_andThen_of_none behindLetter (recognize_word_of_ne ['d'] _ hrest h))
  rw [dice, recognize_rule_of_none hbody, Attempts.fail_of_le le_rfl, Attempts.rulesAt_left]
  rfl

end Grammar
end DiceRoller
