import Mathlib.Data.List.Basic
import DiceRoller.Proofs.Notation.Printing
import DiceRoller.Proofs.Text.CharClass
import DiceRoller.Proofs.Text.Run
import DiceRoller.Session.Command

/-!
# How commands are spelled

A verb, a blank and an argument without blanks around it are read as what they say; so is a verb
alone, which has an empty argument.  So every number from one on can be picked by its digits, as far
as 64 bits go.

Main results:

- Theorem `parse_renderVerb`: a verb with its argument.
- Theorem `readNumber_digits_eq_ok_iff`: which numbers can be picked.
- Theorems `parse_pick_of_toNat_eq` and `exists_fault_of_size_le`: the line that picks a number.
- Theorem `readModifier_signed`: a modifier is read back from its written form.
- Theorem `parse_of_mem_notationChars`: a formula is a line of its own.
-/

namespace DiceRoller

namespace Text

/-! ## Trimmed texts -/

/-- A text without blanks at its two ends. -/
structure IsTrimmed (cs : List Char) : Prop where
  head : ∀ c, cs.head? = some c → isBlank c = false
  last : ∀ c, cs.getLast? = some c → isBlank c = false

/-- A text without any blanks has none at its ends. -/
theorem isTrimmed_of_forall {cs : List Char} (h : ∀ c ∈ cs, isBlank c = false) : IsTrimmed cs :=
  ⟨fun c hc => h c (List.mem_of_head? hc), fun c hc => h c (List.mem_of_getLast? hc)⟩

/-- The empty text has no blanks at its ends. -/
theorem isTrimmed_nil : IsTrimmed [] :=
  isTrimmed_of_forall (by simp)

/-- A text without blanks at its two ends stays as it is when it is trimmed. -/
theorem IsTrimmed.trim_eq {cs : List Char} (h : IsTrimmed cs) : trim cs = cs := by
  have hstart : trimStart cs = cs := by
    cases cs with
    | nil => rfl
    | cons c cs => rw [trimStart, List.dropWhile_cons_of_neg (by simp [h.head c rfl])]
  rw [trim, hstart]
  rcases List.eq_nil_or_concat cs with rfl | ⟨front, c, rfl⟩
  · rfl
  · have hlast := h.last
    rw [List.concat_eq_append] at hlast ⊢
    exact trimEnd_append_singleton (hlast c List.getLast?_concat)

/-- A blank at the end goes. -/
theorem trimEnd_append_blank {blank : Char} (h : isBlank blank = true) (cs : List Char) :
    trimEnd (cs ++ [blank]) = trimEnd cs := by
  induction cs with
  | nil => simp [trimEnd, h]
  | cons c cs ih => rw [List.cons_append, trimEnd, trimEnd, ih]

/-- A blank at the end makes no difference to trimming. -/
theorem trim_append_blank {blank : Char} (h : isBlank blank = true) (cs : List Char) :
    trim (cs ++ [blank]) = trim cs := by
  rw [trim, trim, trimStart, trimStart, List.dropWhile_append]
  split
  · rename_i hempty
    rw [List.isEmpty_iff.1 hempty, List.dropWhile_cons_of_pos h, List.dropWhile_nil]
  · exact trimEnd_append_blank h _

/-- A text is cut at the first blank behind a word. -/
theorem splitAtBlank_append {word rest : List Char} {blank : Char}
    (hword : ∀ c ∈ word, isBlank c = false) (hblank : isBlank blank = true) :
    splitAtBlank (word ++ blank :: rest) = some (word, rest) := by
  have hword' : ∀ c ∈ word, (!isBlank c) = true := by
    intro c hc
    rw [hword c hc]
    rfl
  have hstop : ∀ c, (blank :: rest).head? = some c → (!isBlank c) = false := by
    intro c hc
    cases hc
    rw [hblank]
    rfl
  rcases takeWhile_dropWhile_append hword' hstop with ⟨htake, hdrop⟩
  rw [splitAtBlank, htake, hdrop]

end Text

namespace Decimal

/-- A signed number is read back from its written form. -/
theorem readSigned_signed (n : Int64) : Decimal.readSigned (Decimal.signed n.toInt) = .ok n := by
  have hdigits := Phrase.isDigits_digits n.toInt.natAbs
  by_cases hneg : n.toInt < 0
  · rw [Decimal.signed, if_pos hneg]
    show Decimal.readSigned (Sign.minus.char :: Decimal.digits n.toInt.natAbs) = .ok n
    rw [Phrase.readSigned_cons_eq_ok_iff]
    refine ⟨hdigits, ?_⟩
    rw [Phrase.signedValue, if_pos rfl, Decimal.value_digits]
    omega
  · rw [Decimal.signed, if_neg hneg]
    have hread : Phrase.readModifier none (Decimal.digits n.toInt.natAbs) = .ok n := by
      rw [Phrase.readModifier_eq_ok_iff hdigits, Phrase.signedValue, if_neg (by simp),
        Decimal.value_digits]
      omega
    rwa [Phrase.readModifier, mapError_eq_ok_iff] at hread
    · simp

/-- A number is not written as nothing. -/
theorem signed_ne_nil (n : Int) : Decimal.signed n ≠ [] := by
  rw [Decimal.signed]
  split
  · exact List.cons_ne_nil _ _
  · exact Decimal.digits_ne_nil _

/-- Nor with blanks. -/
theorem isBlank_of_mem_signed (n : Int) : ∀ c ∈ Decimal.signed n, Text.isBlank c = false := by
  have hdigits : ∀ c ∈ Decimal.digits n.natAbs, Text.isBlank c = false := by
    intro c hc
    exact isBlank_of_mem_notationChars
      (mem_notationChars_of_isDigit (Decimal.isDigit_of_mem_digits _ c hc))
  rw [Decimal.signed]
  split
  · exact List.forall_mem_cons.2 ⟨by decide, hdigits⟩
  · exact hdigits

end Decimal

namespace Verb

/-- Every verb begins with its sigil. -/
theorem exists_name_eq_cons (verb : Verb) : ∃ letters, verb.name = '!' :: letters := by
  cases verb with
  | _ => exact ⟨_, rfl⟩

/-- The name of a verb is a word. -/
theorem isBlank_of_mem_name (verb : Verb) : ∀ c ∈ verb.name, Text.isBlank c = false := by
  have hall : (verb.name.all fun c => !Text.isBlank c) = true := by
    cases verb with
    | _ => decide
  intro c hc
  simpa using List.all_eq_true.1 hall c hc

/-- No verb has blanks at its ends. -/
theorem isTrimmed_name (verb : Verb) : Text.IsTrimmed verb.name :=
  Text.isTrimmed_of_forall verb.isBlank_of_mem_name

end Verb

namespace Command

/-! ## Lines with a verb -/

/-- How a line that begins with the sigil is read. -/
theorem parse_of_sigil {line : List Char} (h : (Text.trim line).head? = some '!') :
    parse line =
      match Verb.find? (splitWord (Text.trim line)).1 with
      | some verb => ofVerb verb (splitWord (Text.trim line)).2
      | none => .error (.unknown (splitWord (Text.trim line)).1) :=
  if_pos h

/-- A line that is cut into the name of a verb and an argument is read as the verb. -/
theorem parse_of_splitWord {line argument : List Char} {verb : Verb}
    (hsigil : (Text.trim line).head? = some '!')
    (hsplit : splitWord (Text.trim line) = (verb.name, argument)) :
    parse line = ofVerb verb argument := by
  rw [parse_of_sigil hsigil, hsplit]
  simp only [Verb.find?_name]

/-- A verb is one word. -/
theorem splitWord_name (verb : Verb) : splitWord verb.name = (verb.name, []) := by
  cases verb with
  | _ => decide

/-- The name of a verb alone is read as the verb with an empty argument. -/
theorem parse_of_trim_eq_name {verb : Verb} {line : List Char} (h : Text.trim line = verb.name) :
    parse line = ofVerb verb [] := by
  rcases verb.exists_name_eq_cons with ⟨letters, hname⟩
  apply parse_of_splitWord
  · rw [h, hname]
    rfl
  · rw [h, splitWord_name]

/-- A verb is read with its argument, when that has no blanks around it. -/
theorem parse_renderVerb (verb : Verb) {argument : List Char} (h : Text.IsTrimmed argument) :
    parse (renderVerb verb argument) = ofVerb verb argument := by
  rcases verb.exists_name_eq_cons with ⟨letters, hname⟩
  by_cases hne : argument = []
  · -- Only the blank behind the name is left, and it is trimmed.
    subst hne
    apply parse_of_trim_eq_name
    rw [renderVerb, Text.trim_append_blank (by decide), verb.isTrimmed_name.trim_eq]
  · have hline : Text.IsTrimmed (renderVerb verb argument) := by
      constructor
      · intro c hc
        rw [renderVerb, hname] at hc
        cases hc
        decide
      · intro c hc
        rw [renderVerb, List.append_cons, List.getLast?_append_of_ne_nil _ hne] at hc
        exact h.last c hc
    apply parse_of_splitWord
    · rw [hline.trim_eq, renderVerb, hname]
      rfl
    · rw [hline.trim_eq, splitWord, renderVerb,
        Text.splitAtBlank_append verb.isBlank_of_mem_name (by decide)]
      simp only [h.trim_eq]

/-- A number to pick is any but zero. -/
theorem readNumber_eq_ok_iff {argument : List Char} {k : UInt64} :
    readNumber argument = .ok k ↔ Decimal.readUnsigned argument = .ok k ∧ k ≠ 0 := by
  rw [readNumber]
  cases Decimal.readUnsigned argument with
  | error fault => simp
  | ok n =>
    by_cases hzero : n = 0
    · simp only [hzero, if_true, reduceCtorEq, Except.ok.injEq, false_iff]
      rintro ⟨rfl, hne⟩
      exact hne rfl
    · simp only [hzero, if_false, Except.ok.injEq]
      constructor
      · rintro rfl
        exact ⟨rfl, hzero⟩
      · exact fun h => h.1

/-- A number is read from its digits unless it is zero or too large. -/
theorem readNumber_digits_eq_ok_iff {n : Nat} {k : UInt64} :
    readNumber (Decimal.digits n) = .ok k ↔ 1 ≤ n ∧ k.toNat = n := by
  have hread : Decimal.readUnsigned (Decimal.digits n) = .ok k ↔ k.toNat = n := by
    have hcount := Phrase.readCount_eq_ok_iff (n := k) (Phrase.isDigits_digits n)
    rwa [Decimal.value_digits, Phrase.readCount, mapError_eq_ok_iff] at hcount
  have hzero : k ≠ 0 ↔ k.toNat ≠ 0 := by
    rw [Ne, ← UInt64.toNat_inj, UInt64.toNat_zero]
  rw [readNumber_eq_ok_iff, hread, hzero]
  omega

/-- The line that picks a number, given by its digits. -/
theorem parse_pick_digits (n : Nat) :
    parse ("!pick ".toList ++ Decimal.digits n) = (readNumber (Decimal.digits n)).map .pick := by
  have hblank : ∀ c ∈ Decimal.digits n, Text.isBlank c = false := by
    intro c hc
    have hdigit := Decimal.isDigit_of_mem_digits n c hc
    exact Text.isBlank_of_isWordChar (Text.isWordChar_of_isDigit hdigit)
  exact parse_renderVerb .pick (Text.isTrimmed_of_forall hblank)

/-- A pick is read back from its number. -/
theorem parse_pick_of_toNat_eq {n : Nat} {number : UInt64} (hpos : 1 ≤ n) (h : number.toNat = n) :
    parse ("!pick ".toList ++ Decimal.digits n) = .ok (.pick number) := by
  rw [parse_pick_digits, readNumber_digits_eq_ok_iff.2 ⟨hpos, h⟩]
  rfl

/-- Digits of a number that is too large pick nothing. -/
theorem exists_fault_of_size_le {n : Nat} (h : UInt64.size ≤ n) :
    ∃ fault, parse ("!pick ".toList ++ Decimal.digits n) = .error fault := by
  rw [parse_pick_digits]
  cases hread : readNumber (Decimal.digits n) with
  | error fault => exact ⟨fault, rfl⟩
  | ok number =>
    have hnumber := (readNumber_digits_eq_ok_iff.1 hread).2
    have hlt := number.toNat_lt_size
    omega

/-! ## Modifiers and formulas -/

/-- A modifier is read back from its written form. -/
theorem readModifier_signed (modifier : Int64) :
    readModifier (Decimal.signed modifier.toInt) = .ok modifier := by
  have hfilter : (Decimal.signed modifier.toInt).filter (fun c => c != ' ') =
      Decimal.signed modifier.toInt := by
    rw [List.filter_eq_self]
    intro c hc
    rw [bne_iff_ne]
    rintro rfl
    exact absurd (Decimal.isBlank_of_mem_signed _ _ hc) (by decide)
  have hne : (Decimal.signed modifier.toInt).isEmpty = false := by
    rw [List.isEmpty_eq_false_iff]
    exact Decimal.signed_ne_nil _
  rw [readModifier, hne, hfilter, Decimal.readSigned_signed]
  rfl

/-- A verb is read with a number. -/
theorem parse_renderVerb_signed (verb : Verb) (n : Int) :
    parse (renderVerb verb (Decimal.signed n)) = ofVerb verb (Decimal.signed n) :=
  parse_renderVerb verb (Text.isTrimmed_of_forall (Decimal.isBlank_of_mem_signed n))

/-- A text with the characters of dice notation asks for a roll of what it says. -/
theorem parse_of_mem_notationChars {cs : List Char} (h : ∀ c ∈ cs, c ∈ notationChars) :
    parse cs = .ok (.roll cs) := by
  have hblank : ∀ c ∈ cs, Text.isBlank c = false := by
    intro c hc
    exact isBlank_of_mem_notationChars (h c hc)
  have htrim := (Text.isTrimmed_of_forall hblank).trim_eq
  have hsigil : (Text.trim cs).head? ≠ some '!' := by
    rw [htrim]
    intro hhead
    exact absurd (h _ (List.mem_of_head? hhead)) (by decide)
  rw [parse_roll hsigil, htrim]

end Command
end DiceRoller
