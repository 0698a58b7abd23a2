import Mathlib.Algebra.Group.Int.Defs
import Mathlib.Algebra.Group.Nat.Defs
import DiceRoller.Notation.Parse
import DiceRoller.Proofs.Notation.Grammar

/-!
# The meaning of dice notation

A notation is refused for its form, refused for its numbers, or stands for a descriptor that has the
very numbers that are written down.  Which of the three it is depends on nothing but its canonical
text: on whether that is the written form of a phrase, and on the decimal values in it.

Main results:

- Theorem `readCount_eq_ok_iff`, `readModifier_eq_ok_iff`: digits are read as their decimal value or
  not at all.
- Theorem `descriptor_eq_ok_iff`: which phrases have a descriptor, and which one.
- Theorems `Descriptor.parse_eq_grammar_iff`, `Descriptor.parse_eq_value_iff` and
  `Descriptor.parse_eq_ok_iff`: where each outcome comes from.
- Theorem `parse_outcome`: the three outcomes of reading a notation.
-/

namespace DiceRoller
namespace Phrase

/-! ## The values that are written down -/

/-- The number of dice; without digits there is one die. -/
def countValue (count : List Char) : Nat :=
  if count = [] then 1 else Decimal.value count

/-- The value of digits with a sign. -/
def signedValue (sign : Option Sign) (digits : List Char) : Int :=
  if sign = some .minus then -(Decimal.value digits : Int) else Decimal.value digits

/-- The value of an optional modifier. -/
def modifierValue : Option SignedDigits → Int
  | none => 0
  | some part => signedValue (some part.sign) part.digits

/-- A value that a modifier can have. -/
def FitsModifier (n : Int) : Prop :=
  -2 ^ 63 ≤ n ∧ n < 2 ^ 63

/-- The end that a keep rule keeps, and how many throws it keeps. -/
def plainKeep : Keep → KeepEnd × Nat
  | .high n => (.highest, n.toNat)
  | .low n => (.lowest, n.toNat)

/-- A number of kept dice is one of 64 bits. -/
theorem plainKeep_lt (keep : Keep) : (plainKeep keep).2 < 2 ^ 64 := by
  cases keep with
  | high n => exact n.toNat_lt
  | low n => exact n.toNat_lt

/-- A keep rule keeps some dice when its plain number is positive. -/
theorem count_ne_zero_iff {keep : Keep} : keep.count ≠ 0 ↔ 0 < (plainKeep keep).2 := by
  rw [Nat.pos_iff_ne_zero, ne_eq, ← UInt64.toNat_inj]
  cases keep with
  | high n => rfl
  | low n => rfl

/-- Every end and every number below the limit make a keep rule. -/
theorem exists_plainKeep {keep : Option KeepDigits}
    (h : ∀ rule, keep = some rule →
      0 < Decimal.value rule.digits ∧ Decimal.value rule.digits < 2 ^ 64) :
    ∃ k : Option Keep,
      k.map plainKeep = keep.map fun rule => (rule.side, Decimal.value rule.digits) := by
  cases keep with
  | none => exact ⟨none, rfl⟩
  | some rule =>
    rcases rule with ⟨side, digits⟩
    have hvalue : (UInt64.ofNat (Decimal.value digits)).toNat = Decimal.value digits :=
      UInt64.toNat_ofNat_of_lt' (h _ rfl).2
    cases side with
    | highest => exact ⟨some (.high (UInt64.ofNat (Decimal.value digits))), by simp [plainKeep, hvalue]⟩
    | lowest => exact ⟨some (.low (UInt64.ofNat (Decimal.value digits))), by simp [plainKeep, hvalue]⟩

/-- A phrase whose values can be rolled. -/
def InRange : Phrase → Prop
  | dice count sides keep modifier =>
    countValue count ≤ 5000 ∧ (0 < Decimal.value sides ∧ Decimal.value sides ≤ 5000) ∧
      (∀ rule, keep = some rule →
        0 < Decimal.value rule.digits ∧ Decimal.value rule.digits < 2 ^ 64) ∧
      FitsModifier (modifierValue modifier)
  | flat sign digits => FitsModifier (signedValue sign digits)

/-- A descriptor has the values that a phrase writes down; a flat number has neither dice nor
sides. -/
def Denotes (canonical : List Char) (d : Descriptor) : Phrase → Prop
  | dice count sides keep modifier =>
    d.count.toNat = countValue count ∧ d.sides.toNat = Decimal.value sides ∧
      d.keep.map plainKeep = keep.map (fun rule => (rule.side, Decimal.value rule.digits)) ∧
      d.modifier.toInt = modifierValue modifier ∧ d.canonical = canonical
  | flat sign digits =>
    d.count = 0 ∧ d.sides = 0 ∧ d.keep = none ∧
      d.modifier.toInt = signedValue sign digits ∧ d.canonical = canonical

/-- A descriptor has the text that it was read from. -/
theorem Denotes.canonical_eq {phrase : Phrase} {canonical : List Char} {d : Descriptor}
    (h : phrase.Denotes canonical d) : d.canonical = canonical := by
  cases phrase with
  | dice count sides keep modifier => exact h.2.2.2.2
  | flat sign digits => exact h.2.2.2.2

/-! ## Reading digits -/

/-- Digits are read as their number, unless it is beyond the limit. -/
theorem readMagnitude_eq_ok_iff {limit : Nat} {beyond : Decimal.Fault} {digits : List Char} {n : Nat}
    (h : IsDigits digits) :
    Decimal.readMagnitude limit beyond digits = .ok n ↔ n ≤ limit ∧ n = Decimal.value digits := by
  have hne : digits.isEmpty = false := by
    rw [List.isEmpty_eq_false_iff]
    exact h.ne_nil
  rw [Decimal.readMagnitude, hne, if_neg Bool.false_ne_true,
    Decimal.readDigits_eq_ok_iff (Nat.zero_le limit)]
  constructor
  · intro hread
    exact hread.2
  · intro hvalue
    exact ⟨h.digits, hvalue⟩

/-- Nothing but digits is read. -/
theorem isDigits_of_readMagnitude {limit : Nat} {beyond : Decimal.Fault} {cs : List Char} {n : Nat}
    (h : Decimal.readMagnitude limit beyond cs = .ok n) : IsDigits cs := by
  rw [Decimal.readMagnitude] at h
  split at h
  · cases h
  · rename_i hne
    exact ⟨by simpa using hne, ((Decimal.readDigits_eq_ok_iff (Nat.zero_le limit)).1 h).1⟩

/-- Digits begin with no sign. -/
theorem IsDigits.not_sign {c : Char} {cs : List Char} (h : IsDigits (c :: cs)) :
    c ≠ '+' ∧ c ≠ '-' := by
  have hdigit := h.digits c List.mem_cons_self
  constructor
  · intro hc
    rw [hc] at hdigit
    revert hdigit
    decide
  · intro hc
    rw [hc] at hdigit
    revert hdigit
    decide

/-- Digits alone are read as they are where no sign may stand. -/
theorem readUnsigned_of_isDigits {digits : List Char} (h : IsDigits digits) :
    Decimal.readUnsigned digits =
      (Decimal.readMagnitude (UInt64.size - 1) .tooLarge digits).map UInt64.ofNat := by
  unfold Decimal.readUnsigned
  split
  · exact absurd rfl h.ne_nil
  · exact absurd rfl h.not_sign.1
  · rfl

/-- They are positive where a sign may stand. -/
theorem readSigned_of_isDigits {digits : List Char} (h : IsDigits digits) :
    Decimal.readSigned digits =
      (Decimal.readMagnitude (UInt64.size / 2 - 1) .tooLarge digits).map fun n =>
        Int64.ofNat n := by
  unfold Decimal.readSigned
  split
  · exact absurd rfl h.ne_nil
  · exact absurd rfl h.not_sign.2
  · exact absurd rfl h.not_sign.1
  · rfl

/-- Digits are read as the number that has their value, if there is one. -/
theorem readCount_eq_ok_iff {digits : List Char} {n : UInt64} (h : IsDigits digits) :
    readCount digits = .ok n ↔ n.toNat = Decimal.value digits := by
  rw [readCount, mapError_eq_ok_iff, readUnsigned_of_isDigits h, map_eq_ok_iff]
  constructor
  · intro hread
    rcases hread with ⟨m, hm, hn⟩
    rcases (readMagnitude_eq_ok_iff h).1 hm with ⟨hle, hvalue⟩
    have hlt : m < UInt64.size := by
      have hsize : 0 < UInt64.size := by decide
      omega
    rw [← hn, ← hvalue]
    exact UInt64.toNat_ofNat_of_lt' hlt
  · intro hn
    have hle : n.toNat ≤ UInt64.size - 1 := by
      have hlt := n.toNat_lt_size
      omega
    refine ⟨n.toNat, (readMagnitude_eq_ok_iff h).2 ⟨hle, hn⟩, ?_⟩
    exact UInt64.ofNat_toNat

/-- Digits behind a sign are read as the number that has their signed value, if there is one. -/
theorem readModifier_eq_ok_iff {sign : Option Sign} {digits : List Char} {n : Int64}
    (h : IsDigits digits) :
    readModifier sign digits = .ok n ↔ n.toInt = signedValue sign digits := by
  have hlow := n.le_toInt
  have hhigh := n.toInt_lt
  by_cases hminus : sign = some .minus
  · have hread : readModifier sign digits =
        ((Decimal.readMagnitude (UInt64.size / 2) .tooSmall digits).map fun m : Nat =>
          Int64.ofInt (-(m : Int))).mapError (.number digits) := by
      rw [hminus, readModifier, Decimal.readSigned]
      cases Decimal.readMagnitude (UInt64.size / 2) .tooSmall digits with
      | error fault => rfl
      | ok m => rfl
    have hhalf : UInt64.size / 2 = 2 ^ 63 := by decide
    rw [hread, mapError_eq_ok_iff, map_eq_ok_iff, signedValue, if_pos hminus]
    constructor
    · intro hm
      rcases hm with ⟨m, hm, rfl⟩
      rcases (readMagnitude_eq_ok_iff h).1 hm with ⟨hle, rfl⟩
      rw [hhalf] at hle
      exact Int64.toInt_ofInt_of_le (by omega) (by omega)
    · intro hn
      refine ⟨Decimal.value digits, (readMagnitude_eq_ok_iff h).2 ⟨?_, rfl⟩, ?_⟩
      · rw [hhalf]
        omega
      · rw [← hn, Int64.ofInt_toInt]
  · have hread : readModifier sign digits =
        (Decimal.readSigned digits).mapError (.number digits) := by
      cases sign with
      | none => rfl
      | some sign =>
        cases sign with
        | plus => rfl
        | minus => exact absurd rfl hminus
    have hhalf : UInt64.size / 2 - 1 = 2 ^ 63 - 1 := by decide
    rw [hread, mapError_eq_ok_iff, readSigned_of_isDigits h, map_eq_ok_iff, signedValue,
      if_neg hminus]
    constructor
    · intro hm
      rcases hm with ⟨m, hm, rfl⟩
      rcases (readMagnitude_eq_ok_iff h).1 hm with ⟨hle, rfl⟩
      rw [hhalf] at hle
      rw [← Int64.ofInt_eq_ofNat]
      exact Int64.toInt_ofInt_of_le (by omega) (by omega)
    · intro hn
      refine ⟨Decimal.value digits, (readMagnitude_eq_ok_iff h).2 ⟨?_, rfl⟩, ?_⟩
      · rw [hhalf]
        omega
      · rw [← Int64.ofInt_eq_ofNat, ← hn, Int64.ofInt_toInt]

/-- A text that begins with no sign is read as an unsigned number when it consists of digits whose
value fits. -/
theorem isDigits_of_readUnsigned {cs : List Char} {n : UInt64} (hplus : cs.head? ≠ some '+')
    (h : Decimal.readUnsigned cs = .ok n) : IsDigits cs ∧ n.toNat = Decimal.value cs := by
  have hdigits : IsDigits cs := by
    unfold Decimal.readUnsigned at h
    split at h
    · cases h
    · exact absurd rfl hplus
    · rcases map_eq_ok_iff.1 h with ⟨m, hm, -⟩
      exact isDigits_of_readMagnitude hm
  have hread : readCount cs = .ok n := mapError_eq_ok_iff.2 h
  exact ⟨hdigits, (readCount_eq_ok_iff hdigits).1 hread⟩

/-- A text that begins with a sign is read as a number when digits follow whose signed value fits. -/
theorem readSigned_cons_eq_ok_iff {sign : Sign} {digits : List Char} {n : Int64} :
    Decimal.readSigned (sign.char :: digits) = .ok n ↔
      IsDigits digits ∧ n.toInt = signedValue (some sign) digits := by
  have hdigits : Decimal.readSigned (sign.char :: digits) = .ok n → IsDigits digits := by
    intro h
    cases sign with
    | plus =>
      rcases map_eq_ok_iff.1 h with ⟨m, hm, -⟩
      exact isDigits_of_readMagnitude hm
    | minus =>
      rcases map_eq_ok_iff.1 h with ⟨m, hm, -⟩
      rcases bind_eq_ok_iff.1 hm with ⟨magnitude, hmagnitude, -⟩
      exact isDigits_of_readMagnitude hmagnitude
  have hmodifier : IsDigits digits →
      (Decimal.readSigned (sign.char :: digits) = .ok n ↔ readModifier (some sign) digits = .ok n) := by
    intro hisDigits
    cases sign with
    | plus =>
      rw [readModifier, mapError_eq_ok_iff, readSigned_of_isDigits hisDigits]
      · exact Iff.rfl
      · simp
    | minus =>
      rw [readModifier, mapError_eq_ok_iff]
      exact Iff.rfl
  constructor
  · intro h
    exact ⟨hdigits h, (readModifier_eq_ok_iff (hdigits h)).1 ((hmodifier (hdigits h)).1 h)⟩
  · intro h
    exact (hmodifier h.1).2 ((readModifier_eq_ok_iff h.1).2 h.2)

/-! ## The descriptor of a phrase -/

/-- A keep rule is read as the number it is written with. -/
theorem readKeep_eq_ok_iff {keep : Option KeepDigits} {k : Option Keep}
    (h : ∀ rule, keep = some rule → IsDigits rule.digits) :
    readKeep keep = .ok k ↔
      k.map plainKeep = keep.map fun rule => (rule.side, Decimal.value rule.digits) := by
  cases keep with
  | none =>
    cases k with
    | none => simp [readKeep]
    | some k => simp [readKeep]
  | some rule =>
    rcases rule with ⟨side, digits⟩
    have hdigits : IsDigits digits := h ⟨side, digits⟩ rfl
    -- The two ends differ in the constructor of the rule only.
    cases side with
    | highest =>
      rw [readKeep, map_eq_ok_iff]
      simp only [readCount_eq_ok_iff hdigits]
      cases k with
      | none => simp
      | some k =>
        cases k with
        | high n => simp [plainKeep]
        | low n => simp [plainKeep]
    | lowest =>
      rw [readKeep, map_eq_ok_iff]
      simp only [readCount_eq_ok_iff hdigits]
      cases k with
      | none => simp
      | some k =>
        cases k with
        | high n => simp [plainKeep]
        | low n => simp [plainKeep]

/-- A modifier is read as the number it is written with, or as zero. -/
theorem readOptional_eq_ok_iff {modifier : Option SignedDigits} {n : Int64}
    (h : ∀ part, modifier = some part → IsDigits part.digits) :
    readOptional modifier = .ok n ↔ n.toInt = modifierValue modifier := by
  cases modifier with
  | none =>
    rw [readOptional, modifierValue, Except.ok.injEq, ← Int64.toInt_inj, Int64.toInt_zero]
    exact eq_comm
  | some part => exact readModifier_eq_ok_iff (h part rfl)

/-- Which numbers pass the limits of dice. -/
theorem checkLimits_eq_ok_iff {count sides : UInt64} {keep : Option Keep} {u : Unit} :
    checkLimits count sides keep = .ok u ↔
      count.toNat ≤ 5000 ∧ (0 < sides.toNat ∧ sides.toNat ≤ 5000) ∧
        ∀ k, keep = some k → 0 < (plainKeep k).2 := by
  have hcount : maxDice < count ↔ ¬ count.toNat ≤ 5000 := by
    rw [UInt64.lt_iff_toNat_lt, Nat.not_le]
    rfl
  have hsides : maxSides < sides ↔ ¬ sides.toNat ≤ 5000 := by
    rw [UInt64.lt_iff_toNat_lt, Nat.not_le]
    rfl
  have hzero : sides = 0 ↔ ¬ 0 < sides.toNat := by
    rw [← UInt64.toNat_inj, Nat.not_lt, Nat.le_zero_eq]
    rfl
  have hnone : ∀ k : Keep, k.count = 0 ↔ ¬ 0 < (plainKeep k).2 := by
    intro k
    rw [← count_ne_zero_iff, not_not]
  have hkeep : (keep.any fun k => decide (k.count = 0)) = true ↔
      ¬ ∀ k, keep = some k → 0 < (plainKeep k).2 := by
    cases keep with
    | none => simp
    | some k =>
      rw [Option.any_some, decide_eq_true_iff, hnone k]
      simp
  unfold checkLimits
  simp only [hcount, hzero, hsides, hkeep, ite_not]
  by_cases hc : count.toNat ≤ 5000
  · by_cases hpos : 0 < sides.toNat
    · by_cases hs : sides.toNat ≤ 5000
      · by_cases hk : ∀ k, keep = some k → 0 < (plainKeep k).2
        · simp only [if_pos hk, hc, hpos, hs, true_and, if_true]
          exact ⟨fun _ => hk, fun _ => trivial⟩
        · simp [hc, hpos, hs, hk]
      · simp [hc, hpos, hs]
    · simp [hc, hpos]
  · simp [hc]

/-- The number of dice is read as its value, which is one without digits. -/
theorem readOptionalCount_eq_ok_iff {count : List Char} {n : UInt64}
    (h : ∀ c ∈ count, c.isDigit = true) :
    (if count.isEmpty then .ok 1 else readCount count) = .ok n ↔ n.toNat = countValue count := by
  cases count with
  | nil =>
    have hone : n = 1 ↔ n.toNat = 1 := by
      rw [← UInt64.toNat_inj]
      rfl
    simp only [List.isEmpty_nil, if_true, Except.ok.injEq, countValue]
    rw [eq_comm]
    exact hone
  | cons c count =>
    have hdigits : IsDigits (c :: count) := ⟨List.cons_ne_nil c count, h⟩
    rw [countValue, if_neg hdigits.ne_nil]
    exact readCount_eq_ok_iff hdigits

/-- The numbers of dice are read one after the other, and then checked. -/
theorem descriptor_dice (canonical count sides : List Char) (keep : Option KeepDigits)
    (modifier : Option SignedDigits) :
    descriptor canonical (dice count sides keep modifier) =
      (if count.isEmpty then .ok 1 else readCount count) >>= fun n =>
        readCount sides >>= fun s => readKeep keep >>= fun k => readOptional modifier >>= fun m =>
          checkLimits n s k >>= fun _ => .ok ⟨n, s, k, m, canonical⟩ := by
  rw [descriptor]
  by_cases h : count.isEmpty = true
  · rw [if_pos h, if_pos h]
  · rw [if_neg h, if_neg h]

/-- A phrase has a descriptor when its values can be rolled, and then it has the one with those
values. -/
theorem descriptor_eq_ok_iff {phrase : Phrase} {canonical : List Char} {d : Descriptor}
    (h : phrase.WellFormed) :
    phrase.descriptor canonical = .ok d ↔ phrase.InRange ∧ phrase.Denotes canonical d := by
  cases phrase with
  | dice count sides keep modifier =>
    rcases h with ⟨hcount, hsides, hkeep, hmodifier⟩
    rw [descriptor_dice]
    simp only [bind_eq_ok_iff, readOptionalCount_eq_ok_iff hcount, readCount_eq_ok_iff hsides,
      readKeep_eq_ok_iff hkeep, readOptional_eq_ok_iff hmodifier, checkLimits_eq_ok_iff]
    constructor
    · intro hread
      rcases hread with ⟨n, hn, s, hs, k, hk, m, hm, _, ⟨hmax, hrange, hnone⟩, hd⟩
      cases hd
      refine ⟨⟨hn ▸ hmax, hs ▸ hrange, ?_, ?_⟩, hn, hs, hk, hm, rfl⟩
      · intro rule hrule
        rw [hrule, Option.map_some, Option.map_eq_some_iff] at hk
        rcases hk with ⟨k', hk', hplain⟩
        have hpos := hnone k' hk'
        have hvalue : (plainKeep k').2 = Decimal.value rule.digits := by rw [hplain]
        have hlt : (plainKeep k').2 < 2 ^ 64 := plainKeep_lt k'
        omega
      · exact ⟨hm ▸ m.le_toInt, hm ▸ m.toInt_lt⟩
    · intro hmeaning
      rcases hmeaning with ⟨⟨hmax, hrange, hrules, -⟩, hn, hs, hk, hm, hcanonical⟩
      refine ⟨d.count, hn, d.sides, hs, d.keep, hk, d.modifier, hm, (), ⟨?_, ?_, ?_⟩, ?_⟩
      · rw [hn]
        exact hmax
      · rw [hs]
        exact hrange
      · intro k hk'
        rw [hk', Option.map_some, eq_comm, Option.map_eq_some_iff] at hk
        rcases hk with ⟨rule, hrule, hplain⟩
        rw [← hplain]
        exact (hrules rule hrule).1
      · rw [← hcanonical]
  | flat sign digits =>
    have hdigits : IsDigits digits := h
    rw [descriptor]
    simp only [bind_eq_ok_iff, readModifier_eq_ok_iff hdigits]
    constructor
    · intro hread
      rcases hread with ⟨m, hm, hd⟩
      cases hd
      exact ⟨⟨hm ▸ m.le_toInt, hm ▸ m.toInt_lt⟩, rfl, rfl, rfl, hm, rfl⟩
    · intro hmeaning
      rcases hmeaning with ⟨-, hcount, hsides, hkeep, hm, hcanonical⟩
      refine ⟨d.modifier, hm, ?_⟩
      rw [← hcount, ← hcanonical]
      rcases d with ⟨count, sides, keep, modifier, canonical'⟩
      simp_all

/-- Values that can be rolled are the values of some descriptor. -/
theorem exists_denotes {phrase : Phrase} (canonical : List Char) (h : phrase.InRange) :
    ∃ d, phrase.Denotes canonical d := by
  cases phrase with
  | dice count sides keep modifier =>
    rcases h with ⟨hcount, ⟨-, hsides⟩, hkeep, hlow, hhigh⟩
    rcases exists_plainKeep hkeep with ⟨k, hk⟩
    have hsize : (2 : Nat) ^ 64 = UInt64.size := by decide
    refine ⟨⟨UInt64.ofNat (countValue count), UInt64.ofNat (Decimal.value sides), k,
      Int64.ofInt (modifierValue modifier), canonical⟩, ?_, ?_, hk, ?_, rfl⟩
    · exact UInt64.toNat_ofNat_of_lt' (by omega)
    · exact UInt64.toNat_ofNat_of_lt' (by omega)
    · exact Int64.toInt_ofInt_of_le hlow hhigh
  | flat sign digits =>
    refine ⟨⟨0, 0, none, Int64.ofInt (signedValue sign digits), canonical⟩, rfl, rfl, rfl, ?_, rfl⟩
    exact Int64.toInt_ofInt_of_le h.1 h.2

/-- A descriptor with values that notation admits can be rolled. -/
theorem validate_of_denotes {phrase : Phrase} {canonical : List Char} {d : Descriptor}
    (h : phrase.InRange) (hd : phrase.Denotes canonical d) : d.validate = .ok () := by
  rw [Descriptor.validate_eq_ok_iff]
  cases phrase with
  | dice count sides keep modifier =>
    rcases h with ⟨hmax, ⟨hpos, hmaxSides⟩, hrules, -⟩
    rcases hd with ⟨hcount, hsides, hkeep, -, -⟩
    refine ⟨?_, ?_, ?_, ?_⟩
    · rw [UInt64.le_iff_toNat_le, hcount]
      exact hmax
    · rw [UInt64.le_iff_toNat_le, hsides]
      exact hmaxSides
    · intro hzero
      rw [hzero, UInt64.toNat_zero] at hsides
      omega
    · intro k hk
      rw [hk, Option.map_some, eq_comm, Option.map_eq_some_iff] at hkeep
      rcases hkeep with ⟨rule, hrule, hplain⟩
      rw [count_ne_zero_iff, ← hplain]
      exact (hrules rule hrule).1
  | flat sign digits =>
    rcases hd with ⟨hcount, hsides, hkeep, -, -⟩
    rw [hcount, hsides, hkeep]
    refine ⟨by decide, by decide, fun _ => ⟨rfl, rfl⟩, ?_⟩
    intro k hk
    cases hk

/-- The numbers of a phrase can be read just when they are in range. -/
theorem exists_descriptor_iff {phrase : Phrase} {canonical : List Char} (h : phrase.WellFormed) :
    (∃ d, phrase.descriptor canonical = .ok d) ↔ phrase.InRange := by
  constructor
  · rintro ⟨d, hd⟩
    exact ((descriptor_eq_ok_iff h).1 hd).1
  · intro hrange
    rcases exists_denotes canonical hrange with ⟨d, hd⟩
    exact ⟨d, (descriptor_eq_ok_iff h).2 ⟨hrange, hd⟩⟩

end Phrase

/-! ## The three outcomes -/

namespace Descriptor

/-- A notation is refused for its form when its canonical text is. -/
theorem parse_eq_grammar_iff {cs : List Char} {fault : GrammarFault} :
    parse cs = .error (.grammar fault) ↔ Phrase.parse (Notation.canonical cs) = .error fault := by
  rw [parse, bind_eq_error_iff, mapError_eq_error_iff]
  simp only [mapError_eq_ok_iff, mapError_eq_error_iff]
  simp

/-- A notation is refused for its numbers when it has a form, and they cannot be read. -/
theorem parse_eq_value_iff {cs : List Char} {fault : ValueFault} :
    parse cs = .error (.value fault) ↔
      ∃ phrase, Phrase.parse (Notation.canonical cs) = .ok phrase ∧
        phrase.descriptor (Notation.canonical cs) = .error fault := by
  rw [parse, bind_eq_error_iff, mapError_eq_error_iff]
  simp only [mapError_eq_ok_iff, mapError_eq_error_iff]
  simp

/-- A notation stands for the descriptor of the phrase that its canonical text is. -/
theorem parse_eq_ok_iff {cs : List Char} {d : Descriptor} :
    parse cs = .ok d ↔
      ∃ phrase, Phrase.parse (Notation.canonical cs) = .ok phrase ∧
        phrase.descriptor (Notation.canonical cs) = .ok d := by
  rw [parse, bind_eq_ok_iff]
  simp only [mapError_eq_ok_iff]

/-- The canonical text of an accepted notation is the written form of a phrase, whose values are those
of the descriptor. -/
theorem exists_phrase_of_parse {cs : List Char} {d : Descriptor} (h : parse cs = .ok d) :
    ∃ phrase : Phrase, phrase.WellFormed ∧ phrase.render = Notation.canonical cs ∧ phrase.InRange ∧
      phrase.Denotes (Notation.canonical cs) d := by
  rcases parse_eq_ok_iff.1 h with ⟨phrase, hphrase, hdescriptor⟩
  rcases Phrase.parse_eq_ok_iff.1 hphrase with ⟨hwell, hrender⟩
  rcases (Phrase.descriptor_eq_ok_iff hwell).1 hdescriptor with ⟨hrange, hd⟩
  exact ⟨phrase, hwell, hrender, hrange, hd⟩

/-- What a notation stands for can be rolled. -/
theorem validate_of_parse {cs : List Char} {d : Descriptor} (h : parse cs = .ok d) :
    d.validate = .ok () := by
  rcases exists_phrase_of_parse h with ⟨phrase, -, -, hrange, hd⟩
  exact Phrase.validate_of_denotes hrange hd

end Descriptor

/-- Every notation has one of three outcomes, and its canonical text tells which.  It is refused for
its form when that text is the written form of no phrase, it is refused for its numbers when it is the
written form of a phrase whose values cannot be rolled, and otherwise it stands for a descriptor with
just those values. -/
theorem parse_outcome (cs : List Char) :
    ((∃ fault, Descriptor.parse cs = .error (.grammar fault)) ↔
      ¬ ∃ phrase : Phrase, phrase.WellFormed ∧ phrase.render = Notation.canonical cs) ∧
    ((∃ fault, Descriptor.parse cs = .error (.value fault)) ↔
      ∃ phrase : Phrase, phrase.WellFormed ∧ phrase.render = Notation.canonical cs ∧
        ¬ phrase.InRange) ∧
    ∀ phrase : Phrase, phrase.WellFormed ∧ phrase.render = Notation.canonical cs ∧ phrase.InRange →
      ∃ d, Descriptor.parse cs = .ok d ∧ phrase.Denotes (Notation.canonical cs) d := by
  have hform : ∀ phrase, Phrase.parse (Notation.canonical cs) = .ok phrase ↔
      phrase.WellFormed ∧ phrase.render = Notation.canonical cs := fun _ => Phrase.parse_eq_ok_iff
  refine ⟨?_, ?_, ?_⟩
  · simp only [Descriptor.parse_eq_grammar_iff, exists_error_iff, hform]
  · simp only [Descriptor.parse_eq_value_iff]
    rw [exists_comm]
    apply exists_congr
    intro phrase
    rw [exists_and_left, hform, and_assoc]
    apply and_congr_right
    intro hwell
    rw [exists_error_iff, Phrase.exists_descriptor_iff hwell]
  · intro phrase h
    rcases h with ⟨hwell, hrender, hrange⟩
    rcases Phrase.exists_denotes (Notation.canonical cs) hrange with ⟨d, hd⟩
    have hdescriptor := (Phrase.descriptor_eq_ok_iff hwell).2 ⟨hrange, hd⟩
    have hphrase := (hform phrase).2 ⟨hwell, hrender⟩
    exact ⟨d, Descriptor.parse_eq_ok_iff.2 ⟨phrase, hphrase, hdescriptor⟩, hd⟩

end DiceRoller
