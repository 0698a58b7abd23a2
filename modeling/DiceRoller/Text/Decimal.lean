/-!
# Decimal numbers

Whole numbers in decimal: how they are written, and how a text is read as a 64 bit number.  Reading
goes from left to right and reports the first fault it meets, so `99999999999999999999x` is too large
while `9x999999999999999999` holds a character that is no digit.

Main results:

- Theorem `value_digits`: the written form of a number has the value of that number.
- Theorem `readDigits_eq_ok_iff`: reading succeeds exactly on digits whose value is within the limit,
  with that value.
-/

namespace DiceRoller
namespace Decimal

/-! ## Writing -/

/-- The character of a digit below ten. -/
def digitChar (d : Nat) : Char :=
  Char.ofNat (d + 48)

/-- The digits of a number, without leading zeros. -/
def digits (n : Nat) : List Char :=
  if n < 10 then [digitChar n] else digits (n / 10) ++ [digitChar (n % 10)]
termination_by n

/-- A number with a minus if it is negative. -/
def signed (n : Int) : List Char :=
  if n < 0 then '-' :: digits n.natAbs else digits n.natAbs

/-- A number with a sign in front of it in any case. -/
def withSign (n : Int) : List Char :=
  if n < 0 then '-' :: digits n.natAbs else '+' :: digits n.natAbs

/-! ## Reading -/

/-- The value of a digit. -/
def digitValue (c : Char) : Nat :=
  c.toNat - 48

/-- The value of a row of digits. -/
def value (cs : List Char) : Nat :=
  cs.foldl (fun n c => 10 * n + digitValue c) 0

/-- Why a text is not the number that was asked for. -/
inductive Fault where
  | empty
  | invalidDigit
  | tooLarge
  | tooSmall
  deriving DecidableEq, Repr

/-- The wording of a fault. -/
def Fault.message : Fault → String
  | .empty => "cannot parse integer from empty string"
  | .invalidDigit => "invalid digit found in string"
  | .tooLarge => "number too large to fit in target type"
  | .tooSmall => "number too small to fit in target type"

/-- Reads digits after a part whose value is `n`; a value above the limit is the given fault. -/
def readDigits (limit : Nat) (beyond : Fault) (n : Nat) : List Char → Except Fault Nat
  | [] => .ok n
  | c :: cs =>
    if c.isDigit then
      if 10 * n + digitValue c ≤ limit then readDigits limit beyond (10 * n + digitValue c) cs
      else .error beyond
    else .error .invalidDigit

/-- Reads the digits of a number; there has to be one. -/
def readMagnitude (limit : Nat) (beyond : Fault) (cs : List Char) : Except Fault Nat :=
  if cs.isEmpty then .error .invalidDigit else readDigits limit beyond 0 cs

/-- Reads an unsigned number; a plus in front of it is allowed. -/
def readUnsigned (cs : List Char) : Except Fault UInt64 :=
  match cs with
  | [] => .error .empty
  | '+' :: ds => (readMagnitude (UInt64.size - 1) .tooLarge ds).map UInt64.ofNat
  | ds => (readMagnitude (UInt64.size - 1) .tooLarge ds).map UInt64.ofNat

/-- Reads a signed number; a plus or a minus in front of it is allowed. -/
def readSigned (cs : List Char) : Except Fault Int64 :=
  match cs with
  | [] => .error .empty
  | '-' :: ds => (readMagnitude (UInt64.size / 2) .tooSmall ds).map fun n => Int64.ofInt (-(n : Int))
  | '+' :: ds => (readMagnitude (UInt64.size / 2 - 1) .tooLarge ds).map fun n => Int64.ofNat n
  | ds => (readMagnitude (UInt64.size / 2 - 1) .tooLarge ds).map fun n => Int64.ofNat n

/-! ## The two agree -/

theorem digits_of_lt {n : Nat} (h : n < 10) : digits n = [digitChar n] := by
  rw [digits, if_pos h]

theorem digits_of_le {n : Nat} (h : 10 ≤ n) :
    digits n = digits (n / 10) ++ [digitChar (n % 10)] := by
  rw [digits, if_neg (by omega)]

theorem toNat_digitChar {d : Nat} (h : d < 10) : (digitChar d).toNat = d + 48 := by
  match d, h with
  | 0, _ | 1, _ | 2, _ | 3, _ | 4, _ | 5, _ | 6, _ | 7, _ | 8, _ | 9, _ => rfl

theorem digitValue_digitChar {d : Nat} (h : d < 10) : digitValue (digitChar d) = d := by
  rw [digitValue, toNat_digitChar h]
  omega

theorem isDigit_digitChar {d : Nat} (h : d < 10) : (digitChar d).isDigit = true := by
  match d, h with
  | 0, _ | 1, _ | 2, _ | 3, _ | 4, _ | 5, _ | 6, _ | 7, _ | 8, _ | 9, _ => decide

theorem digits_ne_nil (n : Nat) : digits n ≠ [] := by
  rw [digits]
  split <;> simp

/-- Numbers are written with ASCII digits. -/
theorem isDigit_of_mem_digits (n : Nat) : ∀ c ∈ digits n, c.isDigit = true := by
  induction n using Nat.strongRecOn with
  | ind n ih =>
    intro c hc
    by_cases h : n < 10
    · rw [digits_of_lt h, List.mem_singleton] at hc
      exact hc ▸ isDigit_digitChar h
    · rw [digits_of_le (by omega), List.mem_append, List.mem_singleton] at hc
      rcases hc with hc | hc
      · exact ih (n / 10) (by omega) c hc
      · exact hc ▸ isDigit_digitChar (Nat.mod_lt _ (by decide))

theorem value_append_singleton (cs : List Char) (c : Char) :
    value (cs ++ [c]) = 10 * value cs + digitValue c := by
  simp [value, List.foldl_append]

/-- The written form of a number has the value of that number. -/
theorem value_digits (n : Nat) : value (digits n) = n := by
  induction n using Nat.strongRecOn with
  | ind n ih =>
    by_cases h : n < 10
    · simp [digits_of_lt h, value, digitValue_digitChar h]
    · rw [digits_of_le (by omega), value_append_singleton, ih (n / 10) (by omega),
        digitValue_digitChar (Nat.mod_lt _ (by decide))]
      omega

/-- Further digits never make a number smaller. -/
theorem le_foldl_value (n : Nat) (cs : List Char) :
    n ≤ cs.foldl (fun n c => 10 * n + digitValue c) n := by
  induction cs generalizing n with
  | nil => exact Nat.le_refl n
  | cons c cs ih =>
    rw [List.foldl_cons]
    exact Nat.le_trans (by omega) (ih (10 * n + digitValue c))

/-- Reading succeeds exactly on digits whose value is within the limit, with that value. -/
theorem readDigits_eq_ok_iff {limit : Nat} {beyond : Fault} {n m : Nat} {cs : List Char}
    (h : n ≤ limit) :
    readDigits limit beyond n cs = .ok m ↔
      (∀ c ∈ cs, c.isDigit = true) ∧ m ≤ limit ∧
        m = cs.foldl (fun n c => 10 * n + digitValue c) n := by
  induction cs generalizing n with
  | nil =>
    simp only [readDigits, Except.ok.injEq, List.foldl_nil, List.not_mem_nil, false_implies,
      implies_true, true_and]
    omega
  | cons c cs ih =>
    rw [readDigits, List.foldl_cons]
    by_cases hc : c.isDigit = true
    · by_cases hle : 10 * n + digitValue c ≤ limit
      · simp [hc, hle, ih hle]
      · have hgrows := le_foldl_value (10 * n + digitValue c) cs
        simp only [hc, hle, if_true, if_false, reduceCtorEq, false_iff]
        omega
    · simp [hc]

end Decimal
end DiceRoller
