/-!
# Bytes of a text

How many bytes a text takes in UTF-8, the cut of a text at a byte, and the part of a text between two
bytes.

Main results:

- Theorem `splitAtByte_append`: a cut loses nothing.
- Theorem `splitAtByte_byteLength`: a cut at the byte where a part ends gives back that part.
- Theorem `slice?_eq_some_iff`: which parts of a text can be cut out.
-/

namespace DiceRoller
namespace Text

/-- The number of bytes of a text in UTF-8. -/
def byteLength : List Char → Nat
  | [] => 0
  | c :: cs => c.utf8Size + byteLength cs

@[simp]
theorem byteLength_nil : byteLength [] = 0 :=
  rfl

@[simp]
theorem byteLength_cons (c : Char) (cs : List Char) :
    byteLength (c :: cs) = c.utf8Size + byteLength cs :=
  rfl

@[simp]
theorem byteLength_append (xs ys : List Char) :
    byteLength (xs ++ ys) = byteLength xs + byteLength ys := by
  induction xs with
  | nil => simp
  | cons c xs ih => rw [List.cons_append, byteLength_cons, byteLength_cons, ih, Nat.add_assoc]

/-- Cuts a text at a byte; a character that the byte lies in goes to the second part. -/
def splitAtByte : Nat → List Char → List Char × List Char
  | _, [] => ([], [])
  | n, c :: cs =>
    if c.utf8Size ≤ n then
      let parts := splitAtByte (n - c.utf8Size) cs
      (c :: parts.1, parts.2)
    else ([], c :: cs)

/-- A cut loses nothing. -/
theorem splitAtByte_append (n : Nat) (cs : List Char) :
    (splitAtByte n cs).1 ++ (splitAtByte n cs).2 = cs := by
  induction cs generalizing n with
  | nil => rfl
  | cons c cs ih =>
    rw [splitAtByte]
    split
    · rw [List.cons_append, ih]
    · rfl

/-- A cut at the byte where a part ends gives back that part. -/
theorem splitAtByte_byteLength (front back : List Char) :
    splitAtByte (byteLength front) (front ++ back) = (front, back) := by
  induction front with
  | nil =>
    cases back with
    | nil => rfl
    | cons c cs =>
      have hpos := Char.utf8Size_pos c
      rw [List.nil_append, splitAtByte, byteLength_nil, if_neg (by omega)]
  | cons c front ih =>
    rw [List.cons_append, splitAtByte, byteLength_cons, if_pos (Nat.le_add_right _ _),
      Nat.add_sub_cancel_left, ih]

/-! ## Slices of a text -/

/-- The part of a text from a byte up to another one.  Both have to lie in the text, in this order,
and neither inside a character. -/
def slice? (start stop : Nat) (cs : List Char) : Option (List Char) :=
  let ahead := splitAtByte start cs
  let part := splitAtByte (stop - start) ahead.2
  if byteLength ahead.1 = start ∧ start + byteLength part.1 = stop then some part.1 else none

/-- A part of a text is cut out at the bytes where the text in front of it ends and where it ends
itself. -/
theorem slice?_eq_some_iff {start stop : Nat} {cs part : List Char} :
    slice? start stop cs = some part ↔
      ∃ front back, cs = front ++ part ++ back ∧ start = byteLength front ∧
        stop = byteLength (front ++ part) := by
  constructor
  · intro h
    rw [slice?] at h
    split at h
    · rename_i hbytes
      cases h
      refine ⟨(splitAtByte start cs).1, (splitAtByte (stop - start) (splitAtByte start cs).2).2,
        ?_, hbytes.1.symm, ?_⟩
      · rw [List.append_assoc, splitAtByte_append, splitAtByte_append]
      · rw [byteLength_append, hbytes.1, hbytes.2]
    · cases h
  · rintro ⟨front, back, rfl, rfl, rfl⟩
    rw [slice?, List.append_assoc, splitAtByte_byteLength]
    simp only [byteLength_append, Nat.add_sub_cancel_left, splitAtByte_byteLength, and_self,
      if_true]

end Text
end DiceRoller
