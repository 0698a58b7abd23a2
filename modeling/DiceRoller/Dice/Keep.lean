import DiceRoller.Text.Decimal

/-!
# Keep rules

Some rolls count only their best or their worst dice.  A keep rule says which end of the throws to
keep and how many of them; among equal throws the earlier ones are kept first.
-/

namespace DiceRoller

/-- Which throws of a roll count: the highest or the lowest so many. -/
inductive Keep where
  | high (count : UInt64)
  | low (count : UInt64)
  deriving DecidableEq, Repr

namespace Keep

/-- How many throws are kept. -/
def count : Keep → UInt64
  | high n => n
  | low n => n

/-- The written form of a rule, such as `kh3`. -/
def render : Keep → List Char
  | high n => 'k' :: 'h' :: Decimal.digits n.toNat
  | low n => 'k' :: 'l' :: Decimal.digits n.toNat

/-- Whether a value is at least as good as another one. -/
def prefers (keep : Keep) (v w : UInt64) : Bool :=
  match keep with
  | high _ => w ≤ v
  | low _ => v ≤ w

/-- The throws with their places, the preferred ones first.  They are sorted by their values alone; the
sort is stable, so equal values stay in the order in which they were thrown. -/
def ranking (keep : Keep) (values : List UInt64) : List (UInt64 × Nat) :=
  values.zipIdx.mergeSort fun a b => keep.prefers a.1 b.1

/-- The places of the throws that are kept, the preferred ones first. -/
def chosen (keep : Keep) (values : List UInt64) : List Nat :=
  ((keep.ranking values).take keep.count.toNat).map fun throw => throw.2

/-- One flag per throw, in the order of the roll, that says whether it is kept. -/
def select (keep : Keep) (values : List UInt64) : List Bool :=
  ((keep.chosen values).foldl (fun flags place => flags.setIfInBounds place true)
    (Array.replicate values.length false)).toList

@[simp]
theorem count_high (n : UInt64) : (high n).count = n :=
  rfl

@[simp]
theorem count_low (n : UInt64) : (low n).count = n :=
  rfl

/-- Setting flags leaves their number as it is. -/
theorem size_foldl_set (places : List Nat) (flags : Array Bool) :
    (places.foldl (fun flags place => flags.setIfInBounds place true) flags).size = flags.size := by
  induction places generalizing flags with
  | nil => rfl
  | cons place places ih => rw [List.foldl_cons, ih, Array.size_setIfInBounds]

/-- There is one flag per throw. -/
@[simp]
theorem length_select (keep : Keep) (values : List UInt64) :
    (keep.select values).length = values.length := by
  rw [select, Array.length_toList, size_foldl_set, Array.size_replicate]

end Keep
end DiceRoller
