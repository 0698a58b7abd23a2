import DiceRoller.Proofs.Notation.Respelling
import DiceRoller.Proofs.Roll.Range
import DiceRoller.Proofs.Text.Run
import DiceRoller.Roll.Query

/-!
# What the text of a roll tells

A roll is written down for readers, who have nothing but the text.  Its parts stand between marks
that the parts themselves do not hold, so they can be cut out again: the label between its quotes,
the throws between brackets, the modifier in front of the equals sign, and the total between its
stars.  What is read there is what the roll was written for, and the numbers in it add up.

Main results:

- Theorem `read_written`: the parts of a text.
- Theorem `read_render`: a written roll is read back.
- Theorem `Query.Made.quote_not_mem`: no label that the program makes holds a quote.
- Theorem `render_unambiguous`: equal texts are texts of equal rolls, and what they tell adds up.
-/

namespace DiceRoller

/-! ## Reading a text -/

/-- A throw as it is shown: its value, and whether it is struck through. -/
structure ShownThrow where
  value : Nat
  struck : Bool
  deriving DecidableEq, Repr

/-- Dice as they are shown: the throws and the modifier, which is zero where none is written. -/
structure ShownDice where
  throws : List ShownThrow
  modifier : Int
  deriving DecidableEq, Repr

/-- The sum of the throws that are not struck through. -/
def ShownDice.sum (dice : ShownDice) : Nat :=
  ((dice.throws.filter fun thrown => !thrown.struck).map ShownThrow.value).sum

/-- What the text of a roll tells; a plain number shows no dice. -/
structure Account where
  label : List Char
  dice : Option ShownDice
  total : Int
  critical : Critical
  deriving DecidableEq, Repr

namespace Account

/-- The number whose digits stand in a text. -/
def readNumber (cs : List Char) : Nat :=
  Decimal.value (cs.filter Char.isDigit)

/-- The same with a minus sign, if there is one. -/
def readSigned (cs : List Char) : Int :=
  if '-' ∈ cs then -(readNumber cs : Int) else readNumber cs

/-- A throw, struck through by tildes. -/
def readThrow (cs : List Char) : ShownThrow :=
  ⟨readNumber cs, '~' ∈ cs⟩

/-- Throws with commas between them. -/
def readThrows (cs : List Char) : List ShownThrow :=
  if cs = [] then [] else (cs.splitOn ',').map readThrow

/-- Throws in brackets with the modifier behind them. -/
def readDice (cs : List Char) : Option ShownDice :=
  if '[' ∈ cs then
    let parts := Text.cutAt ']' (Text.cutAt '[' cs).2
    some ⟨readThrows parts.1, readSigned parts.2⟩
  else none

/-- The remark behind the first of the stars that close the total. -/
def readCritical (cs : List Char) : Critical :=
  if cs = "* *critical success*".toList then .success
  else if cs = "* *fumble*".toList then .fumble
  else .none

/-- What a text tells: the label stands between the first two quotes, the dice in front of the
equals sign, the total between the stars behind it, and the remark at the end. -/
def read (cs : List Char) : Account :=
  let quoted := Text.cutAt '`' (Text.cutAt '`' cs).2
  let sides := Text.cutAt '=' quoted.2
  let starred := Text.cutAt '*' (Text.cutAt '*' (Text.cutAt '*' sides.2).2).2
  ⟨quoted.1, readDice sides.1, readSigned starred.1, readCritical starred.2⟩

/-- A text is read by its parts, as long as these do not hold the marks behind them. -/
theorem read_written {label dice total : List Char} (hlabel : '`' ∉ label) (hdice : '=' ∉ dice)
    (htotal : '*' ∉ total) (remark : List Char) :
    read ('`' :: label ++ '`' :: dice ++ " = **".toList ++ total ++ "**".toList ++ remark) =
      ⟨label, readDice (dice ++ [' ']), readSigned total, readCritical ('*' :: remark)⟩ := by
  have htext : '`' :: label ++ '`' :: dice ++ " = **".toList ++ total ++ "**".toList ++ remark =
      '`' :: (label ++ '`' :: (dice ++ [' '] ++
        '=' :: ' ' :: '*' :: '*' :: (total ++ '*' :: '*' :: remark))) := by
    simp
  have hdice' : '=' ∉ dice ++ [' '] := by simp [hdice]
  have hopen : Text.cutAt '`' ('`' :: (label ++ '`' :: (dice ++ [' '] ++
      '=' :: ' ' :: '*' :: '*' :: (total ++ '*' :: '*' :: remark)))) = ([], _) :=
    Text.cutAt_append List.not_mem_nil _
  have hblank : '*' ∉ [' '] := by decide
  have hspace : Text.cutAt '*' (' ' :: '*' :: '*' :: (total ++ '*' :: '*' :: remark)) =
      ([' '], _) := Text.cutAt_append hblank _
  have hstar : Text.cutAt '*' ('*' :: (total ++ '*' :: '*' :: remark)) = ([], _) :=
    Text.cutAt_append List.not_mem_nil _
  rw [htext, read, hopen]
  simp only [Text.cutAt_append hlabel, Text.cutAt_append hdice', hspace, hstar,
    Text.cutAt_append htotal]

/-! ## Numbers -/

/-- A number is written with digits alone. -/
theorem filter_isDigit_digits (n : Nat) :
    (Decimal.digits n).filter Char.isDigit = Decimal.digits n :=
  List.filter_eq_self.2 (Decimal.isDigit_of_mem_digits n)

/-- Digits are read wherever they stand, if there are no others. -/
theorem readNumber_digits (front back : List Char) (hfront : front.filter Char.isDigit = [])
    (hback : back.filter Char.isDigit = []) (n : Nat) :
    readNumber (front ++ Decimal.digits n ++ back) = n := by
  rw [readNumber, List.filter_append, List.filter_append, hfront, hback, filter_isDigit_digits,
    List.nil_append, List.append_nil, Decimal.value_digits]

/-- A text of digits and certain other characters. -/
def Holds (others cs : List Char) : Prop :=
  ∀ c ∈ cs, c.isDigit = true ∨ c ∈ others

/-- What is neither a digit nor allowed does not occur. -/
theorem Holds.not_mem {others cs : List Char} (h : Holds others cs) {c : Char}
    (hc : ¬ (c.isDigit = true ∨ c ∈ others)) : c ∉ cs :=
  fun hmem => hc (h c hmem)

/-- Two texts with the same characters make a third. -/
theorem Holds.append {others xs ys : List Char} (hxs : Holds others xs) (hys : Holds others ys) :
    Holds others (xs ++ ys) :=
  List.forall_mem_append.2 ⟨hxs, hys⟩

/-- A text of allowed characters. -/
theorem holds_of_subset {others cs : List Char} (h : cs ⊆ others) : Holds others cs :=
  fun _ hc => Or.inr (h hc)

/-- A number needs no characters but digits. -/
theorem holds_digits (others : List Char) (n : Nat) : Holds others (Decimal.digits n) :=
  fun c hc => Or.inl (Decimal.isDigit_of_mem_digits n c hc)

/-- With a sign it needs the minus. -/
theorem holds_signed (n : Int) : Holds ['-'] (Decimal.signed n) := by
  rw [Decimal.signed]
  split
  · exact (holds_of_subset (List.Subset.refl ['-'])).append (holds_digits _ _)
  · exact holds_digits _ _

/-- A signed number is read back. -/
theorem readSigned_signed (n : Int) : readSigned (Decimal.signed n) = n := by
  have hread := readNumber_digits [] [] rfl rfl n.natAbs
  have hminus := readNumber_digits ['-'] [] rfl rfl n.natAbs
  rw [List.append_nil] at hread hminus
  rw [List.nil_append] at hread
  rw [List.singleton_append] at hminus
  by_cases hneg : n < 0
  · rw [Decimal.signed, if_pos hneg, readSigned, if_pos List.mem_cons_self, hminus]
    omega
  · have hplain : '-' ∉ Decimal.digits n.natAbs := (holds_digits [] n.natAbs).not_mem (by decide)
    rw [Decimal.signed, if_neg hneg, readSigned, if_neg hplain, hread]
    omega

/-! ## Dice -/

/-- A throw needs the marks for what is left out. -/
theorem holds_renderOutcome (outcome : Outcome) : Holds ['~'] (Roll.renderOutcome outcome) := by
  have hstroke : Holds ['~'] ['~', '~'] := holds_of_subset (by decide)
  rw [Roll.renderOutcome]
  split
  · exact holds_digits _ _
  · exact (hstroke.append (holds_digits _ _)).append hstroke

/-- No throw is shown as nothing. -/
theorem renderOutcome_ne_nil (outcome : Outcome) : Roll.renderOutcome outcome ≠ [] := by
  rw [Roll.renderOutcome]
  split
  · exact Decimal.digits_ne_nil _
  · exact List.cons_ne_nil _ _

/-- A throw is read back, whether there is a blank in front of it or not. -/
theorem readThrow_renderOutcome {front : List Char} (hfront : front ⊆ [' ']) (outcome : Outcome) :
    readThrow (front ++ Roll.renderOutcome outcome) =
      ⟨outcome.value.toNat, !outcome.kept⟩ := by
  have hdigits : front.filter Char.isDigit = [] := by
    rw [List.filter_eq_nil_iff]
    intro c hc
    rw [List.mem_singleton.1 (hfront hc)]
    decide
  have htilde : '~' ∉ front := fun hmem => absurd (hfront hmem) (by decide)
  cases hkept : outcome.kept with
  | true =>
    have hread := readNumber_digits _ [] hdigits rfl outcome.value.toNat
    rw [List.append_nil] at hread
    have hplain : '~' ∉ front ++ Decimal.digits outcome.value.toNat := by
      rw [List.mem_append, not_or]
      exact ⟨htilde, (holds_digits [] outcome.value.toNat).not_mem (by decide)⟩
    rw [Roll.renderOutcome, if_pos hkept, readThrow, hread, decide_eq_false hplain]
    rfl
  | false =>
    have hopening : (front ++ ['~', '~']).filter Char.isDigit = [] := by
      rw [List.filter_append, hdigits]
      rfl
    have hread := readNumber_digits _ ['~', '~'] hopening rfl outcome.value.toNat
    have htext : front ++ Roll.renderOutcome outcome =
        front ++ ['~', '~'] ++ Decimal.digits outcome.value.toNat ++ ['~', '~'] := by
      rw [Roll.renderOutcome, hkept]
      simp
    have hmarked :
        '~' ∈ front ++ ['~', '~'] ++ Decimal.digits outcome.value.toNat ++ ['~', '~'] := by
      simp
    rw [htext, readThrow, hread, decide_eq_true hmarked]
    rfl

/-- Throws stand between commas, each but the first behind a blank. -/
theorem renderOutcomes_cons (outcome : Outcome) (outcomes : List Outcome) :
    Roll.renderOutcomes (outcome :: outcomes) =
      List.intercalate [','] (Roll.renderOutcome outcome ::
        outcomes.map fun other => ' ' :: Roll.renderOutcome other) := by
  induction outcomes generalizing outcome with
  | nil => simp [Roll.renderOutcomes]
  | cons other outcomes ih =>
    have hrest := ih other
    rw [Roll.renderOutcomes, List.map_cons, List.map_cons, List.intercalate_cons_cons]
    rw [Roll.renderOutcomes, List.map_cons] at hrest
    rw [hrest, List.map_cons, List.intercalate_cons_cons]
    cases outcomes with
    | nil => simp
    | cons third outcomes => simp [List.intercalate_cons_cons]

/-- The throws of a roll, as they are shown. -/
def shownThrows (outcomes : List Outcome) : List ShownThrow :=
  outcomes.map fun outcome => ⟨outcome.value.toNat, !outcome.kept⟩

/-- Throws are told apart by what is shown of them. -/
theorem shownThrows_injective : Function.Injective shownThrows := by
  apply Function.Injective.list_map
  rintro ⟨value, kept⟩ ⟨value', kept'⟩ h
  simp only [ShownThrow.mk.injEq, UInt64.toNat_inj, Bool.not_inj_iff] at h
  rw [h.1, h.2]

/-- The sum of what is not struck through is the sum of the throws that count. -/
theorem sum_shownThrows (outcomes : List Outcome) (modifier : Int) :
    ShownDice.sum ⟨shownThrows outcomes, modifier⟩ = keptValue outcomes := by
  simp only [ShownDice.sum, shownThrows, keptValue, List.filter_map, List.map_map,
    Function.comp_def, Bool.not_not]

/-- Between throws there are commas and blanks. -/
theorem holds_renderOutcomes (outcomes : List Outcome) :
    Holds ['~', ',', ' '] (Roll.renderOutcomes outcomes) := by
  have houtcome : ∀ outcome, Holds ['~', ',', ' '] (Roll.renderOutcome outcome) := by
    intro outcome c hc
    apply (holds_renderOutcome outcome c hc).imp_right
    intro hstroke
    exact List.mem_cons.2 (Or.inl (by simpa using hstroke))
  induction outcomes with
  | nil => exact holds_of_subset (List.nil_subset _)
  | cons outcome outcomes ih =>
    cases outcomes with
    | nil => simpa [Roll.renderOutcomes] using houtcome outcome
    | cons other outcomes =>
      rw [Roll.renderOutcomes, List.map_cons, List.map_cons, List.intercalate_cons_cons]
      exact ((houtcome outcome).append (holds_of_subset (by decide))).append ih

/-- Throws are read back. -/
theorem readThrows_renderOutcomes (outcomes : List Outcome) :
    readThrows (Roll.renderOutcomes outcomes) = shownThrows outcomes := by
  cases outcomes with
  | nil => rfl
  | cons outcome outcomes =>
    have hcomma : ∀ part ∈ Roll.renderOutcome outcome ::
        outcomes.map (fun other => ' ' :: Roll.renderOutcome other), ',' ∉ part := by
      intro part hpart
      rcases List.mem_cons.1 hpart with rfl | hpart
      · exact (holds_renderOutcome outcome).not_mem (by decide)
      · obtain ⟨other, -, rfl⟩ := List.mem_map.1 hpart
        rw [List.mem_cons, not_or]
        exact ⟨by decide, (holds_renderOutcome other).not_mem (by decide)⟩
    have hsplit := List.splitOn_intercalate ',' hcomma (List.cons_ne_nil _ _)
    rw [← renderOutcomes_cons] at hsplit
    have hne : Roll.renderOutcomes (outcome :: outcomes) ≠ [] := by
      intro hnil
      rw [hnil] at hsplit
      exact renderOutcome_ne_nil outcome (List.cons.inj hsplit).1.symm
    rw [readThrows, if_neg hne, hsplit, List.map_cons, List.map_map, shownThrows, List.map_cons]
    congr 1
    · exact readThrow_renderOutcome (List.nil_subset _) outcome
    · apply List.map_congr_left
      intro other _
      exact readThrow_renderOutcome (List.Subset.refl [' ']) other

/-- A modifier stands behind its sign, with blanks around it. -/
theorem holds_renderModifier (modifier : Int64) :
    Holds [' ', '+', '-'] (Roll.renderModifier modifier) := by
  rw [Roll.renderModifier]
  split
  · exact (holds_of_subset (by decide)).append (holds_digits _ _)
  · split
    · exact (holds_of_subset (by decide)).append (holds_digits _ _)
    · exact holds_of_subset (List.nil_subset _)

/-- The modifier is read back, with a blank behind it. -/
theorem readSigned_renderModifier (modifier : Int64) :
    readSigned (Roll.renderModifier modifier ++ [' ']) = modifier.toInt := by
  have hplus : (" + ".toList : List Char).filter Char.isDigit = [] := by decide
  have hminus : (" - ".toList : List Char).filter Char.isDigit = [] := by decide
  have hzero : (0 : Int64).toInt = 0 := Int64.toInt_zero
  have hplain : '-' ∉ Decimal.digits modifier.toInt.natAbs :=
    (holds_digits [] modifier.toInt.natAbs).not_mem (by decide)
  rw [Roll.renderModifier]
  simp only [Int64.lt_iff_toInt_lt, hzero]
  by_cases hpos : 0 < modifier.toInt
  · have hread := readNumber_digits _ [' '] hplus rfl modifier.toInt.natAbs
    have hno : '-' ∉ " + ".toList ++ Decimal.digits modifier.toInt.natAbs ++ [' '] := by
      simp [hplain]
    rw [if_pos hpos, readSigned, if_neg hno, hread]
    omega
  · rw [if_neg hpos]
    by_cases hneg : modifier.toInt < 0
    · have hread := readNumber_digits _ [' '] hminus rfl modifier.toInt.natAbs
      have hyes : '-' ∈ " - ".toList ++ Decimal.digits modifier.toInt.natAbs ++ [' '] := by
        simp
      rw [if_pos hneg, readSigned, if_pos hyes, hread]
      omega
    · rw [if_neg hneg]
      show (0 : Int) = modifier.toInt
      omega

/-- A plain number shows no dice. -/
theorem readDice_blank : readDice [' '] = none := by
  decide

/-- Dice are read back, with a blank behind them. -/
theorem readDice_written (outcomes : List Outcome) (modifier : Int64) :
    readDice (" [".toList ++ Roll.renderOutcomes outcomes ++ ']' :: Roll.renderModifier modifier ++
      [' ']) = some ⟨shownThrows outcomes, modifier.toInt⟩ := by
  have htext : " [".toList ++ Roll.renderOutcomes outcomes ++
      ']' :: Roll.renderModifier modifier ++ [' '] =
        [' '] ++ '[' :: (Roll.renderOutcomes outcomes ++
          ']' :: (Roll.renderModifier modifier ++ [' '])) := by
    simp
  have hbracket : ']' ∉ Roll.renderOutcomes outcomes :=
    (holds_renderOutcomes outcomes).not_mem (by decide)
  rw [htext, readDice, if_pos (by simp), Text.cutAt_append (by decide)]
  simp only [Text.cutAt_append hbracket, readThrows_renderOutcomes, readSigned_renderModifier]

/-- The mark of a critical throw is read back. -/
theorem readCritical_renderCritical (critical : Critical) :
    readCritical ('*' :: Roll.renderCritical critical) = critical := by
  cases critical <;> decide

end Account

namespace Roll

/-! ## Written rolls -/

/-- What the text of a roll is to tell. -/
def account (roll : Roll) : Account :=
  ⟨Text.trim roll.label,
    if roll.descriptor.isFlat then none
    else some ⟨Account.shownThrows roll.outcomes, roll.descriptor.modifier.toInt⟩,
    roll.total.toInt, roll.critical⟩

/-- The first equals sign stands behind the dice. -/
theorem equals_not_mem_renderDice (roll : Roll) : '=' ∉ roll.renderDice := by
  rw [renderDice]
  split
  · exact List.not_mem_nil
  · simp only [List.mem_append, List.mem_cons, not_or]
    exact ⟨⟨by decide, (Account.holds_renderOutcomes _).not_mem (by decide)⟩, by decide,
      (Account.holds_renderModifier _).not_mem (by decide)⟩

/-- A written roll is read back, if no quote stands in its label. -/
theorem read_render {roll : Roll} (h : '`' ∉ Text.trim roll.label) :
    Account.read roll.render = roll.account := by
  have htotal : '*' ∉ Decimal.signed roll.total.toInt :=
    (Account.holds_signed roll.total.toInt).not_mem (by decide)
  have hdice : Account.readDice (roll.renderDice ++ [' ']) = roll.account.dice := by
    rw [renderDice, account]
    cases roll.descriptor.isFlat with
    | true => exact Account.readDice_blank
    | false => exact Account.readDice_written roll.outcomes roll.descriptor.modifier
  rw [render, Account.read_written h roll.equals_not_mem_renderDice htotal, hdice,
    Account.readSigned_signed, Account.readCritical_renderCritical]
  rfl

/-- Rolls with equal accounts are equal as far as they are shown, if plain numbers come without
throws and have their modifiers for totals. -/
theorem eq_of_account_eq {roll roll' : Roll} (h : roll.account = roll'.account)
    (hflat : roll.descriptor.isFlat = true →
      roll.outcomes = [] ∧ roll.total = roll.descriptor.modifier)
    (hflat' : roll'.descriptor.isFlat = true →
      roll'.outcomes = [] ∧ roll'.total = roll'.descriptor.modifier) :
    Text.trim roll.label = Text.trim roll'.label ∧ roll.outcomes = roll'.outcomes ∧
      roll.descriptor.modifier = roll'.descriptor.modifier ∧ roll.total = roll'.total ∧
      roll.critical = roll'.critical := by
  simp only [account, Account.mk.injEq] at h
  obtain ⟨hlabel, hdice, htotal, hcritical⟩ := h
  rw [Int64.toInt_inj] at htotal
  have hparts : roll.outcomes = roll'.outcomes ∧
      roll.descriptor.modifier = roll'.descriptor.modifier := by
    cases hkind : roll.descriptor.isFlat with
    | true =>
      cases hkind' : roll'.descriptor.isFlat with
      | true =>
        obtain ⟨hnone, hvalue⟩ := hflat hkind
        obtain ⟨hnone', hvalue'⟩ := hflat' hkind'
        exact ⟨hnone.trans hnone'.symm, by rw [← hvalue, htotal, hvalue']⟩
      | false => simp [hkind, hkind'] at hdice
    | false =>
      cases hkind' : roll'.descriptor.isFlat with
      | true => simp [hkind, hkind'] at hdice
      | false =>
        simp only [hkind, hkind', Bool.false_eq_true, if_false, Option.some.injEq,
          ShownDice.mk.injEq] at hdice
        exact ⟨Account.shownThrows_injective hdice.1, Int64.toInt_inj.1 hdice.2⟩
  exact ⟨hlabel, hparts.1, hparts.2, htotal, hcritical⟩

end Roll

/-! ## Rolls that are made -/

namespace Descriptor

/-- A result is exact: it shows throws of the descriptor, and its sums are sums in the integers. -/
theorem isExact_of_rollAs {σ : Type} {d : Descriptor} {label : List Char} {source : Source σ}
    {state : σ} {roll : Roll} (h : (d.rollAs label source state).1 = .ok roll) :
    ∃ values, d.validate = .ok () ∧ values.length = d.count.toNat ∧
      d.IsExact label values roll := by
  obtain ⟨hvalid, values, hcount, hsides, hsettle⟩ := exists_values_of_rollAs h
  have hlength : values.length ≤ 5000 := by
    rw [hcount]
    exact UInt64.le_iff_toNat_le.1 (validate_eq_ok_iff.1 hvalid).1
  have hvalues : ∀ value ∈ values, value.toNat ≤ 5000 :=
    fun value hvalue => toNat_le_of_isSide hvalid (hsides value hvalue)
  refine ⟨values, hvalid, hcount, ?_⟩
  by_cases hfits : keptValue (d.outcomes values) + d.modifier.toInt ≤ Int64.maxValue.toInt
  · obtain ⟨made, hmade, hexact⟩ :
        ∃ made, d.settle label values = .ok made ∧ d.IsExact label values made :=
      settle_of_le hlength hvalues hfits
    rw [hmade] at hsettle
    cases hsettle
    exact hexact
  · rw [settle_of_lt hlength hvalues (Int.not_le.1 hfits)] at hsettle
    cases hsettle

/-- A result that is a plain number has no throws, and its total is the modifier. -/
theorem plain_of_rollAs {σ : Type} {d : Descriptor} {label : List Char} {source : Source σ}
    {state : σ} {roll : Roll} (h : (d.rollAs label source state).1 = .ok roll)
    (hflat : roll.descriptor.isFlat = true) :
    roll.outcomes = [] ∧ roll.total = roll.descriptor.modifier := by
  obtain ⟨values, hvalid, hcount, hexact⟩ := isExact_of_rollAs h
  rw [hexact.descriptor, isFlat, beq_iff_eq] at hflat
  have hnone : d.count = 0 := ((validate_eq_ok_iff.1 hvalid).2.2.1 hflat).1
  have houtcomes : roll.outcomes = [] := by
    rw [hnone] at hcount
    rw [← List.map_eq_nil_iff (f := Outcome.value), hexact.shown]
    exact List.length_eq_zero_iff.1 hcount
  refine ⟨houtcomes, ?_⟩
  rw [← Int64.toInt_inj, hexact.total, houtcomes, hexact.descriptor]
  exact Int.zero_add _

end Descriptor

namespace Query

/-- The queries that are made: of a notation that is read, or of a descriptor that is put together
from its parts or read. -/
inductive Made : Query → Prop
  | typed {cs : List Char} {query : Query} (h : parse cs = .ok query) : Made query
  | dice (count sides : UInt64) (keep : Option Keep) (modifier : Int64) :
      Made (ofDescriptor (.dice count sides keep modifier))
  | flat (modifier : Int64) : Made (ofDescriptor (.flat modifier))
  | read {cs : List Char} {d : Descriptor} (h : Descriptor.parse cs = .ok d) : Made (ofDescriptor d)

/-- No label of a query that is made holds a quote, which is no character of dice notation. -/
theorem Made.quote_not_mem {query : Query} (h : query.Made) : '`' ∉ query.label := by
  have hquote : '`' ∉ notationChars := by decide
  cases h with
  | @typed cs query hquery =>
    obtain ⟨d, hd, rfl⟩ := map_eq_ok_iff.1 hquery
    intro hmem
    apply hquote
    apply Descriptor.mem_notationChars_of_parse hd
    exact List.mem_flatMap.2 ⟨'`', List.mem_filter.2 ⟨hmem, by decide⟩, by decide⟩
  | dice count sides keep modifier =>
    intro hmem
    exact hquote (Descriptor.mem_notationChars_dice count sides keep modifier _ hmem)
  | flat modifier =>
    intro hmem
    exact hquote (Descriptor.mem_notationChars_flat modifier _ hmem)
  | @read cs d hd =>
    intro hmem
    rw [ofDescriptor_label, Descriptor.canonical_eq_of_parse hd] at hmem
    exact hquote (Descriptor.mem_notationChars_of_parse hd _ hmem)

/-- A result of such a query is read back from its text. -/
theorem Made.read_render {query : Query} (h : query.Made) {σ : Type} {source : Source σ} {state : σ}
    {roll : Roll} (hroll : (query.solve source state).1 = .ok roll) :
    Account.read roll.render = roll.account := by
  obtain ⟨values, -, -, hexact⟩ := Descriptor.isExact_of_rollAs hroll
  apply Roll.read_render
  rw [hexact.label]
  exact fun hmem => h.quote_not_mem (Text.trim_subset query.label hmem)

end Query

/-- The text of a roll is unambiguous, and adds up.  When two queries that are made, of notations or
of descriptors, have results, with any sources, and their texts are equal, then so are the labels
without the blanks around them, the throws in their order with the word which of them count, the
modifiers, the totals and the remarks.  For what a text tells is what the roll was written for.  And
the text of a result that is no plain number shows dice: the throws that are not struck through, and
the modifier, which is zero where none is written, come to the total that is written. -/
theorem render_unambiguous {σ σ' : Type} {query query' : Query} {source : Source σ}
    {source' : Source σ'} {state : σ} {state' : σ'} {roll roll' : Roll} (made : query.Made)
    (made' : query'.Made) (h : (query.solve source state).1 = .ok roll)
    (h' : (query'.solve source' state').1 = .ok roll') :
    (roll.render = roll'.render →
      Text.trim roll.label = Text.trim roll'.label ∧ roll.outcomes = roll'.outcomes ∧
        roll.descriptor.modifier = roll'.descriptor.modifier ∧ roll.total = roll'.total ∧
        roll.critical = roll'.critical) ∧
    Account.read roll.render = roll.account ∧
    (roll.descriptor.isFlat = false →
      ∃ dice, (Account.read roll.render).dice = some dice ∧
        dice.sum + dice.modifier = (Account.read roll.render).total) := by
  refine ⟨?_, made.read_render h, ?_⟩
  · intro heq
    have haccount : roll.account = roll'.account := by
      rw [← made.read_render h, ← made'.read_render h', heq]
    exact Roll.eq_of_account_eq haccount (Descriptor.plain_of_rollAs h)
      (Descriptor.plain_of_rollAs h')
  · intro hdice
    obtain ⟨values, -, -, hexact⟩ := Descriptor.isExact_of_rollAs h
    rw [made.read_render h, Roll.account, hdice]
    refine ⟨_, rfl, ?_⟩
    rw [Account.sum_shownThrows]
    show _ = roll.total.toInt
    rw [hexact.total, hexact.descriptor]

/-- The better of two dice, typed with blanks and put together from its parts. -/
theorem render_unambiguous_better_of_two :
    let typed : Query := ⟨" 2d20kh1+3 ".toList, ⟨2, 20, some (.high 1), 3, "2d20kh1+3".toList⟩⟩
    let built : Query := .advantage 3
    ∃ roll roll', (typed.solve .scripted [17, 5]).1 = .ok roll ∧
      (built.solve .scripted [17, 5]).1 = .ok roll' ∧ roll.render = roll'.render ∧
      roll.render = "`2d20kh1+3` [17, ~~5~~] + 3 = **20**".toList ∧
      Text.trim roll.label = Text.trim roll'.label ∧ roll.outcomes = roll'.outcomes ∧
      ∃ dice, (Account.read roll.render).dice = some dice ∧
        dice.sum + dice.modifier = (Account.read roll.render).total := by
  intro typed built
  have hparse : Query.parse " 2d20kh1+3 ".toList = .ok typed := by decide +kernel
  let outcomes : List Outcome := [⟨17, true⟩, ⟨5, false⟩]
  let d : Descriptor := ⟨2, 20, some (.high 1), 3, "2d20kh1+3".toList⟩
  let roll : Roll := ⟨d, " 2d20kh1+3 ".toList, outcomes, 17, 20, .none⟩
  let roll' : Roll := ⟨d, "2d20kh1+3".toList, outcomes, 17, 20, .none⟩
  have hselect : (Keep.high 1).select [17, 5] = [true, false] := by
    have hchosen : (Keep.high 1).chosen [17, 5] = [0] := by
      simp [Keep.chosen, Keep.ranking, List.mergeSort, Keep.prefers]
    rw [Keep.select, hchosen]
    rfl
  have houtcomes : d.outcomes [17, 5] = outcomes := by
    show List.zipWith Outcome.mk [17, 5] ((Keep.high 1).select [17, 5]) = outcomes
    rw [hselect]
    rfl
  have hroll : (typed.solve .scripted [17, 5]).1 = .ok roll := by
    show d.settle " 2d20kh1+3 ".toList [17, 5] = .ok roll
    rw [Descriptor.settle, houtcomes]
    rfl
  have hbuilt : built = ⟨"2d20kh1+3".toList, d⟩ := by decide +kernel
  have hroll' : (built.solve .scripted [17, 5]).1 = .ok roll' := by
    rw [hbuilt]
    show d.settle "2d20kh1+3".toList [17, 5] = .ok roll'
    rw [Descriptor.settle, houtcomes]
    rfl
  have htext : roll.render = roll'.render := by decide +kernel
  obtain ⟨hequal, -, hadds⟩ :=
    render_unambiguous (.typed hparse) (.dice 2 20 (some (.high 1)) 3) hroll hroll'
  exact ⟨roll, roll', hroll, hroll', htext, by decide +kernel, (hequal htext).1, (hequal htext).2.1,
    hadds rfl⟩

end DiceRoller
