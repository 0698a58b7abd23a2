import DiceRoller.Text.ClusterRole

/-!
# Character clusters

A text as clusters, each of which a reader sees as one character.  Whether a character joins the
cluster in front of it depends on the character before it, and for pictures, tied consonants and
regional letters on what has led up to that.

Main results:

- Theorem `flatten_clusters`: the clusters of a text make up the text.
- Theorem `ne_nil_of_mem_clusters`: no cluster is empty.
-/

namespace DiceRoller
namespace Text

/-- How far the characters before a place have come in joining two pictures: nowhere, to a picture with
its extenders, or to the joiner behind it. -/
inductive PictureState where
  | none
  | picture
  | joined
  deriving DecidableEq, Repr

/-- How far the characters before a place have come in tying two consonants: nowhere, to a consonant
with its extenders, or to a linker behind it. -/
inductive ConjunctState where
  | none
  | consonant
  | linked
  deriving DecidableEq, Repr

/-- What is known at a place of a text: the role of the character before it, how far pictures and
consonants have come, and whether an odd number of regional letters leads up to it. -/
structure ClusterContext where
  last : Option ClusterRole
  pictures : PictureState
  conjunct : ConjunctState
  oddRegionals : Bool
  deriving DecidableEq, Repr

/-- The start of a text. -/
def ClusterContext.start : ClusterContext :=
  ⟨none, .none, .none, false⟩

namespace PictureState

/-- How far pictures have come behind a further character. -/
def next (state : PictureState) : ClusterRole → PictureState
  | .picture => picture
  | .extender | .linker | .nonJoiner => if state = picture then picture else none
  | .joiner => if state = picture then joined else none
  | _ => none

end PictureState

namespace ConjunctState

/-- How far consonants have come behind a further character. -/
def next (state : ConjunctState) : ClusterRole → ConjunctState
  | .consonant => consonant
  | .linker => if state = none then none else linked
  | .extender | .joiner => state
  | _ => none

end ConjunctState

namespace ClusterContext

/-- What is known behind a further character. -/
def next (context : ClusterContext) (role : ClusterRole) : ClusterContext where
  last := some role
  pictures := context.pictures.next role
  conjunct := context.conjunct.next role
  oddRegionals := role == .regional && !context.oddRegionals

/-- Whether a character joins the cluster of the character before it; the first rule that speaks about
the two of them decides. -/
def joins (context : ClusterContext) (role : ClusterRole) : Bool :=
  match context.last, role with
  | none, _ => false
  | some .carriageReturn, .lineFeed => true
  | some .carriageReturn, _ | some .lineFeed, _ | some .control, _ => false
  | _, .carriageReturn | _, .lineFeed | _, .control => false
  | some .leading, .leading | some .leading, .vowel => true
  | some .leading, .openSyllable | some .leading, .closedSyllable => true
  | some .openSyllable, .vowel | some .openSyllable, .trailing => true
  | some .vowel, .vowel | some .vowel, .trailing => true
  | some .closedSyllable, .trailing | some .trailing, .trailing => true
  | _, .extender | _, .linker | _, .nonJoiner | _, .joiner | _, .spacing => true
  | some .inFront, _ => true
  | _, .consonant => context.conjunct == .linked
  | _, .picture => context.pictures == .joined
  | _, .regional => context.oddRegionals
  | _, _ => false

end ClusterContext

/-- The clusters of a text from a place on. -/
def clustersFrom (context : ClusterContext) : List Char → List (List Char)
  | [] => []
  | c :: cs =>
    let here := context.next (clusterRole c)
    let rest := clustersFrom here cs
    if cs.head?.any fun d => here.joins (clusterRole d) then (c :: rest.headD []) :: rest.tail
    else [c] :: rest

/-- The clusters of a text. -/
def clusters (cs : List Char) : List (List Char) :=
  clustersFrom .start cs

/-- The clusters of a text make up the text. -/
theorem flatten_clusters (cs : List Char) : (clusters cs).flatten = cs := by
  rw [clusters]
  generalize ClusterContext.start = context
  induction cs generalizing context with
  | nil => rfl
  | cons c cs ih =>
    have hrest := ih (context.next (clusterRole c))
    simp only [clustersFrom]
    split
    · cases hclusters : clustersFrom (context.next (clusterRole c)) cs with
      | nil =>
        rw [hclusters] at hrest
        simp [← hrest]
      | cons first others =>
        rw [hclusters, List.flatten_cons] at hrest
        simp [hrest]
    · simp [hrest]

/-- No cluster is empty. -/
theorem ne_nil_of_mem_clusters {cs cluster : List Char} (h : cluster ∈ clusters cs) :
    cluster ≠ [] := by
  rw [clusters] at h
  generalize ClusterContext.start = context at h
  induction cs generalizing context with
  | nil => simp [clustersFrom] at h
  | cons c cs ih =>
    simp only [clustersFrom] at h
    split at h
    · rcases List.mem_cons.1 h with rfl | htail
      · simp
      · exact ih _ (List.mem_of_mem_tail htail)
    · rcases List.mem_cons.1 h with rfl | htail
      · simp
      · exact ih _ htail

/-- A letter and its accent are one cluster. -/
example : clusters "e\u0301e".toList = [['e', '\u0301'], ['e']] := by decide +kernel

/-- Two regional letters are one cluster, a third one starts another. -/
example : (clusters "🇩🇪🇫".toList).map List.length = [2, 1] := by decide +kernel

end Text
end DiceRoller
