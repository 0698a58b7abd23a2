import DiceRoller.Text.Bytes
import DiceRoller.Text.Cluster

/-!
# Input lines

A line reader delivers line after line, and in the end the reason why there are no more.  Where it reads
from no terminal, the input arrives as bytes.  A line feed ends a line, a carriage return in front of it
belongs to the end, and what follows the last line feed is a line too, unless it is empty.  A backspace
takes back the cluster of characters before it.  The bytes of a line may fail to be UTF-8, and then no
more lines are read.

Main results:

- Theorem `splitAtFeeds_append`: the first line is what stands before the first line feed.
- Theorem `takeBack?_of_not_mem`: without backspaces nothing is taken back.
-/

namespace DiceRoller

/-! ## What a line reader delivers -/

/-- Why no more lines are read: the input is at its end, the user breaks off, or reading fails. -/
inductive Ending where
  | endOfInput
  | interrupted
  | failed (fault : List Char)
  deriving DecidableEq, Repr

namespace Ending

/-- The bytes of a line are no text. -/
def notText : Ending :=
  .failed ("Io(Error \x7b kind: InvalidData, ".toList ++
    "message: \"stream did not contain valid UTF-8\" \x7d)".toList)

/-- The wording of an ending. -/
def message : Ending → List Char
  | endOfInput => "dicemark: signal: CTRL-D".toList
  | interrupted => "dicemark: signal: CTRL-C".toList
  | failed fault => "dicemark: error: `".toList ++ fault ++ ['`']

end Ending

/-- A line reader: whether it reads from a terminal, and what it delivers, a line or an ending each time.
Behind all that it delivers there is the end of the input. -/
structure LineReader where
  isTerminal : Bool
  readings : List (Except Ending (List Char))

namespace LineReader

/-- The lines in front of the first ending. -/
def lines (reader : LineReader) : List (List Char) :=
  (reader.readings.takeWhile Except.isOk).filterMap Except.toOption

/-- The first ending. -/
def ending (reader : LineReader) : Ending :=
  (reader.readings.findSome? fun
    | .ok _ => none
    | .error ending => some ending).getD .endOfInput

end LineReader

namespace Input

/-! ## Bytes -/

/-- A line as it came: its bytes, and whether a line feed followed them. -/
structure RawLine where
  bytes : List UInt8
  isEnded : Bool
  deriving DecidableEq, Repr

/-- The byte of a line feed. -/
def feed : UInt8 := 10

/-- Cuts bytes into lines. -/
def splitAtFeeds : List UInt8 → List RawLine
  | [] => []
  | b :: bs =>
    if b = feed then ⟨[], true⟩ :: splitAtFeeds bs
    else
      match splitAtFeeds bs with
      | [] => [⟨[b], false⟩]
      | line :: others => { line with bytes := b :: line.bytes } :: others

/-- The text of some bytes, if they are UTF-8. -/
def decode? (bytes : List UInt8) : Option (List Char) :=
  (String.fromUTF8? (ByteArray.mk bytes.toArray)).map String.toList

/-- A text without a carriage return at its end. -/
def dropReturn (cs : List Char) : List Char :=
  if cs.getLast? = some '\r' then cs.dropLast else cs

/-! ## Backspaces -/

/-- A line on the way: the characters that are kept, the last one in front, and how many bytes each
backspace would take back, the next one in front. -/
structure Typed where
  kept : List Char
  sizes : List Nat
  deriving DecidableEq, Repr

/-- A backspace. -/
def backspace : Char := '\x08'

/-- The characters behind the first bytes of a text, unless the last of these bytes is inside of a
character. -/
def dropBytes? (size : Nat) (cs : List Char) : Option (List Char) :=
  let parts := Text.splitAtByte size cs
  if Text.byteLength parts.1 = size then some parts.2 else none

/-- Takes in a cluster: a backspace takes back the size that is next, anything else is kept together
with its size.  A size is remembered in one byte, so it can be wrong; where that would cut through a
character, the reader breaks down. -/
def Typed.enter? (typed : Typed) (cluster : List Char) : Option Typed :=
  if cluster = [backspace] then
    match typed.sizes with
    | [] => some typed
    | size :: sizes => (dropBytes? size typed.kept).map fun kept => ⟨kept, sizes⟩
  else some ⟨cluster.reverse ++ typed.kept, Text.byteLength cluster % 256 :: typed.sizes⟩

/-- A text in which every backspace has taken back the cluster before it, unless the reader breaks
down. -/
def takeBack? (cs : List Char) : Option (List Char) :=
  ((Text.clusters cs).foldlM Typed.enter? ⟨[], []⟩).map fun typed => typed.kept.reverse

/-! ## Reading -/

/-- What comes of reading a line, unless the reader breaks down. -/
def RawLine.read? (line : RawLine) : Option (Except Ending (List Char)) :=
  match decode? line.bytes with
  | none => some (.error .notText)
  | some cs => (takeBack? (if line.isEnded then dropReturn cs else cs)).map .ok

/-- What the reader delivers for some lines, and whether it breaks down behind that. -/
def deliver : List RawLine → List (Except Ending (List Char)) × Bool
  | [] => ([], false)
  | line :: others =>
    match line.read? with
    | none => ([], true)
    | some (.error ending) => ([.error ending], false)
    | some (.ok text) =>
      let delivered := deliver others
      (.ok text :: delivered.1, delivered.2)

/-! ## First laws -/

/-- The first line is what stands before the first line feed. -/
theorem splitAtFeeds_append {line : List UInt8} (h : feed ∉ line) (bytes : List UInt8) :
    splitAtFeeds (line ++ feed :: bytes) = ⟨line, true⟩ :: splitAtFeeds bytes := by
  induction line with
  | nil => rfl
  | cons b line ih =>
    have hb : b ≠ feed := fun hb => h (hb ▸ List.mem_cons_self)
    rw [List.cons_append, splitAtFeeds, if_neg hb,
      ih fun hline => h (List.mem_cons_of_mem _ hline)]

/-- Without backspaces all clusters are kept. -/
theorem foldlM_enter? {clusters : List (List Char)} (h : [backspace] ∉ clusters) (typed : Typed) :
    ∃ sizes, clusters.foldlM Typed.enter? typed =
      some ⟨clusters.flatten.reverse ++ typed.kept, sizes⟩ := by
  induction clusters generalizing typed with
  | nil => exact ⟨typed.sizes, rfl⟩
  | cons cluster clusters ih =>
    have hcluster : cluster ≠ [backspace] := fun heq => h (heq ▸ List.mem_cons_self)
    obtain ⟨sizes, hfold⟩ := ih (fun hmem => h (List.mem_cons_of_mem _ hmem))
      ⟨cluster.reverse ++ typed.kept, Text.byteLength cluster % 256 :: typed.sizes⟩
    refine ⟨sizes, ?_⟩
    rw [List.foldlM_cons, Typed.enter?, if_neg hcluster]
    simpa using hfold

/-- Without backspaces nothing is taken back. -/
theorem takeBack?_of_not_mem {cs : List Char} (h : backspace ∉ cs) : takeBack? cs = some cs := by
  have hclusters : [backspace] ∉ Text.clusters cs := by
    intro hmem
    apply h
    rw [← Text.flatten_clusters cs]
    exact List.mem_flatten.2 ⟨_, hmem, List.mem_singleton.2 rfl⟩
  obtain ⟨sizes, hfold⟩ := foldlM_enter? hclusters ⟨[], []⟩
  rw [takeBack?, hfold, Text.flatten_clusters]
  simp

end Input
end DiceRoller
