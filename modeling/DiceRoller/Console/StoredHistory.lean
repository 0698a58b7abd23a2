import DiceRoller.Console.LineHistory
import DiceRoller.Text.Lines

/-!
# Stored line history

Between two runs the line history is kept in a file.  Its first line names the format, and each
further line is a remembered line in which a backslash and a line feed are escaped.  A file without
the first line is read as plain lines.  At the end of a run new lines are added behind those of the
file where that leaves a file in good order; otherwise the file is written anew.

Main results:

- Theorem `unescape_escape`: an escaped line is read back.
- Theorem `mem_escape`: an escaped line has no line feed.
-/

namespace DiceRoller
namespace StoredHistory

/-! ## Escapes -/

/-- A character as it is stored. -/
def escapeChar (c : Char) : List Char :=
  if c = '\\' then ['\\', '\\'] else if c = '\n' then ['\\', 'n'] else [c]

/-- A line as it is stored. -/
def escape (line : List Char) : List Char :=
  line.flatMap escapeChar

/-- A stored line read back; a backslash in front of anything else is wrong. -/
def unescape : List Char → Option (List Char)
  | [] => some []
  | '\\' :: '\\' :: cs => (unescape cs).map ('\\' :: ·)
  | '\\' :: 'n' :: cs => (unescape cs).map ('\n' :: ·)
  | c :: cs => if c = '\\' then none else (unescape cs).map (c :: ·)

/-- An escaped line is read back. -/
theorem unescape_escape (line : List Char) : unescape (escape line) = some line := by
  induction line with
  | nil => rfl
  | cons c line ih =>
    rw [escape] at ih ⊢
    rw [List.flatMap_cons, escapeChar]
    by_cases hback : c = '\\'
    · subst hback
      simp [unescape, ih]
    · by_cases hfeed : c = '\n'
      · subst hfeed
        simp [unescape, ih]
      · simp only [hback, hfeed, if_false, List.singleton_append]
        rw [unescape, if_neg hback, ih, Option.map_some]
        · intro rest hc
          exact absurd hc hback
        · intro rest hc
          exact absurd hc hback

/-- An escaped line has no line feed. -/
theorem mem_escape (line : List Char) : '\n' ∉ escape line := by
  rw [escape, List.mem_flatMap]
  rintro ⟨c, _, hc⟩
  rw [escapeChar] at hc
  split at hc
  · simp at hc
  · split at hc
    · simp at hc
    · rename_i hfeed
      exact hfeed (List.mem_singleton.1 hc).symm

/-! ## Writing -/

/-- The first line of a file. -/
def header : List Char :=
  "#V2".toList

/-- Some lines as they are stored. -/
def renderLines (lines : List (List Char)) : List Char :=
  lines.flatMap fun line => escape line ++ ['\n']

/-- A file with some lines. -/
def render (lines : List (List Char)) : List Char :=
  header ++ '\n' :: renderLines lines

/-! ## Reading -/

/-- What was read from a file: the history, whether every line of the file went into it just as it was
stored, and the lines whose escapes are wrong, which are taken as they are. -/
structure Loaded where
  history : LineHistory
  inOrder : Bool
  badlyEscaped : List (List Char)

/-- Takes a line into what was read. -/
def Loaded.take (loaded : Loaded) (line : List Char) : Loaded :=
  { loaded with
    history := loaded.history.add line
    inOrder := loaded.inOrder && loaded.history.accepts line }

/-- Takes a stored line into what was read. -/
def Loaded.takeStored (loaded : Loaded) (stored : List Char) : Loaded :=
  if stored.isEmpty then loaded
  else
    match unescape stored with
    | some line => loaded.take line
    | none =>
      { loaded.take stored with badlyEscaped := loaded.badlyEscaped ++ [stored] }

/-- The history of the program, before anything was typed or read. -/
def blank : LineHistory :=
  .empty true

/-- Reads a file. -/
def load (content : List Char) : Loaded :=
  match Text.lines content with
  | first :: others =>
    if first = header then others.foldl Loaded.takeStored ⟨blank, true, []⟩
    else ⟨blank.addAll (first :: others), false, []⟩
  | [] => ⟨blank, false, []⟩

/-! ## Saving -/

/-- What saving leaves in the file, and the lines that were found to be wrong on the way. -/
structure Saved where
  content : List Char
  badlyEscaped : List (List Char)
  deriving DecidableEq, Repr

/-- Whether new lines can be written behind those of a file. -/
def canAppend (loaded : Loaded) (fresh : Nat) : Bool :=
  loaded.inOrder && loaded.history.log.size < LineHistory.limit &&
    loaded.history.log.size + fresh ≤ LineHistory.limit

/-- Saves a history whose last `fresh` lines are new.  A history without new lines is not saved. -/
def save (stored : Option (List Char)) (history : LineHistory) (fresh : Nat) : Option Saved :=
  if fresh = 0 then none
  else
    match stored with
    | none => some ⟨render history.lines, []⟩
    | some content =>
      let loaded := load content
      if LineHistory.limit ≤ fresh then some ⟨render history.lines, []⟩
      else if canAppend loaded fresh then
        some ⟨content ++ renderLines (history.lastLines fresh), []⟩
      else
        some ⟨render (loaded.history.addAll (history.lastLines fresh)).lines, loaded.badlyEscaped⟩

end StoredHistory
end DiceRoller
