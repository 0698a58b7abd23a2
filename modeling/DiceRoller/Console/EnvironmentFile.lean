import DiceRoller.Console.Environment
import DiceRoller.Text.AlphaNumeric
import DiceRoller.Text.Blank
import DiceRoller.Text.Bytes
import DiceRoller.Text.Decimal
import DiceRoller.Text.Lines

/-!
# Environment files

A file can give values to variables, one on a line: `NAME=value`, with `export` in front if one likes.
A value may be quoted, a backslash takes the meaning from the character behind it, a `$` stands in
front of a variable whose value is put in, and `#` starts a comment.  Variables that are set already
keep their values.  The first line that is none of this ends the reading; what the lines before it
said stays.

Main results:

- Theorem `get?_loadFile_of_isSome`: a file does not change a variable that is set.
-/

namespace DiceRoller

/-- Why a file does not give all its variables: there is none, or a line goes wrong at a place. -/
inductive EnvironmentFault where
  | notFound
  | badLine (text : List Char) (place : Nat)
  deriving DecidableEq, Repr

/-- The wording of a fault. -/
def EnvironmentFault.message : EnvironmentFault → List Char
  | notFound => "path not found".toList
  | badLine text place =>
    "Error parsing line: \x27".toList ++ text ++ "\x27, error at line index: ".toList ++
      Decimal.digits place

namespace EnvironmentFile

/-! ## Values -/

/-- Where in a value a reader is.  The flag of an escape or a reference says that it stands between
double quotes. -/
inductive Place where
  | bare
  | quoted
  | verbatim
  | escaped (inQuotes : Bool)
  | reference (inQuotes : Bool) (name : List Char)
  | braced (inQuotes : Bool) (name : List Char)
  | behind
  | comment
  deriving DecidableEq, Repr

/-- The place outside or inside of double quotes. -/
def Place.within (inQuotes : Bool) : Place :=
  if inQuotes then quoted else bare

/-- The value that is put in for a variable; nothing for one that is not set. -/
def valueOf (env : Environment) (name : List Char) : List Char :=
  (env.get? name).getD []

/-- Whether a character goes on with the name of a variable that is put in. -/
def isNameChar (c : Char) : Bool :=
  Text.isAlphaNumeric c

/-- What a character behind a backslash stands for. -/
def unescape (c : Char) : Option Char :=
  match c with
  | '\\' | '\'' | '"' | '$' | ' ' => some c
  | 'n' => some '\n'
  | _ => none

/-- Reads one character of a value: the next place and what is added to the value. -/
def step (env : Environment) : Place → Char → Option (Place × List Char)
  | .bare, c =>
    match c with
    | '$' => some (.reference false [], [])
    | '\'' => some (.verbatim, [])
    | '"' => some (.quoted, [])
    | '\\' => some (.escaped false, [])
    | ' ' | '\t' => some (.behind, [])
    | c => some (.bare, [c])
  | .quoted, c =>
    match c with
    | '$' => some (.reference true [], [])
    | '"' => some (.bare, [])
    | '\\' => some (.escaped true, [])
    | c => some (.quoted, [c])
  | .verbatim, c => some (if c = '\'' then (.bare, []) else (.verbatim, [c]))
  | .escaped inQuotes, c => (unescape c).map fun meaning => (.within inQuotes, [meaning])
  | .reference inQuotes name, c =>
    if isNameChar c then some (.reference inQuotes (name ++ [c]), [])
    else if c = '\x7b' ∧ name = [] then some (.braced inQuotes [], [])
    else if c = '$' then some (.reference inQuotes [], valueOf env name)
    else some (.within inQuotes, valueOf env name ++ [c])
  | .braced inQuotes name, c =>
    some (if c = '\x7d' then (.within inQuotes, valueOf env name)
      else (.braced inQuotes (name ++ [c]), []))
  | .behind, c =>
    match c with
    | ' ' | '\t' => some (.behind, [])
    | '#' => some (.comment, [])
    | _ => none
  | .comment, _ => some (.comment, [])

/-- What the end of a line adds to a value; quotes and braces have to be closed. -/
def finish (env : Environment) : Place → Option (List Char)
  | .bare | .behind | .comment | .escaped false => some []
  | .reference false name => some (valueOf env name)
  | _ => none

/-- Reads a value from a place on; the error is the rest of the text, with which nothing can be done. -/
def readValue (env : Environment) (place : Place) : List Char → Except (List Char) (List Char)
  | [] =>
    match finish env place with
    | none => .error []
    | some added => .ok added
  | c :: cs =>
    match step env place c with
    | none => .error (c :: cs)
    | some (next, added) => (readValue env next cs).map (added ++ ·)

/-- The fault of a value, given the rest of it with which nothing can be done.  The place is counted in
characters, but at the end of the value in bytes, and there it is the last one. -/
def valueFault (text rest : List Char) : EnvironmentFault :=
  .badLine text (if rest.isEmpty then Text.byteLength text - 1 else text.length - rest.length)

/-! ## Lines -/

/-- A name at the start of a text, and what follows it; the error is the text. -/
def takeName (cs : List Char) : Except (List Char) (List Char × List Char) :=
  if cs.head?.any fun c => c.isAlpha || c == '_' then
    let continues := fun c : Char => c.isAlphanum || c == '_' || c == '.'
    .ok (cs.takeWhile continues, Text.trimStart (cs.dropWhile continues))
  else .error cs

/-- What follows an equals sign at the start of a text; the error is the text. -/
def takeEquals : List Char → Except (List Char) (List Char)
  | '=' :: cs => .ok (Text.trimStart cs)
  | cs => .error cs

/-- The name that a line sets, and the text of its value; the error is the rest of the line, with which
nothing can be done.  The word `export` may stand in front; it is a name itself if an equals sign
follows. -/
def takeAssignment (cs : List Char) : Except (List Char) (List Char × List Char) := do
  let (name, rest) ← takeName cs
  match takeEquals rest with
  | .ok value => .ok (name, value)
  | .error stuck =>
    if name = "export".toList then
      let (name, rest) ← takeName rest
      let value ← takeEquals rest
      .ok (name, value)
    else .error stuck

/-- The fault of a line, given the rest of it with which nothing can be done.  The place is counted in
bytes. -/
def lineFault (line rest : List Char) : EnvironmentFault :=
  .badLine line (Text.byteLength (Text.trimEnd line) - Text.byteLength rest)

/-- What a line says. -/
inductive Reading where
  | nothing
  | variable (name value : List Char)
  | broken (fault : EnvironmentFault)
  deriving DecidableEq, Repr

/-- Whether nothing but a comment is left. -/
def isBare (cs : List Char) : Bool :=
  cs.isEmpty || cs.head? == some '#'

/-- Reads a line. -/
def readLine (env : Environment) (line : List Char) : Reading :=
  let text := Text.trim line
  if isBare text then .nothing
  else
    match takeAssignment text with
    | .error stuck => .broken (lineFault line stuck)
    | .ok (name, rest) =>
      if isBare rest then .variable name []
      else
        match readValue env .bare rest with
        | .error stuck => .broken (valueFault rest stuck)
        | .ok value => .variable name value

/-- The name of a variable behind a dollar sign. -/
def referenceName : List Char → List Char
  | '\x7b' :: cs => cs.takeWhile (· != '\x7d')
  | cs => cs.takeWhile isNameChar

/-- The names that stand behind the dollar signs of a text. -/
def references : List Char → List (List Char)
  | [] => []
  | '$' :: cs => referenceName cs :: references cs
  | _ :: cs => references cs

/-- The names of all variables that a file sets or puts in. -/
def names (content : List Char) : List (List Char) :=
  (Text.lines content).filterMap (fun line =>
      (takeAssignment (Text.trim line)).toOption.map Prod.fst) ++
    references content

/-- Takes over the variables of some lines, up to a broken one. -/
def loadLines (env : Environment) : List (List Char) → Environment × Option EnvironmentFault
  | [] => (env, none)
  | line :: others =>
    match readLine env line with
    | .nothing => loadLines env others
    | .variable name value => loadLines (env.setDefault name value) others
    | .broken fault => (env, some fault)

end EnvironmentFile

namespace Environment

/-- Takes over the variables of a file. -/
def loadFile (env : Environment) (content : List Char) : Environment × Option EnvironmentFault :=
  EnvironmentFile.loadLines env (Text.lines content)

/-- Takes over the variables of the first file that there is. -/
def loadFirst (env : Environment) (files : List (Option (List Char))) :
    Environment × Option EnvironmentFault :=
  match files.findSome? id with
  | some content => env.loadFile content
  | none => (env, some .notFound)

/-- A file does not change a variable that is set. -/
theorem get?_loadFile_of_isSome {env : Environment} {name : List Char}
    (h : (env.get? name).isSome = true) (content : List Char) :
    (env.loadFile content).1.get? name = env.get? name := by
  rw [loadFile]
  induction Text.lines content generalizing env with
  | nil => rfl
  | cons line others ih =>
    rw [EnvironmentFile.loadLines]
    split
    · exact ih h
    · rename_i name' value _
      have hkept := get?_setDefault_of_isSome h name' value
      rw [ih (by rw [hkept]; exact h), hkept]
    · rfl

end Environment
end DiceRoller
