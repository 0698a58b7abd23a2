import DiceRoller.Text.Bytes

/-!
# Folders

The files in the folder in which the program runs, and where a path leads from there.

Main results:

- Theorem `destination_of_isName`: a plain name leads to the file of that name.
- Theorem `get?_put_self`: a file that was written is read back.
- Theorem `get?_put_of_ne`: writing a file leaves the others alone.
-/

namespace DiceRoller

/-- Why a file cannot be written. -/
inductive StorageFault where
  | notFound
  | notDirectory
  | isDirectory
  | nameTooLong
  deriving DecidableEq, Repr

/-- The wording of a fault. -/
def StorageFault.message : StorageFault → String
  | notFound =>
    "Io(Os \x7b code: 2, kind: NotFound, message: \"No such file or directory\" \x7d)"
  | notDirectory => "Io(Os \x7b code: 20, kind: NotADirectory, message: \"Not a directory\" \x7d)"
  | isDirectory => "Io(Os \x7b code: 21, kind: IsADirectory, message: \"Is a directory\" \x7d)"
  | nameTooLong =>
    "Io(Os \x7b code: 36, kind: InvalidFilename, message: \"File name too long\" \x7d)"

/-- Files by name; there are no folders below. -/
structure Folder where
  files : List (List Char × List Char)
  deriving DecidableEq, Repr

/-- Where a path leads: to a file of the folder, to a folder, below a name of the folder, out of the
folder, or nowhere because a name is too long. -/
inductive Destination where
  | file (name : List Char)
  | folder
  | below (name : List Char)
  | elsewhere
  | tooLong
  deriving DecidableEq, Repr

namespace Folder

/-! ## Paths -/

/-- The parts of a path between the slashes. -/
def parts : List Char → List (List Char)
  | [] => [[]]
  | c :: cs =>
    let others := parts cs
    if c = '/' then [] :: others else (c :: others.headD []) :: others.tail

/-- Whether a part of a path stays where it is. -/
def isHere (part : List Char) : Bool :=
  part.isEmpty || part == ['.']

/-- The most bytes that a name may have. -/
def nameLimit : Nat := 255

/-- Where a path leads that starts with a name. -/
def destinationFrom (name : List Char) (others : List (List Char)) : Destination :=
  if name = ['.', '.'] then if others.all isHere then .folder else .elsewhere
  else if nameLimit < Text.byteLength name then .tooLong
  else if others.isEmpty then .file name
  else if others.all List.isEmpty then .folder
  else .below name

/-- Where a path leads. -/
def destination (path : List Char) : Destination :=
  match (parts path).dropWhile isHere with
  | [] => if path.isEmpty then .elsewhere else .folder
  | name :: others => if path.head? = some '/' then .elsewhere else destinationFrom name others

/-- Whether a text is a plain name of a file. -/
def isName (name : List Char) : Bool :=
  !name.contains '/' && !isHere name && name != ['.', '.'] && Text.byteLength name ≤ nameLimit

/-! ## Reading and writing -/

/-- The content of the file of a name. -/
def lookup (folder : Folder) (name : List Char) : Option (List Char) :=
  (folder.files.find? fun file => file.1 == name).map Prod.snd

/-- The content of the file that a path leads to. -/
def get? (folder : Folder) (path : List Char) : Option (List Char) :=
  match destination path with
  | .file name => folder.lookup name
  | _ => none

/-- Whether a file can be written where a path leads. -/
def check (folder : Folder) (path : List Char) : Except StorageFault Unit :=
  match destination path with
  | .file _ => .ok ()
  | .folder => .error .isDirectory
  | .below name => .error (if (folder.lookup name).isSome then .notDirectory else .notFound)
  | .elsewhere => .error .notFound
  | .tooLong => .error .nameTooLong

/-- Writes the file that a path leads to. -/
def put (folder : Folder) (path content : List Char) : Folder :=
  match destination path with
  | .file name => ⟨(name, content) :: folder.files.filter fun file => file.1 != name⟩
  | _ => folder

/-! ## First laws -/

/-- A text without slashes is its only part. -/
theorem parts_of_not_mem {cs : List Char} (h : '/' ∉ cs) : parts cs = [cs] := by
  induction cs with
  | nil => rfl
  | cons c cs ih =>
    have hc : c ≠ '/' := fun hc => h (hc ▸ List.mem_cons_self)
    rw [parts, ih fun hcs => h (List.mem_cons_of_mem _ hcs), if_neg hc]
    rfl

/-- A plain name leads to the file of that name. -/
theorem destination_of_isName {name : List Char} (h : isName name = true) :
    destination name = .file name := by
  simp only [isName, Bool.and_eq_true, Bool.not_eq_true', bne_iff_ne, ne_eq,
    decide_eq_true_eq] at h
  obtain ⟨⟨⟨hslash, hhere⟩, hup⟩, hlength⟩ := h
  have hmem : '/' ∉ name := by simpa using hslash
  have hhead : name.head? ≠ some '/' := fun hhead => hmem (List.mem_of_head? hhead)
  rw [destination, parts_of_not_mem hmem, List.dropWhile_cons_of_neg (by simp [hhere])]
  simp only [hhead, if_false, destinationFrom, hup]
  rw [if_neg (by omega)]
  rfl

/-- A file that was written is read back. -/
theorem get?_put_self {path name : List Char} (h : destination path = .file name) (folder : Folder)
    (content : List Char) : (folder.put path content).get? path = some content := by
  simp [get?, put, h, lookup]

/-- Writing a file leaves the others alone. -/
theorem get?_put_of_ne {path other : List Char} (h : destination other ≠ destination path)
    (folder : Folder) (content : List Char) :
    (folder.put path content).get? other = folder.get? other := by
  rw [put]
  split
  · rename_i name hname
    rw [get?, get?]
    split
    · rename_i otherName hother
      have hne : otherName ≠ name := fun heq => h (by rw [hname, hother, heq])
      simp only [lookup]
      rw [List.find?_cons_of_neg (by simpa using fun heq => hne heq.symm), List.find?_filter]
      congr 2
      funext file
      by_cases hfile : file.1 = otherName
      · simp [hfile, hne]
      · simp [hfile]
    · rfl
  · rfl

end Folder
end DiceRoller
