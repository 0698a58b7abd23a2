/-!
# Environment

The variables that the program is started with, each a name and a value.

Main results:

- Theorem `get?_setDefault_of_isSome`: a variable that is set keeps its value.
- Theorem `get?_setDefault_self`: a variable that is not set takes the value it is given.
-/

namespace DiceRoller

/-- Variables with their values; of two variables with one name the first counts. -/
structure Environment where
  bindings : List (List Char × List Char)
  deriving DecidableEq, Repr

namespace Environment

/-- The value of a variable. -/
def get? (env : Environment) (name : List Char) : Option (List Char) :=
  (env.bindings.find? fun binding => binding.1 == name).map Prod.snd

/-- Sets a variable, unless it is set already. -/
def setDefault (env : Environment) (name value : List Char) : Environment :=
  if (env.get? name).isSome then env else ⟨(name, value) :: env.bindings⟩

/-! ## Colours -/

/-- The variables that say whether colours are wanted. -/
def colourNames : List (List Char) :=
  ["CLICOLOR_FORCE".toList, "NO_COLOR".toList]

/-- Whether a variable is set to a text that is not empty. -/
def isFilled (env : Environment) (name : List Char) : Bool :=
  (env.get? name).any fun value => !value.isEmpty

/-- Whether a session shows colours even where its output goes to no terminal: every value but a zero
asks for that, an empty one too. -/
def forcesColours (env : Environment) : Bool :=
  (env.get? "CLICOLOR_FORCE".toList).any fun value => value != ['0']

/-- Whether the messages about the arguments keep their styles where they go to no terminal: every
value asks for that but an empty one, which counts as none, unless the other variable forbids it. -/
def stylesMessages (env : Environment) : Bool :=
  env.isFilled "CLICOLOR_FORCE".toList && !env.isFilled "NO_COLOR".toList

/-! ## First laws -/

/-- A variable that is set keeps its value. -/
theorem get?_setDefault_of_isSome {env : Environment} {name : List Char}
    (h : (env.get? name).isSome = true) (name' value : List Char) :
    (env.setDefault name' value).get? name = env.get? name := by
  rw [setDefault]
  split
  · rfl
  · rename_i hnone
    have hne : name' ≠ name := fun heq => hnone (heq ▸ h)
    simp [get?, hne]

/-- A variable that is not set takes the value it is given. -/
theorem get?_setDefault_self {env : Environment} {name : List Char}
    (h : env.get? name = none) (value : List Char) :
    (env.setDefault name value).get? name = some value := by
  rw [setDefault, h]
  simp [get?]

end Environment
end DiceRoller
