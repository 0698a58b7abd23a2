import DiceRoller.Text.Lines

/-!
# Markdown for a terminal

Replies are marked up lightly: `**strong**`, `*slanted*`, `~~struck~~` and code between backticks,
inside of which nothing else is a mark.  A terminal shows each run of characters between the escape
sequences of its style.

Main results:

- Theorem `render_of_no_marks`: a line without marks is shown as it is.
-/

namespace DiceRoller
namespace Markdown

/-- How a run of characters is set off. -/
structure Style where
  strong : Bool
  slanted : Bool
  struck : Bool
  code : Bool
  deriving DecidableEq, Repr

/-- The style of a run that is not set off. -/
def Style.plain : Style :=
  ⟨false, false, false, false⟩

/-- The escape sequence that a terminal takes for an order. -/
def escape (order : List Char) : List Char :=
  "\x1b[".toList ++ order ++ ['m']

/-- An escape sequence if it is wanted. -/
def escapeIf (wanted : Bool) (order : List Char) : List Char :=
  if wanted then escape order else []

/-- The colours of a style: code has a ground of its own and stands in magenta, strong text in
yellow. -/
def Style.colours (style : Style) : List Char :=
  escapeIf style.code "48;5;235".toList ++
    (if style.code then escape "38;5;13".toList else escapeIf style.strong "38;5;11".toList)

/-- The attributes of a style. -/
def Style.attributes (style : Style) : List Char :=
  escapeIf style.strong "1".toList ++ escapeIf style.slanted "3".toList ++
    escapeIf style.struck "9".toList

/-- What ends a style: everything is reset where there were attributes, and the colours alone
otherwise. -/
def Style.close (style : Style) : List Char :=
  if style.strong || style.slanted || style.struck then escape "0".toList
  else escapeIf style.code "49".toList ++ escapeIf style.code "39".toList

/-- A run of characters in its style; a run without characters is not shown. -/
def paint (style : Style) (run : List Char) : List Char :=
  if run.isEmpty then [] else style.colours ++ style.attributes ++ run ++ style.close

/-- Shows a line from a place on, given the style there and the run that leads up to it, its last
character in front. -/
def renderFrom (style : Style) (run : List Char) : List Char → List Char
  | [] => paint style run.reverse
  | '`' :: cs => paint style run.reverse ++ renderFrom { style with code := !style.code } [] cs
  | '*' :: '*' :: cs =>
    if style.code then renderFrom style ('*' :: '*' :: run) cs
    else paint style run.reverse ++ renderFrom { style with strong := !style.strong } [] cs
  | '*' :: cs =>
    if style.code then renderFrom style ('*' :: run) cs
    else paint style run.reverse ++ renderFrom { style with slanted := !style.slanted } [] cs
  | '~' :: '~' :: cs =>
    if style.code then renderFrom style ('~' :: '~' :: run) cs
    else paint style run.reverse ++ renderFrom { style with struck := !style.struck } [] cs
  | c :: cs => renderFrom style (c :: run) cs

/-- Shows a line. -/
def render (line : List Char) : List Char :=
  renderFrom .plain [] line

/-- Shows a text line by line. -/
def renderText (text : List Char) : List Char :=
  (Text.lines text).flatMap fun line => render line ++ ['\n']

/-- Whether a character can be a mark. -/
def isMark (c : Char) : Bool :=
  c == '*' || c == '~' || c == '`'

theorem renderFrom_of_no_marks {line : List Char} (h : ∀ c ∈ line, isMark c = false)
    (style : Style) (run : List Char) :
    renderFrom style run line = paint style (run.reverse ++ line) := by
  induction line generalizing run with
  | nil => simp [renderFrom]
  | cons c line ih =>
    have hc := h c List.mem_cons_self
    have hline := ih (fun d hd => h d (List.mem_cons_of_mem _ hd)) (c :: run)
    rw [renderFrom, hline]
    · simp
    all_goals
      intros
      subst_vars
      simp [isMark] at hc

/-- A line without marks is shown as it is. -/
theorem render_of_no_marks {line : List Char} (h : ∀ c ∈ line, isMark c = false) :
    render line = line := by
  rw [render, renderFrom_of_no_marks h]
  cases line <;> simp [paint, Style.plain, Style.colours, Style.attributes, Style.close, escapeIf]

end Markdown
end DiceRoller
