/-!
# Styled text

On a terminal a text is styled by control sequences around it: one that switches the style on and
one that switches it off. Without colors the text stands alone.
-/

namespace Worklist.Display

/-- How a text is set off. -/
inductive Style where
  | bold
  | dimmed
  | cyan
  | yellow
  | green
  deriving DecidableEq

namespace Style

/-- A control sequence for a style. -/
def sequence (code : List Char) : List Char :=
  ['\x1b', '['] ++ code ++ ['m']

/-- The code that switches a style on. -/
def start : Style → List Char
  | .bold => ['1']
  | .dimmed => ['2']
  | .cyan => ['3', '6']
  | .yellow => ['3', '3']
  | .green => ['3', '2']

/-- The code that switches a style off: all styles, or only the color. -/
def stop : Style → List Char
  | .bold => ['0']
  | .dimmed => ['0']
  | .cyan => ['3', '9']
  | .yellow => ['3', '9']
  | .green => ['3', '9']

/-- A text in a style, if there are colors. -/
def paint (colors : Bool) (style : Style) (text : List Char) : List Char :=
  if colors then sequence style.start ++ text ++ sequence style.stop else text

@[simp] theorem paint_false (style : Style) (text : List Char) : style.paint false text = text :=
  rfl

end Style

end Worklist.Display
