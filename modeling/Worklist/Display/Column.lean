/-!
# Texts in columns

A table has columns of fixed widths, counted in characters. A text that is too long for its column
loses its end, and three dots show that it did.
-/

namespace Worklist.Display

/-- A text with at most `width` characters. -/
def clip (width : Nat) (cs : List Char) : List Char :=
  if width < cs.length then cs.take (width - 3) ++ ['.', '.', '.'] else cs

/-- The blanks that a text needs up to a width. -/
def padding (width : Nat) (cs : List Char) : List Char :=
  List.replicate (width - cs.length) ' '

/-- A text at the left of its column. -/
def flushLeft (width : Nat) (cs : List Char) : List Char :=
  cs ++ padding width cs

/-- A text at the right of its column. -/
def flushRight (width : Nat) (cs : List Char) : List Char :=
  padding width cs ++ cs

end Worklist.Display
