/-!
# Links to work items

A link to a work item names a host, a space and a number. For every host there is a pattern that
matches the links of that host and nothing else, and keeps the space and the number. Like any other
pattern it is written as a text.
-/

namespace Worklist

/-- The name under which the number of a link is kept. -/
def numberCapture : String :=
  "number"

/-- The name under which the space of a link is kept. -/
def spaceCapture : String :=
  "space"

namespace Pattern

/-- The characters that mean something in a pattern unless a backslash stands before them. -/
def metaCharacters : List Char :=
  "\\.+*?()|[]\x7b\x7d^$#&-~".toList

/-- A text as it is written in a pattern. -/
def escape (cs : List Char) : List Char :=
  cs.flatMap fun c => if c ∈ metaCharacters then ['\\', c] else [c]

/-- The text of the pattern of the links of a host. -/
def hostText (host : List Char) : String :=
  "^(?:https?://)?" ++ String.ofList (escape host) ++ "/(?P<" ++ spaceCapture ++
    ">[^/\\s]+)/plan/detail/(?P<" ++ numberCapture ++ ">\\d+)/?$"

end Pattern

end Worklist
