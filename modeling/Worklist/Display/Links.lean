import Worklist.Display.Column
import Worklist.Display.Style
import Worklist.Paging.Links

/-!
# Links as a table

The links of a page stand on a line each, after their names. A link that there is not is a hyphen.
-/

namespace Worklist.Display

/-- A line for a link. -/
def linkLine (colors : Bool) (name : String) (url : Option String) : List Char :=
  let address := match url with
    | some url => url.toList
    | none => Style.dimmed.paint colors ['-']
  Style.bold.paint colors (flushLeft 6 name.toList) ++ address ++ ['\n']

/-- The links of a page. -/
def linkTable (colors : Bool) (l : PageLinks) : List Char :=
  linkLine colors "first" (some l.first) ++ linkLine colors "prev" l.prev ++
    linkLine colors "next" l.next ++ linkLine colors "last" (some l.last)

/-- The links of a page as a value. -/
def linkReport (l : PageLinks) : Json :=
  .object [("links", l.toJson)]

end Worklist.Display
