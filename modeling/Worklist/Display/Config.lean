import Worklist.Config.Stored
import Worklist.Display.Style
import Worklist.Tracker.Stored

/-!
# The configuration as shown

What is settled stands under the name of its setting, the page sizes as they hold.
-/

namespace Worklist.Display

/-- The word for a boolean. -/
def truth (b : Bool) : String :=
  if b then "true" else "false"

/-- The configuration in the file at a path. -/
def configText (colors : Bool) (p : Path) (present : Bool) (c : Config) : List Char :=
  let heading := Style.bold.paint colors (Style.green.paint colors "Configuration".toList)
  let number := fun (n : Nat) => String.ofList (Text.decimal n)
  let settled := fun (name : String) (value : Option String) =>
    match value with
    | some s => name ++ ": " ++ s ++ "\n"
    | none => ""
  let hosts := if c.knownHosts = [] then none else some (String.intercalate ", " c.knownHosts)
  heading ++ ("\n\nFile: " ++ p.text ++ "\nExists: " ++ truth present ++ "\n\n" ++
    settled "data" (c.data.map (·.text)) ++ settled "known_hosts" hosts ++
    "\n[paging]\n" ++ settled "  default_limit" (some (number c.pageSizes.defaultLimit)) ++
    settled "  max_limit" (some (number c.pageSizes.maxLimit)) ++
    "\n[output]\n" ++ settled "  color" (c.color.map truth)).toList

/-- The configuration in the file at a path, as a value. -/
def configReport (p : Path) (present : Bool) (c : Config) : Json :=
  .object [("path", .string p.text), ("exists", .bool present), ("config", c.toJson),
    ("effective_page_sizes", c.pageSizes.toJson)]

end Worklist.Display
