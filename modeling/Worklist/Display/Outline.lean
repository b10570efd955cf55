import Worklist.Display.Style
import Worklist.Filter.Tree

/-!
# Outlines of filters

A filter is shown as an outline: a line for each negation and each group, with what it applies to
indented below, and a line for each comparison.
-/

namespace Worklist.Display

open Worklist.Filter (Connective Expression)

/-- The blanks in front of a line of the outline. -/
def indent (depth : Nat) : List Char :=
  List.replicate (2 * depth) ' '

/-- A line with the word of a negation or a group. -/
def wordLine (colors : Bool) (depth : Nat) (word : String) : List Char :=
  indent depth ++ Style.bold.paint colors word.toList ++ ['\n']

/-- A line with an expression that has no parts. -/
def leafLine (depth : Nat) (e : Expression) : List Char :=
  indent depth ++ e.display.toList ++ ['\n']

mutual

/-- The outline of an expression. -/
def outline (colors : Bool) (depth : Nat) : Expression → List Char
  | .group c members => wordLine colors depth c.word ++ outlines colors (depth + 1) members
  | .not e => wordLine colors depth "NOT" ++ outline colors (depth + 1) e
  | .literal l => leafLine depth (.literal l)
  | .field name => leafLine depth (.field name)
  | .equals name l => leafLine depth (.equals name l)
  | .isNull name => leafLine depth (.isNull name)

/-- The outlines of several expressions. -/
def outlines (colors : Bool) (depth : Nat) : List Expression → List Char
  | [] => []
  | e :: rest => outline colors depth e ++ outlines colors depth rest

end

/-- A filter as an outline. -/
def filterOutline (colors : Bool) (filter : Option Expression) : List Char :=
  match filter with
  | some e => outline colors 0 e
  | none => "(no filter: every row matches)\n".toList

/-- A filter as a value, with its displayed form and the attributes that it names. -/
def filterReport (filter : Option Expression) : Json :=
  .object ([("expression", (filter.map Expression.tree).getD .null)] ++
    Json.optionalMember "text" (fun e : Expression => .string e.display) filter ++
    [("fields", .strings ((filter.map Expression.fields).getD []))])

end Worklist.Display
