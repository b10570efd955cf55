import Worklist.Filter.Reader

/-!
# Writing expressions as filters

Every expression without empty groups and without literals or attributes on their own can be written
as a filter. A negation adds the mark to the object of what it negates; if that object has a mark
already, it is put into a group of its own first.
-/

namespace Worklist.Filter

namespace Expression

/-- Adds the negation mark to an object. -/
def markNegated (members : List (String × Json)) : List (String × Json) :=
  if (members.lookup negateKey).isSome then
    [(Connective.all.key, .array [.object members]), (negateKey, .bool true)]
  else members ++ [(negateKey, .bool true)]

mutual

/-- The members of the filter object of an expression. -/
def toMembers : Expression → Except FilterError (List (String × Json))
  | .equals name l => .ok [(name, l.toJson)]
  | .isNull name => .ok [(name, .null)]
  | .not e => (toMembers e).map markNegated
  | .group c [] => .error (.emptyGroup c)
  | .group c members => (toItems members).map fun items => [(c.key, .array items)]
  | .literal l => .error (.unrenderable (.literal l))
  | .field name => .error (.unrenderable (.field name))

/-- The filter objects of several expressions. -/
def toItems : List Expression → Except FilterError (List Json)
  | [] => .ok []
  | e :: rest => do
    let members ← toMembers e
    let items ← toItems rest
    return .object members :: items

end

/-- An expression as a filter. -/
def toJson (e : Expression) : Except FilterError Json :=
  (toMembers e).map .object

end Expression

end Worklist.Filter
