import Worklist.Filter.Expression

/-!
# Expressions as JSON trees

Besides the filter that it was read from, an expression has a form in which every node is spelled
out. It is what a report shows of a filter.
-/

namespace Worklist.Filter

/-- A literal with its kind. -/
def Literal.tree : Literal → Json
  | .text s => .object [("text", .string s)]
  | .uuid u => .object [("uuid", .string u.text)]
  | .number n => .object [("number", .int n.toInt)]
  | .bool b => .object [("bool", .bool b)]
  | .texts items => .object [("text_list", .strings items)]

/-- The key of a group in the tree form. -/
def Connective.treeKey : Connective → String
  | .all => "and"
  | .any => "or"

namespace Expression

mutual

/-- An expression with every node spelled out. -/
def tree : Expression → Json
  | .literal l => .object [("literal", l.tree)]
  | .field name => .object [("field", .string name)]
  | .equals name l => .object [("equals", .array [.string name, l.tree])]
  | .isNull name => .object [("is_null", .string name)]
  | .not e => .object [("not", tree e)]
  | .group c members => .object [(c.treeKey, .array (trees members))]

/-- Several expressions with every node spelled out. -/
def trees : List Expression → List Json
  | [] => []
  | e :: rest => tree e :: trees rest

end

end Expression

end Worklist.Filter
