import Worklist.Json.Decode
import Worklist.Json.Reader

/-!
# Decoding whole texts

A text is decoded while it is read, so that a value of the wrong type is reported before anything
that is wrong further on.
-/

namespace Worklist.Json

/-- Decodes a text. -/
def decodeText {α : Type} (decode : Located → Except DecodeError α) (s : String) :
    Except DecodeError α := do
  let (tree, trailing) := read s.toList
  let value ← decode tree
  Located.halt trailing
  return value

/-- Decodes a value that is given. -/
def decodeValue {α : Type} (decode : Located → Except DecodeError α) (v : Json) :
    Except DecodeError α :=
  decode (.ofJson v)

end Worklist.Json
