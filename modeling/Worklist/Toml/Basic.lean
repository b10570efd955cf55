import Worklist.Text.Numeral

/-!
# TOML values

A document is a table, filled line by line. Where a table may still grow depends on how it came
about: a header opens a table once, a dotted key goes on with tables that only dotted keys have
made, and a table between braces is closed.
-/

namespace Worklist.Toml

/-- How a table came about. -/
inductive Origin where
  /-- A header opened it. -/
  | header
  /-- The header of a table below it leads through it. -/
  | implied
  /-- A dotted key leads through it. -/
  | dotted
  /-- It stands between braces. -/
  | inline
  deriving DecidableEq

/-- A TOML value. -/
inductive Value where
  | text (s : String)
  | integer (n : Int64)
  /-- A floating point number, as it is written. -/
  | real (written : String)
  | boolean (b : Bool)
  /-- A date, a time or both, as it is written. -/
  | moment (written : String)
  /-- A list of values. -/
  | list (items : List Value)
  /-- Named values. -/
  | table (origin : Origin) (members : List (String × Value))
  /-- The tables that headers in double brackets opened. -/
  | tables (rows : List Value)
  deriving Inhabited

/-- Named values. -/
abbrev Members := List (String × Value)

/-- Named values with another value under a name that is there. -/
def Members.set (m : Members) (key : String) (v : Value) : Members :=
  m.map fun member => if member.1 = key then (key, v) else member

/-- Whether a path may lead through a table. -/
def Origin.isOpen (dotted : Bool) (o : Origin) : Bool :=
  o ≠ .inline && !(dotted && o = .header)

/-- Changes the table at the end of a path. A step that leads nowhere yet makes a table. -/
def descend (dotted : Bool) (change : Origin → Members → Option Members) :
    List String → Origin → Members → Option Members
  | [], origin, m => change origin m
  | key :: path, _, m =>
    match m.lookup key with
    | none => do
      let made : Origin := if dotted then .dotted else .implied
      let inner ← descend dotted change path made []
      return m ++ [(key, .table made inner)]
    | some (.table origin inner) => do
      if origin.isOpen dotted then
        let inner ← descend dotted change path origin inner
        return Members.set m key (.table origin inner)
      else none
    | some (.tables rows) =>
      match rows.getLast? with
      | some (.table origin inner) => do
        let inner ← descend dotted change path origin inner
        return Members.set m key (.tables (rows.dropLast ++ [.table origin inner]))
      | _ => none
    | some _ => none

/-- Adds a value under a name that is not taken. -/
def addMember (key : String) (v : Value) (m : Members) : Option Members :=
  match m.lookup key with
  | none => some (m ++ [(key, v)])
  | some _ => none

/-- Adds a value under a dotted key. The tables on the way must be its own. -/
def addDotted (path : List String) (key : String) (v : Value) :
    Origin → Members → Option Members :=
  descend true (fun origin m =>
    if path ≠ [] ∧ origin ≠ .dotted then none else addMember key v m) path

/-- Opens a table. -/
def openTable (path : List String) (key : String) : Members → Option Members :=
  descend false (fun _ m =>
    match m.lookup key with
    | none => some (m ++ [(key, .table .header [])])
    | some (.table .implied inner) => some (Members.set m key (.table .header inner))
    | some _ => none) path .header

/-- Opens one more table of a list of tables. -/
def openRow (path : List String) (key : String) : Members → Option Members :=
  descend false (fun _ m =>
    match m.lookup key with
    | none => some (m ++ [(key, .tables [.table .header []])])
    | some (.tables rows) => some (Members.set m key (.tables (rows ++ [.table .header []])))
    | some _ => none) path .header

end Worklist.Toml
