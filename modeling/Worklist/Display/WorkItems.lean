import Worklist.Display.Column
import Worklist.Display.Style
import Worklist.Listing.Basic
import Worklist.Text.Blank
import Worklist.Tracker.Stored

/-!
# Pages of work items as tables

A page is shown as a table with a line for each item, and below it which rows these are and where
the next page is.
-/

namespace Worklist.Display

open Listing (Page)
open Tracker (WorkItem)

/-- The style of a state of work. -/
def stateStyle? (state : List Char) : Option Style :=
  if state = "new".toList then some .cyan
  else if state = "open".toList ∨ state = "in progress".toList then some .yellow
  else if state = "resolved".toList then some .green
  else if state = "closed".toList then some .dimmed
  else none

/-- A state of work in its column. -/
def stateCell (colors : Bool) (state : List Char) : List Char :=
  let shown := clip 12 state
  let painted := match stateStyle? shown with
    | some style => style.paint colors shown
    | none => shown
  painted ++ padding 12 shown

/-- The labels of an item, each after an at sign. -/
def labelText (labels : List String) : List Char :=
  [' '].intercalate (labels.map fun l => '@' :: l.toList)

/-- The first digits of an identifier. -/
def shortId (u : Uuid) : List Char :=
  u.chars.take 8

/-- The cells of a line between single blanks. -/
def cells (number id typeName state title labels : List Char) : List Char :=
  flushRight 6 number ++ [' '] ++ flushLeft 10 id ++ [' '] ++ flushLeft 9 typeName ++ [' '] ++
    state ++ [' '] ++ flushLeft 40 title ++ [' '] ++ labels

/-- The head of the table. -/
def headLine (colors : Bool) : List Char :=
  Style.dimmed.paint colors
      (cells "#".toList "ID".toList "Type".toList (flushLeft 12 "State".toList) "Title".toList
        "Labels".toList) ++
    ['\n']

/-- The line of an item. -/
def itemLine (colors : Bool) (w : WorkItem) : List Char :=
  Text.trimEnd
      (cells (Text.decimalInt w.number.toInt) (shortId w.id) (clip 9 w.typeName.toList)
        (stateCell colors w.state.toList) (clip 40 w.title.toList)
        (clip 30 (labelText w.labels))) ++
    ['\n']

/-- Which rows a page shows, and where the next page is. -/
def summary (p : Page WorkItem) : List Char :=
  ['\n'] ++ "Showing ".toList ++ Text.decimal (p.request.offset + 1) ++ ['-'] ++
    Text.decimal (p.request.offset + p.rows.length) ++ " of ".toList ++ Text.decimal p.totalCount ++
    ['\n'] ++
    match p.links.next with
    | some url => "Next: ".toList ++ url.toList ++ ['\n']
    | none => []

/-- A page as a table. -/
def pageTable (colors : Bool) (p : Page WorkItem) : List Char :=
  if p.rows = [] then
    "No work items found (".toList ++ Text.decimal p.totalCount ++ " total).\n".toList
  else headLine colors ++ p.rows.flatMap (itemLine colors) ++ summary p

/-- A page as a value. -/
def pageReport (p : Page WorkItem) : Json :=
  .object [("data", .array (p.rows.map WorkItem.toJson)),
    ("meta", .object [("totalCount", .int p.totalCount)]), ("links", p.links.toJson)]

end Worklist.Display
