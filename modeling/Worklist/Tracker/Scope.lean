import Worklist.Filter.Composition
import Worklist.Tracker.Fields

/-!
# The constraints of listings

A listing of a space shows the items of that space. The backlog of a space shows those of its items
that are not closed, are planned in one of the backlog iterations and have one of the planned types;
without such iterations or types it is empty.
-/

namespace Worklist.Tracker

open Worklist.Filter (Composer Composition Expression)

/-- The state of items on which work has ended. -/
def closedState : String := "closed"

/-- The item belongs to a space. -/
def inSpace (space : Uuid) : Expression :=
  .equals spaceAttribute (.uuid space)

/-- Work on the item has not ended. -/
def notClosed : Expression :=
  .not (.equals stateAttribute (.text closedState))

/-- The item has one of several types. -/
def ofTypes (types : List String) : Option Expression :=
  Expression.oneOf typeAttribute (types.map .text)

/-- The backlog of a space with the given iterations and types. -/
def backlog (base : Option Expression) (space : Uuid) (iterations types : List String) :
    Composition :=
  Composer.finish <|
    ((((Composer.ofBase base).and (inSpace space)).and notClosed).andOneOf iterationAttribute
      (iterations.map .text)).andOneOf typeAttribute (types.map .text)

/-- The backlog of a space. -/
def Dataset.backlogScope (d : Dataset) (base : Option Expression) (space : Uuid) : Composition :=
  backlog base space (d.backlogIterations space) d.plannerTypes

/-- The items of a space. -/
def spaceScope (base : Option Expression) (space : Uuid) : Composition :=
  .ofExpression? (Filter.conjoin base [inSpace space])

end Worklist.Tracker
