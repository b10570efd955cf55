import Worklist.Storage.FileTree

/-!
# Work on files that pauses

Work that does not wait for the files but is resumed when an operation on them has ended. Between
the operations other work may go on; `run` carries the work out where none does.
-/

namespace Worklist

/-- Work that ends in a result. -/
inductive FileTask (α : Type) : Type 1 where
  /-- It has ended. -/
  | done (result : α)
  /-- It pauses for an operation and goes on with what that gives. -/
  | await {β : Type} (operate : FileTree → β × FileTree) (resume : β → FileTask α)

namespace FileTask

variable {α β : Type}

/-- Work that goes on with the result of other work. -/
def bind : FileTask α → (α → FileTask β) → FileTask β
  | .done result, next => next result
  | .await operate resume, next => .await operate fun b => (resume b).bind next

instance : Monad FileTask where
  pure := .done
  bind := bind

/-- Pauses for an operation. -/
def perform (operate : FileTree → β × FileTree) : FileTask β :=
  .await operate .done

/-- Pauses for something that is asked of the files. -/
def ask (question : FileTree → β) : FileTask β :=
  perform fun t => (question t, t)

/-- Pauses for an operation that may fail and then leaves the files as they are. -/
def attempt (operate : FileTree → Except FileFault FileTree) : FileTask (Except FileFault Unit) :=
  perform fun t => match operate t with
    | .ok t => (.ok (), t)
    | .error fault => (.error fault, t)

/-- Carries work out. -/
def run : FileTask α → FileTree → α × FileTree
  | .done result, t => (result, t)
  | .await operate resume, t => (resume (operate t).1).run (operate t).2

end FileTask

end Worklist
