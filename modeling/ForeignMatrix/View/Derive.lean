import ForeignMatrix.View.Basic
import ForeignMatrix.View.Access

/-!
# Derived views

A view is derived from another by a transformation of its array that may move
the window but must stay inside the source. The derived view shares the matrix
of its source and never owns it.
-/

namespace ForeignMatrix

/-- Largest index an error can name. -/
def clampIndex (index : Nat) : Int := (min index signedMax : Nat)

/-- Refuses a range that runs backwards or past the extent. -/
def checkRange (axis : Axis) (start stop bound : Nat) : Except Fault Unit :=
  if stop < start then .error (.range axis (clampIndex start) bound)
  else if bound < stop then .error (.range axis (clampIndex stop) bound)
  else .ok ()

/-- Refuses a position that is not below the extent. -/
def checkPosition (axis : Axis) (position bound : Nat) : Except Fault Unit :=
  if position < bound then .ok () else .error (.range axis (clampIndex position) bound)

namespace ViewAction

variable {σ : Type}

/-- Derives a view through a transformation of the source's array and answers
its identity. The elements of the array and of the source are counted before
their places are compared. -/
def derive (view : View) (transform : Window → Window) : ViewAction σ Nat := do
  let _ ← liveMatrix view "derive"
  let array := transform (view.window.rawArray view.kind)
  let _ ← checked array.checkCount
  let _ ← checked view.window.checkCount
  let window := Window.ofArray view.kind array
  if view.window.covers view.kind window then
    let workspace ← get
    let id := workspace.nextView
    let child : View :=
      { view with id, owns := false, root := some view.ultimateRoot, derived := true, window }
    set { workspace with views := workspace.views ++ [child], nextView := id + 1 }
    note (.viewDerived id view.id child.ultimateRoot)
    pure id
  else
    throw (.incompatibleSource ("view aliasing view#" ++ toString view.id)
      "an array outside the source buffer")

/-- As `derive`, for a caller that expects a view of one element kind. -/
def deriveAs (kind : ElementKind) (view : View) (transform : Window → Window) :
    ViewAction σ Nat :=
  if view.kind = kind then derive view transform
  else throw (.incompatibleSource kind.name ("a " ++ view.kind.name ++ " matrix"))

/-- Rectangle of rows and columns; each range holds its start but not its end. -/
def slice (view : View) (rows cols : Nat × Nat) : ViewAction σ Nat := do
  checked (checkRange .row rows.1 rows.2 view.window.row.length)
  checked (checkRange .column cols.1 cols.2 view.window.col.length)
  derive view fun array =>
    array.slice view.kind (.range rows.1 rows.2) (.range cols.1 cols.2)

/-- One row. -/
def row (view : View) (position : Nat) : ViewAction σ Nat := do
  checked (checkPosition .row position view.window.row.length)
  slice view (position, position + 1) (0, view.window.col.length)

/-- One column. -/
def column (view : View) (position : Nat) : ViewAction σ Nat := do
  checked (checkPosition .column position view.window.col.length)
  slice view (0, view.window.row.length) (position, position + 1)

/-- Rows and columns exchanged. -/
def transpose (view : View) : ViewAction σ Nat := derive view Window.transpose

end ViewAction

end ForeignMatrix
