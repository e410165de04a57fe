import ForeignMatrix.View.Basic

/-!
# Reading and writing elements

Views that were acquired reach single elements through the native accessors;
derived views reach them in memory, through their window. The native accessors
do not check indices, so every index is checked here first. Whole arrays are
always read and written in memory.
-/

namespace ForeignMatrix

/-- Position on an axis of the given extent, if the index names one. -/
def checkIndex (axis : Axis) (index : Int) (bound : Nat) : Except Fault Nat :=
  if 0 ≤ index ∧ index < bound then .ok index.toNat else .error (.range axis index bound)

/-- Positions on both axes; the row is checked first. -/
def checkIndices (extents : Nat × Nat) (row col : Int) : Except Fault (Nat × Nat) :=
  match checkIndex .row row extents.1 with
  | .error fault => .error fault
  | .ok i =>
    match checkIndex .column col extents.2 with
    | .error fault => .error fault
    | .ok j => .ok (i, j)

namespace ViewAction

variable {σ : Type} (library : NativeLibrary σ)

/-- Matrix of a view that has not been finalized. -/
def liveMatrix (view : View) (operation : String) : ViewAction σ NativeMatrix := do
  match view.handle.bind (← get).matrices with
  | none => throw (.nullHandle operation)
  | some matrix => pure matrix

/-- Answers a check that needs no state. -/
def checked {α : Type} (result : Except Fault α) : ViewAction σ α :=
  match result with
  | .ok value => pure value
  | .error fault => throw fault

/-- Element in memory at position `(i, j)` of a window. -/
def load (kind : ElementKind) (window : Window) (i j : Nat) : ViewAction σ (Element kind) := do
  return library.load kind (window.addressOf kind i j) (← get).session.native

/-- Puts an element into memory at position `(i, j)` of a window. -/
def store (kind : ElementKind) (window : Window) (i j : Nat) (value : Element kind) :
    ViewAction σ Unit :=
  modify fun workspace =>
    { workspace with
      session.native :=
        library.store kind (window.addressOf kind i j) value workspace.session.native }

/-- Element at `(row, col)` of a view. -/
def getElement (view : View) (row col : Int) : ViewAction σ (Element view.kind) := do
  let matrix ← liveMatrix view "get"
  let (i, j) ← checked (checkIndices view.window.extents row col)
  if view.derived then load library view.kind view.window i j
  else native (matrix.readElement library view.kind row col)

/-- Stores an element at `(row, col)` of a view. -/
def setElement (view : View) (row col : Int) (value : Element view.kind) :
    ViewAction σ Unit := do
  let matrix ← liveMatrix view "set"
  let (i, j) ← checked (checkIndices view.window.extents row col)
  if view.derived then store library view.kind view.window i j value
  else native (matrix.writeElement library view.kind row col value)

/-- Element at `(row, col)` of the native matrix itself. The indices must lie
within the view and within the matrix. -/
def getBaseElement (view : View) (row col : Int) : ViewAction σ (Element view.kind) := do
  let matrix ← liveMatrix view "at_base_index"
  let _ ← checked (checkIndices view.window.extents row col)
  let _ ← checked (checkIndices view.base row col)
  native (matrix.readElement library view.kind row col)

/-- Element of a view as a double. -/
def read (view : View) (row col : Int) : ViewAction σ (Element.Binary .double) :=
  return (← getElement library view row col).widen

/-- Stores the element nearest to a double. -/
def write (view : View) (row col : Int) (value : Element.Binary .double) : ViewAction σ Unit :=
  setElement library view row col (Element.narrow view.kind value)

/-- Element of the native matrix itself as a double. -/
def readBase (view : View) (row col : Int) : ViewAction σ (Element.Binary .double) :=
  return (← getBaseElement library view row col).widen

/-- All elements that a view shows, row by row. -/
def toArray (view : View) : ViewAction σ (List (List (Element view.kind))) :=
  let array := view.window.rawArray view.kind
  (List.range array.row.length).mapM fun i =>
    (List.range array.col.length).mapM fun j => load library view.kind array i j

/-- Stores an element at every position of a view, row by row. -/
def fill (view : View) (value : Nat → Nat → Element view.kind) : ViewAction σ Unit :=
  let array := view.window.rawArray view.kind
  (List.range array.row.length).forM fun i =>
    (List.range array.col.length).forM fun j => store library view.kind array i j (value i j)

end ViewAction

end ForeignMatrix
