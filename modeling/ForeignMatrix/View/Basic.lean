import ForeignMatrix.Native.Matrix
import ForeignMatrix.Shape
import ForeignMatrix.Window.Reshape

/-!
# Views and the workspace that holds them

A view is a window onto a native matrix with a shared reference to it. The
workspace holds every view that has not been dropped, every native matrix that
is still referred to, and the references that callers took out. References are
counted where they are kept: in the views and among those taken out.
-/

namespace ForeignMatrix

/-- A window onto a native matrix. -/
structure View where
  /-- Identity, greater than that of every view made before. -/
  id : Nat
  /-- Shape that was asked for. -/
  shape : Shape
  /-- Reference to the native matrix; none once the view is finalized. -/
  handle : Option Nat
  /-- Reference to the matrix of the view this one was acquired under. -/
  keepAlive : Option Nat
  /-- Whether finalizing this view releases the matrix. -/
  owns : Bool
  /-- Identity of the view at the root of the chain; none for a root. -/
  root : Option Nat
  /-- Whether the view was derived from another. -/
  derived : Bool
  /-- Extents that the native matrix itself reported. -/
  base : Nat × Nat
  /-- Elements that the view shows. -/
  window : Window
  deriving DecidableEq, Repr

namespace View

/-- Kind of the elements. -/
abbrev kind (view : View) : ElementKind := view.shape.kind

/-- Root of the chain the view belongs to; a root is its own. -/
def ultimateRoot (view : View) : Nat := view.root.getD view.id

/-- Reference that a view acquired under this one keeps: the one this view
keeps for its own parent, else its own. -/
def sharedHandle (view : View) : Option Nat := view.keepAlive <|> view.handle

/-- Whether the view has given up its matrix. -/
def isFinalized (view : View) : Bool := view.handle.isNone

/-- Matrices that the view refers to, once for each reference. -/
def references (view : View) : List Nat := view.handle.toList ++ view.keepAlive.toList

end View

/-- Views, matrices and references of one session. -/
structure Workspace (σ : Type) where
  /-- Session with the native library. -/
  session : Session σ
  /-- Native matrices that are referred to. -/
  matrices : Nat → Option NativeMatrix := fun _ => none
  /-- Views that have not been dropped, in order of creation. -/
  views : List View := []
  /-- References that callers took out. -/
  outside : List Nat := []
  /-- Identity of the next view. -/
  nextView : Nat := 1
  /-- Identity of the next matrix. -/
  nextMatrix : Nat := 0

namespace Workspace

variable {σ : Type}

/-- View with this identity. -/
def view? (workspace : Workspace σ) (id : Nat) : Option View :=
  workspace.views.find? (·.id == id)

/-- Number of references to a matrix. -/
def references (workspace : Workspace σ) (matrix : Nat) : Nat :=
  (workspace.views.flatMap (·.references) ++ workspace.outside).count matrix

/-- Replaces the view of the same identity. -/
def setView (workspace : Workspace σ) (view : View) : Workspace σ :=
  { workspace with
    views := workspace.views.map fun old => if old.id = view.id then view else old }

/-- Removes a view. -/
def removeView (workspace : Workspace σ) (id : Nat) : Workspace σ :=
  { workspace with views := workspace.views.filter (·.id != id) }

/-- Enters or removes a matrix. -/
def setMatrix (workspace : Workspace σ) (id : Nat) (matrix : Option NativeMatrix) :
    Workspace σ :=
  { workspace with
    matrices := fun other => if other = id then matrix else workspace.matrices other }

/-- Pointer of the matrix that a view refers to, if it still refers to one. -/
def pointer? (workspace : Workspace σ) (view : View) : Option MatrixPointer :=
  (view.handle.bind workspace.matrices).map (·.pointer)

end Workspace

/-- An operation on a workspace that may be refused; what it did before stays done. -/
abbrev ViewAction (σ : Type) := ExceptT Fault (StateM (Workspace σ))

namespace ViewAction

variable {σ : Type}

/-- Runs an operation of the session. -/
def native {α : Type} (action : NativeAction σ α) : ViewAction σ α := fun workspace =>
  let (result, session) := action workspace.session
  (result, { workspace with session })

/-- Writes a notice. -/
def note (notice : Notice) : ViewAction σ Unit := native (NativeAction.note notice)

end ViewAction

end ForeignMatrix
