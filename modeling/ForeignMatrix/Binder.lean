import ForeignMatrix.Text.Quoted
import ForeignMatrix.View.Acquire
import ForeignMatrix.View.Derive
import ForeignMatrix.ViewDefaults

/-!
# Binders

A binder acquires views over one source of entry points. A request may leave
the element kind and the ownership of an adopted matrix to the binder's
defaults.
-/

namespace ForeignMatrix

/-- A request for a view whose element kind is given by name. -/
structure ViewRequest where
  /-- Number of rows. -/
  rows : Nat
  /-- Number of columns. -/
  cols : Nat
  /-- Whether the family leaves the number of rows open. -/
  dynamicRows : Bool := false
  /-- Whether the family leaves the number of columns open. -/
  dynamicCols : Bool := false
  /-- Name of the element kind, if the request gives one. -/
  kindName : Option String := none
  /-- Pointer to adopt, if the request gives one; the inner option is none for
  a null pointer. -/
  existing : Option (Option MatrixPointer) := none
  /-- Whether to own the matrix, if the request says so. -/
  owns : Option Bool := none
  /-- View under which the new one is acquired. -/
  parent : Option View := none

/-- A source of entry points with the defaults for views over it. -/
structure Binder where
  /-- Source of entry points. -/
  source : SymbolSource
  /-- Defaults for requests. -/
  defaults : ViewDefaults := {}

namespace Binder

variable {σ : Type} (library : NativeLibrary σ)

/-- Constructs a matrix of the shape and a view that owns it. -/
def create (binder : Binder) (kind : ElementKind) (shape : Shape) : ViewAction σ Nat :=
  ViewAction.acquire library binder.source kind shape none none none

/-- Adopts a matrix of the shape. -/
def adopt (binder : Binder) (kind : ElementKind) (shape : Shape) (pointer : MatrixPointer)
    (owns : Bool) : ViewAction σ Nat :=
  ViewAction.acquire library binder.source kind shape (some pointer) (some owns) none

/-- Kind that a request asks for. -/
def requestedKind (binder : Binder) (request : ViewRequest) : Except Fault ElementKind :=
  match request.kindName with
  | some name => ElementKind.ofName name
  | none => .ok binder.defaults.kind

/-- Shape that a request asks for. -/
def requestedShape (request : ViewRequest) (kind : ElementKind) : Shape :=
  (Shape.fixed request.rows request.cols kind).withDynamic request.dynamicRows
    request.dynamicCols

/-- Pointer that a request asks to adopt; a null one is refused. -/
def requestedPointer (request : ViewRequest) (shape : Shape) :
    Except Fault (Option MatrixPointer) :=
  match request.existing with
  | none => .ok none
  | some (some pointer) => .ok (some pointer)
  | some none => .error (.nullHandle ("wrap " ++ shape.suffix))

/-- Constructs or adopts a matrix on request. The kind and the pointer are
checked before any native call. -/
def bind (binder : Binder) (request : ViewRequest) : ViewAction σ Nat := do
  let kind ← ViewAction.checked (binder.requestedKind request)
  let shape := requestedShape request kind
  let existing ← ViewAction.checked (requestedPointer request shape)
  let owns :=
    if existing.isSome then some (request.owns.getD binder.defaults.ownsAdopted)
    else request.owns
  ViewAction.acquire library binder.source kind shape existing owns request.parent

/-- Debug text of the binder. -/
def debugText (binder : Binder) : String :=
  "MatrixBinder \x7b library: " ++ Text.quoted binder.source.name
    ++ ", defaults: ViewDefaults \x7b dtype: " ++ binder.defaults.kind.shortName.toUpper
    ++ ", owns_wrapped: " ++ toString binder.defaults.ownsAdopted ++ " \x7d \x7d"

end Binder

end ForeignMatrix
