import ForeignMatrix.View.Lifetime

/-!
# Acquiring views

A view is acquired by constructing a native matrix or by adopting one that
exists. Either way the matrix reports its layout before the view is made. A
matrix that fails to do so is abandoned, and so is one that reports no storage
but more elements than a machine word counts.
-/

namespace ForeignMatrix

/-- The layout as a window. -/
def NativeLayout.window (layout : NativeLayout) : Window :=
  ⟨layout.data, ⟨layout.rows, layout.rowStride⟩, ⟨layout.cols, layout.colStride⟩⟩

/-- Window that a reported layout describes. Without storage it has no
element: it keeps its extents if they leave room for none, else loses them. -/
def Window.ofLayout (kind : ElementKind) (layout : NativeLayout) : Window :=
  if layout.data ≠ 0 then layout.window
  else if layout.window.count = 0 then .hollow kind layout.rows layout.cols
  else .hollow kind 0 0

namespace ViewAction

variable {σ : Type} (library : NativeLibrary σ)

/-- Constructs or adopts the matrix of a new view. A constructed matrix is
always owned; an adopted one only on request. -/
def obtain (source : SymbolSource) (shape : Shape) (existing : Option MatrixPointer)
    (owns : Option Bool) : NativeAction σ NativeMatrix := do
  match existing with
  | none =>
    if owns = some false then
      NativeAction.note (.ownershipForced shape.suffix)
    NativeMatrix.construct library source shape.family shape.rows shape.cols
  | some pointer => NativeMatrix.adopt source shape.family pointer (owns.getD false)

/-- Runs an operation while nothing refers to the matrix yet: the matrix is
abandoned if the operation is refused. -/
def orAbandon {α : Type} (matrix : NativeMatrix) (action : NativeAction σ α) : NativeAction σ α :=
  tryCatch action fun fault => do
    matrix.abandon library
    throw fault

/-- Window of a new view. Without storage the elements are counted, and a notice
tells if some are missing. -/
def windowOf (kind : ElementKind) (layout : NativeLayout) : NativeAction σ Window :=
  if layout.data ≠ 0 then pure (.ofLayout kind layout)
  else
    match layout.window.checkCount with
    | .error fault => throw fault
    | .ok count => do
      if count ≠ 0 then
        NativeAction.note (.storageMissing layout.rows layout.cols)
      pure (.ofLayout kind layout)

/-- Enters a new view of a matrix and answers its identity. -/
def enter (shape : Shape) (matrix : NativeMatrix) (base : Nat × Nat) (window : Window)
    (parent : Option View) : ViewAction σ Nat := do
  let workspace ← get
  let id := workspace.nextView
  let view : View :=
    { id, shape
      handle := some workspace.nextMatrix
      keepAlive := parent.bind (·.sharedHandle)
      owns := matrix.owned
      root := parent.map (·.ultimateRoot)
      derived := false
      base, window }
  set { workspace.setMatrix workspace.nextMatrix (some matrix) with
    views := workspace.views ++ [view]
    nextView := id + 1
    nextMatrix := workspace.nextMatrix + 1 }
  note (.viewCreated id window.row.length window.col.length shape.kind view.owns view.root)
  pure id

/-- Acquires a view of the expected element kind and answers its identity. -/
def acquire (source : SymbolSource) (expected : ElementKind) (shape : Shape)
    (existing : Option MatrixPointer) (owns : Option Bool) (parent : Option View) :
    ViewAction σ Nat := do
  if shape.kind ≠ expected then
    throw (.invalidType shape.kind.name ("(" ++ expected.name ++ ")"))
  let matrix ← native (obtain library source shape existing owns)
  let layout ← native (orAbandon library matrix (matrix.layout library))
  let window ← native (orAbandon library matrix (windowOf shape.kind layout))
  enter shape matrix (layout.rows, layout.cols) window parent

end ViewAction

end ForeignMatrix
