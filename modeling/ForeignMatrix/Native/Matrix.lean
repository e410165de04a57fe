import ForeignMatrix.Native.ErrorHandle

/-!
# Native matrices

A native matrix as the binder knows it: a pointer, whether destroying it is
our duty, and the family and source that serve it. The operations resolve
their symbol first, so an absent entry point is reported before any call.
-/

namespace ForeignMatrix

/-- A native matrix that was constructed or adopted. -/
structure NativeMatrix where
  /-- Pointer that the library knows the matrix by. -/
  pointer : MatrixPointer
  /-- Whether the matrix has to be destroyed when it is no longer needed. -/
  owned : Bool
  /-- Family of its entry points. -/
  family : SymbolFamily
  /-- Source of its entry points. -/
  source : SymbolSource

namespace NativeMatrix

open NativeAction

variable {σ : Type} (library : NativeLibrary σ)

/-- Symbol of an entry point of the matrix. -/
def symbol (matrix : NativeMatrix) (entry : Entry) : String := matrix.family.symbol entry

/-- Refuses an extent that does not fit a signed word. -/
def checkExtent (symbol axis : String) (extent : Nat) : NativeAction σ Unit :=
  if extent ≤ signedMax then pure ()
  else throw (.native symbol (axis ++ " count " ++ toString extent ++ " exceeds isize"))

/-- Constructs a matrix, which is always owned. -/
def construct (source : SymbolSource) (family : SymbolFamily) (rows cols : Nat) :
    NativeAction σ NativeMatrix := do
  let symbol := family.symbol .newSized
  resolve source symbol
  checkExtent symbol "row" rows
  checkExtent symbol "column" cols
  note (.constructing symbol rows cols)
  match ← ask (.newSized family rows cols) (library.newSized family rows cols) with
  | none => throw (.constructionFailure symbol)
  | some pointer =>
    note (.constructed pointer symbol)
    pure ⟨pointer, true, family, source⟩

/-- Adopts a matrix that exists already. -/
def adopt (source : SymbolSource) (family : SymbolFamily) (pointer : MatrixPointer)
    (owned : Bool) : NativeAction σ NativeMatrix := do
  note (.adopting pointer family.suffix owned)
  pure ⟨pointer, owned, family, source⟩

/-- Asks for a number about the matrix. -/
def measure (matrix : NativeMatrix) (handle : ErrorHandle) (which : Measure) :
    NativeAction σ Int := do
  let symbol := matrix.symbol which.entry
  resolve matrix.source symbol
  let value ← ask (fun _ => .measure matrix.family which matrix.pointer handle)
    (library.measure matrix.family which matrix.pointer handle)
  check library handle symbol
  pure value

/-- Asks for an extent, which must not be negative. -/
def extent (matrix : NativeMatrix) (handle : ErrorHandle) (which : Measure) :
    NativeAction σ Nat := do
  let value ← matrix.measure library handle which
  if value < 0 then
    throw (.native (matrix.symbol which.entry)
      ("negative extent " ++ toString value ++ " reported"))
  else
    pure value.toNat

/-- Asks for the address of the storage. -/
def storage (matrix : NativeMatrix) (handle : ErrorHandle) : NativeAction σ Int := do
  let symbol := matrix.symbol .data
  resolve matrix.source symbol
  let address ← ask (fun _ => .data matrix.family matrix.pointer handle)
    (library.data matrix.family matrix.pointer handle)
  check library handle symbol
  pure address

/-- Asks for the five parts of the layout, in order and under one error handle. -/
def layout (matrix : NativeMatrix) : NativeAction σ NativeLayout :=
  withErrorHandle library matrix.source fun handle => do
    let rows ← matrix.extent library handle .rows
    let cols ← matrix.extent library handle .cols
    let rowStride ← matrix.measure library handle .rowStride
    let colStride ← matrix.measure library handle .colStride
    let data ← matrix.storage library handle
    let layout : NativeLayout := ⟨rows, cols, rowStride, colStride, data⟩
    note (.measured matrix.family.suffix layout)
    pure layout

/-- Reads an element by its indices in the matrix itself. -/
def readElement (matrix : NativeMatrix) (kind : ElementKind) (row col : Int) :
    NativeAction σ (Element kind) := do
  let symbol := matrix.symbol .get
  resolve matrix.source symbol
  withErrorHandle library matrix.source fun handle => do
    let value ← ask (fun _ => .get matrix.family matrix.pointer row col handle)
      (library.get matrix.family kind matrix.pointer row col handle)
    check library handle symbol
    pure value

/-- Stores an element by its indices in the matrix itself. -/
def writeElement (matrix : NativeMatrix) (kind : ElementKind) (row col : Int)
    (value : Element kind) : NativeAction σ Unit := do
  let symbol := matrix.symbol .set
  resolve matrix.source symbol
  withErrorHandle library matrix.source fun handle => do
    run (.set matrix.family matrix.pointer row col value.widen handle)
      (library.set matrix.family kind matrix.pointer row col value handle)
    check library handle symbol

/-- Destroys the matrix through its library. -/
def destroy (matrix : NativeMatrix) : NativeAction σ Unit := do
  let symbol := matrix.symbol .destroy
  resolve matrix.source symbol
  withErrorHandle library matrix.source fun handle => do
    note (.destroying matrix.pointer symbol)
    run (.destroy matrix.family matrix.pointer handle)
      (library.destroy matrix.family matrix.pointer handle)
    check library handle symbol

/-- Destroys the matrix if that is our duty. -/
def release (matrix : NativeMatrix) : NativeAction σ Unit :=
  if matrix.owned then matrix.destroy library else pure ()

/-- As `release`, where nobody is left to be told of a failure: it is noted. -/
def abandon (matrix : NativeMatrix) : NativeAction σ Unit :=
  tryCatch (matrix.release library) fun fault => note (.destroyFailed matrix.pointer fault)

end NativeMatrix

end ForeignMatrix
