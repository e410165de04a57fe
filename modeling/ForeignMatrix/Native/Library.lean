import ForeignMatrix.Journal.Line
import ForeignMatrix.Symbols
import ForeignMatrix.SymbolSource
import ForeignMatrix.Window.Basic

/-!
# Native libraries

What a native matrix library may do, as functions on a state of its own, and a
session with one: its state, the calls made so far and the notices written so
far. Nothing is assumed of a library here; it may answer anything, report any
error and place its storage anywhere. Memory is read and written by address
without a call.
-/

namespace ForeignMatrix

/-- Non-null pointer to a native matrix. -/
structure MatrixPointer where
  /-- The address, or any number that stands for it. -/
  number : Nat
  deriving DecidableEq, Repr

/-- Non-null pointer to a native error handle. -/
structure ErrorHandle where
  /-- The address, or any number that stands for it. -/
  number : Nat
  deriving DecidableEq, Repr

/-- Error that a native call left in a handle. -/
structure ErrorState where
  /-- Zero for success. -/
  code : Int := 0
  /-- Bytes of the message, without the byte that ends it. -/
  message : Option (List UInt8) := none
  deriving DecidableEq, Repr

/-- Numbers that a library reports about a matrix. -/
inductive Measure where
  /-- Number of rows. -/
  | rows
  /-- Number of columns. -/
  | cols
  /-- Distance between rows, in elements. -/
  | rowStride
  /-- Distance between columns, in elements. -/
  | colStride
  deriving DecidableEq, Repr

/-- Entry point that reports the number. -/
def Measure.entry : Measure → Entry
  | rows => .rows
  | cols => .cols
  | rowStride => .rowStride
  | colStride => .colStride

/-- Behaviour of a native library, with a state of type `σ`. Every entry point
is called through the family its symbol belongs to. -/
structure NativeLibrary (σ : Type) where
  /-- Creates an error handle; nothing stands for a null one. -/
  newErrorHandle : σ → Option ErrorHandle × σ
  /-- Destroys an error handle. -/
  freeErrorHandle : ErrorHandle → σ → σ
  /-- Error that a handle holds. -/
  errorState : σ → ErrorHandle → ErrorState
  /-- Creates a matrix of given extents; nothing stands for a null one. -/
  newSized : SymbolFamily → (rows cols : Int) → σ → Option MatrixPointer × σ
  /-- Destroys a matrix. -/
  destroy : SymbolFamily → MatrixPointer → ErrorHandle → σ → σ
  /-- Reads an element. -/
  get : SymbolFamily → (kind : ElementKind) → MatrixPointer → (row col : Int) →
    ErrorHandle → σ → Element kind × σ
  /-- Stores an element. -/
  set : SymbolFamily → (kind : ElementKind) → MatrixPointer → (row col : Int) →
    Element kind → ErrorHandle → σ → σ
  /-- Reports a number about a matrix. -/
  measure : SymbolFamily → Measure → MatrixPointer → ErrorHandle → σ → Int × σ
  /-- Reports the address of the first stored element; zero stands for null. -/
  data : SymbolFamily → MatrixPointer → ErrorHandle → σ → Int × σ
  /-- Element in memory at an address. -/
  load : (kind : ElementKind) → (address : Int) → σ → Element kind
  /-- Puts an element into memory at an address. -/
  store : (kind : ElementKind) → (address : Int) → Element kind → σ → σ

/-- A call of an entry point, with what it was given and, where a null pointer
may come back, what it returned. -/
inductive NativeCall where
  /-- An error handle was asked for. -/
  | newErrorHandle (result : Option ErrorHandle)
  /-- An error handle was destroyed. -/
  | freeErrorHandle (handle : ErrorHandle)
  /-- A matrix was asked for. -/
  | newSized (family : SymbolFamily) (rows cols : Int) (result : Option MatrixPointer)
  /-- A matrix was destroyed. -/
  | destroy (family : SymbolFamily) (matrix : MatrixPointer) (handle : ErrorHandle)
  /-- An element was read. -/
  | get (family : SymbolFamily) (matrix : MatrixPointer) (row col : Int) (handle : ErrorHandle)
  /-- An element was stored; its value is given as a double. -/
  | set (family : SymbolFamily) (matrix : MatrixPointer) (row col : Int)
      (value : Element.Binary .double) (handle : ErrorHandle)
  /-- A number was asked for. -/
  | measure (family : SymbolFamily) (measure : Measure) (matrix : MatrixPointer)
      (handle : ErrorHandle)
  /-- The address of the storage was asked for. -/
  | data (family : SymbolFamily) (matrix : MatrixPointer) (handle : ErrorHandle)
  deriving DecidableEq, Repr

/-- Geometry that a library reports about a matrix. -/
structure NativeLayout where
  /-- Number of rows. -/
  rows : Nat
  /-- Number of columns. -/
  cols : Nat
  /-- Distance between rows, in elements. -/
  rowStride : Int
  /-- Distance between columns, in elements. -/
  colStride : Int
  /-- Address of the first element; zero stands for null. -/
  data : Int
  deriving DecidableEq, Repr

/-- Something worth a journal line. -/
inductive Notice where
  /-- A native call left an error. -/
  | callFailed (operation : String) (code : Int)
  /-- A constructor is about to be called. -/
  | constructing (symbol : String) (rows cols : Nat)
  /-- A constructor returned a matrix. -/
  | constructed (matrix : MatrixPointer) (symbol : String)
  /-- A matrix from outside is adopted. -/
  | adopting (matrix : MatrixPointer) (suffix : String) (owned : Bool)
  /-- A matrix reported its layout. -/
  | measured (suffix : String) (layout : NativeLayout)
  /-- A matrix is about to be destroyed. -/
  | destroying (matrix : MatrixPointer) (symbol : String)
  /-- A matrix whose last reference is gone could not be destroyed. -/
  | destroyFailed (matrix : MatrixPointer) (fault : Fault)
  /-- A request not to own a matrix that it also constructs is ignored. -/
  | ownershipForced (suffix : String)
  /-- A matrix with elements reported no storage. -/
  | storageMissing (rows cols : Nat)
  /-- A view was acquired. -/
  | viewCreated (view : Nat) (rows cols : Nat) (kind : ElementKind) (owns : Bool)
      (root : Option Nat)
  /-- A view was derived from another. -/
  | viewDerived (view source root : Nat)
  /-- An owning view gave up a matrix that other references still hold. -/
  | viewFinalized (view others : Nat) (matrix : MatrixPointer)
  /-- A dropped view could not release its matrix. -/
  | finalizeFailed (view : Nat) (fault : Fault)
  deriving DecidableEq, Repr

/-- A session with a native library. -/
structure Session (σ : Type) where
  /-- State of the library. -/
  native : σ
  /-- Calls made so far, the latest first. -/
  calls : List NativeCall := []
  /-- Notices written so far, the latest first. -/
  notices : List Notice := []

/-- An operation within a session that may be refused; what it did before stays done. -/
abbrev NativeAction (σ : Type) := ExceptT Fault (StateM (Session σ))

namespace NativeAction

variable {σ : Type}

/-- Writes a notice. -/
def note (notice : Notice) : NativeAction σ Unit :=
  modify fun session => { session with notices := notice :: session.notices }

/-- Makes a call that changes the state of the library. -/
def run (call : NativeCall) (step : σ → σ) : NativeAction σ Unit :=
  modify fun session =>
    { session with native := step session.native, calls := call :: session.calls }

/-- Makes a call that returns something; the call is recorded with its result. -/
def ask {α : Type} (call : α → NativeCall) (step : σ → α × σ) : NativeAction σ α :=
  modifyGet fun session =>
    let (result, native) := step session.native
    (result, { session with native, calls := call result :: session.calls })

/-- Resolves a symbol, without any call. -/
def resolve (source : SymbolSource) (symbol : String) : NativeAction σ Unit :=
  match source.resolve symbol with
  | .ok _ => pure ()
  | .error fault => throw fault

end NativeAction

end ForeignMatrix
