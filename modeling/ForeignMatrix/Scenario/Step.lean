import ForeignMatrix.Binder
import ForeignMatrix.StandIn.Basic
import ForeignMatrix.View.Access

/-!
# Steps of a scenario

A scenario exercises a binder over the stand-in library. Its steps name views
and taken-out references by slots, and operate the switches of the library.
-/

namespace ForeignMatrix

/-- Transformation of an array that a step derives a view with. -/
inductive Reshaping where
  /-- Cuts of both axes. -/
  | slice (rows cols : Cut)
  /-- Rows and columns exchanged. -/
  | transpose
  /-- An axis in reverse order. -/
  | invert (axis : Axis)
  /-- Any array a distance away from the current one. -/
  | window (byteOffset : Int) (row col : Lane)
  /-- An array over memory of no matrix, all of its elements in one place. -/
  | stray (rows cols : Nat)
  deriving Repr

namespace Reshaping

/-- Effect on an array. -/
def apply (kind : ElementKind) (array : Window) : Reshaping → Window
  | slice rows cols => array.slice kind rows cols
  | transpose => array.transpose
  | invert axis => array.invert kind axis
  | window byteOffset row col => ⟨array.address + byteOffset, row, col⟩
  | stray rows cols => ⟨StandIn.strayAddress, ⟨rows, 0⟩, ⟨cols, 0⟩⟩

/-- Effect of several transformations, the first one first. -/
def applyAll (kind : ElementKind) (chain : List Reshaping) (array : Window) : Window :=
  chain.foldl (apply kind) array

end Reshaping

/-- Where a step takes a matrix pointer from. -/
inductive PointerOrigin where
  /-- Number of a matrix of the stand-in library. -/
  | matrix (number : Nat)
  /-- Matrix of the view in a slot; null if it has none or the slot is empty. -/
  | view (slot : String)
  /-- The null pointer. -/
  | null
  deriving Repr

/-- What a failure is injected into. -/
inductive FailurePoint where
  /-- Creation of error handles. -/
  | errorHandle
  /-- An entry point. -/
  | entry (entry : Entry)
  deriving DecidableEq, Repr

/-- A request as a step words it. -/
structure BindStep where
  /-- The request without pointer and parent. -/
  request : ViewRequest
  /-- Where the pointer to adopt comes from. -/
  existing : Option PointerOrigin := none
  /-- Slot of the parent. -/
  parent : Option String := none

/-- One step of a scenario. -/
inductive Step where
  /-- Adds a matrix that was made outside. -/
  | external (matrix : StandInMatrix)
  /-- Destroys a matrix behind the binder's back. -/
  | release (number : Nat)
  /-- Looks at a matrix without any call. -/
  | peek (number : Nat)
  /-- Injects an outcome. -/
  | fail (point : FailurePoint) (injection : Injection)
  /-- Removes an injected outcome. -/
  | unfail (point : FailurePoint)
  /-- Misreports a number, or reports the true one again. -/
  | report (measure : Measure) (value : Option Int)
  /-- Hides storage or shows it again. -/
  | hideStorage (on : Bool)
  /-- Chooses the layout of new matrices. -/
  | layout (rowMajor : Bool)
  /-- Replaces the binder's defaults. -/
  | defaults (defaults : ViewDefaults)
  /-- Asks for the texts of the binder. -/
  | binderText
  /-- Acquires a view on request. -/
  | bind (slot : String) (step : BindStep)
  /-- Constructs a matrix and a view that owns it. -/
  | create (slot : String) (kind : ElementKind) (shape : Shape)
  /-- Adopts a matrix. -/
  | adopt (slot : String) (kind : ElementKind) (shape : Shape) (pointer : PointerOrigin)
      (owns : Bool)
  /-- Drops a view. -/
  | drop (view : String)
  /-- Takes a view for one of a given kind and puts it back. -/
  | into (view : String) (kind : ElementKind)
  /-- Asks for which kinds the view can be borrowed. -/
  | kinds (view : String)
  /-- Reads an element. -/
  | get (view : String) (row col : Int)
  /-- Reads an element of the matrix itself. -/
  | getBase (view : String) (row col : Int)
  /-- Stores an element. -/
  | set (view : String) (row col : Int) (value : Element.Binary .double)
  /-- Finalizes a view. -/
  | finalize (view : String)
  /-- Copies all elements. -/
  | array (view : String)
  /-- Stores a plane that rises along both axes. -/
  | ramp (view : String) (start rowStep colStep : Element.Binary .double)
  /-- Describes a view. -/
  | info (view : String)
  /-- Asks for the debug text of a view. -/
  | debugText (view : String)
  /-- Derives a rectangle. -/
  | slice (view slot : String) (rows cols : Nat × Nat)
  /-- Derives a row. -/
  | row (view slot : String) (position : Nat)
  /-- Derives a column. -/
  | column (view slot : String) (position : Nat)
  /-- Derives the transpose. -/
  | transpose (view slot : String)
  /-- Derives through a chain of transformations, for a kind if one is given. -/
  | derive (view slot : String) (kind : Option ElementKind) (chain : List Reshaping)
  /-- Takes out a reference. -/
  | hold (view hold : String)
  /-- Describes the matrix of a reference. -/
  | held (hold : String)
  /-- Gives a reference back. -/
  | unhold (hold : String)

end ForeignMatrix
