import ForeignMatrix.Element.Kind
import ForeignMatrix.Symbols

/-!
# Requested shapes

The extents and element kind of a matrix that is asked for, and the symbol
family that serves it. An axis may be dynamic: its extent is then chosen when
the matrix is created and takes no part in the name of the family.
-/

namespace ForeignMatrix

/-- Requested extents and element kind. -/
structure Shape where
  /-- Number of rows. -/
  rows : Nat
  /-- Number of columns. -/
  cols : Nat
  /-- Whether the family leaves the number of rows open. -/
  dynamicRows : Bool := false
  /-- Whether the family leaves the number of columns open. -/
  dynamicCols : Bool := false
  /-- Kind of the elements. -/
  kind : ElementKind
  deriving DecidableEq, Repr

namespace Shape

/-- A shape whose family fixes both extents. -/
def fixed (rows cols : Nat) (kind : ElementKind) : Shape :=
  ⟨rows, cols, false, false, kind⟩

/-- A shape whose family leaves both extents open. -/
def dynamic (rows cols : Nat) (kind : ElementKind) : Shape :=
  ⟨rows, cols, true, true, kind⟩

/-- The same extents with other axes left open. -/
def withDynamic (shape : Shape) (rows cols : Bool) : Shape :=
  { shape with dynamicRows := rows, dynamicCols := cols }

/-- Token of one axis in the suffix. -/
def axisToken (extent : Nat) (isDynamic : Bool) : String :=
  if isDynamic then dynamicToken else extent.repr

/-- Suffix of the family that serves the shape: the two axis tokens with an `x`
between them, then the tag of the element kind. -/
def suffix (shape : Shape) : String :=
  axisToken shape.rows shape.dynamicRows ++ "x" ++ axisToken shape.cols shape.dynamicCols
    ++ shape.kind.tag.toString

/-- Family that serves the shape. -/
def family (shape : Shape) : SymbolFamily := ⟨shape.suffix⟩

end Shape

/-- What resolving a shape yields: its family and the layout of its elements. -/
structure ResolvedShape where
  /-- Family that serves the shape. -/
  family : SymbolFamily
  /-- Size of an element in bytes. -/
  size : Nat
  /-- Alignment of an element in bytes. -/
  align : Nat
  deriving DecidableEq, Repr

/-- Resolves a shape without any native call. -/
def Shape.resolve (shape : Shape) : ResolvedShape :=
  ⟨shape.family, shape.kind.size, shape.kind.align⟩

end ForeignMatrix
