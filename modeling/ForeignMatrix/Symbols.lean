/-!
# Symbols of a native library

The entry points that a native library exports for one family of matrices, and
the names under which it exports them: a common stem, the suffix of the family,
an underscore and the word of the entry point. Two more symbols, shared by all
families, create and destroy error handles.
-/

namespace ForeignMatrix

/-- Entry point that a library exports once for each family. -/
inductive Entry where
  /-- Creates a matrix of the family's own shape. -/
  | new
  /-- Creates a matrix of given extents. -/
  | newSized
  /-- Destroys a matrix. -/
  | destroy
  /-- Reads an element. -/
  | get
  /-- Stores an element. -/
  | set
  /-- Reports the number of rows. -/
  | rows
  /-- Reports the number of columns. -/
  | cols
  /-- Reports the distance between rows, in elements. -/
  | rowStride
  /-- Reports the distance between columns, in elements. -/
  | colStride
  /-- Reports where the first element is stored. -/
  | data
  deriving DecidableEq, Repr

namespace Entry

/-- All entry points, in the order in which a family lists them. -/
def all : List Entry :=
  [new, newSized, destroy, get, set, rows, cols, rowStride, colStride, data]

/-- Word that ends the symbol of the entry point. -/
def word : Entry → String
  | new => "new"
  | newSized => "new_sized"
  | destroy => "destroy"
  | get => "get"
  | set => "set"
  | rows => "rows"
  | cols => "cols"
  | rowStride => "row_stride"
  | colStride => "col_stride"
  | data => "data"

/-- Place of the entry point among all, counted from zero. -/
def index : Entry → Fin 10
  | new => 0
  | newSized => 1
  | destroy => 2
  | get => 3
  | set => 4
  | rows => 5
  | cols => 6
  | rowStride => 7
  | colStride => 8
  | data => 9

end Entry

/-- Text that begins every matrix symbol. -/
def matrixStem : String := "vital_eigen_matrix"

/-- Symbol that creates an error handle. -/
def errorHandleNew : String := "vital_eh_new"

/-- Symbol that destroys an error handle. -/
def errorHandleDestroy : String := "vital_eh_destroy"

/-- Token for an axis whose extent is chosen when the matrix is created. -/
def dynamicToken : String := "X"

/-- A family of entry points, named by its suffix. -/
structure SymbolFamily where
  /-- Text between the stem and the word of the entry point. -/
  suffix : String
  deriving DecidableEq, Repr, Hashable

/-- Symbols of the family, one for each entry point, in the order in which all are listed. -/
def SymbolFamily.symbols (family : SymbolFamily) : Vector String 10 :=
  ⟨(Entry.all.map fun entry => matrixStem ++ family.suffix ++ "_" ++ entry.word).toArray, rfl⟩

/-- Symbol that the family exports for an entry point. -/
def SymbolFamily.symbol (family : SymbolFamily) (entry : Entry) : String :=
  family.symbols[entry.index]

end ForeignMatrix
