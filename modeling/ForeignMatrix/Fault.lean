/-!
# Faults

The causes for which an operation on a native matrix is refused, and the text
that reports each of them.
-/

namespace ForeignMatrix

/-- Axis of a matrix. -/
inductive Axis where
  /-- Down the rows. -/
  | row
  /-- Across the columns. -/
  | column
  deriving DecidableEq, Repr

/-- Word for an axis in error texts. -/
def Axis.word : Axis → String
  | .row => "row"
  | .column => "column"

/-- Cause of a refused operation. -/
inductive Fault where
  /-- The text or kind given names none of the supported element kinds. -/
  | invalidType (given supported : String)
  /-- The native constructor returned no matrix. -/
  | constructionFailure (symbol : String)
  /-- A native call reported an error, or returned what no native call may return. -/
  | nativeOperation (operation : String) (code : Int) (message : String)
  /-- A view of the expected sort cannot be derived from what was found. -/
  | incompatibleSource (expected found : String)
  /-- An index or range end lies outside an extent. -/
  | range (axis : Axis) (index : Int) (bound : Nat)
  /-- The operation needs a native matrix and none is left. -/
  | nullHandle (operation : String)
  /-- The library does not export the symbol. -/
  | symbolNotFound (symbol library message : String)
  /-- The library cannot be loaded. -/
  | libraryLoad (library message : String)
  /-- The number of elements is no machine word. Nobody handles this one: the program stops. -/
  | overflow
  deriving DecidableEq, Repr

namespace Fault

/-- Text that reports the fault. -/
def message : Fault → String
  | invalidType given supported =>
    "invalid element type '" ++ given ++ "'; must be one of " ++ supported
  | constructionFailure symbol =>
    "failed to construct native matrix '" ++ symbol ++ "': null handle returned"
  | nativeOperation operation code text =>
    "native operation '" ++ operation ++ "' failed (code " ++ toString code ++ "): " ++ text
  | incompatibleSource expected found =>
    "cannot derive a " ++ expected ++ " matrix view from " ++ found
  | range axis index bound =>
    axis.word ++ " index " ++ toString index ++ " out of range for extent " ++ toString bound
  | nullHandle operation => "'" ++ operation ++ "' on a null native matrix handle"
  | symbolNotFound symbol library text =>
    "symbol '" ++ symbol ++ "' not found in '" ++ library ++ "': " ++ text
  | libraryLoad library text =>
    "failed to load native library '" ++ library ++ "': " ++ text
  | overflow => "attempt to multiply with overflow"

/-- A native call that failed without a code of its own. -/
def native (operation message : String) : Fault := nativeOperation operation (-1) message

end Fault

end ForeignMatrix
