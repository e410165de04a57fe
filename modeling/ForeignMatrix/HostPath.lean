import ForeignMatrix.Text.Utf8

/-!
# Paths

A path is the bytes that the system is given, whether or not they encode a text.
Slashes stand between names, and a path that begins with a slash begins at the
root.
-/

namespace ForeignMatrix

/-- Name of a node in its directory, byte by byte. -/
abbrev NodeName := List UInt8

/-- Path of a node, byte by byte, or a bare file name. -/
structure HostPath where
  /-- Bytes that the system is given. -/
  bytes : List UInt8
  deriving DecidableEq, Repr

namespace HostPath

/-- Path that a text spells. -/
def ofText (text : String) : HostPath := ⟨text.toUTF8.data.toList⟩

/-- Path as texts show it, each broken piece as a replacement character. -/
def shown (path : HostPath) : String := Text.Utf8.decodeLossy path.bytes

/-- Byte that stands between names. -/
def slash : UInt8 := 0x2f

/-- Byte that stands before an extension. -/
def dot : UInt8 := 0x2e

/-- Name by which a directory knows itself. -/
def here : NodeName := [dot]

/-- Name by which a directory knows the one above it. -/
def above : NodeName := [dot, dot]

/-- Whether a path begins at the root. -/
def isAbsolute (path : HostPath) : Bool := path.bytes.head? == some slash

/-- Names between the slashes of a path, empty ones included. -/
def pieces (path : HostPath) : List NodeName := path.bytes.splitOn slash

/-- Path of a name below a path. -/
def join (path : HostPath) (name : NodeName) : HostPath :=
  if path.bytes = [] ∨ path.bytes.getLast? = some slash then ⟨path.bytes ++ name⟩
  else ⟨path.bytes ++ slash :: name⟩

/-- Path from the root by the names that lead to a node. -/
def ofNames (names : List NodeName) : HostPath := names.foldl join ⟨[slash]⟩

/-- Name at the end of a path. Empty pieces and single dots count for nothing,
and two dots are no name. -/
def fileName? (path : HostPath) : Option NodeName :=
  let names := path.pieces.filter fun piece => piece != [] && piece != here
  names.getLast?.filter (· != above)

/-- Part of the file name after its last dot. A dot that begins the name does
not count. -/
def extension? (path : HostPath) : Option (List UInt8) :=
  path.fileName?.bind fun name =>
    match name.reverse.dropWhile (· != dot) with
    | _ :: _ :: _ => some (name.reverse.takeWhile (· != dot)).reverse
    | _ => none

end HostPath

end ForeignMatrix
