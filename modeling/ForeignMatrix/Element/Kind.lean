import ForeignMatrix.Element.Binary
import ForeignMatrix.Fault
import ForeignMatrix.Text.Blank

/-!
# Element kinds

The two kinds of matrix elements, their names and storage layout, and the
spellings under which a caller may ask for them.
-/

namespace ForeignMatrix

open Element

/-- Kind of the elements of a native matrix. -/
inductive ElementKind where
  /-- Double precision. -/
  | double
  /-- Single precision. -/
  | single
  deriving DecidableEq, Repr

namespace ElementKind

/-- Every kind, in the order in which they are listed to callers. -/
def all : List ElementKind := [double, single]

/-- Full name of the kind. -/
def name : ElementKind → String
  | double => "float64"
  | single => "float32"

/-- Short name, as configuration files and debug texts spell it. -/
def shortName : ElementKind → String
  | double => "f64"
  | single => "f32"

/-- Letter that ends the suffix of a symbol family. -/
def tag : ElementKind → Char
  | double => 'd'
  | single => 'f'

/-- Floating-point format of the stored elements. -/
def format : ElementKind → BinaryFormat
  | double => .double
  | single => .single

/-- Size of a stored element in bytes. -/
def size : ElementKind → Nat
  | double => 8
  | single => 4

/-- Alignment of a stored element in bytes. -/
def align : ElementKind → Nat
  | double => 8
  | single => 4

/-- The names of all kinds, as error texts list them. -/
def supported : String := "(" ++ ", ".intercalate (all.map name) ++ ")"

/-- Spellings a caller may use. -/
def spellings : ElementKind → List String
  | double => ["float64", "f64", "double", "d"]
  | single => ["float32", "f32", "float", "single", "f"]

/-- The kind with this spelling, blanks around it and letter case aside. -/
def ofName? (text : String) : Option ElementKind :=
  let word := Text.lowerLetters (Text.trim text)
  all.find? fun kind => kind.spellings.contains word

/-- As `ofName?`, naming the offending text when it names no kind. -/
def ofName (text : String) : Except Fault ElementKind :=
  match ofName? text with
  | some kind => .ok kind
  | none => .error (.invalidType text supported)

end ElementKind

/-- A stored element of the given kind. -/
abbrev Element (kind : ElementKind) := Binary kind.format

namespace Element

/-- The double with the value of an element; every element is a double exactly. -/
def widen : {kind : ElementKind} → Element kind → Binary .double
  | .double, x => x
  | .single, x => x.convert .double

/-- The element nearest to a double. -/
def narrow : (kind : ElementKind) → Binary .double → Element kind
  | .double, x => x
  | .single, x => x.convert .single

end Element

end ForeignMatrix
