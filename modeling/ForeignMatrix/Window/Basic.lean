import ForeignMatrix.Element.Kind
import ForeignMatrix.Fault

/-!
# Strided windows

A window is an address and two lanes, one for each axis, with lengths and
signed strides counted in elements. It addresses memory without holding it.
Element `(i, j)` sits `i` row strides and `j` column strides from the window's
address; the address of the window itself is that of element `(0, 0)`, not the
lowest one.

Offsets and counts are integers without a bound: memory that can be addressed
at all is addressed without overflow. Where a count has to be a machine word it
is checked to be one.
-/

namespace ForeignMatrix

/-- Number of machine words. -/
def wordModulus : Nat := 0x10000000000000000

/-- Largest signed machine word. -/
def signedMax : Nat := 0x7fffffffffffffff

/-- One axis of a window. -/
structure Lane where
  /-- Number of positions. -/
  length : Nat
  /-- Distance between neighbours, in elements. -/
  stride : Int
  deriving DecidableEq, Repr

/-- Strided rectangle of elements in memory. -/
structure Window where
  /-- Address of element `(0, 0)`, in bytes. -/
  address : Int
  /-- Axis of the rows. -/
  row : Lane
  /-- Axis of the columns. -/
  col : Lane
  deriving DecidableEq, Repr

namespace Window

/-- Numbers of rows and columns. -/
def extents (w : Window) : Nat × Nat := (w.row.length, w.col.length)

/-- Strides in elements. -/
def strides (w : Window) : Int × Int := (w.row.stride, w.col.stride)

/-- Strides in bytes. -/
def byteStrides (kind : ElementKind) (w : Window) : Int × Int :=
  (w.row.stride * kind.size, w.col.stride * kind.size)

/-- Number of elements. -/
def count (w : Window) : Nat := w.row.length * w.col.length

/-- The number of elements is a machine word. -/
def Counted (w : Window) : Prop := w.count < wordModulus

instance (w : Window) : Decidable w.Counted := inferInstanceAs (Decidable (_ < _))

/-- Counts the elements in a machine word. -/
def checkCount (w : Window) : Except Fault Nat :=
  if w.Counted then .ok w.count else .error .overflow

/-- Distance of element `(i, j)` from element `(0, 0)`, in elements. -/
def offset (w : Window) (i j : Nat) : Int := i * w.row.stride + j * w.col.stride

/-- Address of element `(i, j)`. -/
def addressOf (kind : ElementKind) (w : Window) (i j : Nat) : Int :=
  w.address + w.offset i j * kind.size

/-- Lane of an axis. -/
def lane (w : Window) : Axis → Lane
  | .row => w.row
  | .column => w.col

/-- Replaces the lane of an axis. -/
def setLane (w : Window) (lane : Lane) : Axis → Window
  | .row => { w with row := lane }
  | .column => { w with col := lane }

/-- A window without elements. Its address is a non-null place holder that is
aligned for the element kind. -/
def hollow (kind : ElementKind) (rows cols : Nat) : Window :=
  ⟨kind.align, ⟨rows, 1⟩, ⟨cols, max rows 1⟩⟩

/-- Least and greatest element offset of a window, or nothing if it has no
element. The four corners decide, whatever the signs of the strides. -/
def span (w : Window) : Option (Int × Int) :=
  if w.count = 0 then none
  else
    let down := w.offset (w.row.length - 1) 0
    let across := w.offset 0 (w.col.length - 1)
    let far := w.offset (w.row.length - 1) (w.col.length - 1)
    some (min (min 0 down) (min across far), max (max 0 down) (max across far))

/-- Whether every element of the inner window lies in the span of the outer
one, a whole number of elements away from its address. -/
def covers (kind : ElementKind) (outer inner : Window) : Bool :=
  match outer.span, inner.span with
  | some (low, high), some (innerLow, innerHigh) =>
    let distance := inner.address - outer.address
    if distance % kind.size ≠ 0 then false
    else
      let base := distance / kind.size
      decide (low ≤ base + innerLow) && decide (base + innerHigh ≤ high)
  | _, _ => inner.count == 0

end Window

end ForeignMatrix
