import ForeignMatrix.Window.Basic

/-!
# Reshaping windows

Rectangular cuts with steps, transposition, inversion of an axis, and the raw
array through which a window is handed to a caller's transformation. Each of
them moves the address and changes lanes; none touches memory.
-/

namespace ForeignMatrix

/-- Positions taken from one axis: from `start` up to `stop`, every `step`-th,
and from the far end when the step is negative. -/
structure Cut where
  /-- First position of the range; a negative one counts from the end. -/
  start : Int
  /-- Position after the range, or the end of the axis. -/
  stop : Option Int
  /-- Distance between positions taken; not zero. -/
  step : Int
  deriving DecidableEq, Repr

namespace Cut

/-- The whole axis. -/
def whole : Cut := ⟨0, none, 1⟩

/-- A plain range of positions. -/
def range (start stop : Nat) : Cut := ⟨start, some stop, 1⟩

/-- Position that an index names on an axis. -/
def position (length : Nat) (index : Int) : Nat :=
  (if index < 0 then length + index else index).toNat

/-- First position of the range on an axis of the given length. -/
def first (cut : Cut) (length : Nat) : Nat := position length cut.start

/-- Number of positions the range spans before the step is applied. -/
def breadth (cut : Cut) (length : Nat) : Nat :=
  position length (cut.stop.getD length) - cut.first length

/-- Number of positions taken. -/
def size (cut : Cut) (length : Nat) : Nat :=
  (cut.breadth length + cut.step.natAbs - 1) / cut.step.natAbs

/-- Position from which the cut starts to take: the last one of the range when
the step is negative, and the origin when the range is empty. -/
def origin (cut : Cut) (length : Nat) : Nat :=
  if cut.breadth length = 0 then 0
  else if cut.step < 0 then cut.first length + cut.breadth length - 1
  else cut.first length

end Cut

namespace Window

/-- Takes a cut of one axis. An axis that keeps at most one position has
stride zero. -/
def cutLane (lane : Lane) (cut : Cut) : Lane :=
  let size := cut.size lane.length
  ⟨size, if size ≤ 1 then 0 else lane.stride * cut.step⟩

/-- The rectangle of positions that two cuts take. -/
def slice (kind : ElementKind) (w : Window) (rows cols : Cut) : Window :=
  ⟨w.addressOf kind (rows.origin w.row.length) (cols.origin w.col.length),
    cutLane w.row rows, cutLane w.col cols⟩

/-- Rows become columns and columns rows. -/
def transpose (w : Window) : Window := ⟨w.address, w.col, w.row⟩

/-- Address of the last position of an axis, if it has one. -/
def farEnd (kind : ElementKind) (w : Window) (axis : Axis) : Int :=
  let lane := w.lane axis
  if lane.length = 0 then w.address
  else w.address + lane.stride * (lane.length - 1 : Nat) * kind.size

/-- Reverses the order of the positions of an axis. -/
def invert (kind : ElementKind) (w : Window) (axis : Axis) : Window :=
  let lane := w.lane axis
  { w with address := w.farEnd kind axis }.setLane ⟨lane.length, -lane.stride⟩ axis

/-- Whether the positions of an axis run towards lower addresses. -/
def descends (w : Window) (axis : Axis) : Bool :=
  decide ((w.lane axis).stride < 0) && decide (0 < (w.lane axis).length)

/-- Drops the sign of an axis' stride, moving the address to the lowest
position of the axis. -/
def lowered (kind : ElementKind) (w : Window) (axis : Axis) : Window :=
  let lane := w.lane axis
  { w with address := if w.descends axis then w.farEnd kind axis else w.address }.setLane
    ⟨lane.length, lane.stride.natAbs⟩ axis

/-- Inverts an axis if the flag says so. -/
def invertIf (kind : ElementKind) (flag : Bool) (w : Window) (axis : Axis) : Window :=
  if flag then w.invert kind axis else w

/-- The window as an array that is built from its lowest address with strides
of no sign, after which the axes that descend are inverted. -/
def rawArray (kind : ElementKind) (w : Window) : Window :=
  let low := (w.lowered kind .row).lowered kind .column
  (low.invertIf kind (w.descends .row) .row).invertIf kind (w.descends .column) .column

/-- The window over an array. An array without elements or without an address
gives up both its address and its strides. -/
def ofArray (kind : ElementKind) (array : Window) : Window :=
  if array.address ≠ 0 ∧ 0 < array.count then array
  else hollow kind array.row.length array.col.length

end Window

end ForeignMatrix
