import ForeignMatrix.Window.Reshape
import Mathlib

/-!
# Positions behind a reshaped window

Which position of a window each position of a cut, a transposed or a rebuilt
window stands for. A cut that stays inside an axis takes positions of the axis
only, in equal steps. Building an array from the lowest address and inverting
its descending axes gives back the window, as long as it has an element, and so
does wrapping an array that has elements and does not begin at null.
-/

namespace ForeignMatrix

namespace Cut

/-- The cut stays inside an axis: it has a step, and its ends are positions of the axis or one
past it, counted from either side. -/
structure Fits (cut : Cut) (length : Nat) : Prop where
  /-- Positions differ. -/
  step : cut.step ≠ 0
  /-- The range begins inside. -/
  start : -(length : Int) ≤ cut.start ∧ cut.start ≤ length
  /-- The range ends inside. -/
  stop : ∀ stop, cut.stop = some stop → -(length : Int) ≤ stop ∧ stop ≤ length

/-- Position that a cut takes as the one of the given number. -/
def nth (cut : Cut) (length i : Nat) : Nat := (cut.origin length + i * cut.step).toNat

theorem position_le {length : Nat} {index : Int} (h : -(length : Int) ≤ index ∧ index ≤ length) :
    position length index ≤ length := by
  unfold position
  split_ifs <;> omega

variable {cut : Cut} {length : Nat}

/-- The range of a cut that fits ends inside the axis. -/
theorem Fits.range_le (h : cut.Fits length) : cut.first length + cut.breadth length ≤ length := by
  have hfirst : cut.first length ≤ length := position_le h.start
  have hstop : position length (cut.stop.getD length) ≤ length := by
    cases hs : cut.stop with
    | none => exact position_le (by rw [Option.getD_none]; omega)
    | some stop => exact position_le (h.stop stop hs)
  unfold breadth
  omega

/-- The positions that a cut takes lie less than its breadth apart. -/
theorem Fits.mul_lt (h : cut.Fits length) {i : Nat} (hi : i < cut.size length) :
    i * cut.step.natAbs < cut.breadth length := by
  have hpos : 0 < cut.step.natAbs := Int.natAbs_pos.mpr h.step
  have hle := (Nat.le_div_iff_mul_le hpos).mp (Nat.succ_le_of_lt hi)
  rw [Nat.succ_mul] at hle
  omega

/-- The positions of a cut follow each other in equal steps and lie inside the axis. -/
theorem Fits.nth_spec (h : cut.Fits length) {i : Nat} (hi : i < cut.size length) :
    (cut.nth length i : Int) = cut.origin length + i * cut.step ∧ cut.nth length i < length := by
  have hmul := h.mul_lt hi
  have hrange := h.range_le
  have hbreadth : cut.breadth length ≠ 0 := by omega
  have hcast : (i : Int) * cut.step = (i * cut.step.natAbs : Nat) ∨
      (i : Int) * cut.step = -(i * cut.step.natAbs : Nat) := by
    rcases Int.natAbs_eq cut.step with hs | hs
    · left
      rw [Nat.cast_mul, ← hs]
    · right
      rw [Nat.cast_mul, ← Int.mul_neg, ← hs]
  have hsign : cut.step < 0 ↔ cut.step = -(cut.step.natAbs : Int) := by
    have hne := h.step
    omega
  unfold nth origin
  rw [if_neg hbreadth]
  by_cases hneg : cut.step < 0
  · have hdown : (i : Int) * cut.step = -(i * cut.step.natAbs : Nat) := by
      rw [Nat.cast_mul, ← Int.mul_neg, ← hsign.mp hneg]
    rw [if_pos hneg, hdown]
    omega
  · have hup : (i : Int) * cut.step = (i * cut.step.natAbs : Nat) := by
      rw [Nat.cast_mul, Int.natAbs_of_nonneg (by omega)]
    rw [if_neg hneg, hup]
    omega

/-- A plain range inside an axis fits. -/
theorem range_fits {start stop : Nat} (h : start ≤ stop) (hs : stop ≤ length) :
    (range start stop).Fits length := by
  refine ⟨Int.one_ne_zero, ?_, fun other he => ?_⟩
  · dsimp only [range]
    omega
  · cases he
    omega

/-- An index that is not negative names the position of its number. -/
@[simp] theorem position_natCast (length index : Nat) : position length (index : Int) = index := by
  rw [position, if_neg (by omega), Int.toNat_natCast]

/-- A plain range takes the positions from its start on, one after the other. -/
theorem range_spec (length start stop : Nat) :
    (range start stop).size length = stop - start ∧
      ∀ i < stop - start, (range start stop).nth length i = start + i := by
  have hbreadth : (range start stop).breadth length = stop - start := by
    simp [breadth, first, range]
  have hfirst : (range start stop).first length = start := by
    simp [first, range]
  constructor
  · rw [size, hbreadth]
    simp [range]
  · intro i hi
    have hpos : stop - start ≠ 0 := by omega
    have hstep : (range start stop).step = 1 := rfl
    rw [nth, origin, hbreadth, hfirst, if_neg hpos, hstep, if_neg (by decide)]
    omega

end Cut

namespace Window

variable {kind : ElementKind} {w : Window}

/-- An element of a cut window lies where the element lies that it stands for. An axis of one
position has no stride, and needs none. -/
theorem slice_addressOf {rows cols : Cut} (hr : rows.Fits w.row.length)
    (hc : cols.Fits w.col.length) {i j : Nat} (hi : i < rows.size w.row.length)
    (hj : j < cols.size w.col.length) :
    (w.slice kind rows cols).addressOf kind i j =
      w.addressOf kind (rows.nth w.row.length i) (cols.nth w.col.length j) := by
  have hlane : ∀ (lane : Lane) (cut : Cut), cut.Fits lane.length →
      ∀ i < cut.size lane.length,
        (i : Int) * (cutLane lane cut).stride = i * cut.step * lane.stride := by
    intro lane cut hcut i hi
    unfold cutLane
    dsimp only
    split_ifs with hone
    · have hzero : i = 0 := by omega
      rw [hzero]
      simp
    · ring
  unfold addressOf offset slice
  dsimp only
  rw [hlane w.row rows hr i hi, hlane w.col cols hc j hj, (hr.nth_spec hi).1, (hc.nth_spec hj).1]
  unfold addressOf offset
  ring

/-- Transposing exchanges the indices. -/
theorem transpose_addressOf (i j : Nat) :
    w.transpose.addressOf kind i j = w.addressOf kind j i := by
  unfold addressOf offset transpose
  dsimp only
  ring

/-- Extents that are equal are so on both axes. -/
theorem lengths_of_extents {other : Window} (h : other.extents = w.extents) :
    other.row.length = w.row.length ∧ other.col.length = w.col.length := Prod.ext_iff.mp h

/-- The array behind a window has the extents of the window. -/
@[simp] theorem rawArray_extents (kind : ElementKind) (w : Window) :
    (w.rawArray kind).extents = w.extents := by
  unfold rawArray invertIf
  dsimp only
  split_ifs <;> rfl

/-- The array behind a window with an element is the window: an axis that descends is moved to its
lowest address and inverted from there, and any other stays. -/
theorem rawArray_eq (hr : 0 < w.row.length) (hc : 0 < w.col.length) : w.rawArray kind = w := by
  obtain ⟨address, ⟨rows, down⟩, ⟨cols, across⟩⟩ := w
  have hrows : rows ≠ 0 := Nat.ne_of_gt hr
  have hcols : cols ≠ 0 := Nat.ne_of_gt hc
  rcases lt_or_ge down 0 with hd | hd <;> rcases lt_or_ge across 0 with ha | ha
  · simp [rawArray, lowered, invertIf, invert, descends, farEnd, lane, setLane, hrows, hcols, hd,
      ha, Nat.pos_of_ne_zero, abs_of_neg]
    ring
  · simp [rawArray, lowered, invertIf, invert, descends, farEnd, lane, setLane, hrows, hd, ha,
      Nat.pos_of_ne_zero, abs_of_neg, Int.not_lt.mpr ha]
  · simp [rawArray, lowered, invertIf, invert, descends, farEnd, lane, setLane, hcols, hd, ha,
      Nat.pos_of_ne_zero, abs_of_neg, Int.not_lt.mpr hd]
  · simp [rawArray, lowered, invertIf, descends, lane, setLane, hd, ha, Int.not_lt.mpr hd,
      Int.not_lt.mpr ha]

/-- The window over an array has the extents of the array. -/
@[simp] theorem ofArray_extents (kind : ElementKind) (array : Window) :
    (ofArray kind array).extents = array.extents := by
  unfold ofArray
  split_ifs <;> rfl

/-- The window over an array with an address and with elements is the array. -/
theorem ofArray_eq {array : Window} (ha : array.address ≠ 0) (hr : 0 < array.row.length)
    (hc : 0 < array.col.length) : ofArray kind array = array :=
  if_pos ⟨ha, Nat.mul_pos hr hc⟩

/-- The address of a window is that of its first element. -/
theorem addressOf_zero (kind : ElementKind) (w : Window) : w.addressOf kind 0 0 = w.address := by
  unfold addressOf offset
  simp

end Window

end ForeignMatrix
