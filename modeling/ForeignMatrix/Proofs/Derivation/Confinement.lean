import ForeignMatrix.Proofs.Derivation.Access

/-!
# Derived views stay inside the native window

A caller may derive a view from an array of its own making: any address, any
extents, any strides. The one guard compares the spans of the two windows. As
the offset of a strided rectangle is least and greatest at its corners, and as
the distance of the two windows is a whole number of elements, an array that
passes shows only places among the elements of its source, and so does every
array derived from it in turn. What lies elsewhere in memory has no influence
on reading and storing through the last view.
-/

namespace ForeignMatrix

open Actions

variable {σ : Type}

/-! ### Places that a window spans -/

/-- Elements have a size. -/
theorem ElementKind.size_ne_zero (kind : ElementKind) : (kind.size : Int) ≠ 0 := by
  cases kind <;> decide

namespace Window

/-- The window has an element at the position. -/
def Has (w : Window) (i j : Nat) : Prop := i < w.row.length ∧ j < w.col.length

instance (w : Window) (i j : Nat) : Decidable (w.Has i j) := inferInstanceAs (Decidable (_ ∧ _))

/-- A window with elements by count has one. -/
theorem has_of_count {w : Window} (h : w.count ≠ 0) : w.Has 0 0 := by
  refine ⟨Nat.pos_of_ne_zero fun hrow => h ?_, Nat.pos_of_ne_zero fun hcol => h ?_⟩
  · rw [count, hrow, Nat.zero_mul]
  · rw [count, hcol, Nat.mul_zero]

/-- A window with a position has elements by count. -/
theorem count_ne_zero {w : Window} {i j : Nat} (h : w.Has i j) : w.count ≠ 0 :=
  Nat.ne_of_gt (Nat.mul_pos (Nat.zero_lt_of_lt h.1) (Nat.zero_lt_of_lt h.2))

/-- Indices within the extents of a window are those of a position. -/
theorem has_of_inside {w : Window} {row col : Int} (h : Inside w.extents row col) :
    w.Has row.toNat col.toNat := by
  obtain ⟨hr, hc⟩ := h
  change 0 ≤ row ∧ row < w.row.length at hr
  change 0 ≤ col ∧ col < w.col.length at hc
  exact ⟨by omega, by omega⟩

/-- The address lies among the elements of the window: a whole number of elements away from its
first one, and neither before the lowest nor behind the highest. -/
def Spans (kind : ElementKind) (w : Window) (address : Int) : Prop :=
  ∃ k : Int, address = w.address + k * kind.size ∧
    (∃ i j, w.Has i j ∧ w.offset i j ≤ k) ∧ ∃ i j, w.Has i j ∧ k ≤ w.offset i j

/-- Every element of the inner window lies among those of the outer one. -/
def Confines (kind : ElementKind) (outer inner : Window) : Prop :=
  ∀ i j, inner.Has i j → outer.Spans kind (inner.addressOf kind i j)

variable {kind : ElementKind} {outer middle inner w : Window} {low high innerLow innerHigh : Int}

theorem Confines.refl : w.Confines kind w :=
  fun i j h => ⟨w.offset i j, rfl, ⟨i, j, h, le_rfl⟩, i, j, h, le_rfl⟩

/-- What lies among the elements of a confined window lies among those that confine it. -/
theorem Confines.spans (h : outer.Confines kind inner) {address : Int}
    (hs : inner.Spans kind address) : outer.Spans kind address := by
  obtain ⟨k, rfl, ⟨i, j, hij, hlow⟩, i', j', hij', hhigh⟩ := hs
  obtain ⟨a, ha, hbefore, -⟩ := h i j hij
  obtain ⟨b, hb, -, hbehind⟩ := h i' j' hij'
  obtain ⟨r, c, hrc, hr⟩ := hbefore
  obtain ⟨r', c', hrc', hr'⟩ := hbehind
  unfold addressOf at ha hb
  -- Both elements of the inner window tell how far it lies from the outer one.
  have hshift : a - inner.offset i j = b - inner.offset i' j' := by
    refine mul_right_cancel₀ kind.size_ne_zero ?_
    linarith only [ha, hb]
  refine ⟨a - inner.offset i j + k, ?_, ⟨r, c, hrc, by omega⟩, r', c', hrc', by omega⟩
  linarith only [ha]

theorem Confines.trans (h : outer.Confines kind middle) (k : middle.Confines kind inner) :
    outer.Confines kind inner := fun i j hij => h.spans (k i j hij)

/-- Along an axis, offsets lie between those of its ends. -/
theorem lane_between {n i : Nat} (h : i ≤ n) (stride : Int) :
    min 0 (n * stride) ≤ i * stride ∧ i * stride ≤ max 0 (n * stride) := by
  have hle : (i : Int) ≤ n := Int.ofNat_le.mpr h
  have hpos : (0 : Int) ≤ i := Int.natCast_nonneg i
  rcases le_total 0 stride with hs | hs
  · have hmul := mul_le_mul_of_nonneg_right hle hs
    have hzero := mul_nonneg hpos hs
    omega
  · have hmul := mul_le_mul_of_nonpos_right hle hs
    have hzero := mul_nonpos_of_nonneg_of_nonpos hpos hs
    omega

/-- A window has a span if it has elements by count. -/
theorem span_some (h : w.span = some (low, high)) :
    0 < w.row.length ∧ 0 < w.col.length ∧
      low = min (min 0 (w.offset (w.row.length - 1) 0))
        (min (w.offset 0 (w.col.length - 1)) (w.offset (w.row.length - 1) (w.col.length - 1))) ∧
      high = max (max 0 (w.offset (w.row.length - 1) 0))
        (max (w.offset 0 (w.col.length - 1))
          (w.offset (w.row.length - 1) (w.col.length - 1))) := by
  unfold span at h
  split_ifs at h with hzero
  cases h
  obtain ⟨hr, hc⟩ := has_of_count hzero
  exact ⟨hr, hc, rfl, rfl⟩

/-- The offset at a corner is the sum of those along the two edges. -/
theorem offset_eq (w : Window) (i j : Nat) :
    w.offset i j = w.offset i 0 + w.offset 0 j := by
  unfold offset
  push_cast
  ring

/-- No element lies outside the span. -/
theorem span_bounds (h : w.span = some (low, high)) {i j : Nat} (hij : w.Has i j) :
    low ≤ w.offset i j ∧ w.offset i j ≤ high := by
  obtain ⟨hr, hc, hlow, hhigh⟩ := span_some h
  have hrow := lane_between (n := w.row.length - 1) (i := i) (by have := hij.1; omega)
    w.row.stride
  have hcol := lane_between (n := w.col.length - 1) (i := j) (by have := hij.2; omega)
    w.col.stride
  rw [w.offset_eq (w.row.length - 1) (w.col.length - 1)] at hlow hhigh
  rw [w.offset_eq i j]
  have hleft : ∀ i, w.offset i 0 = i * w.row.stride := by
    intro i
    simp [offset]
  have htop : ∀ j, w.offset 0 j = j * w.col.stride := by
    intro j
    simp [offset]
  rw [hleft, htop] at hlow hhigh ⊢
  omega

/-- Both ends of the span are reached by elements. -/
theorem span_reached (h : w.span = some (low, high)) :
    (∃ i j, w.Has i j ∧ w.offset i j = low) ∧ ∃ i j, w.Has i j ∧ w.offset i j = high := by
  obtain ⟨hr, hc, hlow, hhigh⟩ := span_some h
  have hlast : w.row.length - 1 < w.row.length ∧ w.col.length - 1 < w.col.length := by omega
  have hzero : w.offset 0 0 = 0 := by simp [offset]
  have hcorner : ∀ x, x = w.offset 0 0 ∨ x = w.offset (w.row.length - 1) 0 ∨
      x = w.offset 0 (w.col.length - 1) ∨
        x = w.offset (w.row.length - 1) (w.col.length - 1) →
      ∃ i j, w.Has i j ∧ w.offset i j = x := by
    rintro x (rfl | rfl | rfl | rfl)
    · exact ⟨0, 0, ⟨hr, hc⟩, rfl⟩
    · exact ⟨_, 0, ⟨hlast.1, hc⟩, rfl⟩
    · exact ⟨0, _, ⟨hr, hlast.2⟩, rfl⟩
    · exact ⟨_, _, hlast, rfl⟩
  exact ⟨hcorner low (by omega), hcorner high (by omega)⟩

/-- A window with elements by count has a span. -/
theorem exists_span (h : w.count ≠ 0) : ∃ low high, w.span = some (low, high) := by
  unfold span
  rw [if_neg h]
  exact ⟨_, _, rfl⟩

/-- A window confines another exactly if the other lies a whole number of elements away and has its
span, moved by that number, within the span of the first. -/
theorem confines_iff_base (houter : outer.span = some (low, high))
    (hinner : inner.span = some (innerLow, innerHigh)) :
    outer.Confines kind inner ↔ ∃ base : Int,
      inner.address = outer.address + base * kind.size ∧
        low ≤ base + innerLow ∧ base + innerHigh ≤ high := by
  obtain ⟨⟨i, j, hij, hlow⟩, i', j', hij', hhigh⟩ := span_reached hinner
  constructor
  · intro h
    -- The first element of the inner window tells how far it lies from the outer one.
    obtain ⟨base, hbase, -, -⟩ := h 0 0 ⟨Nat.zero_lt_of_lt hij.1, Nat.zero_lt_of_lt hij.2⟩
    rw [addressOf_zero] at hbase
    have hplace : ∀ i j, inner.Has i j →
        low ≤ base + inner.offset i j ∧ base + inner.offset i j ≤ high := by
      intro i j hij
      obtain ⟨k, hk, ⟨r, c, hrc, hbefore⟩, r', c', hrc', hbehind⟩ := h i j hij
      have hsame : k = base + inner.offset i j := by
        refine mul_right_cancel₀ kind.size_ne_zero ?_
        unfold addressOf at hk
        linarith only [hk, hbase]
      have hfirst := (span_bounds houter hrc).1
      have hlast := (span_bounds houter hrc').2
      omega
    have hleast := (hplace i j hij).1
    have hgreatest := (hplace i' j' hij').2
    exact ⟨base, hbase, by omega, by omega⟩
  · rintro ⟨base, hbase, hbefore, hbehind⟩ r c hrc
    obtain ⟨⟨a, b, hab, hleast⟩, a', b', hab', hgreatest⟩ := span_reached houter
    obtain ⟨hfirst, hlast⟩ := span_bounds hinner hrc
    refine ⟨base + inner.offset r c, ?_, ⟨a, b, hab, by omega⟩, a', b', hab', by omega⟩
    unfold addressOf
    linarith only [hbase]

/-- A window covers another on the same condition, where both have spans. -/
theorem covers_iff_base (houter : outer.span = some (low, high))
    (hinner : inner.span = some (innerLow, innerHigh)) :
    outer.covers kind inner = true ↔ ∃ base : Int,
      inner.address = outer.address + base * kind.size ∧
        low ≤ base + innerLow ∧ base + innerHigh ≤ high := by
  unfold covers
  rw [houter, hinner]
  dsimp only
  constructor
  · intro h
    split_ifs at h with hrest
    rw [not_not] at hrest
    rw [Bool.and_eq_true, decide_eq_true_eq, decide_eq_true_eq] at h
    have hdistance := Int.ediv_mul_cancel (Int.dvd_of_emod_eq_zero hrest)
    exact ⟨_, by linarith only [hdistance], h⟩
  · rintro ⟨base, hbase, hbounds⟩
    have hdistance : inner.address - outer.address = base * kind.size := by
      linarith only [hbase]
    rw [hdistance, Int.mul_emod_left, if_neg (not_not.mpr rfl),
      Int.mul_ediv_cancel _ kind.size_ne_zero, Bool.and_eq_true, decide_eq_true_eq,
      decide_eq_true_eq]
    exact hbounds

/-- Where one of two windows has no elements by count, the inner one decides. -/
theorem covers_of_count (h : outer.count = 0 ∨ inner.count = 0) :
    outer.covers kind inner = (inner.count == 0) := by
  unfold covers
  rcases h with hzero | hzero
  · have hnone : outer.span = none := if_pos hzero
    rw [hnone]
  · have hnone : inner.span = none := if_pos hzero
    rw [hnone]
    cases outer.span <;> rfl

/-- A window is covered exactly if it has no elements by count, or if it is confined by a window
that has elements by count. -/
theorem covers_iff_confines :
    outer.covers kind inner = true ↔
      inner.count = 0 ∨ outer.count ≠ 0 ∧ outer.Confines kind inner := by
  by_cases hinner : inner.count = 0
  · rw [covers_of_count (.inr hinner), beq_iff_eq]
    exact iff_of_true hinner (.inl hinner)
  by_cases houter : outer.count = 0
  · rw [covers_of_count (.inl houter), beq_iff_eq]
    refine iff_of_false hinner ?_
    rintro (hzero | ⟨hcount, -⟩)
    · exact hinner hzero
    · exact hcount houter
  obtain ⟨low, high, hspan⟩ := exists_span houter
  obtain ⟨innerLow, innerHigh, hinnerSpan⟩ := exists_span hinner
  rw [covers_iff_base hspan hinnerSpan, ← confines_iff_base hspan hinnerSpan]
  simp only [hinner, houter, false_or, ne_eq, not_false_eq_true, true_and]

/-- A window covers itself. -/
theorem covers_self : w.covers kind w = true := by
  rw [covers_iff_confines]
  by_cases hzero : w.count = 0
  · exact .inl hzero
  · exact .inr ⟨hzero, .refl⟩

/-- A window that is covered is confined. -/
theorem confines_of_covers (h : outer.covers kind inner = true) : outer.Confines kind inner := by
  rcases covers_iff_confines.mp h with hzero | ⟨-, hconfines⟩
  · exact fun i j hij => absurd hzero (count_ne_zero hij)
  · exact hconfines

/-- A position of the array behind a window is one of the window. -/
theorem rawArray_has {i j : Nat} : (w.rawArray kind).Has i j ↔ w.Has i j := by
  obtain ⟨hrow, hcol⟩ := lengths_of_extents (rawArray_extents kind w)
  unfold Has
  rw [hrow, hcol]

/-- The array behind a window has its elements where the window has them. -/
theorem rawArray_addressOf {i j : Nat} (h : (w.rawArray kind).Has i j) :
    w.Has i j ∧ (w.rawArray kind).addressOf kind i j = w.addressOf kind i j := by
  have hw : w.Has i j := rawArray_has.mp h
  refine ⟨hw, ?_⟩
  rw [rawArray_eq (Nat.zero_lt_of_lt hw.1) (Nat.zero_lt_of_lt hw.2)]

/-- Windows of the same extents have as many elements. -/
theorem Counted.of_extents {other : Window} (h : w.Counted) (he : other.extents = w.extents) :
    other.Counted := by
  obtain ⟨hrow, hcol⟩ := lengths_of_extents he
  unfold Counted count
  rw [hrow, hcol]
  exact h

end Window

/-! ### Derivations of the caller's choice -/

namespace ViewAction

/-- A derivation that succeeds starts from a view that admits the array. -/
theorem derive_admits {view : View} {transform : Window → Window} {w : Workspace σ} {id : Nat}
    (hok : (derive view transform w).1 = .ok id) :
    view.Admits w (transform (view.window.rawArray view.kind)) := by
  rcases derive_cases view transform w with ⟨fault, he⟩ | ⟨hadmits, -⟩
  · rw [he] at hok
    contradiction
  · exact hadmits

end ViewAction

/-- The view is derived from the root by transformations of the caller's choice, one after the
other and each in whatever workspace. They may answer any array. -/
inductive Descendant (σ : Type) (root : View) : View → Prop where
  /-- Nothing is derived. -/
  | root : Descendant σ root root
  /-- One more view is derived. -/
  | derive {view child : View} (hd : Descendant σ root view) (w : Workspace σ)
      (transform : Window → Window) {id : Nat}
      (hok : (ViewAction.derive view transform w).1 = .ok id)
      (hchild : (ViewAction.derive view transform w).2.views = w.views ++ [child]) :
      Descendant σ root child

/-- The root of a chain confines all that is derived from it. -/
theorem Descendant.confined {root last : View} (hd : Descendant σ root last) :
    last.kind = root.kind ∧ root.window.Confines root.kind last.window := by
  induction hd with
  | root => exact ⟨rfl, .refl⟩
  | @derive view child hd w transform id hok hchild ih =>
    obtain ⟨hkind, hconfines⟩ := ih
    have hchildConfined := Window.confines_of_covers (ViewAction.derive_admits hok).covered
    rw [ViewAction.derive_ok hok hchild]
    exact ⟨hkind, hconfines.trans (hkind ▸ hchildConfined)⟩

/-! ### Memory elsewhere -/

/-- Two libraries have the same entry points, and elements at the given places in common. What
they hold elsewhere in memory, and what becomes of a store there, may differ. -/
structure NativeLibrary.AgreesAt (library other : NativeLibrary σ) (kind : ElementKind)
    (inside : Int → Prop) : Prop where
  /-- Only memory differs. -/
  entries : ∃ load store, other = { library with load, store }
  /-- Reading the places gives the same. -/
  load : ∀ address, inside address → other.load kind address = library.load kind address
  /-- Storing there does the same. -/
  store : ∀ address, inside address → other.store kind address = library.store kind address

/-- Steps that agree on the members of a list agree when it is gone through. -/
theorem mapM_congr {α β : Type} {f g : α → ViewAction σ β} {list : List α}
    (h : ∀ a ∈ list, f a = g a) : list.mapM f = list.mapM g := by
  induction list with
  | nil => rfl
  | cons a list ih =>
    rw [List.mapM_cons, List.mapM_cons, h a List.mem_cons_self,
      ih fun b hb => h b (List.mem_cons_of_mem a hb)]

theorem forM_congr {α : Type} {f g : α → ViewAction σ Unit} {list : List α}
    (h : ∀ a ∈ list, f a = g a) : list.forM f = list.forM g := by
  induction list with
  | nil => rfl
  | cons a list ih =>
    change (f a >>= fun _ => list.forM f) = g a >>= fun _ => list.forM g
    rw [h a List.mem_cons_self, ih fun b hb => h b (List.mem_cons_of_mem a hb)]

namespace ViewAction

variable {library other : NativeLibrary σ} {view : View} {inside : Int → Prop}

/-- Indices that pass the check are those of an element. -/
theorem checkIndices_has {w : Window} {row col : Int} {i j : Nat}
    (h : checkIndices w.extents row col = .ok (i, j)) : w.Has i j := by
  by_cases hi : Inside w.extents row col
  · rw [checkIndices_inside hi] at h
    cases h
    exact Window.has_of_inside hi
  · obtain ⟨axis, index, bound, he⟩ := checkIndices_outside hi
    rw [he] at h
    contradiction

/-- What follows a check agrees if it agrees on what passes. -/
theorem checked_congr {α β : Type} {result : Except Fault α} {f g : α → ViewAction σ β}
    (h : ∀ a, result = .ok a → f a = g a) :
    (checked result >>= f) = checked result >>= g := by
  cases result with
  | error fault => rfl
  | ok a => exact h a rfl

theorem load_agrees {kind : ElementKind} (h : library.AgreesAt other kind inside)
    {window : Window} {i j : Nat} (hin : inside (window.addressOf kind i j)) :
    load other kind window i j = load library kind window i j := by
  unfold load
  rw [h.load _ hin]

theorem store_agrees {kind : ElementKind} (h : library.AgreesAt other kind inside)
    {window : Window} {i j : Nat} (hin : inside (window.addressOf kind i j))
    (value : Element kind) :
    store other kind window i j value = store library kind window i j value := by
  unfold store
  rw [h.store _ hin]

section Agreeing

variable (hin : ∀ i j, view.window.Has i j → inside (view.window.addressOf view.kind i j))

include hin

/-- The array of a view has its elements inside. -/
theorem rawArray_inside {i j : Nat}
    (hi : i ∈ List.range (view.window.rawArray view.kind).row.length)
    (hj : j ∈ List.range (view.window.rawArray view.kind).col.length) :
    inside ((view.window.rawArray view.kind).addressOf view.kind i j) := by
  have harray : (view.window.rawArray view.kind).Has i j :=
    ⟨List.mem_range.mp hi, List.mem_range.mp hj⟩
  obtain ⟨hhas, haddress⟩ := Window.rawArray_addressOf harray
  rw [haddress]
  exact hin i j hhas

variable (h : library.AgreesAt other view.kind inside)

include h

/-- Reading an element looks at memory at most where the view has an element. -/
theorem getElement_agrees (row col : Int) :
    getElement other view row col = getElement library view row col := by
  refine bind_congr fun matrix => checked_congr fun ij hij => ?_
  dsimp only
  rw [load_agrees h (hin _ _ (checkIndices_has hij))]
  obtain ⟨load, store, rfl⟩ := h.entries
  rfl

/-- Storing an element touches memory at most where the view has an element. -/
theorem setElement_agrees (row col : Int) (value : Element view.kind) :
    setElement other view row col value = setElement library view row col value := by
  refine bind_congr fun matrix => checked_congr fun ij hij => ?_
  dsimp only
  rw [store_agrees h (hin _ _ (checkIndices_has hij))]
  obtain ⟨load, store, rfl⟩ := h.entries
  rfl

/-- Copying a view looks at memory only where the view has elements. -/
theorem toArray_agrees : toArray other view = toArray library view := by
  refine mapM_congr fun i hi => mapM_congr fun j hj => ?_
  exact load_agrees h (rawArray_inside hin hi hj)

/-- Filling a view touches memory only where the view has elements. -/
theorem fill_agrees (value : Nat → Nat → Element view.kind) :
    fill other view value = fill library view value := by
  refine forM_congr fun i hi => forM_congr fun j hj => ?_
  exact store_agrees h (rawArray_inside hin hi hj) _

end Agreeing

end ViewAction

namespace History

variable {library : NativeLibrary σ} {h : History σ} {root last : View} {matrix : NativeMatrix}
  {layout : NativeLayout}

/-- Whatever is derived from an acquired view, by whatever transformations, shows elements inside
the window that the matrix reported, and nothing outside that window has an influence on what is
read, stored, copied or filled through it. -/
theorem chain_confined (hr : h.Reachable library) (hroot : LiveRoot h root matrix layout)
    (hd : Descendant σ root last) :
    let inside := (Window.ofLayout root.kind layout).Spans root.kind
    last.kind = root.kind ∧
      (∀ i j, last.window.Has i j → inside (last.window.addressOf last.kind i j)) ∧
      ∀ other, library.AgreesAt other last.kind inside →
        (∀ i j, ViewAction.getElement other last i j = ViewAction.getElement library last i j) ∧
        (∀ i j value, ViewAction.setElement other last i j value =
          ViewAction.setElement library last i j value) ∧
        ViewAction.toArray other last = ViewAction.toArray library last ∧
        ∀ value, ViewAction.fill other last value = ViewAction.fill library last value := by
  intro inside
  obtain ⟨hkind, hconfines⟩ := hd.confined
  rw [hroot.window library hr] at hconfines
  have hin : ∀ i j, last.window.Has i j → inside (last.window.addressOf last.kind i j) := by
    rw [hkind]
    exact hconfines
  refine ⟨hkind, hin, fun other ha => ⟨fun i j => ?_, fun i j value => ?_, ?_, fun value => ?_⟩⟩
  · exact ViewAction.getElement_agrees hin ha i j
  · exact ViewAction.setElement_agrees hin ha i j value
  · exact ViewAction.toArray_agrees hin ha
  · exact ViewAction.fill_agrees hin ha value

/-- The four elements of a board are shown as a column that the caller makes up, and from that a
table is made in which they overlap. An element of the table is one of the board, whatever the rest
of memory holds. -/
theorem chain_confined_overlapping :
    let h := (start fun _ => default).run board
      [.create (shelfBinder {}) .double (.fixed 2 2 .double)]
    let root : View := ⟨1, .fixed 2 2 .double, some 0, none, true, none, false, (2, 2),
      ⟨24, ⟨2, -2⟩, ⟨2, 1⟩⟩⟩
    let last : View := ⟨3, .fixed 2 2 .double, some 0, none, false, some 1, true, (2, 2),
      ⟨32, ⟨3, -1⟩, ⟨2, -1⟩⟩⟩
    let other : NativeLibrary (Int → Element .double) :=
      { board with
        load := fun kind address s =>
          if 8 ≤ address ∧ address ≤ 32 then board.load kind address s else default }
    root ∈ h.workspace.views ∧ Descendant (Int → Element .double) root last ∧
      boardLayout.window.Spans .double (last.window.addressOf .double 2 1) ∧
      ViewAction.toArray other last = ViewAction.toArray board last := by
  intro h root last other
  let column : View := ⟨2, .fixed 2 2 .double, some 0, none, false, some 1, true, (2, 2),
    ⟨8, ⟨4, 1⟩, ⟨1, 0⟩⟩⟩
  have hmem : root ∈ h.workspace.views := by decide +kernel
  have hroot : LiveRoot h root boardMatrix boardLayout :=
    ⟨hmem, rfl, _, List.mem_cons_self, rfl, rfl, rfl, rfl⟩
  have hcolumn : (ViewAction.derive root (fun _ => ⟨8, ⟨4, 1⟩, ⟨1, 0⟩⟩) h.workspace).1 = .ok 2 ∧
      (ViewAction.derive root (fun _ => ⟨8, ⟨4, 1⟩, ⟨1, 0⟩⟩) h.workspace).2.views =
        h.workspace.views ++ [column] := by
    decide +kernel
  generalize hsecond :
    (ViewAction.derive root (fun _ => ⟨8, ⟨4, 1⟩, ⟨1, 0⟩⟩) h.workspace).2 = second at hcolumn
  have htable : (ViewAction.derive column (fun _ => ⟨32, ⟨3, -1⟩, ⟨2, -1⟩⟩) second).1 = .ok 3 ∧
      (ViewAction.derive column (fun _ => ⟨32, ⟨3, -1⟩, ⟨2, -1⟩⟩) second).2.views =
        second.views ++ [last] := by
    rw [← hsecond]
    decide +kernel
  have hlast : Descendant (Int → Element .double) root last :=
    .derive (.derive .root h.workspace _ hcolumn.1 (hsecond ▸ hcolumn.2)) second _
      htable.1 htable.2
  obtain ⟨-, hinside, hagrees⟩ := chain_confined ⟨_, _, rfl⟩ hroot hlast
  refine ⟨hmem, hlast, hinside 2 1 ⟨by decide, by decide⟩,
    (hagrees other ⟨⟨_, _, rfl⟩, ?_, ?_⟩).2.2.1⟩
  · rintro address ⟨k, rfl, ⟨i, j, hij, hlow⟩, i', j', hij', hhigh⟩
    obtain ⟨hi, hj⟩ : i < 2 ∧ j < 2 := hij
    obtain ⟨hi', hj'⟩ : i' < 2 ∧ j' < 2 := hij'
    change (i : Int) * -2 + j * 1 ≤ k at hlow
    change k ≤ (i' : Int) * -2 + j' * 1 at hhigh
    have hplace : 8 ≤ 24 + k * 8 ∧ 24 + k * 8 ≤ 32 := by omega
    exact funext fun s => if_pos hplace
  · exact fun _ _ => rfl

end History

end ForeignMatrix
