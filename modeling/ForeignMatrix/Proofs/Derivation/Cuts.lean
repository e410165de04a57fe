import ForeignMatrix.Proofs.Derivation.Sharing

/-!
# Which rectangles, rows and columns can be derived

Every derivation is checked twice: the indices against the extents of the view,
and the array that comes out of it against the span of the view's window. For
rectangles, rows, columns and transposes the second check never decides. Their
elements are elements of the view, and a window covers whatever shows its own
elements, whatever the strides of either are. It is assumed that the elements
of the acquired view can be addressed at all. From that and from the second
check itself the same follows for every view down the chain. What is derived has
no more elements than the view, so that they can be counted as well.
-/

namespace ForeignMatrix

open Actions

variable {σ : Type} (library : NativeLibrary σ)

/-! ### Windows that cover what they show -/

namespace Window

variable {kind : ElementKind} {outer inner w : Window}

/-- A window covers every window that shows its elements. -/
theorem covers_of_shows {source : Nat × Nat → Nat × Nat} (h : Shows kind outer inner source) :
    outer.covers kind inner = true := by
  rw [covers_iff_confines]
  by_cases hzero : inner.count = 0
  · exact .inl hzero
  obtain ⟨hrow, hcol⟩ := has_of_count hzero
  refine .inr ⟨count_ne_zero (h.inside 0 0 hrow hcol), fun i j hij => ?_⟩
  rw [h.address i j hij.1 hij.2]
  exact Confines.refl _ _ (h.inside i j hij.1 hij.2)

/-- A window covers its rectangles. -/
theorem covers_slice (hs : w.Storable kind) {rows cols : Nat × Nat}
    (hr : rows.1 ≤ rows.2 ∧ rows.2 ≤ w.row.length) (hc : cols.1 ≤ cols.2 ∧ cols.2 ≤ w.col.length) :
    w.covers kind (.ofArray kind
      ((w.rawArray kind).slice kind (.range rows.1 rows.2) (.range cols.1 cols.2))) = true := by
  obtain ⟨hrow, hcol⟩ := lengths_of_extents (rawArray_extents kind w)
  have hrows : (Cut.range rows.1 rows.2).Fits (w.rawArray kind).row.length :=
    Cut.range_fits hr.1 (hr.2.trans_eq hrow.symm)
  have hcols : (Cut.range cols.1 cols.2).Fits (w.rawArray kind).col.length :=
    Cut.range_fits hc.1 (hc.2.trans_eq hcol.symm)
  exact covers_of_shows ((Shows.refl.rawArray.slice hrows hcols).wrap hs)

/-- A window covers its transpose. -/
theorem covers_transpose (hs : w.Storable kind) :
    w.covers kind (.ofArray kind (w.rawArray kind).transpose) = true :=
  covers_of_shows (Shows.refl.rawArray.transpose.wrap hs)

/-! ### Numbers of elements -/

/-- A rectangle inside a window has no more elements than the window. -/
theorem Counted.slice (h : w.Counted) {rows cols : Nat × Nat} (hr : rows.2 ≤ w.row.length)
    (hc : cols.2 ≤ w.col.length) :
    ((w.rawArray kind).slice kind (.range rows.1 rows.2) (.range cols.1 cols.2)).Counted := by
  obtain ⟨hrows, -⟩ := Cut.range_spec (w.rawArray kind).row.length rows.1 rows.2
  obtain ⟨hcols, -⟩ := Cut.range_spec (w.rawArray kind).col.length cols.1 cols.2
  change (Cut.range rows.1 rows.2).size (w.rawArray kind).row.length *
    (Cut.range cols.1 cols.2).size (w.rawArray kind).col.length < wordModulus
  rw [hrows, hcols]
  exact (Nat.mul_le_mul (by omega) (by omega)).trans_lt h

/-- The transpose has as many elements. -/
theorem Counted.transpose (h : w.Counted) : (w.rawArray kind).transpose.Counted := by
  obtain ⟨hrow, hcol⟩ := lengths_of_extents (rawArray_extents kind w)
  change (w.rawArray kind).col.length * (w.rawArray kind).row.length < wordModulus
  rw [hrow, hcol, Nat.mul_comm]
  exact h

/-! ### Windows that can be addressed -/

/-- The elements of the window can be addressed: they can be counted, and every one of them lies
behind null. -/
structure Addressable (kind : ElementKind) (w : Window) : Prop where
  /-- The elements can be counted. -/
  counted : w.Counted
  /-- No element lies at null or before. -/
  present : ∀ i j, w.Has i j → 0 < w.addressOf kind i j

/-- No element of an addressable window lies at null. -/
theorem Addressable.storable (ha : w.Addressable kind) : w.Storable kind :=
  fun i j hi hj => ne_of_gt (ha.present i j ⟨hi, hj⟩)

/-- What lies among the elements of an addressable window lies behind null. -/
theorem Addressable.pos (ha : w.Addressable kind) {address : Int} (hs : w.Spans kind address) :
    0 < address := by
  obtain ⟨k, rfl, ⟨i, j, hij, hlow⟩, -⟩ := hs
  have hpos := ha.present i j hij
  have hle : w.offset i j * (kind.size : Int) ≤ k * kind.size :=
    mul_le_mul_of_nonneg_right hlow (Int.natCast_nonneg kind.size)
  unfold addressOf at hpos
  omega

/-- What an addressable window confines is addressable. -/
theorem Addressable.confined (ha : outer.Addressable kind) (hc : outer.Confines kind inner)
    (hn : inner.Counted) : inner.Addressable kind :=
  ⟨hn, fun i j hij => ha.pos (hc i j hij)⟩

end Window

/-- A view whose acquired view can be addressed can be addressed itself. -/
theorem Inherits.addressable {view : View} {layout : NativeLayout} (hi : Inherits view layout)
    (ha : (Window.ofLayout view.kind layout).Addressable view.kind) :
    view.window.Addressable view.kind :=
  ha.confined hi.confined (hi.counted ha.counted)

/-! ### The checks of the indices -/

theorem checkRange_fits {axis : Axis} {start stop bound : Nat} (h : start ≤ stop ∧ stop ≤ bound) :
    checkRange axis start stop bound = .ok () := by
  unfold checkRange
  rw [if_neg (by omega), if_neg (by omega)]

/-- A range that does not fit is refused for its axis, with the extent as the bound. -/
theorem checkRange_refused (axis : Axis) {start stop bound : Nat}
    (h : ¬(start ≤ stop ∧ stop ≤ bound)) :
    ∃ index, checkRange axis start stop bound = .error (.range axis index bound) := by
  unfold checkRange
  by_cases hback : stop < start
  · exact ⟨_, if_pos hback⟩
  · have hpast : bound < stop := by omega
    rw [if_neg hback, if_pos hpast]
    exact ⟨_, rfl⟩

/-- What a derivation from a view comes to. It succeeds exactly where both axes fit, and enters a
view with the given extents. Otherwise nothing is done, and the fault is a range error that names
the first axis that does not fit and the extent of the view. -/
structure Decides (view : View) (w : Workspace σ) (action : ViewAction σ Nat)
    (rowsFit colsFit : Prop) (extents : Nat × Nat) : Prop where
  /-- Both axes fit. -/
  accepted : rowsFit → colsFit → ∃ (window : Window) (session : Session σ),
    action w = (.ok w.nextView, w.derived view window session) ∧ window.extents = extents ∧
      session.calls = w.session.calls
  /-- The rows do not fit. -/
  rows : ¬rowsFit → ∃ index,
    action w = (.error (.range .row index view.window.row.length), w)
  /-- The rows fit and the columns do not. -/
  cols : rowsFit → ¬colsFit → ∃ index,
    action w = (.error (.range .column index view.window.col.length), w)

namespace ViewAction

variable {view : View} {matrix : NativeMatrix} {w : Workspace σ}

variable (hm : view.handle.bind w.matrices = some matrix)
  (ha : view.window.Addressable view.kind)

include hm ha

/-- The ranges alone decide whether a rectangle can be derived. -/
theorem slice_decides (rows cols : Nat × Nat) :
    Decides view w (slice view rows cols) (rows.1 ≤ rows.2 ∧ rows.2 ≤ view.window.row.length)
      (cols.1 ≤ cols.2 ∧ cols.2 ≤ view.window.col.length)
      (rows.2 - rows.1, cols.2 - cols.1) where
  accepted hr hc := by
    let cut (array : Window) : Window :=
      array.slice view.kind (.range rows.1 rows.2) (.range cols.1 cols.2)
    obtain ⟨session, he, hcalls⟩ := derive_of_covers hm cut (ha.counted.slice hr.2 hc.2)
      ha.counted (Window.covers_slice ha.storable hr hc)
    have hslice : slice view rows cols w = derive view cut w := by
      unfold slice
      rw [checkRange_fits hr, checkRange_fits hc]
      rfl
    refine ⟨_, session, hslice.trans he, ?_, hcalls⟩
    have hrows := (Cut.range_spec (view.window.rawArray view.kind).row.length rows.1 rows.2).1
    have hcols := (Cut.range_spec (view.window.rawArray view.kind).col.length cols.1 cols.2).1
    rw [Window.ofArray_extents]
    exact Prod.ext hrows hcols
  rows hr := by
    obtain ⟨index, he⟩ := checkRange_refused .row hr
    unfold slice
    rw [he]
    exact ⟨index, rfl⟩
  cols hr hc := by
    obtain ⟨index, he⟩ := checkRange_refused .column hc
    unfold slice
    rw [checkRange_fits hr, he]
    exact ⟨index, rfl⟩

/-- The position alone decides whether a row can be derived. -/
theorem row_decides (position : Nat) :
    Decides view w (row view position) (position < view.window.row.length) True
      (1, view.window.col.length) where
  accepted hi _ := by
    have hslice := slice_decides hm ha (position, position + 1) (0, view.window.col.length)
    obtain ⟨window, session, he, hextents, hcalls⟩ :=
      hslice.accepted ⟨by omega, hi⟩ ⟨by omega, le_rfl⟩
    have hrow : row view position w =
        slice view (position, position + 1) (0, view.window.col.length) w := by
      unfold row checkPosition
      rw [if_pos hi]
      rfl
    refine ⟨window, session, hrow.trans he, hextents.trans ?_, hcalls⟩
    exact Prod.ext (by dsimp only; omega) rfl
  rows hi := by
    unfold row checkPosition
    rw [if_neg hi]
    exact ⟨_, rfl⟩
  cols _ hn := absurd trivial hn

/-- The position alone decides whether a column can be derived. -/
theorem column_decides (position : Nat) :
    Decides view w (column view position) True (position < view.window.col.length)
      (view.window.row.length, 1) where
  accepted _ hj := by
    have hslice := slice_decides hm ha (0, view.window.row.length) (position, position + 1)
    obtain ⟨window, session, he, hextents, hcalls⟩ :=
      hslice.accepted ⟨by omega, le_rfl⟩ ⟨by omega, hj⟩
    have hcolumn : column view position w =
        slice view (0, view.window.row.length) (position, position + 1) w := by
      unfold column checkPosition
      rw [if_pos hj]
      rfl
    refine ⟨window, session, hcolumn.trans he, hextents.trans ?_, hcalls⟩
    exact Prod.ext rfl (by dsimp only; omega)
  rows hn := absurd trivial hn
  cols _ hj := by
    unfold column checkPosition
    rw [if_neg hj]
    exact ⟨_, rfl⟩

/-- The transpose can always be derived. -/
theorem transpose_decides :
    Decides view w (transpose view) True True
      (view.window.col.length, view.window.row.length) where
  accepted _ _ := by
    obtain ⟨session, he, hcalls⟩ := derive_of_covers hm Window.transpose ha.counted.transpose
      ha.counted (Window.covers_transpose ha.storable)
    refine ⟨_, session, he, ?_, hcalls⟩
    have hextents := Window.rawArray_extents view.kind view.window
    rw [Window.ofArray_extents]
    exact congrArg Prod.swap hextents
  rows hn := absurd trivial hn
  cols _ hn := absurd trivial hn

end ViewAction

namespace History

variable {library} {h : History σ} {view : View} {matrix : NativeMatrix} {layout : NativeLayout}

/-- From any view that is not finalized, at the end of any chain of derivations, a rectangle can be
derived exactly if its ranges run forwards and end within the extents, a row or a column exactly if
its position is below the extent, and the transpose always. The elements of the view that was
acquired have to be addressable. No such derivation is refused for a window outside the source. -/
theorem cuts_decided (hr : h.Reachable library) (hv : Rests h view matrix layout)
    (ha : (Window.ofLayout view.kind layout).Addressable view.kind) :
    let w := h.workspace
    let rowLength := view.window.row.length
    let colLength := view.window.col.length
    (∀ rows cols, Decides view w (ViewAction.slice view rows cols)
      (rows.1 ≤ rows.2 ∧ rows.2 ≤ rowLength) (cols.1 ≤ cols.2 ∧ cols.2 ≤ colLength)
      (rows.2 - rows.1, cols.2 - cols.1)) ∧
    (∀ i, Decides view w (ViewAction.row view i) (i < rowLength) True (1, colLength)) ∧
    (∀ j, Decides view w (ViewAction.column view j) True (j < colLength) (rowLength, 1)) ∧
    Decides view w (ViewAction.transpose view) True True (colLength, rowLength) := by
  have hm := hv.held library hr
  have hview := ((hr.lineage library).inherits hv).addressable ha
  exact ⟨ViewAction.slice_decides hm hview, ViewAction.row_decides hm hview,
    ViewAction.column_decides hm hview, ViewAction.transpose_decides hm hview⟩

/-- A caller makes a table of three rows out of a board of two, running backwards through memory
and with elements in common. Rectangles of the table can be derived, empty ones too, and one that
fits on neither axis is refused for its rows. -/
theorem cuts_decided_overlapping :
    let h := (start fun _ => default).run board
      [.create (shelfBinder {}) .double (.fixed 2 2 .double),
        .derive 1 fun _ => ⟨32, ⟨3, -1⟩, ⟨2, -1⟩⟩]
    let table : View := ⟨2, .fixed 2 2 .double, some 0, none, false, some 1, true, (2, 2),
      ⟨32, ⟨3, -1⟩, ⟨2, -1⟩⟩⟩
    table ∈ h.workspace.views ∧
      (∃ window session, ViewAction.slice table (1, 3) (0, 1) h.workspace =
        (.ok 3, h.workspace.derived table window session) ∧ window.extents = (2, 1)) ∧
      (∃ window session, ViewAction.slice table (3, 3) (0, 2) h.workspace =
        (.ok 3, h.workspace.derived table window session) ∧ window.extents = (0, 2)) ∧
      ∃ index, ViewAction.slice table (2, 1) (5, 9) h.workspace =
        (.error (.range .row index 3), h.workspace) := by
  intro h table
  have hmem : table ∈ h.workspace.views := by decide +kernel
  have hr : h.Reachable board := ⟨_, _, rfl⟩
  have hv : Rests h table boardMatrix boardLayout :=
    ⟨hmem, _, List.mem_cons_self, rfl, rfl, rfl, rfl⟩
  have ha : (Window.ofLayout table.kind boardLayout).Addressable table.kind := by
    refine ⟨by decide, fun i j hij => ?_⟩
    obtain ⟨hi, hj⟩ : i < 2 ∧ j < 2 := hij
    change 0 < 24 + ((i : Int) * -2 + j * 1) * 8
    omega
  obtain ⟨hslice, -⟩ := cuts_decided hr hv ha
  obtain ⟨part, session, hpart, hextents, -⟩ :=
    (hslice (1, 3) (0, 1)).accepted (by decide) (by decide)
  obtain ⟨empty, session', hempty, hnone, -⟩ :=
    (hslice (3, 3) (0, 2)).accepted (by decide) (by decide)
  exact ⟨hmem, ⟨part, session, hpart, hextents⟩, ⟨empty, session', hempty, hnone⟩,
    (hslice (2, 1) (5, 9)).rows (by decide)⟩

end History

end ForeignMatrix
