import ForeignMatrix.Proofs.Derivation.Lineage

/-!
# Views without storage

A matrix that reports a null pointer for its storage has no element to show.
Its view, and whatever is derived from that by whatever transformations, is
blank: its length is zero, every index is refused before the library or memory
is asked, and copying and filling touch no memory. So the place holder that
stands for the null pointer is never followed. The view takes the reported
extents only if one of them is zero. To tell, the elements that they leave room
for are counted in a machine word: where these are too many the matrix is not
shown at all, and its acquisition stops with an overflow.
-/

namespace ForeignMatrix

open Actions

variable {σ : Type}

/-! ### Blank views -/

/-- A view without elements. No library and no state of one makes a difference to what is done with
it, and nothing that is done with it changes anything. -/
structure Blank (σ : Type) (view : View) : Prop where
  /-- Its length is zero. -/
  length : view.window.row.length * view.window.col.length = 0
  /-- Reading any index is a range error. -/
  get : ∀ (w : Workspace σ) (matrix : NativeMatrix), view.handle.bind w.matrices = some matrix →
    ∀ i j, ∃ axis index bound, ∀ library,
      ViewAction.getElement library view i j w = (.error (.range axis index bound), w)
  /-- Storing at any index is a range error. -/
  set : ∀ (w : Workspace σ) (matrix : NativeMatrix), view.handle.bind w.matrices = some matrix →
    ∀ i j, ∃ axis index bound, ∀ library value,
      ViewAction.setElement library view i j value w = (.error (.range axis index bound), w)
  /-- Reading any index of the matrix itself is a range error. -/
  base : ∀ (w : Workspace σ) (matrix : NativeMatrix), view.handle.bind w.matrices = some matrix →
    ∀ i j, ∃ axis index bound, ∀ library,
      ViewAction.getBaseElement library view i j w = (.error (.range axis index bound), w)
  /-- A copy has no element. -/
  copy : ∀ w : Workspace σ, ∃ rows, (∀ row ∈ rows, row = []) ∧
    ∀ library, ViewAction.toArray library view w = (.ok rows, w)
  /-- Filling stores nothing. -/
  fill : ∀ (w : Workspace σ) (library : NativeLibrary σ) value,
    ViewAction.fill library view value w = (.ok (), w)

/-- A view without a position is blank. -/
theorem Blank.of_not_has {view : View} (h : ∀ i j, ¬view.window.Has i j) : Blank σ view := by
  have hrefused : ∀ i j, ∃ axis index bound,
      checkIndices view.window.extents i j = .error (.range axis index bound) :=
    fun i j => checkIndices_outside fun hi => h _ _ (Window.has_of_inside hi)
  have hpositions : ∀ i ∈ List.range (view.window.rawArray view.kind).row.length,
      ∀ j ∈ List.range (view.window.rawArray view.kind).col.length, False := by
    intro i hi j hj
    have harray : (view.window.rawArray view.kind).Has i j :=
      ⟨List.mem_range.mp hi, List.mem_range.mp hj⟩
    exact h i j (Window.rawArray_has.mp harray)
  have hlength : view.window.row.length * view.window.col.length = 0 := by
    by_contra hcount
    exact h 0 0 (Window.has_of_count hcount)
  refine ⟨hlength, fun w matrix hm i j => ?_, fun w matrix hm i j => ?_,
    fun w matrix hm i j => ?_, fun w => ?_, fun w library value => ?_⟩
  · obtain ⟨axis, index, bound, hc⟩ := hrefused i j
    exact ⟨axis, index, bound, fun library => ViewAction.access_refused hm hc "get"⟩
  · obtain ⟨axis, index, bound, hc⟩ := hrefused i j
    exact ⟨axis, index, bound, fun library value => ViewAction.access_refused hm hc "set"⟩
  · obtain ⟨axis, index, bound, hc⟩ := hrefused i j
    exact ⟨axis, index, bound, fun library => ViewAction.access_refused hm hc "at_base_index"⟩
  · refine ⟨(List.range (view.window.rawArray view.kind).row.length).map fun _ => [],
      fun row hrow => ?_, fun library => mapM_ok fun i hi => ?_⟩
    · obtain ⟨i, -, rfl⟩ := List.mem_map.mp hrow
      rfl
    · have hnone : List.range (view.window.rawArray view.kind).col.length = [] :=
        List.eq_nil_iff_forall_not_mem.mpr fun j hj => hpositions i hi j hj
      rw [hnone]
      rfl
  · exact forM_ok fun i hi => forM_ok fun j hj => absurd (hpositions i hi j hj) not_false

/-! ### Matrices without storage -/

namespace NativeLayout

/-- Without storage a window has the reported extents if one of them is zero, and else none. -/
theorem ofLayout_extents {layout : NativeLayout} (hdata : layout.data = 0) (kind : ElementKind) :
    (Window.ofLayout kind layout).extents =
      if layout.rows = 0 ∨ layout.cols = 0 then (layout.rows, layout.cols) else (0, 0) := by
  have hcount : layout.window.count = 0 ↔ layout.rows = 0 ∨ layout.cols = 0 := Nat.mul_eq_zero
  unfold Window.ofLayout
  rw [if_neg (not_not.mpr hdata)]
  simp only [hcount]
  split_ifs <;> rfl

/-- A window without storage has no position. -/
theorem not_has_ofLayout {layout : NativeLayout} (hdata : layout.data = 0) (kind : ElementKind)
    (i j : Nat) : ¬(Window.ofLayout kind layout).Has i j := by
  obtain ⟨hrow, hcol⟩ := Prod.ext_iff.mp (ofLayout_extents hdata kind)
  change (Window.ofLayout kind layout).row.length = _ at hrow
  change (Window.ofLayout kind layout).col.length = _ at hcol
  rintro ⟨hi, hj⟩
  rw [hrow] at hi
  rw [hcol] at hj
  split_ifs at hi hj with hempty
  · dsimp only at hi hj
    omega
  · exact absurd hi (Nat.not_lt_zero i)

end NativeLayout

/-- Whatever is derived from a view without a position has none, as its places lie among those of
the view. -/
theorem Descendant.not_has {root last : View} (hd : Descendant σ root last)
    (h : ∀ i j, ¬root.window.Has i j) (i j : Nat) : ¬last.window.Has i j := by
  intro hij
  obtain ⟨k, -, ⟨r, c, hrc, -⟩, -⟩ := hd.confined.2 i j hij
  exact h r c hrc

/-- An operation that acquires something carries out the acquisition. -/
theorem Operation.perform_of_acquisition (library : NativeLibrary σ) {w : Workspace σ}
    {op : Operation σ} {a : Acquisition} (ha : op.acquisition w = some a) :
    op.perform library w = silently (a.perform library) w := by
  cases op with
  | create binder kind shape =>
    cases ha
    rfl
  | adopt binder kind shape pointer owns =>
    cases ha
    rfl
  | bind binder request parent =>
    rcases bind_acquires library w binder request parent with ⟨hn, -⟩ | ⟨b, hb, hp⟩
    · rw [hn] at ha
      contradiction
    · cases hb.symm.trans ha
      exact hp
  | _ => contradiction

namespace History

variable {library : NativeLibrary σ} {h : History σ} {root : View} {matrix : NativeMatrix}
  {layout : NativeLayout}

/-- What becomes of a matrix that reported its layout when an operation acquired it. If a view can
show the layout then one is entered. If not, the operation stops with an overflow, and the views
stay as they are. -/
theorem entry_outcome {op : Operation σ} {e : Acquired} (he : h.entry library op = some e)
    (hl : e.layout = some layout) :
    (layout.Admitted → ∃ root, LiveRoot (h.step library op) root e.matrix layout ∧
      root.id = h.workspace.nextView) ∧
    (¬layout.Admitted → (op.perform library h.workspace).1 = .error .overflow ∧
      (h.step library op).workspace.views = h.workspace.views) := by
  have hacquired : e ∈ (h.step library op).acquired := by
    rw [step, he]
    exact List.mem_cons_self
  obtain ⟨a, ha, hentry⟩ := Option.bind_eq_some_iff.mp he
  obtain ⟨matrix, hmatrix, rfl⟩ := Option.map_eq_some_iff.mp hentry
  have hperform := op.perform_of_acquisition library ha
  have hviews : (h.step library op).workspace = (a.perform library h.workspace).2 := by
    change (op.perform library h.workspace).2 = _
    rw [hperform, (silently_apply _ _).1]
  rcases a.perform_cases library h.workspace with
    ⟨fault, session, hp, hnone, -⟩ | ⟨found, fault, session, hp, hfound, hreason, -⟩ |
      ⟨found, reported, session, hp, hfound, hreported, hadmitted, -⟩
  · rw [hmatrix] at hnone
    contradiction
  · cases hmatrix.symm.trans hfound
    rcases hreason with hfault | ⟨reported, hreported, hrefused, rfl⟩
    · rw [hfault] at hl
      contradiction
    · rw [hreported] at hl
      cases hl
      refine ⟨fun hadmitted => absurd hadmitted hrefused, fun _ => ⟨?_, ?_⟩⟩
      · rw [hperform, silently, bind_error hp]
      · rw [hviews, hp]
  · cases hmatrix.symm.trans hfound
    rw [hreported] at hl
    cases hl
    have hok : (op.perform library h.workspace).1.isOk = true := by
      rw [hperform, (silently_apply _ _).2, hp]
      rfl
    have hmem : a.view h.workspace matrix layout ∈ (h.step library op).workspace.views := by
      rw [hviews, hp]
      exact List.mem_append_right _ (List.mem_singleton.mpr rfl)
    refine ⟨fun _ => ⟨a.view h.workspace matrix layout,
      ⟨hmem, rfl, _, hacquired, if_pos hok, ?_, rfl, ?_⟩, rfl⟩,
      fun hrefused => absurd hadmitted hrefused⟩
    · dsimp only
      rw [if_pos hok]
      rfl
    · dsimp only
      rw [hreported]
      rfl

/-- A view of a matrix that reported a null pointer for its storage has the reported extents if one
of them is zero and no extent else, and it is blank like all that is derived from it. Where a matrix
reports that when it is acquired, its view is entered if a machine word counts the elements that the
extents leave room for. If not, the operation stops with an overflow, and there is no view. -/
theorem blank_without_storage (hr : h.Reachable library) :
    (∀ (root : View) (matrix : NativeMatrix) (layout : NativeLayout),
      LiveRoot h root matrix layout → layout.data = 0 →
        root.window.extents =
          (if layout.rows = 0 ∨ layout.cols = 0 then (layout.rows, layout.cols) else (0, 0)) ∧
        ∀ last, Descendant σ root last → Blank σ last) ∧
    ∀ (op : Operation σ) (e : Acquired) (layout : NativeLayout),
      h.entry library op = some e → e.layout = some layout → layout.data = 0 →
        (layout.rows * layout.cols < wordModulus →
          ∃ root, LiveRoot (h.step library op) root e.matrix layout ∧
            root.id = h.workspace.nextView) ∧
        (wordModulus ≤ layout.rows * layout.cols →
          (op.perform library h.workspace).1 = .error .overflow ∧
            (h.step library op).workspace.views = h.workspace.views) := by
  constructor
  · intro root matrix layout hroot hdata
    rw [hroot.window library hr]
    refine ⟨NativeLayout.ofLayout_extents hdata root.kind, fun last hd => ?_⟩
    refine .of_not_has (hd.not_has ?_)
    rw [hroot.window library hr]
    exact NativeLayout.not_has_ofLayout hdata root.kind
  · intro op e layout he hl hdata
    obtain ⟨hentered, hrefused⟩ := entry_outcome he hl
    refine ⟨fun hcounted => hentered fun _ => hcounted, fun hmany => hrefused fun hadmitted => ?_⟩
    exact Nat.not_lt.mpr hmany (hadmitted hdata)

/-- A library whose matrices report the given extents and no storage. -/
def vacant (rows cols : Int) : NativeLibrary (Nat × Bool) :=
  { shelf 0 with
    measure := fun _ which _ _ s =>
      (match which with | .rows => rows | .cols => cols | .rowStride | .colStride => 1, s)
    data := fun _ _ _ s => (0, s) }

/-- A matrix of three rows and no column is shown with these extents, and its transpose as well, and
nothing can be read from either. Of one with five columns there is a view as well. -/
theorem blank_without_columns :
    let h := (start (0, false)).run (vacant 3 0)
      [.create (shelfBinder {}) .double (.fixed 2 2 .double)]
    let root : View := ⟨1, .fixed 2 2 .double, some 0, none, true, none, false, (3, 0),
      .hollow .double 3 0⟩
    let last : View := ⟨2, .fixed 2 2 .double, some 0, none, false, some 1, true, (3, 0),
      .hollow .double 0 3⟩
    let matrix : NativeMatrix :=
      ⟨⟨0⟩, true, (Shape.fixed 2 2 .double).family, (shelfBinder {}).source⟩
    (root ∈ h.workspace.views ∧ root.window.extents = (3, 0) ∧
      Blank (Nat × Bool) root ∧ Blank (Nat × Bool) last) ∧
    ∃ view, LiveRoot ((start (0, false)).step (vacant 3 5)
      (.create (shelfBinder {}) .double (.fixed 2 2 .double))) view matrix ⟨3, 5, 1, 1, 0⟩ ∧
        view.id = 1 := by
  intro h root last matrix
  have hmem : root ∈ h.workspace.views := by decide +kernel
  have hroot : LiveRoot h root matrix ⟨3, 0, 1, 1, 0⟩ :=
    ⟨hmem, rfl, _, List.mem_cons_self, rfl, rfl, rfl, rfl⟩
  have hturned : (ViewAction.derive root Window.transpose h.workspace).1 = .ok 2 ∧
      (ViewAction.derive root Window.transpose h.workspace).2.views =
        h.workspace.views ++ [last] := by
    decide +kernel
  have hlast : Descendant (Nat × Bool) root last :=
    .derive .root h.workspace Window.transpose hturned.1 hturned.2
  have hr : h.Reachable (vacant 3 0) := ⟨_, _, rfl⟩
  have hstart : (start (0, false)).Reachable (vacant 3 5) := ⟨(0, false), [], rfl⟩
  obtain ⟨hviews, -⟩ := blank_without_storage hr
  obtain ⟨hextents, hblank⟩ := hviews root matrix _ hroot rfl
  obtain ⟨-, hacquired⟩ := blank_without_storage hstart
  obtain ⟨hentered, -⟩ := hacquired (.create (shelfBinder {}) .double (.fixed 2 2 .double))
    ⟨matrix, some 0, true, true, some ⟨3, 5, 1, 1, 0⟩⟩ ⟨3, 5, 1, 1, 0⟩ rfl rfl rfl
  exact ⟨⟨hmem, hextents, hblank root .root, hblank last hlast⟩, hentered (by decide)⟩

/-- A matrix that reports as many rows as columns, the square of either being the word size, and no
storage: the acquisition stops with an overflow, and no view comes of it. -/
theorem overflow_without_storage :
    let library := vacant 4294967296 4294967296
    let h := start (0, false)
    let op := .create (shelfBinder {}) .double (.fixed 2 2 .double)
    (∃ e, h.entry library op = some e ∧ e.layout = some ⟨4294967296, 4294967296, 1, 1, 0⟩) ∧
      (op.perform library h.workspace).1 = .error .overflow ∧
      (h.step library op).workspace.views = [] := by
  intro library h op
  have hstopped : (op.perform library h.workspace).1 = .error .overflow := by decide +kernel
  have hviews : (h.step library op).workspace.views = [] := by decide +kernel
  exact ⟨⟨_, rfl, rfl⟩, hstopped, hviews⟩

end History

end ForeignMatrix
