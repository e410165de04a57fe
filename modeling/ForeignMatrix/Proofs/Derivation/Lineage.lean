import ForeignMatrix.Proofs.Derivation.Confinement

/-!
# Where the views of a history come from

A view of a history was acquired, was derived from another, or gave up what it
had. What an acquired view takes from the layout that its matrix reported is
handed on by derivations: the extents of the matrix itself, and the window that
all elements stay inside. Only the window of the view changes. A view without a
matrix shows no element.
-/

namespace ForeignMatrix

open Actions

variable {σ : Type} (library : NativeLibrary σ)

/-! ### Derivations and their arrays -/

namespace Window

variable {kind : ElementKind}

/-- Indices within a window that shows a layout are within the reported extents. -/
theorem inside_ofLayout {layout : NativeLayout} {row col : Int}
    (hi : Inside (ofLayout kind layout).extents row col) :
    Inside (layout.rows, layout.cols) row col := by
  unfold ofLayout at hi
  split_ifs at hi
  · exact hi
  · exact hi
  · obtain ⟨⟨hr, hr'⟩, -⟩ := hi
    exact absurd hr' (Int.not_lt.mpr hr)

end Window

/-- Where the action succeeds it derives a view through some transformation. -/
def Transforms (view : View) (action : ViewAction σ Nat) : Prop :=
  ∀ w id, (action w).1 = .ok id → ∃ transform : Window → Window,
    action w = ViewAction.derive view transform w

namespace ViewAction

variable {view : View}

theorem derive_transforms {transform : Window → Window} :
    Transforms view (derive view transform : ViewAction σ Nat) :=
  fun _ _ _ => ⟨transform, rfl⟩

theorem deriveAs_transforms {kind : ElementKind} {transform : Window → Window} :
    Transforms view (deriveAs kind view transform : ViewAction σ Nat) := by
  unfold deriveAs
  split_ifs
  · exact derive_transforms
  · intro w id hok
    contradiction

/-- A check in front leaves what is derived as it is. -/
theorem checked_transforms {α : Type} {result : Except Fault α} {action : α → ViewAction σ Nat}
    (h : ∀ a, Transforms view (action a)) :
    Transforms view (checked result >>= action) := by
  intro w id hok
  obtain ⟨a, -, he⟩ := checked_ok hok
  rw [he] at hok ⊢
  exact h a w id hok

theorem slice_transforms {rows cols : Nat × Nat} :
    Transforms view (slice view rows cols : ViewAction σ Nat) :=
  checked_transforms fun _ => checked_transforms fun _ => derive_transforms

theorem row_transforms {position : Nat} :
    Transforms view (row view position : ViewAction σ Nat) :=
  checked_transforms fun _ => slice_transforms

theorem column_transforms {position : Nat} :
    Transforms view (column view position : ViewAction σ Nat) :=
  checked_transforms fun _ => slice_transforms

theorem transpose_transforms : Transforms view (transpose view : ViewAction σ Nat) :=
  derive_transforms

end ViewAction

/-! ### Views after an operation -/

/-- How a view that is there after an operation has come about. -/
inductive Arises (h : History σ) (op : Operation σ) : View → Prop where
  /-- It was there before. -/
  | kept {view : View} (hm : view ∈ h.workspace.views) : Arises h op view
  /-- It gave up what it had. -/
  | emptied {view : View} (hm : view ∈ h.workspace.views) : Arises h op view.emptied
  /-- It was derived from a live view that covers it, from an array of elements that can be
  counted. -/
  | derived {view : View} (hm : view ∈ h.workspace.views) (hlive : view.handle.isSome = true)
      (array : Window) (hcounted : array.Counted)
      (hcover : view.window.covers view.kind (.ofArray view.kind array) = true) :
      Arises h op (view.child h.workspace.nextView (.ofArray view.kind array))
  /-- It was acquired, with the layout that its matrix reported. -/
  | acquired (a : Acquisition) (matrix : NativeMatrix) (layout : NativeLayout)
      (constructed fresh : Bool)
      (he : (h.step library op).acquired =
        ⟨matrix, some h.workspace.nextMatrix, constructed, fresh, some layout⟩ :: h.acquired) :
      Arises h op (a.view h.workspace matrix layout)

namespace History

variable {h : History σ} {op : Operation σ}

/-- An operation that derives enters at most the derived view. -/
theorem arises_of_transforms {id : Nat} {action : View → ViewAction σ Nat}
    (hp : op.perform library = withView id fun view => silently (action view))
    (hd : ∀ view, DerivesFrom library view (action view))
    (ht : ∀ view, Transforms view (action view)) :
    ∀ view ∈ (h.step library op).workspace.views, Arises library h op view := by
  intro view hview
  change view ∈ (op.perform library h.workspace).2.views at hview
  rw [hp] at hview
  rcases withView_apply id (fun view => silently (action view)) h.workspace with
    ⟨hw, -⟩ | ⟨source, hsource, hw⟩ <;> rw [hw] at hview
  · exact .kept hview
  rw [(silently_apply _ _).1] at hview
  rcases hd source h.workspace with ⟨fault, he⟩ | ⟨window, session, -, he⟩
  · rw [he] at hview
    exact .kept hview
  obtain ⟨transform, htransform⟩ := ht source h.workspace _ (by rw [he])
  rw [htransform] at hview
  rcases ViewAction.derive_cases source transform h.workspace with
    ⟨fault, hx⟩ | ⟨hadmits, session, -, hx⟩ <;> rw [hx] at hview
  · exact .kept hview
  rcases List.mem_append.mp hview with hold | hnew
  · exact .kept hold
  · rw [List.mem_singleton.mp hnew]
    exact .derived (Tidy.view?_some hsource).1 hadmits.isSome_handle _ hadmits.counted
      hadmits.covered

/-- An operation that acquires enters at most the acquired view. -/
theorem arises_of_acquires (ht : Tidy h.workspace []) (hq : Acquires library h.workspace op) :
    ∀ view ∈ (h.step library op).workspace.views, Arises library h op view := by
  intro view hview
  by_cases hid : view.id = h.workspace.nextView
  · obtain ⟨a, matrix, layout, session, -, -, rfl, -, he⟩ :=
      entered_of_view library ht hq hview hid
    exact .acquired a matrix layout _ _ he
  change view ∈ (op.perform library h.workspace).2.views at hview
  rcases hq with ⟨-, hp⟩ | ⟨a, -, hp⟩
  · rw [hp] at hview
    exact .kept hview
  rw [hp, (silently_apply _ _).1] at hview
  rcases a.perform_cases library h.workspace with
    ⟨fault, session, he, -, -⟩ | ⟨matrix, fault, session, he, -, -, -⟩ |
      ⟨matrix, layout, session, he, -, -, -⟩ <;> rw [he] at hview
  · exact .kept hview
  · exact .kept hview
  · refine .kept ((List.mem_append.mp hview).resolve_right fun hnew => hid ?_)
    rw [List.mem_singleton.mp hnew]
    rfl

/-- An operation that only reads or writes keeps the views. -/
theorem arises_of_moves {id : Nat} {action : View → ViewAction σ Unit}
    (hp : op.perform library = withView id action)
    (hm : ∀ view, Moves (Steady library) (action view)) :
    ∀ view ∈ (h.step library op).workspace.views, Arises library h op view := by
  intro view hview
  change view ∈ (op.perform library h.workspace).2.views at hview
  rw [hp] at hview
  rcases withView_apply id action h.workspace with ⟨hw, -⟩ | ⟨source, -, hw⟩ <;> rw [hw] at hview
  · exact .kept hview
  · obtain ⟨session, -, he⟩ := hm source h.workspace
    rw [he] at hview
    exact .kept hview

/-- The views of a cleared workspace are known. -/
theorem arises_of_clears {views : List View} {outside : List Nat}
    (hc : Clears library h.workspace (h.step library op).workspace views outside)
    (hv : ∀ view ∈ views, Arises library h op view) :
    ∀ view ∈ (h.step library op).workspace.views, Arises library h op view := by
  rw [hc.views]
  exact hv

/-- Every view after an operation has come about in one of the four ways. -/
theorem step_arises (ht : Tidy h.workspace []) (op : Operation σ) :
    ∀ view ∈ (h.step library op).workspace.views, Arises library h op view := by
  cases op with
  | create binder kind shape => exact arises_of_acquires library ht (.inr ⟨_, rfl, rfl⟩)
  | adopt binder kind shape pointer owns =>
    exact arises_of_acquires library ht (.inr ⟨_, rfl, rfl⟩)
  | bind binder request parent =>
    exact arises_of_acquires library ht (bind_acquires library h.workspace binder request parent)
  | derive id transform =>
    exact arises_of_transforms library rfl
      (fun view => ViewAction.derive_derivesFrom library view _)
      fun _ => ViewAction.derive_transforms
  | deriveAs kind id transform =>
    exact arises_of_transforms library rfl
      (fun view => ViewAction.deriveAs_derivesFrom library kind view _)
      fun _ => ViewAction.deriveAs_transforms
  | slice id rows cols =>
    exact arises_of_transforms library rfl
      (fun view => ViewAction.slice_derivesFrom library view _ _)
      fun _ => ViewAction.slice_transforms
  | row id position =>
    exact arises_of_transforms library rfl
      (fun view => ViewAction.row_derivesFrom library view _) fun _ => ViewAction.row_transforms
  | column id position =>
    exact arises_of_transforms library rfl
      (fun view => ViewAction.column_derivesFrom library view _)
      fun _ => ViewAction.column_transforms
  | transpose id =>
    exact arises_of_transforms library rfl
      (fun view => ViewAction.transpose_derivesFrom library view)
      fun _ => ViewAction.transpose_transforms
  | read id i j =>
    exact arises_of_moves library rfl fun view =>
      silently_steady library (ViewAction.read_steady library view i j)
  | write id i j value =>
    exact arises_of_moves library rfl fun view =>
      ViewAction.write_steady library view i j value
  | readBase id i j =>
    exact arises_of_moves library rfl fun view =>
      silently_steady library (ViewAction.readBase_steady library view i j)
  | toArray id =>
    exact arises_of_moves library rfl fun view =>
      silently_steady library (ViewAction.toArray_steady library view)
  | fill id value =>
    exact arises_of_moves library rfl fun view => ViewAction.fill_steady library view _
  | finalize id =>
    refine arises_of_clears library (ViewAction.finalize_clears library ht id) fun view hview => ?_
    obtain ⟨old, hold, rfl⟩ := List.mem_map.mp hview
    split_ifs with hid
    · rw [View.finalized]
      split_ifs
      · exact .emptied hold
      · exact .kept hold
    · exact .kept hold
  | drop id =>
    exact arises_of_clears library (ViewAction.drop_clears library ht id) fun view hview =>
      .kept (List.mem_filter.mp hview).1
  | takeHandle id =>
    intro view hview
    change view ∈ (withView id _ h.workspace).2.views at hview
    rcases withView_apply id (fun view => silently (ViewAction.takeHandle view)) h.workspace with
      ⟨hw, -⟩ | ⟨source, hv, hw⟩ <;> rw [hw] at hview
    · exact .kept hview
    · rw [(silently_apply _ _).1,
        (ViewAction.takeHandle_clears library ht (Tidy.view?_some hv).1).views] at hview
      exact .kept hview
  | dropHandle matrix =>
    exact arises_of_clears library (ViewAction.dropHandle_clears library ht matrix) fun _ => .kept
  | outside change => exact fun view hview => .kept hview

/-- A matrix that an operation acquires has the next number or none. -/
theorem entry_number {e : Acquired} (he : e ∈ h.entry library op) :
    e.number = none ∨ e.number = some h.workspace.nextMatrix := by
  obtain ⟨a, -, ha⟩ := Option.bind_eq_some_iff.mp he
  obtain ⟨matrix, -, rfl⟩ := Option.map_eq_some_iff.mp ha
  dsimp only
  split_ifs
  · exact .inr rfl
  · exact .inl rfl

end History

/-! ### What is handed on -/

/-- What a view has from the layout that its matrix reported when it was acquired. -/
structure Inherits (view : View) (layout : NativeLayout) : Prop where
  /-- The extents of the matrix itself are the reported ones. -/
  base : view.base = (layout.rows, layout.cols)
  /-- An acquired view shows the reported window. -/
  whole : view.derived = false → view.window = .ofLayout view.kind layout
  /-- The elements of the view can be counted if those of the acquired view can. -/
  counted : (Window.ofLayout view.kind layout).Counted → view.window.Counted
  /-- The elements of the view are inside the window of the acquired one. -/
  confined : (Window.ofLayout view.kind layout).Confines view.kind view.window

namespace Inherits

variable {view : View} {layout : NativeLayout}

/-- A view takes all of it from the layout it is acquired with. -/
theorem acquired (a : Acquisition) (w : Workspace σ) (matrix : NativeMatrix) :
    Inherits (a.view w matrix layout) layout :=
  ⟨rfl, fun _ => rfl, id, .refl⟩

/-- A derivation hands it on. -/
theorem child (hi : Inherits view layout) (id : Nat) {array : Window} (hcounted : array.Counted)
    (hcover : view.window.covers view.kind (.ofArray view.kind array) = true) :
    Inherits (view.child id (.ofArray view.kind array)) layout :=
  ⟨hi.base, nofun, fun _ => hcounted.of_extents (Window.ofArray_extents _ _),
    hi.confined.trans (Window.confines_of_covers hcover)⟩

end Inherits

/-- Every view that refers to a matrix has its base and its window from the layout that the matrix
reported. -/
def Lineage (h : History σ) : Prop :=
  ∀ view ∈ h.workspace.views, ∀ e ∈ h.acquired, e.number = view.handle → e.number.isSome = true →
    ∃ layout, e.layout = some layout ∧ Inherits view layout

namespace Lineage

variable {h : History σ}

/-- Views are kept, emptied, derived or acquired, and none of it breaks the lineage. -/
theorem step (hr : Recorded h) (hx : Lineage h) (op : Operation σ) :
    Lineage (h.step library op) := by
  intro view hview e he hn hs
  have hentry := List.mem_append.mp he
  rw [Option.mem_toList] at hentry
  -- The number of a new matrix is none that an earlier view refers to.
  have hold : ∀ source ∈ h.workspace.views, source.handle = view.handle → e ∈ h.acquired := by
    intro source hsource hh
    refine hentry.resolve_left fun hnew => ?_
    obtain ⟨number, hnumber⟩ := Option.isSome_iff_exists.mp hs
    have hlt := (hr.tidy.handle_held hsource (hh.trans (hn.symm.trans hnumber))).1
    rcases History.entry_number library hnew with hnone | hnext
    · rw [hnone] at hnumber
      contradiction
    · cases hnext.symm.trans hnumber
      omega
  rcases History.step_arises library hr.tidy op view hview with
    hm | hm | ⟨hm, -, array, hcounted, hcover⟩ | ⟨a, matrix, layout, constructed, fresh, hacquired⟩
  · exact hx view hm e (hold view hm rfl) hn hs
  · rw [hn] at hs
    contradiction
  · obtain ⟨layout, hl, hi⟩ := hx _ hm e (hold _ hm rfl) hn hs
    exact ⟨layout, hl, hi.child _ hcounted hcover⟩
  · rw [hacquired] at he
    rcases List.mem_cons.mp he with rfl | he
    · exact ⟨layout, rfl, .acquired a h.workspace matrix⟩
    · have hlt := (hr.numbered e he _ hn).1
      omega

theorem run (hr : Recorded h) (hx : Lineage h) (ops : List (Operation σ)) :
    Lineage (h.run library ops) := by
  induction ops generalizing h with
  | nil => exact hx
  | cons op ops ih => exact ih (hr.step library op) (hx.step library hr op)

theorem start (native : σ) : Lineage (History.start native) :=
  fun _ hm => absurd hm List.not_mem_nil

/-- What a view that is not finalized has from the layout of its matrix. -/
theorem inherits (hx : Lineage h) {view : View} {matrix : NativeMatrix}
    {layout : NativeLayout} (hv : Rests h view matrix layout) : Inherits view layout := by
  obtain ⟨e, he, hn, hs, -, hl⟩ := hv.reported
  obtain ⟨found, hf, hi⟩ := hx view hv.mem e he hn hs
  cases hl.symm.trans hf
  exact hi

end Lineage

namespace History

variable {h : History σ}

/-- The extents and the window of every view of a reachable history come from a reported layout. -/
theorem Reachable.lineage (hr : h.Reachable library) : Lineage h := by
  obtain ⟨native, ops, rfl⟩ := hr
  exact Lineage.run library (.start native) (.start native) ops

/-- Every view that is not finalized rests on a matrix that reported a layout. -/
theorem Reachable.rests (hr : h.Reachable library) {view : View} (hm : view ∈ h.workspace.views)
    (hf : view.isFinalized = false) : ∃ matrix layout, Rests h view matrix layout := by
  obtain ⟨e, he, hn, hs⟩ := hr.recorded.acquired_of_live hm hf
  obtain ⟨layout, hl, -⟩ := hr.lineage library view hm e he hn hs
  exact ⟨e.matrix, layout, hm, e, he, hn, hs, rfl, hl⟩

/-- What is true of views whatever they arise from is true of all views of a reachable history. -/
theorem Reachable.forall_views {P : View → Prop} (hr : h.Reachable library)
    (hp : ∀ (h : History σ) (op : Operation σ) (view : View),
      (∀ old ∈ h.workspace.views, P old) → Arises library h op view → P view) :
    ∀ view ∈ h.workspace.views, P view := by
  have hrun : ∀ (ops : List (Operation σ)) (g : History σ), Recorded g →
      (∀ view ∈ g.workspace.views, P view) →
        ∀ view ∈ (g.run library ops).workspace.views, P view := by
    intro ops
    induction ops with
    | nil => exact fun g _ hg => hg
    | cons op ops ih =>
      intro g hrec hg
      refine ih (g.step library op) (hrec.step library op) fun view hview => ?_
      exact hp g op view hg (step_arises library hrec.tidy op view hview)
  obtain ⟨native, ops, rfl⟩ := hr
  exact hrun ops (start native) (.start native) fun view hm => absurd hm List.not_mem_nil

/-- A finalized view shows no element: it was emptied then, and nothing is derived from it. -/
theorem Reachable.hollow (hr : h.Reachable library) {view : View} (hm : view ∈ h.workspace.views)
    (hf : view.isFinalized = true) : view.window.extents = (0, 0) := by
  revert hf
  refine hr.forall_views library (P := fun view => view.isFinalized = true →
    view.window.extents = (0, 0)) (fun g op view hg ha hf => ?_) view hm
  rcases ha with hold | hold | ⟨hold, hlive, array, hcounted, hcover⟩ |
    ⟨a, matrix, layout, constructed, fresh, hacquired⟩
  · exact hg view hold hf
  · rfl
  · rw [Option.isSome_iff_ne_none] at hlive
    exact absurd (Option.isNone_iff_eq_none.mp hf) hlive
  · contradiction

end History

end ForeignMatrix
