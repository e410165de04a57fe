import ForeignMatrix.Proofs.Derivation.Positions
import ForeignMatrix.Proofs.Ownership.Effects
import ForeignMatrix.View.Derive

/-!
# Chains of derivations

A chain derives a view from a view, one from that, and so on, each by taking a
rectangle, a row, a column, the transpose, or a cut with steps of either sign.
The index map of the chain is put together from those of its links, the last
one first. Along any chain that succeeds, an element of the last view lies
where the root has the element that the index map names.
-/

namespace ForeignMatrix

variable {σ : Type}

/-- One derivation. -/
inductive Link where
  /-- A rectangle. -/
  | slice (rows cols : Nat × Nat)
  /-- A row. -/
  | row (position : Nat)
  /-- A column. -/
  | column (position : Nat)
  /-- The transpose. -/
  | transpose
  /-- A cut of both axes that a caller makes of the array. -/
  | cut (rows cols : Cut)

namespace Link

/-- Derives a view. -/
def perform (view : View) : Link → ViewAction σ Nat
  | slice rows cols => ViewAction.slice view rows cols
  | row position => ViewAction.row view position
  | column position => ViewAction.column view position
  | transpose => ViewAction.transpose view
  | cut rows cols => ViewAction.derive view fun array => array.slice view.kind rows cols

/-- A cut that a caller makes has to fit; the other derivations are checked. -/
def Fits (extents : Nat × Nat) : Link → Prop
  | cut rows cols => rows.Fits extents.1 ∧ cols.Fits extents.2
  | _ => True

/-- Extents of what is derived from a view of the given extents. -/
def shape (extents : Nat × Nat) : Link → Nat × Nat
  | slice rows cols => (rows.2 - rows.1, cols.2 - cols.1)
  | row _ => (1, extents.2)
  | column _ => (extents.1, 1)
  | transpose => (extents.2, extents.1)
  | cut rows cols => (rows.size extents.1, cols.size extents.2)

/-- Index in a view of the given extents that an index in what is derived from it stands for. -/
def index (extents ij : Nat × Nat) : Link → Nat × Nat
  | slice rows cols => (rows.1 + ij.1, cols.1 + ij.2)
  | row position => (position, ij.2)
  | column position => (ij.1, position)
  | transpose => (ij.2, ij.1)
  | cut rows cols => (rows.nth extents.1 ij.1, cols.nth extents.2 ij.2)

/-- Extents at the end of a chain. -/
def shapeOf (extents : Nat × Nat) : List Link → Nat × Nat
  | [] => extents
  | link :: rest => shapeOf (link.shape extents) rest

/-- Index at the root of a chain that an index at its end stands for. -/
def indexOf (extents ij : Nat × Nat) : List Link → Nat × Nat
  | [] => ij
  | link :: rest => link.index extents (indexOf (link.shape extents) ij rest)

end Link

/-- The links lead from the first view to the last one: each derivation succeeds, in whatever
workspace it is carried out, and enters the view that the next one starts from. -/
inductive Derives (σ : Type) : View → List Link → View → Prop where
  /-- Nothing is derived. -/
  | nil (view : View) : Derives σ view [] view
  /-- A view is derived, and from it the rest. -/
  | cons {view child last : View} {link : Link} {rest : List Link} (w : Workspace σ) {id : Nat}
      (hfits : link.Fits view.window.extents) (hok : (link.perform view w).1 = .ok id)
      (hchild : (link.perform view w).2.views = w.views ++ [child])
      (hrest : Derives σ child rest last) : Derives σ view (link :: rest) last

/-! ### Windows onto the elements of another -/

/-- The elements of a window can be stored: none lies at null. -/
def Window.Storable (kind : ElementKind) (w : Window) : Prop :=
  ∀ i j, i < w.row.length → j < w.col.length → w.addressOf kind i j ≠ 0

/-- A window shows elements of a root window: every index within the extents stands for one of
the root, at the same address. -/
structure Shows (kind : ElementKind) (root w : Window) (source : Nat × Nat → Nat × Nat) :
    Prop where
  /-- Indices stand for indices of the root. -/
  inside : ∀ i j, i < w.row.length → j < w.col.length →
    (source (i, j)).1 < root.row.length ∧ (source (i, j)).2 < root.col.length
  /-- Elements lie where those of the root lie. -/
  address : ∀ i j, i < w.row.length → j < w.col.length →
    w.addressOf kind i j = root.addressOf kind (source (i, j)).1 (source (i, j)).2

namespace Shows

variable {kind : ElementKind} {root w : Window} {source : Nat × Nat → Nat × Nat}

theorem refl : Shows kind root root fun ij => ij :=
  ⟨fun _ _ hi hj => ⟨hi, hj⟩, fun _ _ _ _ => rfl⟩

/-- Only the indices within the extents matter. -/
theorem congr (h : Shows kind root w source) {other : Nat × Nat → Nat × Nat}
    (he : ∀ i j, i < w.row.length → j < w.col.length → other (i, j) = source (i, j)) :
    Shows kind root w other := by
  refine ⟨fun i j hi hj => ?_, fun i j hi hj => ?_⟩
  · rw [he i j hi hj]
    exact h.inside i j hi hj
  · rw [he i j hi hj]
    exact h.address i j hi hj

/-- Wrapping an array that shows elements of a root keeps what it shows. An array without elements
may move, but then it shows none. -/
theorem wrap (hs : root.Storable kind) (h : Shows kind root w source) :
    Shows kind root (.ofArray kind w) source := by
  obtain ⟨hrow, hcol⟩ := Window.lengths_of_extents (Window.ofArray_extents kind w)
  refine ⟨fun i j hi hj => ?_, fun i j hi hj => ?_⟩
  · rw [hrow] at hi
    rw [hcol] at hj
    exact h.inside i j hi hj
  · rw [hrow] at hi
    rw [hcol] at hj
    have hzero : w.address ≠ 0 := by
      obtain ⟨hr, hc⟩ := h.inside 0 0 (by omega) (by omega)
      rw [← Window.addressOf_zero kind, h.address 0 0 (by omega) (by omega)]
      exact hs _ _ hr hc
    rw [Window.ofArray_eq hzero (by omega) (by omega)]
    exact h.address i j hi hj

/-- Cutting a window composes what it shows with the positions of the cuts. -/
theorem slice (h : Shows kind root w source) {rows cols : Cut} (hr : rows.Fits w.row.length)
    (hc : cols.Fits w.col.length) :
    Shows kind root (w.slice kind rows cols) fun ij =>
      source (rows.nth w.row.length ij.1, cols.nth w.col.length ij.2) := by
  refine ⟨fun i j hi hj => ?_, fun i j hi hj => ?_⟩
  · exact h.inside _ _ (hr.nth_spec hi).2 (hc.nth_spec hj).2
  · rw [Window.slice_addressOf hr hc hi hj]
    exact h.address _ _ (hr.nth_spec hi).2 (hc.nth_spec hj).2

/-- Transposing a window exchanges the indices of what it shows. -/
theorem transpose (h : Shows kind root w source) :
    Shows kind root w.transpose fun ij => source (ij.2, ij.1) := by
  refine ⟨fun i j hi hj => h.inside j i hj hi, fun i j hi hj => ?_⟩
  rw [Window.transpose_addressOf]
  exact h.address j i hj hi

/-- The array behind a window shows what the window shows. -/
theorem rawArray (h : Shows kind root w source) : Shows kind root (w.rawArray kind) source := by
  obtain ⟨hrow, hcol⟩ := Window.lengths_of_extents (Window.rawArray_extents kind w)
  refine ⟨fun i j hi hj => ?_, fun i j hi hj => ?_⟩
  · rw [hrow] at hi
    rw [hcol] at hj
    exact h.inside i j hi hj
  · rw [hrow] at hi
    rw [hcol] at hj
    rw [Window.rawArray_eq (by omega) (by omega)]
    exact h.address i j hi hj

end Shows

/-! ### What a chain enters -/

namespace ViewAction

variable {view child : View} {w : Workspace σ} {id : Nat}

/-- A derivation that succeeds enters the view of the wrapped array. -/
theorem derive_ok {transform : Window → Window} (hok : (derive view transform w).1 = .ok id)
    (hchild : (derive view transform w).2.views = w.views ++ [child]) :
    child = view.child w.nextView
      (.ofArray view.kind (transform (view.window.rawArray view.kind))) := by
  rcases derive_cases view transform w with ⟨fault, he⟩ | ⟨-, session, -, he⟩
  · rw [he] at hok
    contradiction
  · rw [he] at hchild
    have hlast := List.append_cancel_left hchild
    exact (List.singleton_inj.mp hlast).symm

/-- What follows a check that is passed decides the outcome. -/
theorem checked_ok {α β : Type} {result : Except Fault α} {action : α → ViewAction σ β} {b : β}
    (hok : ((checked result >>= action) w).1 = .ok b) :
    ∃ a, result = .ok a ∧ (checked result >>= action) w = action a w := by
  cases result with
  | error fault => contradiction
  | ok a => exact ⟨a, rfl, rfl⟩

end ViewAction

/-- A range that passes the check runs forwards and stays inside. -/
theorem checkRange_ok {axis : Axis} {start stop bound : Nat} {u : Unit}
    (h : checkRange axis start stop bound = .ok u) : start ≤ stop ∧ stop ≤ bound := by
  unfold checkRange at h
  split_ifs at h
  omega

section Entering

variable {view child last : View} {w : Workspace σ} {id : Nat} {root : Window}
  {source : Nat × Nat → Nat × Nat}

/-- What a derivation leaves as it is, and what its window shows. -/
structure Continues (root : Window) (view child : View) (extents : Nat × Nat)
    (source : Nat × Nat → Nat × Nat) : Prop where
  /-- The shape asked for is that of the source. -/
  shape : child.shape = view.shape
  /-- The matrix is that of the source. -/
  handle : child.handle = view.handle
  /-- The extents. -/
  extents : child.window.extents = extents
  /-- The elements. -/
  shows : Shows view.kind root child.window source

/-- A view derived by cuts that fit shows what the cuts take. -/
theorem derive_cut (hs : root.Storable view.kind) (h : Shows view.kind root view.window source)
    {rows cols : Cut} (hr : rows.Fits view.window.row.length)
    (hc : cols.Fits view.window.col.length)
    (hok : (ViewAction.derive view (fun array => array.slice view.kind rows cols) w).1 = .ok id)
    (hchild : (ViewAction.derive view (fun array => array.slice view.kind rows cols) w).2.views =
      w.views ++ [child]) :
    child.derived = true ∧ Continues root view child
      (rows.size view.window.row.length, cols.size view.window.col.length) fun ij =>
        source (rows.nth view.window.row.length ij.1, cols.nth view.window.col.length ij.2) := by
  obtain ⟨hrow, hcol⟩ :=
    Window.lengths_of_extents (Window.rawArray_extents view.kind view.window)
  rw [ViewAction.derive_ok hok hchild]
  have hraw := h.rawArray
  rw [← hrow] at hr
  rw [← hcol] at hc
  have hcut := (hraw.slice hr hc).wrap hs
  rw [hrow, hcol] at hcut
  refine ⟨rfl, rfl, rfl, ?_, hcut⟩
  change (Window.ofArray view.kind _).extents = _
  rw [Window.ofArray_extents]
  change (rows.size (view.window.rawArray view.kind).row.length,
    cols.size (view.window.rawArray view.kind).col.length) = _
  rw [hrow, hcol]

/-- A rectangle that is derived lies inside the source, and is a cut by plain ranges. -/
theorem slice_ok {rows cols : Nat × Nat} (hok : (ViewAction.slice view rows cols w).1 = .ok id) :
    (rows.1 ≤ rows.2 ∧ rows.2 ≤ view.window.row.length) ∧
      (cols.1 ≤ cols.2 ∧ cols.2 ≤ view.window.col.length) ∧
      ViewAction.slice view rows cols w = ViewAction.derive view (fun array =>
        array.slice view.kind (.range rows.1 rows.2) (.range cols.1 cols.2)) w := by
  unfold ViewAction.slice at hok ⊢
  obtain ⟨_, hr, he⟩ := ViewAction.checked_ok hok
  rw [he] at hok ⊢
  obtain ⟨_, hc, he⟩ := ViewAction.checked_ok hok
  exact ⟨checkRange_ok hr, checkRange_ok hc, he⟩

/-- A derived rectangle shows what its ranges take. -/
theorem derive_slice (hs : root.Storable view.kind) (h : Shows view.kind root view.window source)
    {rows cols : Nat × Nat} (hok : (ViewAction.slice view rows cols w).1 = .ok id)
    (hchild : (ViewAction.slice view rows cols w).2.views = w.views ++ [child]) :
    child.derived = true ∧ Continues root view child (rows.2 - rows.1, cols.2 - cols.1) fun ij =>
      source (rows.1 + ij.1, cols.1 + ij.2) := by
  obtain ⟨hr, hc, he⟩ := slice_ok hok
  rw [he] at hok hchild
  obtain ⟨hsr, hnr⟩ := Cut.range_spec view.window.row.length rows.1 rows.2
  obtain ⟨hsc, hnc⟩ := Cut.range_spec view.window.col.length cols.1 cols.2
  obtain ⟨hderived, hcut⟩ := derive_cut hs h (Cut.range_fits hr.1 hr.2)
    (Cut.range_fits hc.1 hc.2) hok hchild
  rw [hsr, hsc] at hcut
  obtain ⟨hrow, hcol⟩ := Prod.ext_iff.mp hcut.extents
  change child.window.row.length = _ at hrow
  change child.window.col.length = _ at hcol
  refine ⟨hderived, hcut.shape, hcut.handle, hcut.extents, hcut.shows.congr fun i j hi hj => ?_⟩
  rw [hnr i (by omega), hnc j (by omega)]

/-- A link that succeeds continues what its source shows. -/
theorem Link.continues (hs : root.Storable view.kind)
    (h : Shows view.kind root view.window source) {link : Link}
    (hfits : link.Fits view.window.extents) (hok : (link.perform view w).1 = .ok id)
    (hchild : (link.perform view w).2.views = w.views ++ [child]) :
    child.derived = true ∧ Continues root view child (link.shape view.window.extents) fun ij =>
      source (link.index view.window.extents ij) := by
  cases link with
  | slice rows cols => exact derive_slice hs h hok hchild
  | row position =>
    change (ViewAction.row view position w).1 = .ok id at hok
    change (ViewAction.row view position w).2.views = w.views ++ [child] at hchild
    unfold ViewAction.row at hok hchild
    obtain ⟨_, -, he⟩ := ViewAction.checked_ok hok
    rw [he] at hok hchild
    obtain ⟨hderived, hcut⟩ := derive_slice hs h hok hchild
    have hone : position + 1 - position = 1 := by omega
    rw [hone, Nat.sub_zero] at hcut
    refine ⟨hderived, hcut.shape, hcut.handle, hcut.extents, hcut.shows.congr fun i j hi hj => ?_⟩
    have hrow : child.window.row.length = 1 := congrArg Prod.fst hcut.extents
    have hzero : i = 0 := by omega
    rw [hzero, Nat.add_zero, Nat.zero_add]
    rfl
  | column position =>
    change (ViewAction.column view position w).1 = .ok id at hok
    change (ViewAction.column view position w).2.views = w.views ++ [child] at hchild
    unfold ViewAction.column at hok hchild
    obtain ⟨_, -, he⟩ := ViewAction.checked_ok hok
    rw [he] at hok hchild
    obtain ⟨hderived, hcut⟩ := derive_slice hs h hok hchild
    have hone : position + 1 - position = 1 := by omega
    rw [hone, Nat.sub_zero] at hcut
    refine ⟨hderived, hcut.shape, hcut.handle, hcut.extents, hcut.shows.congr fun i j hi hj => ?_⟩
    have hcol : child.window.col.length = 1 := congrArg Prod.snd hcut.extents
    have hzero : j = 0 := by omega
    rw [hzero, Nat.add_zero, Nat.zero_add]
    rfl
  | transpose =>
    rw [ViewAction.derive_ok hok hchild]
    refine ⟨rfl, rfl, rfl, ?_, h.rawArray.transpose.wrap hs⟩
    change (Window.ofArray view.kind _).extents = _
    rw [Window.ofArray_extents]
    change (view.window.rawArray view.kind).extents.swap = _
    rw [Window.rawArray_extents]
    rfl
  | cut rows cols => exact derive_cut hs h hfits.1 hfits.2 hok hchild

/-- The last view of a chain shows what the index map of the chain names. -/
theorem Derives.continues {links : List Link} (hd : Derives σ view links last)
    (hs : root.Storable view.kind) (h : Shows view.kind root view.window source) :
    (links ≠ [] → last.derived = true) ∧
      Continues root view last (Link.shapeOf view.window.extents links) fun ij =>
        source (Link.indexOf view.window.extents ij links) := by
  induction hd generalizing source with
  | nil view => exact ⟨fun hn => absurd rfl hn, rfl, rfl, rfl, h⟩
  | @cons view child last link rest w id hfits hok hchild hrest ih =>
    obtain ⟨hderived, hfirst⟩ := link.continues hs h hfits hok hchild
    have hkind : child.kind = view.kind := congrArg Shape.kind hfirst.shape
    obtain ⟨hlater, hlast⟩ := ih (hkind ▸ hs) (hkind ▸ hfirst.shows)
    rw [hfirst.extents] at hlast
    refine ⟨fun _ => ?_, hlast.shape.trans hfirst.shape, hlast.handle.trans hfirst.handle,
      hlast.extents, hkind ▸ hlast.shows⟩
    cases hrest with
    | nil => exact hderived
    | cons => exact hlater (List.cons_ne_nil _ _)

end Entering

end ForeignMatrix
