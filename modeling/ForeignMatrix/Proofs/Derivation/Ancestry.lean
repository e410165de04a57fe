import ForeignMatrix.Proofs.Derivation.Lineage

/-!
# Ancestors of views

Every view is entered under the next identity, and what was true of it and of
the view it was made from is written down at that moment. The book of births
outlives the views: the root that a view names was born before it and was a root
itself, also when it is finalized or dropped by now. A derived view stays as it
was born, with the matrix that its source had.
-/

namespace ForeignMatrix

open Actions

variable {σ : Type} (library : NativeLibrary σ)

/-! ### What a view is made from -/

/-- The view that an operation acquires or derives another one under. -/
def Operation.source (w : Workspace σ) : Operation σ → Option View
  | .bind _ _ (some parent) => w.view? parent
  | .derive id _ | .deriveAs _ id _ | .slice id _ _ | .row id _ | .column id _ | .transpose id =>
    w.view? id
  | _ => none

/-- The source of an acquisition is its parent. -/
theorem Operation.source_of_acquisition {w : Workspace σ} {op : Operation σ} {a : Acquisition}
    (ha : op.acquisition w = some a) : a.parent = op.source w := by
  cases op with
  | create binder kind shape => cases ha; rfl
  | adopt binder kind shape pointer owns => cases ha; rfl
  | bind binder request id =>
    cases id with
    | none => exact (Binder.acquisition_some ha).1
    | some id =>
      obtain ⟨view, hv, hr⟩ := Option.bind_eq_some_iff.mp ha
      exact (Binder.acquisition_some hr).1.trans hv.symm
  | _ => contradiction

/-- The source of an operation is a view of the workspace. -/
theorem Operation.source_mem {w : Workspace σ} {op : Operation σ} {view : View}
    (hs : op.source w = some view) : view ∈ w.views := by
  unfold source at hs
  split at hs
  case h_8 => contradiction
  all_goals exact (Tidy.view?_some hs).1

/-- How an operation may come to make a view. -/
inductive Makes (h : History σ) (op : Operation σ) : Prop where
  /-- It acquires one. -/
  | acquires (hq : Acquires library h.workspace op)
  /-- It derives one from its source. -/
  | derives (id : Nat) (action : View → ViewAction σ Nat)
      (hs : op.source h.workspace = h.workspace.view? id)
      (hp : op.perform library = withView id fun view => silently (action view))
      (hd : ∀ view, DerivesFrom library view (action view))
  /-- It makes none. -/
  | keeps (hn : (h.step library op).workspace.nextView = h.workspace.nextView)

namespace History

variable {h : History σ} {op : Operation σ}

/-- An operation that only reads or writes makes no view. -/
theorem makes_of_moves {id : Nat} {action : View → ViewAction σ Unit}
    (hp : op.perform library = withView id action)
    (hm : ∀ view, Moves (Steady library) (action view)) : Makes library h op := by
  refine .keeps ?_
  change (op.perform library h.workspace).2.nextView = _
  rw [hp]
  rcases withView_apply id action h.workspace with ⟨hw, -⟩ | ⟨source, -, hw⟩ <;> rw [hw]
  obtain ⟨session, -, he⟩ := hm source h.workspace
  rw [he]

/-- Every operation acquires, derives or makes no view. -/
theorem step_makes (ht : Tidy h.workspace []) (op : Operation σ) : Makes library h op := by
  cases op with
  | create binder kind shape => exact .acquires (.inr ⟨_, rfl, rfl⟩)
  | adopt binder kind shape pointer owns => exact .acquires (.inr ⟨_, rfl, rfl⟩)
  | bind binder request parent =>
    exact .acquires (bind_acquires library h.workspace binder request parent)
  | derive id transform =>
    exact .derives id _ rfl rfl fun view => ViewAction.derive_derivesFrom library view _
  | deriveAs kind id transform =>
    exact .derives id _ rfl rfl fun view => ViewAction.deriveAs_derivesFrom library kind view _
  | slice id rows cols =>
    exact .derives id _ rfl rfl fun view => ViewAction.slice_derivesFrom library view _ _
  | row id position =>
    exact .derives id _ rfl rfl fun view => ViewAction.row_derivesFrom library view _
  | column id position =>
    exact .derives id _ rfl rfl fun view => ViewAction.column_derivesFrom library view _
  | transpose id =>
    exact .derives id _ rfl rfl fun view => ViewAction.transpose_derivesFrom library view
  | read id i j =>
    exact makes_of_moves library rfl fun view =>
      silently_steady library (ViewAction.read_steady library view i j)
  | write id i j value =>
    exact makes_of_moves library rfl fun view => ViewAction.write_steady library view i j value
  | readBase id i j =>
    exact makes_of_moves library rfl fun view =>
      silently_steady library (ViewAction.readBase_steady library view i j)
  | toArray id =>
    exact makes_of_moves library rfl fun view =>
      silently_steady library (ViewAction.toArray_steady library view)
  | fill id value =>
    exact makes_of_moves library rfl fun view => ViewAction.fill_steady library view _
  | finalize id => exact .keeps (ViewAction.finalize_clears library ht id).nextView
  | drop id => exact .keeps (ViewAction.drop_clears library ht id).nextView
  | takeHandle id =>
    refine .keeps ?_
    change (withView id _ h.workspace).2.nextView = _
    rcases withView_apply id (fun view => silently (ViewAction.takeHandle view)) h.workspace with
      ⟨hw, -⟩ | ⟨source, hv, hw⟩ <;> rw [hw]
    rw [(silently_apply _ _).1,
      (ViewAction.takeHandle_clears library ht (Tidy.view?_some hv).1).nextView]
  | dropHandle matrix => exact .keeps (ViewAction.dropHandle_clears library ht matrix).nextView
  | outside change => exact .keeps rfl

/-- A view with the next identity was acquired under the source of the operation or derived from
it. -/
theorem made_of_view (hr : Recorded h) {view : View}
    (hv : view ∈ (h.step library op).workspace.views) (hid : view.id = h.workspace.nextView) :
    (∃ (a : Acquisition) (matrix : NativeMatrix) (layout : NativeLayout),
      a.parent = op.source h.workspace ∧ view = a.view h.workspace matrix layout) ∨
    ∃ source window session, op.source h.workspace = some source ∧
      view = source.child h.workspace.nextView window ∧
      (h.step library op).workspace = h.workspace.derived source window session := by
  have hold : view ∉ h.workspace.views := fun hm => by
    have hlt := hr.tidy.earlier view hm
    omega
  rcases step_makes library hr.tidy op with hq | ⟨id, action, hs, hp, hd⟩ | hn
  · obtain ⟨a, matrix, layout, session, ha, -, hview, -⟩ :=
      entered_of_view library hr.tidy hq hv hid
    exact .inl ⟨a, matrix, layout, Operation.source_of_acquisition ha, hview⟩
  · right
    have hstep : (h.step library op).workspace = (op.perform library h.workspace).2 := rfl
    rw [hstep, hp] at hv ⊢
    rcases withView_apply id (fun view => silently (action view)) h.workspace with
      ⟨hw, -⟩ | ⟨source, hsource, hw⟩ <;> rw [hw] at hv ⊢
    · exact absurd hv hold
    rw [(silently_apply _ _).1] at hv ⊢
    rcases hd source h.workspace with ⟨fault, he⟩ | ⟨window, session, -, he⟩ <;> rw [he] at hv ⊢
    · exact absurd hv hold
    · refine ⟨source, window, session, hs.trans hsource, ?_, rfl⟩
      exact List.mem_singleton.mp ((List.mem_append.mp hv).resolve_left hold)
  · have hlt := (hr.step library op).tidy.earlier view hv
    omega

/-- A view with the next identity has a matrix. -/
theorem live_of_made (hr : Recorded h) {view : View}
    (hv : view ∈ (h.step library op).workspace.views) (hid : view.id = h.workspace.nextView) :
    ∃ matrix, view.handle.bind (h.step library op).workspace.matrices = some matrix := by
  have hlive : view.handle.isSome = true := by
    rcases step_arises library hr.tidy op view hv with
      hold | hold | ⟨-, hlive, -⟩ | ⟨a, matrix, layout, -⟩
    · have hlt := hr.tidy.earlier _ hold
      omega
    · have hlt := hr.tidy.earlier _ hold
      exact absurd hid (Nat.ne_of_lt hlt)
    · exact hlive
    · rfl
  obtain ⟨number, hn⟩ := Option.isSome_iff_exists.mp hlive
  rw [hn]
  exact ((hr.step library op).tidy.handle_held hv hn).2

/-- A view that an operation leaves was there before, or is an owner that it finalized, or has the
next identity. -/
theorem step_views (ht : Tidy h.workspace []) {view : View}
    (hv : view ∈ (h.step library op).workspace.views) :
    view.id = h.workspace.nextView ∨ view ∈ h.workspace.views ∨
      ∃ old ∈ h.workspace.views, old.owns = true ∧ view = old.emptied := by
  have he := step_effect library ht op
  generalize (h.step library op).workspace = v at he hv
  generalize h.entry library op = entry at he
  cases he with
  | steady hs =>
    obtain ⟨session, -, rfl⟩ := hs
    exact .inr (.inl hv)
  | derived source hsource window session hq =>
    rcases List.mem_append.mp hv with hm | hm
    · exact .inr (.inl hm)
    · rw [List.mem_singleton.mp hm]
      exact .inl rfl
  | finalized id hc =>
    rw [hc.views] at hv
    obtain ⟨old, hold, rfl⟩ := List.mem_map.mp hv
    split_ifs with hid
    · rw [View.finalized]
      split_ifs with howner
      · exact .inr (.inr ⟨old, hold, howner.1, rfl⟩)
      · exact .inr (.inl hold)
    · exact .inr (.inl hold)
  | dropped id hc =>
    rw [hc.views] at hv
    exact .inr (.inl (List.mem_filter.mp hv).1)
  | taken source hsource hc =>
    rw [hc.views] at hv
    exact .inr (.inl hv)
  | returned matrix hc =>
    rw [hc.views] at hv
    exact .inr (.inl hv)
  | abandoned a ha matrix hx session hd => exact .inr (.inl hv)
  | entered a ha matrix hx layout hl session hq =>
    rcases List.mem_append.mp hv with hm | hm
    · exact .inr (.inl hm)
    · rw [List.mem_singleton.mp hm]
      exact .inl rfl

/-- A view that stays keeps its matrix. -/
theorem step_matrix (hr : Recorded h) {view : View} (hm : view ∈ h.workspace.views)
    (hv : view ∈ (h.step library op).workspace.views) :
    view.handle.bind (h.step library op).workspace.matrices =
      view.handle.bind h.workspace.matrices := by
  cases hh : view.handle with
  | none => rfl
  | some number =>
    obtain ⟨hlt, -⟩ := hr.tidy.handle_held hm hh
    obtain ⟨-, found, hfound⟩ := (hr.step library op).tidy.handle_held hv hh
    rw [Option.bind_some, Option.bind_some]
    rcases (step_effect library hr.tidy op).outcome library with
      ⟨hmatrices, -, -⟩ | ⟨a, matrix, layout, session, -, he⟩
    · refine (hmatrices number).resolve_left fun hnone => ?_
      rw [hnone] at hfound
      contradiction
    · rw [he]
      exact if_neg (by omega)

/-- Identities are only ever given out. -/
theorem step_nextView (ht : Tidy h.workspace []) (op : Operation σ) :
    h.workspace.nextView ≤ (h.step library op).workspace.nextView := by
  have he := step_effect library ht op
  generalize (h.step library op).workspace = v at he ⊢
  generalize h.entry library op = entry at he
  cases he with
  | steady hs =>
    obtain ⟨session, -, rfl⟩ := hs
    exact le_rfl
  | derived source hsource window session hq => exact Nat.le_succ _
  | finalized id hc => exact hc.nextView.ge
  | dropped id hc => exact hc.nextView.ge
  | taken source hsource hc => exact hc.nextView.ge
  | returned matrix hc => exact hc.nextView.ge
  | abandoned a ha matrix hx session hd => exact le_rfl
  | entered a ha matrix hx layout hl session hq => exact Nat.le_succ _

end History

/-! ### Births -/

/-- What was true of a view at the moment it was made. -/
structure Birth where
  /-- The view as it was made. -/
  view : View
  /-- Matrix under its handle. -/
  matrix : Option NativeMatrix
  /-- View that it was acquired or derived under, if there was one. -/
  source : Option View
  /-- Matrix that was then under the handle of the source. -/
  sourceMatrix : Option NativeMatrix

namespace History

/-- The birth in an operation, if it makes a view. -/
def born (h : History σ) (op : Operation σ) : Option Birth :=
  let after := (h.step library op).workspace
  (after.view? h.workspace.nextView).map fun view =>
    { view
      matrix := view.handle.bind after.matrices
      source := op.source h.workspace
      sourceMatrix := (op.source h.workspace).bind fun source =>
        source.handle.bind h.workspace.matrices }

/-- The births in a run, from the first to the last. -/
def births (h : History σ) : List (Operation σ) → List Birth
  | [] => []
  | op :: ops => (h.born library op).toList ++ births (h.step library op) ops

variable {h : History σ} {op : Operation σ} {b : Birth}

/-- What was born is there, under the next identity. -/
theorem mem_of_born (hb : b ∈ h.born library op) :
    b.view ∈ (h.step library op).workspace.views ∧ b.view.id = h.workspace.nextView ∧
      b.matrix = b.view.handle.bind (h.step library op).workspace.matrices ∧
      b.source = op.source h.workspace := by
  obtain ⟨view, hv, rfl⟩ := Option.map_eq_some_iff.mp hb
  obtain ⟨hm, hid⟩ := Tidy.view?_some hv
  exact ⟨hm, hid, rfl, rfl⟩

/-- A view under the next identity was born. -/
theorem born_of_view (ht : Tidy (h.step library op).workspace []) {view : View}
    (hv : view ∈ (h.step library op).workspace.views) (hid : view.id = h.workspace.nextView) :
    ∃ b ∈ h.born library op, b.view = view := by
  unfold born
  dsimp only
  rw [ht.view?_of_mem hv hid]
  exact ⟨_, rfl, rfl⟩

/-- The root of a new view is that of its source. -/
theorem root_of_born (hr : Recorded h) (hb : b ∈ h.born library op) :
    b.view.root = b.source.map (·.ultimateRoot) := by
  obtain ⟨hm, hid, -, hs⟩ := mem_of_born library hb
  rw [hs]
  rcases made_of_view library hr hm hid with
    ⟨a, matrix, layout, hp, hview⟩ | ⟨source, window, session, hsource, hview, -⟩
  · rw [hview, ← hp]
    rfl
  · rw [hview, hsource]
    rfl

end History

/-- A derived view shares the matrix of the view it was derived from and owns nothing. -/
structure Birth.Descends (b : Birth) (parent : View) : Prop where
  /-- The view it was derived from. -/
  source : b.source = some parent
  /-- It does not own the matrix. -/
  owns : b.view.owns = false
  /-- It has the root of its source. -/
  root : b.view.root = some parent.ultimateRoot
  /-- It has the shape that was asked for, and with it the kind of elements and the family. -/
  shape : b.view.shape = parent.shape
  /-- It has the extents of the matrix itself. -/
  base : b.view.base = parent.base
  /-- It refers to the same matrix. -/
  handle : b.view.handle = parent.handle
  /-- The matrix is there, with its pointer, its entry points and whether it is owned. -/
  matrix : ∃ matrix, b.matrix = some matrix ∧ b.sourceMatrix = some matrix

namespace History

variable {h : History σ} {op : Operation σ} {b : Birth}

/-- A derived view is born that way. -/
theorem descends_of_born (hr : Recorded h) (hb : b ∈ h.born library op)
    (hd : b.view.derived = true) : ∃ parent, b.Descends parent := by
  obtain ⟨hm, hid, hmatrix, hs⟩ := mem_of_born library hb
  obtain ⟨matrix, hlive⟩ := live_of_made library hr hm hid
  rcases made_of_view library hr hm hid with
    ⟨a, matrix, layout, -, hview⟩ | ⟨parent, window, session, hsource, hview, hstep⟩
  · rw [hview] at hd
    contradiction
  have hsourceMatrix : b.sourceMatrix = parent.handle.bind h.workspace.matrices := by
    obtain ⟨view, -, rfl⟩ := Option.map_eq_some_iff.mp hb
    dsimp only
    rw [hsource, Option.bind_some]
  have hshared : parent.handle.bind h.workspace.matrices = some matrix := by
    rw [hview, hstep] at hlive
    exact hlive
  exact ⟨parent, {
    source := hs.trans hsource
    owns := congrArg View.owns hview
    root := congrArg View.root hview
    shape := (congrArg View.shape hview :)
    base := (congrArg View.base hview :)
    handle := (congrArg View.handle hview :)
    matrix := ⟨matrix, hmatrix.trans hlive, hsourceMatrix.trans hshared⟩ }⟩

end History

/-! ### The book of births -/

/-- Births whose identities rise are told apart by the identity. -/
theorem Birth.eq_of_id {births : List Birth} (ho : births.Pairwise (·.view.id < ·.view.id))
    {b c : Birth} (hb : b ∈ births) (hc : c ∈ births) (hid : b.view.id = c.view.id) : b = c := by
  have hn : (births.map (·.view.id)).Nodup :=
    List.pairwise_map.mpr (ho.imp fun hlt => Nat.ne_of_lt hlt)
  exact List.inj_on_of_nodup_map hn hb hc hid

/-- The first one in the chain of sources that leads up from a view. -/
inductive TopOf (births : List Birth) : Nat → Nat → Prop where
  /-- A view without a source is at the top. -/
  | top {b : Birth} (hb : b ∈ births) (hs : b.source = none) : TopOf births b.view.id b.view.id
  /-- Any other view has the top of its source. -/
  | up {b : Birth} {source : View} {top : Nat} (hb : b ∈ births) (hs : b.source = some source)
      (ht : TopOf births source.id top) : TopOf births b.view.id top

namespace TopOf

variable {births : List Birth} {id top : Nat}

/-- More births leave the top of a view as it is. -/
theorem append (ht : TopOf births id top) (more : List Birth) : TopOf (births ++ more) id top := by
  induction ht with
  | top hb hs => exact .top (List.mem_append_left _ hb) hs
  | up hb hs _ ih => exact .up (List.mem_append_left _ hb) hs ih

/-- Where births are told apart by the identity, a chain has one top. -/
theorem unique (ho : births.Pairwise (·.view.id < ·.view.id)) (ht : TopOf births id top)
    {other : Nat} (hother : TopOf births id other) : top = other := by
  induction ht with
  | @top b hb hs =>
    generalize hid : b.view.id = id at hother
    cases hother with
    | top _ _ => rfl
    | up hc hsource _ =>
      rw [Birth.eq_of_id ho hb hc hid, hsource] at hs
      contradiction
  | @up b source top hb hs _ ih =>
    generalize hid : b.view.id = id at hother
    cases hother with
    | top hc hsource =>
      rw [Birth.eq_of_id ho hb hc hid, hsource] at hs
      contradiction
    | up hc hsource htop =>
      rw [Birth.eq_of_id ho hb hc hid, hsource] at hs
      cases hs
      exact ih htop

end TopOf

/-- The view is as it was born, with the same matrix, or it was an owner and is finalized. -/
def Workspace.Remembers (w : Workspace σ) (b : Birth) (view : View) : Prop :=
  (view = b.view ∧ view.handle.bind w.matrices = b.matrix) ∨
    b.view.owns = true ∧ view = b.view.emptied

/-- What the births of a run tell of the views that are there. -/
structure Registered (births : List Birth) (h : History σ) : Prop where
  /-- Identities rise in the order of birth. -/
  ordered : births.Pairwise (·.view.id < ·.view.id)
  /-- The next identity is greater than all of them. -/
  earlier : ∀ b ∈ births, b.view.id < h.workspace.nextView
  /-- A root was born before, and as a root. -/
  rooted : ∀ b ∈ births, ∀ root, b.view.root = some root →
    ∃ c ∈ births, c.view.id = root ∧ root < b.view.id ∧ c.view.root = none
  /-- The ultimate root is the top of the chain of sources. -/
  topmost : ∀ b ∈ births, TopOf births b.view.id b.view.ultimateRoot
  /-- Derived views share the matrix of their source. -/
  descends : ∀ b ∈ births, b.view.derived = true → ∃ parent, b.Descends parent
  /-- Every view that is there was born, and is as it was unless it is finalized. -/
  remembered : ∀ view ∈ h.workspace.views, ∃ b ∈ births, h.workspace.Remembers b view

namespace Workspace.Remembers

variable {w : Workspace σ} {b : Birth} {view : View}

/-- Finalizing changes neither the identity of a view nor its root. -/
theorem names (hx : w.Remembers b view) : b.view.id = view.id ∧ b.view.root = view.root ∧
    b.view.derived = view.derived := by
  rcases hx with ⟨rfl, -⟩ | ⟨-, rfl⟩ <;> exact ⟨rfl, rfl, rfl⟩

end Workspace.Remembers

namespace Registered

variable {library} {h : History σ} {births : List Birth}

/-- No birth before the first operation. -/
theorem start (native : σ) : Registered [] (History.start native) where
  ordered := .nil
  earlier _ hb := absurd hb List.not_mem_nil
  rooted _ hb := absurd hb List.not_mem_nil
  topmost _ hb := absurd hb List.not_mem_nil
  descends _ hb := absurd hb List.not_mem_nil
  remembered _ hm := absurd hm List.not_mem_nil

/-- A view that was there before and still is, is remembered as before. -/
theorem remembered_old (hx : Registered births h) (hr : Recorded h) {op : Operation σ}
    {view : View} (hv : view ∈ (h.step library op).workspace.views)
    (hid : view.id ≠ h.workspace.nextView) :
    ∃ b ∈ births, (h.step library op).workspace.Remembers b view := by
  rcases History.step_views library hr.tidy hv with hnew | hold | ⟨old, hold, howns, rfl⟩
  · exact absurd hnew hid
  · obtain ⟨b, hb, ⟨rfl, hmatrix⟩ | hemptied⟩ := hx.remembered view hold
    · exact ⟨b, hb, .inl ⟨rfl, (History.step_matrix library hr hold hv).trans hmatrix⟩⟩
    · exact ⟨b, hb, .inr hemptied⟩
  · obtain ⟨b, hb, ⟨rfl, -⟩ | ⟨hb', rfl⟩⟩ := hx.remembered old hold
    · exact ⟨b, hb, .inr ⟨howns, rfl⟩⟩
    · exact ⟨b, hb, .inr ⟨hb', rfl⟩⟩

/-- The source of a new view was born before, and names the same root. -/
theorem source_born (hx : Registered births h) {op : Operation σ} {b : Birth}
    (hb : b ∈ h.born library op) {source : View} (hs : b.source = some source) :
    ∃ c ∈ births, c.view.id = source.id ∧ c.view.root = source.root := by
  obtain ⟨-, -, -, hsource⟩ := History.mem_of_born library hb
  obtain ⟨c, hc, hremembers⟩ := hx.remembered source (Operation.source_mem (hsource ▸ hs))
  exact ⟨c, hc, hremembers.names.1, hremembers.names.2.1⟩

/-- The root of a new view was born before, and as a root: it is the source itself, or the root
that was registered when the source was born. -/
theorem rooted_born (hx : Registered births h) (hr : Recorded h) {op : Operation σ} {b : Birth}
    (hb : b ∈ h.born library op) {root : Nat} (hbroot : b.view.root = some root) :
    ∃ c ∈ births, c.view.id = root ∧ root < b.view.id ∧ c.view.root = none := by
  obtain ⟨-, hid, -⟩ := History.mem_of_born library hb
  rw [History.root_of_born library hr hb] at hbroot
  obtain ⟨source, hsource, rfl⟩ := Option.map_eq_some_iff.mp hbroot
  obtain ⟨d, hd, hdid, hdroot⟩ := hx.source_born hb hsource
  cases hr' : source.root with
  | none =>
    refine ⟨d, hd, ?_, ?_, hdroot.trans hr'⟩
    · rw [hdid, View.ultimateRoot, hr', Option.getD_none]
    · rw [View.ultimateRoot, hr', Option.getD_none, ← hdid, hid]
      exact hx.earlier d hd
  | some root =>
    obtain ⟨e, he, heid, helt, heroot⟩ := hx.rooted d hd root (hdroot.trans hr')
    refine ⟨e, he, ?_, ?_, heroot⟩
    · rw [heid, View.ultimateRoot, hr', Option.getD_some]
    · rw [View.ultimateRoot, hr', Option.getD_some, hid]
      exact helt.trans (hx.earlier d hd)

/-- The ultimate root of a new view is the top of its chain, which goes on with that of its
source. -/
theorem topmost_born (hx : Registered births h) (hr : Recorded h) {op : Operation σ} {b : Birth}
    (hb : b ∈ h.born library op) : TopOf (births ++ [b]) b.view.id b.view.ultimateRoot := by
  have hmem : b ∈ births ++ [b] := List.mem_append_right _ (List.mem_singleton_self b)
  have hroot := History.root_of_born library hr hb
  cases hsource : b.source with
  | none =>
    rw [hsource] at hroot
    rw [View.ultimateRoot, hroot, Option.map_none, Option.getD_none]
    exact .top hmem hsource
  | some source =>
    obtain ⟨d, hd, hdid, hdroot⟩ := hx.source_born hb hsource
    have htop : d.view.ultimateRoot = source.ultimateRoot := by
      rw [View.ultimateRoot, View.ultimateRoot, hdid, hdroot]
    rw [hsource] at hroot
    rw [View.ultimateRoot, hroot, Option.map_some, Option.getD_some, ← htop]
    refine .up hmem hsource ?_
    rw [← hdid]
    exact (hx.topmost d hd).append [b]

/-- A new birth is registered after the earlier ones. -/
theorem step_born (hx : Registered births h) (hr : Recorded h) {op : Operation σ} {b : Birth}
    (hb : b ∈ h.born library op) : Registered (births ++ [b]) (h.step library op) := by
  obtain ⟨hm, hid, hmatrix, -⟩ := History.mem_of_born library hb
  have htidy := (hr.step library op).tidy
  have hcases {P : Birth → Prop} (hold : ∀ c ∈ births, P c) (hnew : P b) :
      ∀ c ∈ births ++ [b], P c := by
    rw [List.forall_mem_append]
    exact ⟨hold, List.forall_mem_singleton.mpr hnew⟩
  refine ⟨?_, ?_, ?_, ?_, ?_, fun view hv => ?_⟩
  · refine List.pairwise_append.mpr ⟨hx.ordered, List.pairwise_singleton _ _, fun c hc d hd => ?_⟩
    rw [List.mem_singleton.mp hd, hid]
    exact hx.earlier c hc
  · refine hcases (fun c hc => ?_) (htidy.earlier b.view hm)
    exact (hx.earlier c hc).trans_le (History.step_nextView library hr.tidy op)
  · have hmore {P : Birth → Prop} : (∃ c ∈ births, P c) → ∃ c ∈ births ++ [b], P c :=
      fun ⟨c, hc, hp⟩ => ⟨c, List.mem_append_left _ hc, hp⟩
    exact hcases (fun c hc root hroot => hmore (hx.rooted c hc root hroot))
      fun root hroot => hmore (hx.rooted_born hr hb hroot)
  · exact hcases (fun c hc => (hx.topmost c hc).append [b]) (hx.topmost_born hr hb)
  · exact hcases hx.descends (History.descends_of_born library hr hb)
  · by_cases hvid : view.id = h.workspace.nextView
    · refine ⟨b, List.mem_append_right _ (List.mem_singleton_self b), .inl ?_⟩
      rw [htidy.eq_of_id hv hm (hvid.trans hid.symm)]
      exact ⟨rfl, hmatrix.symm⟩
    · obtain ⟨c, hc, hremembers⟩ := hx.remembered_old hr hv hvid
      exact ⟨c, List.mem_append_left _ hc, hremembers⟩

/-- An operation without a birth leaves the register as it is. -/
theorem step_none (hx : Registered births h) (hr : Recorded h) {op : Operation σ}
    (hb : h.born library op = none) : Registered births (h.step library op) := by
  refine ⟨hx.ordered, fun c hc => ?_, hx.rooted, hx.topmost, hx.descends, fun view hv => ?_⟩
  · exact (hx.earlier c hc).trans_le (History.step_nextView library hr.tidy op)
  · refine hx.remembered_old hr hv fun hid => ?_
    obtain ⟨b, hborn, -⟩ := History.born_of_view library (hr.step library op).tidy hv hid
    rw [hb] at hborn
    contradiction

theorem step (hx : Registered births h) (hr : Recorded h) (op : Operation σ) :
    Registered (births ++ (h.born library op).toList) (h.step library op) := by
  cases hb : h.born library op with
  | none =>
    rw [Option.toList_none, List.append_nil]
    exact hx.step_none hr hb
  | some b =>
    rw [Option.toList_some]
    exact hx.step_born hr hb

/-- The births of a run are registered one after the other. -/
theorem run (hx : Registered births h) (hr : Recorded h) (ops : List (Operation σ)) :
    Registered (births ++ h.births library ops) (h.run library ops) := by
  induction ops generalizing h births with
  | nil =>
    rw [History.births, List.append_nil]
    exact hx
  | cons op ops ih =>
    rw [History.births, ← List.append_assoc]
    exact ih (hx.step hr op) (hr.step library op)

end Registered

/-- In any run of operations identities rise in the order in which views are made. The root that a
view names was made before it and as a root, and it is the first one in the chain of sources. A
derived view owns nothing and shares the shape, the extents and the matrix of its source. All views
that are there have the root they were made with, and derived ones are what they were made as, with
the same matrix, whatever became of their source and of their root. -/
theorem History.ancestry (native : σ) (ops : List (Operation σ)) :
    let births := (start native).births library ops
    let workspace := ((start native).run library ops).workspace
    births.Pairwise (·.view.id < ·.view.id) ∧ workspace.views.Pairwise (·.id < ·.id) ∧
    (∀ b ∈ births, ∀ root, b.view.root = some root →
      ∃ c ∈ births, c.view.id = root ∧ root < b.view.id ∧ c.view.root = none) ∧
    (∀ b ∈ births, ∀ top, TopOf births b.view.id top ↔ top = b.view.ultimateRoot) ∧
    (∀ b ∈ births, b.view.derived = true → ∃ parent, b.Descends parent) ∧
    ∀ view ∈ workspace.views, ∃ b ∈ births, b.view.id = view.id ∧ b.view.root = view.root ∧
      b.view.derived = view.derived ∧
      (view.derived = true → view = b.view ∧ view.handle.bind workspace.matrices = b.matrix) := by
  intro births workspace
  have hx : Registered births ((start native).run library ops) :=
    (Registered.start native).run (.start native) ops
  have hr : Recorded ((start native).run library ops) := (Recorded.start native).run library ops
  refine ⟨hx.ordered, hr.tidy.ordered, hx.rooted, fun b hb top => ⟨fun ht => ?_, ?_⟩, hx.descends,
    fun view hv => ?_⟩
  · exact ht.unique hx.ordered (hx.topmost b hb)
  · rintro rfl
    exact hx.topmost b hb
  · obtain ⟨b, hb, hremembers⟩ := hx.remembered view hv
    obtain ⟨hid, hroot, hderived⟩ := hremembers.names
    refine ⟨b, hb, hid, hroot, hderived, fun hd => ?_⟩
    -- A finalized view was an owner, and no derived view is one.
    refine hremembers.resolve_right fun howner => ?_
    obtain ⟨parent, hdescends⟩ := hx.descends b hb (hderived.trans hd)
    rw [hdescends.owns] at howner
    exact Bool.false_ne_true howner.1

end ForeignMatrix
