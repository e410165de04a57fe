import ForeignMatrix.Binder
import ForeignMatrix.Proofs.Ownership.Calls
import ForeignMatrix.View.Access

/-!
# What operations do to the workspace

One statement for each operation that reads, writes, derives or acquires, with
everything it can do to the views, the matrices and the references of a
workspace. Reading and writing leave all of them alone. A derivation enters a
view that shares the references of its source, or changes nothing. An
acquisition enters one view and one matrix, or is refused with or without
having obtained a matrix; one that was obtained is then abandoned.
-/

namespace ForeignMatrix

open Actions NativeAction

variable {σ : Type} (library : NativeLibrary σ)

/-- Nothing but the session changed, and no matrix was destroyed. -/
def Steady (w v : Workspace σ) : Prop :=
  ∃ session, Quiet library w.session session ∧ v = { w with session }

instance : Std.Refl (Steady library) := ⟨fun w => ⟨w.session, Std.Refl.refl _, rfl⟩⟩

instance : IsTrans (Workspace σ) (Steady library) := by
  refine ⟨fun u v w huv hvw => ?_⟩
  obtain ⟨s, hs, rfl⟩ := huv
  obtain ⟨t, ht, rfl⟩ := hvw
  exact ⟨t, IsTrans.trans _ _ _ hs ht, rfl⟩

namespace ViewAction

/-- An action of the session leaves the rest of the workspace as it is. -/
theorem native_apply {α : Type} {action : NativeAction σ α} {w : Workspace σ}
    {result : Except Fault α} {s : Session σ} (h : action w.session = (result, s)) :
    native action w = (result, { w with session := s }) := by
  simp only [native, h]

theorem native_steady {α : Type} {action : NativeAction σ α} (h : Moves (Quiet library) action) :
    Moves (Steady library) (native action) := fun w => ⟨_, h w.session, rfl⟩

theorem checked_steady {α : Type} (result : Except Fault α) :
    Moves (Steady library) (checked result : ViewAction σ α) := by
  cases result with
  | error fault => exact .throw fault
  | ok value => exact .pure value

theorem liveMatrix_ok {view : View} {w : Workspace σ} {matrix : NativeMatrix}
    (hm : view.handle.bind w.matrices = some matrix) (operation : String) :
    liveMatrix view operation w = (.ok matrix, w) := by
  unfold liveMatrix
  rw [bind_ok (get_apply w), hm]
  rfl

theorem liveMatrix_none {view : View} {w : Workspace σ} (hm : view.handle.bind w.matrices = none)
    (operation : String) : liveMatrix view operation w = (.error (.nullHandle operation), w) := by
  unfold liveMatrix
  rw [bind_ok (get_apply w), hm]
  rfl

theorem liveMatrix_steady (view : View) (operation : String) :
    Moves (Steady library) (liveMatrix view operation : ViewAction σ NativeMatrix) := by
  refine .bind .get fun w => ?_
  cases view.handle.bind w.matrices with
  | none => exact .throw _
  | some matrix => exact .pure matrix

theorem load_steady (kind : ElementKind) (window : Window) (i j : Nat) :
    Moves (Steady library) (load library kind window i j) :=
  .bind .get fun _ => .pure _

theorem store_steady (kind : ElementKind) (window : Window) (i j : Nat) (value : Element kind) :
    Moves (Steady library) (store library kind window i j value) := by
  refine .modify fun w => ⟨{ w.session with native := _ }, ?_, rfl⟩
  exact .of_calls library rfl

theorem getElement_steady (view : View) (row col : Int) :
    Moves (Steady library) (getElement library view row col) := by
  refine .bind (liveMatrix_steady library view _) fun matrix => ?_
  refine .bind (checked_steady library _) fun ij => ?_
  refine .ite (load_steady library _ _ _ _) ?_
  exact native_steady library (matrix.readElement_quiet library _ row col)

theorem setElement_steady (view : View) (row col : Int) (value : Element view.kind) :
    Moves (Steady library) (setElement library view row col value) := by
  refine .bind (liveMatrix_steady library view _) fun matrix => ?_
  refine .bind (checked_steady library _) fun ij => ?_
  refine .ite (store_steady library _ _ _ _ _) ?_
  exact native_steady library (matrix.writeElement_quiet library _ row col value)

theorem read_steady (view : View) (row col : Int) :
    Moves (Steady library) (read library view row col) :=
  .bind (getElement_steady library view row col) fun _ => .pure _

theorem write_steady (view : View) (row col : Int) (value : Element.Binary .double) :
    Moves (Steady library) (write library view row col value) :=
  setElement_steady library view row col _

theorem readBase_steady (view : View) (row col : Int) :
    Moves (Steady library) (readBase library view row col) := by
  refine .bind (.bind (liveMatrix_steady library view _) fun matrix => ?_) fun _ => .pure _
  refine .bind (checked_steady library _) fun _ => .bind (checked_steady library _) fun _ => ?_
  exact native_steady library (matrix.readElement_quiet library _ row col)

theorem toArray_steady (view : View) : Moves (Steady library) (toArray library view) :=
  .mapM (fun _ => .mapM (fun _ => load_steady library _ _ _ _) _) _

theorem fill_steady (view : View) (value : Nat → Nat → Element view.kind) :
    Moves (Steady library) (fill library view value) :=
  .forM (fun _ => .forM (fun _ => store_steady library _ _ _ _ _) _) _

end ViewAction

/-! ### Derivation -/

/-- The view that deriving from a view with a given window makes. -/
def View.child (view : View) (id : Nat) (window : Window) : View :=
  { view with id, owns := false, root := some view.ultimateRoot, derived := true, window }

/-- A derived view refers to what its source refers to. -/
@[simp] theorem View.child_references (view : View) (id : Nat) (window : Window) :
    (view.child id window).references = view.references := rfl

/-- The workspace after a view was derived. -/
def Workspace.derived (w : Workspace σ) (view : View) (window : Window) (session : Session σ) :
    Workspace σ :=
  { w with
    session
    views := w.views ++ [view.child w.nextView window]
    nextView := w.nextView + 1 }

/-- The action enters a view derived from the given one, or is refused and changes nothing. -/
def DerivesFrom (view : View) (action : ViewAction σ Nat) : Prop :=
  ∀ w, (∃ fault, action w = (.error fault, w)) ∨
    ∃ window session, Quiet library w.session session ∧
      action w = (.ok w.nextView, w.derived view window session)

/-- A view can be derived from the live view through the array. -/
structure View.Admits (view : View) (w : Workspace σ) (array : Window) : Prop where
  /-- The view has its matrix. -/
  live : ∃ matrix, view.handle.bind w.matrices = some matrix
  /-- The elements of the array can be counted. -/
  counted : array.Counted
  /-- So can the elements of the view. -/
  source : view.window.Counted
  /-- The array stays inside the view. -/
  covered : view.window.covers view.kind (.ofArray view.kind array) = true

/-- Such a view is not finalized. -/
theorem View.Admits.isSome_handle {view : View} {w : Workspace σ} {array : Window}
    (h : view.Admits w array) : view.handle.isSome = true := by
  obtain ⟨matrix, hmatrix⟩ := h.live
  obtain ⟨number, hnumber, -⟩ := Option.bind_eq_some_iff.mp hmatrix
  rw [hnumber, Option.isSome_some]

namespace ViewAction

theorem checkCount_ok {window : Window} (hn : window.Counted) (w : Workspace σ) :
    checked window.checkCount w = (.ok window.count, w) := by
  rw [Window.checkCount, if_pos hn]
  rfl

theorem checkCount_overflow {window : Window} (hn : ¬window.Counted) (w : Workspace σ) :
    checked window.checkCount w = (.error .overflow, w) := by
  rw [Window.checkCount, if_neg hn]
  rfl

/-- A derivation from a live view stops if the elements of the array or of the view cannot be
counted. -/
theorem derive_overflow {view : View} {w : Workspace σ} {matrix : NativeMatrix}
    (hm : view.handle.bind w.matrices = some matrix) (transform : Window → Window)
    (hn : ¬((transform (view.window.rawArray view.kind)).Counted ∧ view.window.Counted)) :
    derive view transform w = (.error .overflow, w) := by
  unfold derive
  rw [bind_ok (liveMatrix_ok hm _)]
  by_cases harray : (transform (view.window.rawArray view.kind)).Counted
  · have hwindow : ¬view.window.Counted := fun hwindow => hn ⟨harray, hwindow⟩
    dsimp only
    rw [bind_ok (checkCount_ok harray w), bind_error (checkCount_overflow hwindow w)]
  · dsimp only
    rw [bind_error (checkCount_overflow harray w)]

/-- A derivation from a live view that covers the array succeeds if the elements of both can be
counted. -/
theorem derive_of_covers {view : View} {w : Workspace σ} {matrix : NativeMatrix}
    (hm : view.handle.bind w.matrices = some matrix) (transform : Window → Window)
    (harray : (transform (view.window.rawArray view.kind)).Counted)
    (hwindow : view.window.Counted)
    (hcover : view.window.covers view.kind
      (.ofArray view.kind (transform (view.window.rawArray view.kind))) = true) :
    ∃ session : Session σ, derive view transform w = (.ok w.nextView, w.derived view
      (.ofArray view.kind (transform (view.window.rawArray view.kind))) session) ∧
        session.calls = w.session.calls := by
  unfold derive
  rw [bind_ok (liveMatrix_ok hm _)]
  dsimp only
  rw [bind_ok (checkCount_ok harray w), bind_ok (checkCount_ok hwindow w), if_pos hcover]
  let notice : Notice := .viewDerived w.nextView view.id view.ultimateRoot
  exact ⟨{ w.session with notices := notice :: w.session.notices }, rfl, rfl⟩

/-- A derivation makes no call. It succeeds when the view admits the transformed array, which is
then the window of the new view. -/
theorem derive_cases (view : View) (transform : Window → Window) (w : Workspace σ) :
    (∃ fault, derive view transform w = (.error fault, w)) ∨
    view.Admits w (transform (view.window.rawArray view.kind)) ∧
      ∃ session : Session σ, session.calls = w.session.calls ∧
        derive view transform w = (.ok w.nextView, w.derived view
          (.ofArray view.kind (transform (view.window.rawArray view.kind))) session) := by
  cases hm : view.handle.bind w.matrices with
  | none => exact .inl ⟨_, bind_error (liveMatrix_none hm _) _⟩
  | some matrix =>
    by_cases hn : (transform (view.window.rawArray view.kind)).Counted ∧ view.window.Counted
    · obtain ⟨harray, hwindow⟩ := hn
      by_cases hcover : view.window.covers view.kind
          (.ofArray view.kind (transform (view.window.rawArray view.kind))) = true
      · obtain ⟨session, he, hcalls⟩ := derive_of_covers hm transform harray hwindow hcover
        exact .inr ⟨⟨⟨matrix, hm⟩, harray, hwindow, hcover⟩, session, hcalls, he⟩
      · left
        unfold derive
        rw [bind_ok (liveMatrix_ok hm _)]
        dsimp only
        rw [bind_ok (checkCount_ok harray w), bind_ok (checkCount_ok hwindow w), if_neg hcover]
        exact ⟨_, rfl⟩
    · exact .inl ⟨_, derive_overflow hm transform hn⟩

theorem derive_derivesFrom (view : View) (transform : Window → Window) :
    DerivesFrom library view (derive view transform) := by
  intro w
  rcases derive_cases view transform w with h | ⟨-, session, hc, h⟩
  · exact .inl h
  · exact .inr ⟨_, session, .of_calls library hc, h⟩

theorem checked_derivesFrom {α : Type} {view : View} {action : α → ViewAction σ Nat}
    (result : Except Fault α) (h : ∀ a, DerivesFrom library view (action a)) :
    DerivesFrom library view (checked result >>= action) := by
  intro w
  cases result with
  | error fault => exact .inl ⟨fault, rfl⟩
  | ok a => exact h a w

theorem deriveAs_derivesFrom (kind : ElementKind) (view : View) (transform : Window → Window) :
    DerivesFrom library view (deriveAs kind view transform) := by
  unfold deriveAs
  split_ifs
  · exact derive_derivesFrom library view transform
  · exact fun w => .inl ⟨_, rfl⟩

theorem slice_derivesFrom (view : View) (rows cols : Nat × Nat) :
    DerivesFrom library view (slice view rows cols) :=
  checked_derivesFrom library _ fun _ => checked_derivesFrom library _ fun _ =>
    derive_derivesFrom library view _

theorem row_derivesFrom (view : View) (position : Nat) :
    DerivesFrom library view (row view position) :=
  checked_derivesFrom library _ fun _ => slice_derivesFrom library view _ _

theorem column_derivesFrom (view : View) (position : Nat) :
    DerivesFrom library view (column view position) :=
  checked_derivesFrom library _ fun _ => slice_derivesFrom library view _ _

theorem transpose_derivesFrom (view : View) :
    DerivesFrom library view (transpose view) := derive_derivesFrom library view _

end ViewAction

/-! ### Acquisition -/

/-- What a view is to be acquired from. -/
structure Acquisition where
  /-- Source of entry points. -/
  source : SymbolSource
  /-- Kind of elements that the caller expects. -/
  expected : ElementKind
  /-- Shape asked for. -/
  shape : Shape
  /-- Pointer to adopt; none to construct a matrix. -/
  existing : Option MatrixPointer
  /-- Whether to own the matrix, if that is said. -/
  owns : Option Bool
  /-- View under which the new one is acquired. -/
  parent : Option View

namespace Acquisition

/-- Acquires the view. -/
def perform (a : Acquisition) : ViewAction σ Nat :=
  ViewAction.acquire library a.source a.expected a.shape a.existing a.owns a.parent

/-- Constructs or adopts the matrix. -/
def obtain (a : Acquisition) : NativeAction σ NativeMatrix :=
  ViewAction.obtain library a.source a.shape a.existing a.owns

/-- Matrix that the acquisition obtains, whether or not a view is made of it. -/
def matrix? (a : Acquisition) (s : Session σ) : Option NativeMatrix :=
  if a.shape.kind = a.expected then (a.obtain library s).1.toOption else none

/-- An adopted matrix has the pointer it was adopted by, and is owned only on request. -/
theorem matrix?_adopted {a : Acquisition} {s : Session σ} {matrix : NativeMatrix}
    (hx : a.matrix? library s = some matrix) {pointer : MatrixPointer}
    (he : a.existing = some pointer) :
    matrix = ⟨pointer, a.owns.getD false, a.shape.family, a.source⟩ := by
  unfold matrix? at hx
  split_ifs at hx
  unfold obtain ViewAction.obtain at hx
  rw [he] at hx
  cases hx
  rfl

/-- View that the acquisition makes of a matrix with the given layout. -/
def view (a : Acquisition) (w : Workspace σ) (matrix : NativeMatrix) (layout : NativeLayout) :
    View :=
  { id := w.nextView
    shape := a.shape
    handle := some w.nextMatrix
    keepAlive := a.parent.bind (·.sharedHandle)
    owns := matrix.owned
    root := a.parent.map (·.ultimateRoot)
    derived := false
    base := (layout.rows, layout.cols)
    window := .ofLayout a.shape.kind layout }

/-- The workspace with that view and its matrix. -/
def entered (a : Acquisition) (w : Workspace σ) (matrix : NativeMatrix) (layout : NativeLayout)
    (session : Session σ) : Workspace σ :=
  { w.setMatrix w.nextMatrix (some matrix) with
    session
    views := w.views ++ [a.view w matrix layout]
    nextView := w.nextView + 1
    nextMatrix := w.nextMatrix + 1 }

theorem obtain_quiet (a : Acquisition) : Moves (Quiet library) (a.obtain library) := by
  unfold obtain ViewAction.obtain
  cases a.existing with
  | none =>
    have hc := NativeMatrix.construct_quiet library a.source a.shape.family a.shape.rows
      a.shape.cols
    exact .ite (.bind (note_quiet library _) fun _ => hc) hc
  | some pointer => exact NativeMatrix.adopt_quiet library _ _ _ _

end Acquisition

/-- The layout lets a view show it: it has storage, or its elements can be counted. -/
def NativeLayout.Admitted (layout : NativeLayout) : Prop :=
  layout.data = 0 → layout.window.Counted

instance (layout : NativeLayout) : Decidable layout.Admitted :=
  inferInstanceAs (Decidable (_ → _))

namespace ViewAction

/-- Making the window of a new view does no more than write a notice. -/
theorem windowOf_moves {R : Session σ → Session σ → Prop} [Std.Refl R] [IsTrans (Session σ) R]
    (hnote : ∀ notice, Moves R (NativeAction.note notice)) (kind : ElementKind)
    (layout : NativeLayout) : Moves R (windowOf kind layout : NativeAction σ Window) := by
  refine .ite (.pure _) ?_
  cases layout.window.checkCount with
  | error fault => exact .throw fault
  | ok count => exact .ite (.bind (hnote _) fun _ => .pure _) (.pure _)

/-- The window of a new view is that of its layout, with or without a notice, if the layout can be
shown. -/
theorem windowOf_fst (kind : ElementKind) (layout : NativeLayout) (s : Session σ) :
    (windowOf kind layout s).1 =
      if layout.Admitted then .ok (.ofLayout kind layout) else .error .overflow := by
  by_cases hdata : layout.data = 0
  · by_cases hn : layout.window.Counted
    · have hadmitted : layout.Admitted := fun _ => hn
      unfold windowOf Window.checkCount
      rw [if_pos hadmitted, if_neg (not_not.mpr hdata), if_pos hn]
      dsimp only
      split_ifs <;> rfl
    · have hadmitted : ¬layout.Admitted := fun h => hn (h hdata)
      unfold windowOf Window.checkCount
      rw [if_neg hadmitted, if_neg (not_not.mpr hdata), if_neg hn]
      rfl
  · have hadmitted : layout.Admitted := fun h => absurd h hdata
    unfold windowOf
    rw [if_pos hadmitted, if_pos hdata]
    rfl

/-- What is done with a matrix is done, or it is refused and the matrix abandoned. -/
theorem orAbandon_cases {α : Type} {action : NativeAction σ α}
    (hq : Moves (Quiet library) action) (matrix : NativeMatrix) (w : Workspace σ) :
    (∃ fault session,
      native (orAbandon library matrix action) w = (.error fault, { w with session }) ∧
        (action w.session).1 = .error fault ∧ Discharges library matrix w.session session) ∨
    ∃ a session, native (orAbandon library matrix action) w = (.ok a, { w with session }) ∧
      action w.session = (.ok a, session) ∧ Quiet library w.session session := by
  have hquiet := hq w.session
  unfold native orAbandon
  rw [tryCatch_apply]
  rcases hr : action w.session with ⟨fault | a, t⟩ <;> rw [hr] at hquiet
  · left
    have hd := matrix.abandon_discharges library t
    have habandon : matrix.abandon library t = (.ok (), (matrix.abandon library t).2) :=
      Prod.ext (matrix.abandon_release library t).1 rfl
    refine ⟨fault, (matrix.abandon library t).2, ?_, rfl, .of_quiet library hquiet hd⟩
    dsimp only
    rw [bind_ok habandon]
    rfl
  · exact .inr ⟨a, t, rfl, rfl, hquiet⟩

end ViewAction

namespace Acquisition

/-- Entering the view of a matrix always succeeds. -/
theorem enter_apply (a : Acquisition) (matrix : NativeMatrix) (layout : NativeLayout)
    (w : Workspace σ) :
    ∃ session, ViewAction.enter a.shape matrix (layout.rows, layout.cols)
        (.ofLayout a.shape.kind layout) a.parent w =
      (.ok w.nextView, a.entered w matrix layout session) ∧ Quiet library w.session session := by
  refine ⟨_, rfl, ?_⟩
  exact note_quiet library _ w.session

/-- An acquisition of the expected kind goes through four stages. -/
theorem perform_eq (a : Acquisition) (hk : a.shape.kind = a.expected) :
    a.perform library = (do
      let matrix ← ViewAction.native (a.obtain library)
      let layout ← ViewAction.native
        (ViewAction.orAbandon library matrix (matrix.layout library))
      let window ← ViewAction.native
        (ViewAction.orAbandon library matrix (ViewAction.windowOf a.shape.kind layout))
      ViewAction.enter a.shape matrix (layout.rows, layout.cols) window a.parent) := by
  unfold perform ViewAction.acquire
  rw [if_neg (not_not.mpr hk)]
  rfl

/-- Why a matrix is abandoned for which an acquisition reported a fault: it reported no layout, or
one that no view can show. -/
def Abandons (reported : Except Fault NativeLayout) (fault : Fault) : Prop :=
  reported = .error fault ∨
    ∃ layout, reported = .ok layout ∧ ¬layout.Admitted ∧ fault = .overflow

/-- The three ways in which an acquisition ends: refused before there is a matrix, refused with
the matrix abandoned, or with a new view of it. -/
theorem perform_cases (a : Acquisition) (w : Workspace σ) :
    (∃ fault session, a.perform library w = (.error fault, { w with session }) ∧
      a.matrix? library w.session = none ∧ Quiet library w.session session) ∨
    (∃ matrix fault session, a.perform library w = (.error fault, { w with session }) ∧
      a.matrix? library w.session = some matrix ∧
      Abandons (matrix.layout library (a.obtain library w.session).2).1 fault ∧
      Discharges library matrix w.session session) ∨
    ∃ matrix layout session,
      a.perform library w = (.ok w.nextView, a.entered w matrix layout session) ∧
      a.matrix? library w.session = some matrix ∧
      (matrix.layout library (a.obtain library w.session).2).1 = .ok layout ∧
      layout.Admitted ∧ Quiet library w.session session := by
  have hq := a.obtain_quiet library w.session
  by_cases hk : a.shape.kind = a.expected
  · rw [matrix?, if_pos hk, perform_eq library a hk]
    rcases ho : a.obtain library w.session with ⟨fault | matrix, s⟩ <;> rw [ho] at hq
    · left
      exact ⟨fault, s, bind_error (ViewAction.native_apply ho) _, rfl, hq⟩
    right
    rw [bind_ok (ViewAction.native_apply ho)]
    rcases ViewAction.orAbandon_cases library ((examines_quiet library).layout matrix) matrix
        { w with session := s } with ⟨fault, t, hl, hm, hd⟩ | ⟨layout, t, hl, hm, ht⟩
    · left
      exact ⟨matrix, fault, t, bind_error hl _, rfl, .inl hm, .of_quiet library hq hd⟩
    have hreported : (matrix.layout library s).1 = .ok layout := congrArg Prod.fst hm
    have hwindow := ViewAction.windowOf_fst a.shape.kind layout t
    have hquiet := ViewAction.windowOf_moves (note_quiet library) a.shape.kind layout
    rw [bind_ok hl]
    rcases ViewAction.orAbandon_cases library hquiet matrix { w with session := t } with
      ⟨fault, u, hw, hf, hd⟩ | ⟨window, u, hw, hf, hu⟩
    · left
      rw [hf] at hwindow
      split_ifs at hwindow with hadmitted
      exact ⟨matrix, fault, u, bind_error hw _, rfl,
        .inr ⟨layout, hreported, hadmitted, Except.error.inj hwindow⟩,
        .of_quiet library hq (.of_quiet library ht hd)⟩
    · right
      rw [hf] at hwindow
      split_ifs at hwindow with hadmitted
      obtain rfl : window = .ofLayout a.shape.kind layout := Except.ok.inj hwindow
      obtain ⟨v, he, hv⟩ := a.enter_apply library matrix layout { w with session := u }
      refine ⟨matrix, layout, v, (bind_ok hw _).trans he, rfl, hreported, hadmitted, ?_⟩
      exact IsTrans.trans _ _ _ hq (IsTrans.trans _ _ _ ht (IsTrans.trans _ _ _ hu hv))
  · unfold perform matrix? ViewAction.acquire
    rw [if_pos hk, if_neg hk]
    exact .inl ⟨_, w.session, rfl, rfl, Std.Refl.refl _⟩

end Acquisition

end ForeignMatrix
