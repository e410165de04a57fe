import ForeignMatrix.Proofs.History

/-!
# Relations between sessions that operations keep

An operation on views changes the session through a few actions of native
matrices, and through memory where a derived view or a whole array is stored
to. What holds across each of these actions, in one direction of time and
without regard to the views, holds across every operation that makes a call.
-/

namespace ForeignMatrix

open Actions NativeAction

variable {σ : Type} (library : NativeLibrary σ)

/-- The sessions of two workspaces are related. -/
def Across (R : Session σ → Session σ → Prop) (w v : Workspace σ) : Prop := R w.session v.session

/-- The relation holds across all that native matrices do. -/
structure Keeps (R : Session σ → Session σ → Prop) : Prop where
  /-- Writing a notice. -/
  note : ∀ notice, Moves R (note notice)
  /-- Constructing a matrix. -/
  construct : ∀ source family rows cols,
    Moves R (NativeMatrix.construct library source family rows cols)
  /-- Asking for a layout. -/
  layout : ∀ matrix : NativeMatrix, Moves R (matrix.layout library)
  /-- Reading an element. -/
  readElement : ∀ (matrix : NativeMatrix) kind row col,
    Moves R (matrix.readElement library kind row col)
  /-- Storing an element. -/
  writeElement : ∀ (matrix : NativeMatrix) kind row col value,
    Moves R (matrix.writeElement library kind row col value)
  /-- Destroying a matrix. -/
  destroy : ∀ matrix : NativeMatrix, Moves R (matrix.destroy library)

namespace Keeps

variable {library} {R : Session σ → Session σ → Prop}

theorem native {α : Type} {action : NativeAction σ α} (h : Moves R action) :
    Moves (Across R) (ViewAction.native action) := fun w => h w.session

variable [Std.Refl R]

instance : Std.Refl (Across R) := ⟨fun w => Std.Refl.refl w.session⟩

theorem checked {α : Type} (result : Except Fault α) :
    Moves (Across R) (ViewAction.checked result : ViewAction σ α) := by
  cases result with
  | error fault => exact .throw fault
  | ok value => exact .pure value

theorem liveMatrix (view : View) (operation : String) :
    Moves (Across R) (ViewAction.liveMatrix view operation : ViewAction σ NativeMatrix) := by
  refine .get_bind fun w => ?_
  cases view.handle.bind w.matrices <;> exact Std.Refl.refl w.session

theorem release (hk : Keeps library R) (matrix : NativeMatrix) :
    Moves R (matrix.release library) := .ite (hk.destroy matrix) (.pure ())

theorem settle (hk : Keeps library R) (view matrix : Nat) :
    Moves (Across R) (ViewAction.settle library view matrix) := by
  refine .get_bind fun w => ?_
  cases w.matrices matrix with
  | none => exact Std.Refl.refl w.session
  | some found =>
    dsimp only
    split_ifs
    · exact hk.release found w.session
    · exact hk.note _ w.session

variable [IsTrans (Session σ) R]

instance : IsTrans (Workspace σ) (Across R) := by
  refine ⟨fun u v w huv hvw => ?_⟩
  unfold Across at huv hvw ⊢
  exact IsTrans.trans _ _ _ huv hvw

variable (hk : Keeps library R)

include hk

/-! ### Reading and storing -/

theorem getElement (view : View) (row col : Int) :
    Moves (Across R) (ViewAction.getElement library view row col) := by
  refine .bind (liveMatrix view _) fun matrix => .bind (checked _) fun ij => ?_
  exact .ite (.bind .get fun _ => .pure _) (native (hk.readElement matrix _ row col))

/-- A view that was acquired stores through the accessor. -/
theorem setElement {view : View} (hd : view.derived = false) (row col : Int)
    (value : Element view.kind) :
    Moves (Across R) (ViewAction.setElement library view row col value) := by
  refine .bind (liveMatrix view _) fun matrix => .bind (checked _) fun ij => ?_
  dsimp only
  rw [if_neg (by rw [hd]; exact Bool.false_ne_true)]
  exact native (hk.writeElement matrix _ row col value)

theorem getBaseElement (view : View) (row col : Int) :
    Moves (Across R) (ViewAction.getBaseElement library view row col) :=
  .bind (liveMatrix view _) fun matrix => .bind (checked _) fun _ => .bind (checked _) fun _ =>
    native (hk.readElement matrix _ row col)

/-! ### Deriving and acquiring -/

theorem derive (view : View) (transform : Window → Window) :
    Moves (Across R) (ViewAction.derive view transform : ViewAction σ Nat) := by
  refine .bind (liveMatrix view _) fun _ => .bind (checked _) fun _ => .bind (checked _) fun _ =>
    .ite (.get_bind fun w => ?_) (.throw _)
  exact hk.note _ w.session

theorem slice (view : View) (rows cols : Nat × Nat) :
    Moves (Across R) (ViewAction.slice view rows cols : ViewAction σ Nat) :=
  .bind (checked _) fun _ => .bind (checked _) fun _ => hk.derive view _

theorem abandon (matrix : NativeMatrix) : Moves R (matrix.abandon library) :=
  .tryCatch (hk.release matrix) fun _ => hk.note _

theorem obtain (a : Acquisition) : Moves R (a.obtain library) := by
  unfold Acquisition.obtain ViewAction.obtain
  cases a.existing with
  | none =>
    have hc := hk.construct a.source a.shape.family a.shape.rows a.shape.cols
    exact .ite (.bind (hk.note _) fun _ => hc) hc
  | some pointer => exact .bind (hk.note _) fun _ => .pure _

theorem orAbandon {α : Type} {action : NativeAction σ α} (ha : Moves R action)
    (matrix : NativeMatrix) : Moves R (ViewAction.orAbandon library matrix action) :=
  .tryCatch ha fun _ => .bind (hk.abandon matrix) fun _ => .throw _

theorem perform (a : Acquisition) : Moves (Across R) (a.perform library) := by
  by_cases hkind : a.shape.kind = a.expected
  · rw [a.perform_eq library hkind]
    refine .bind (native (hk.obtain a)) fun matrix =>
      .bind (native (hk.orAbandon (hk.layout matrix) matrix)) fun layout =>
      .bind (native (hk.orAbandon (ViewAction.windowOf_moves hk.note _ layout) matrix))
      fun window => .get_bind fun w => ?_
    exact hk.note _ w.session
  · unfold Acquisition.perform ViewAction.acquire
    rw [if_pos hkind]
    exact .throw _

/-! ### Giving up -/

theorem letGo (matrix : Nat) : Moves (Across R) (ViewAction.letGo library matrix) := by
  refine .get_bind fun w => ?_
  split_ifs
  · cases w.matrices matrix with
    | none => exact Std.Refl.refl w.session
    | some found => exact hk.abandon found w.session
  · exact Std.Refl.refl w.session

theorem letGo? (matrix : Option Nat) : Moves (Across R) (ViewAction.letGo? library matrix) := by
  cases matrix with
  | none => exact .pure ()
  | some matrix => exact hk.letGo matrix

theorem finalize (id : Nat) : Moves (Across R) (ViewAction.finalize library id) := by
  refine .bind .get fun w => ?_
  cases w.view? id with
  | none => exact .pure ()
  | some view =>
    dsimp only
    split
    · refine .bind (.modify fun v => Std.Refl.refl v.session) fun _ => ?_
      exact .bind (hk.letGo? _) fun _ => hk.settle id _
    · exact .pure ()

theorem drop (id : Nat) : Moves (Across R) (ViewAction.drop library id) := by
  refine .bind (.tryCatch (hk.finalize id) fun _ => native (hk.note _)) fun _ =>
    .bind .get fun w => ?_
  cases w.view? id with
  | none => exact .pure ()
  | some view =>
    refine .bind (.modify fun v => Std.Refl.refl v.session) fun _ => ?_
    exact .bind (hk.letGo? _) fun _ => hk.letGo? _

theorem dropHandle (matrix : Nat) : Moves (Across R) (ViewAction.dropHandle library matrix) :=
  .bind (.modify fun w => Std.Refl.refl w.session) fun _ => hk.letGo matrix

end Keeps

/-! ### Operations -/

/-- No call was made. -/
def Silent (s t : Session σ) : Prop := t.calls = s.calls

instance : Std.Refl (Silent (σ := σ)) := ⟨fun _ => rfl⟩

instance : IsTrans (Session σ) Silent := ⟨fun _ _ _ hst htu => htu.trans hst⟩

namespace ViewAction

theorem load_silent (kind : ElementKind) (window : Window) (i j : Nat) :
    Moves (Across Silent) (load library kind window i j) := fun _ => rfl

theorem store_silent (kind : ElementKind) (window : Window) (i j : Nat) (value : Element kind) :
    Moves (Across Silent) (store library kind window i j value) := fun _ => rfl

/-- A derived view stores to memory. -/
theorem setElement_silent {view : View} (hd : view.derived = true) (row col : Int)
    (value : Element view.kind) :
    Moves (Across Silent) (setElement library view row col value) := by
  refine .bind (Keeps.liveMatrix view _) fun matrix => .bind (Keeps.checked _) fun ij => ?_
  dsimp only
  rw [if_pos hd]
  exact store_silent library _ _ _ _ _

theorem toArray_silent (view : View) : Moves (Across Silent) (toArray library view) :=
  .mapM (fun _ => .mapM (fun _ => load_silent library _ _ _ _) _) _

theorem fill_silent (view : View) (value : Nat → Nat → Element view.kind) :
    Moves (Across Silent) (fill library view value) :=
  .forM (fun _ => .forM (fun _ => store_silent library _ _ _ _ _) _) _

theorem takeHandle_silent (view : View) :
    Moves (Across Silent) (takeHandle view : ViewAction σ (Option Nat)) := by
  unfold takeHandle
  cases view.sharedHandle with
  | none => exact .pure _
  | some matrix => exact fun _ => rfl

end ViewAction

section Operations

variable {library} {R : Session σ → Session σ → Prop} [Std.Refl R]

theorem withView_moves {id : Nat} {action : View → ViewAction σ Unit}
    (h : ∀ view, Moves (Across R) (action view)) : Moves (Across R) (withView id action) := by
  refine .get_bind fun w => ?_
  cases w.view? id with
  | none => exact Std.Refl.refl w.session
  | some view => exact h view w

variable [IsTrans (Session σ) R]

theorem silently_moves {α : Type} {action : ViewAction σ α} (h : Moves (Across R) action) :
    Moves (Across R) (silently action) := .bind h fun _ => .pure ()

/-- What holds across all that native matrices do holds across every operation that makes a
call. -/
theorem Operation.keeps (hk : Keeps library R) (op : Operation σ) (w : Workspace σ) :
    Silent w.session (op.perform library w).2.session ∨
      R w.session (op.perform library w).2.session := by
  have hacquires : Acquires library w op → R w.session (op.perform library w).2.session := by
    rintro (⟨-, hp⟩ | ⟨a, -, hp⟩) <;> rw [hp]
    · exact Std.Refl.refl w.session
    · exact silently_moves (hk.perform a) w
  cases op with
  | create binder kind shape => exact .inr (hacquires (.inr ⟨_, rfl, rfl⟩))
  | adopt binder kind shape pointer owns => exact .inr (hacquires (.inr ⟨_, rfl, rfl⟩))
  | bind binder request parent =>
    exact .inr (hacquires (bind_acquires library w binder request parent))
  | derive id transform =>
    exact .inr (withView_moves (fun view => silently_moves (hk.derive view _)) w)
  | deriveAs kind id transform =>
    exact .inr (withView_moves (fun view => silently_moves (.ite (hk.derive view _) (.throw _))) w)
  | slice id rows cols =>
    exact .inr (withView_moves (fun view => silently_moves (hk.slice view _ _)) w)
  | row id position =>
    exact .inr (withView_moves (fun view => silently_moves
      (.bind (Keeps.checked _) fun _ => hk.slice view _ _)) w)
  | column id position =>
    exact .inr (withView_moves (fun view => silently_moves
      (.bind (Keeps.checked _) fun _ => hk.slice view _ _)) w)
  | transpose id =>
    exact .inr (withView_moves (fun view => silently_moves (hk.derive view _)) w)
  | read id i j =>
    exact .inr (withView_moves (fun view => silently_moves
      (.bind (hk.getElement view i j) fun _ => .pure _)) w)
  | write id i j value =>
    change Silent w.session (withView id _ w).2.session ∨ R w.session (withView id _ w).2.session
    rcases withView_apply id (fun view => ViewAction.write library view i j value) w with
      ⟨hw, -⟩ | ⟨view, -, hw⟩ <;> rw [hw]
    · exact .inl rfl
    · cases hd : view.derived with
      | true => exact .inl (ViewAction.setElement_silent library hd i j _ w)
      | false => exact .inr (hk.setElement hd i j _ w)
  | readBase id i j =>
    exact .inr (withView_moves (fun view => silently_moves
      (.bind (hk.getBaseElement view i j) fun _ => .pure _)) w)
  | toArray id =>
    exact .inl (withView_moves (fun view => silently_moves
      (ViewAction.toArray_silent library view)) w)
  | fill id value =>
    exact .inl (withView_moves (fun view => ViewAction.fill_silent library view _) w)
  | finalize id => exact .inr (hk.finalize id w)
  | drop id => exact .inr (hk.drop id w)
  | takeHandle id =>
    exact .inl (withView_moves (fun view => silently_moves (ViewAction.takeHandle_silent view)) w)
  | dropHandle matrix => exact .inr (hk.dropHandle matrix w)
  | outside change => exact .inl rfl

end Operations

end ForeignMatrix
