import ForeignMatrix.Proofs.Ownership.KeepAlive

/-!
# Operations that are refused without a call

An index out of range and a handle that is null are found by the checks that
come before the library is called. No native call is refused for either reason,
whatever error it reports, so an operation that is has made no call. The entry
points come from a source whose faults are its own; it is only assumed that it
does not report an absent symbol as an index or a null handle.
-/

namespace ForeignMatrix

open Actions NativeAction

variable {σ : Type} (library : NativeLibrary σ)

/-- Whether the fault reports an index out of range or a null handle. -/
def Fault.precedes : Fault → Bool
  | range .. => true
  | nullHandle _ => true
  | _ => false

/-- The source reports no absent symbol as an index out of range or a null handle. -/
def SymbolSource.Candid (source : SymbolSource) : Prop :=
  ∀ symbol fault, source.resolve symbol = .error fault → fault.precedes = false

/-- A source whose symbols all resolve reports nothing. -/
theorem SymbolSource.candid_of_resolves {source : SymbolSource}
    (h : ∀ symbol, source.resolves symbol = true) : source.Candid := by
  intro symbol fault hf
  have hs := h symbol
  rw [resolves, hf] at hs
  contradiction

/-- The action is not refused for an index out of range or a null handle. -/
def Spares {S α : Type} (action : ExceptT Fault (StateM S) α) : Prop :=
  ∀ s fault, (action s).1 = .error fault → fault.precedes = false

namespace Spares

variable {S α β : Type}

theorem pure (a : α) : Spares (Pure.pure a : ExceptT Fault (StateM S) α) :=
  fun _ _ h => nomatch h

theorem throw {fault : Fault} (hf : fault.precedes = false) :
    Spares (MonadExcept.throw fault : ExceptT Fault (StateM S) α) := by
  intro s other h
  cases h
  exact hf

theorem bind {x : ExceptT Fault (StateM S) α} {f : α → ExceptT Fault (StateM S) β}
    (hx : Spares x) (hf : ∀ a, Spares (f a)) : Spares (x >>= f) := by
  intro s fault h
  rw [bind_apply] at h
  rcases hr : x s with ⟨found | a, t⟩ <;> rw [hr] at h
  · cases h
    exact hx s fault (congrArg Prod.fst hr)
  · exact hf a t fault h

/-- An action that always succeeds is not refused. -/
theorem of_ok {x : ExceptT Fault (StateM S) α} (h : ∀ s, ∃ a, (x s).1 = .ok a) : Spares x := by
  intro s fault hf
  obtain ⟨a, ha⟩ := h s
  rw [ha] at hf
  contradiction

end Spares

/-! ### Native matrices -/

namespace NativeAction

theorem note_spares (notice : Notice) : Spares (note notice : NativeAction σ Unit) :=
  .of_ok fun _ => ⟨(), rfl⟩

theorem ask_spares {α : Type} (call : α → NativeCall) (step : σ → α × σ) :
    Spares (ask call step) := .of_ok fun _ => ⟨_, rfl⟩

theorem run_spares (call : NativeCall) (step : σ → σ) : Spares (run call step) :=
  .of_ok fun _ => ⟨(), rfl⟩

theorem resolve_spares {source : SymbolSource} (hs : source.Candid) (symbol : String) :
    Spares (resolve source symbol : NativeAction σ Unit) := by
  intro s fault h
  unfold resolve at h
  cases hr : source.resolve symbol with
  | ok address =>
    rw [hr] at h
    contradiction
  | error found =>
    rw [hr] at h
    cases h
    exact hs symbol fault hr

theorem check_spares (handle : ErrorHandle) (operation : String) :
    Spares (check library handle operation) := by
  intro s fault h
  unfold check at h
  rw [bind_ok (get_apply s)] at h
  split_ifs at h
  · contradiction
  · cases h
    rfl

theorem withErrorHandle_spares {α : Type} {source : SymbolSource} (hs : source.Candid)
    {body : ErrorHandle → NativeAction σ α} (hb : ∀ handle, Spares (body handle)) :
    Spares (withErrorHandle library source body) := by
  refine .bind (resolve_spares hs _) fun _ => .bind (resolve_spares hs _) fun _ =>
    .bind (ask_spares _ _) fun result => ?_
  cases result with
  | none => exact .throw rfl
  | some handle => exact fun s => hb handle s

end NativeAction

namespace NativeMatrix

variable {matrix : NativeMatrix}

theorem measure_spares (hs : matrix.source.Candid) (handle : ErrorHandle) (which : Measure) :
    Spares (matrix.measure library handle which) :=
  .bind (resolve_spares hs _) fun _ => .bind (ask_spares _ _) fun _ =>
    .bind (check_spares library _ _) fun _ => .pure _

theorem extent_spares (hs : matrix.source.Candid) (handle : ErrorHandle) (which : Measure) :
    Spares (matrix.extent library handle which) := by
  refine .bind (measure_spares library hs handle which) fun value => ?_
  split_ifs
  · exact .throw rfl
  · exact .pure _

theorem storage_spares (hs : matrix.source.Candid) (handle : ErrorHandle) :
    Spares (matrix.storage library handle) :=
  .bind (resolve_spares hs _) fun _ => .bind (ask_spares _ _) fun _ =>
    .bind (check_spares library _ _) fun _ => .pure _

theorem layout_spares (hs : matrix.source.Candid) : Spares (matrix.layout library) :=
  withErrorHandle_spares library hs fun handle =>
    .bind (extent_spares library hs handle _) fun _ =>
    .bind (extent_spares library hs handle _) fun _ =>
    .bind (measure_spares library hs handle _) fun _ =>
    .bind (measure_spares library hs handle _) fun _ =>
    .bind (storage_spares library hs handle) fun _ =>
    .bind (note_spares _) fun _ => .pure _

theorem readElement_spares (hs : matrix.source.Candid) (kind : ElementKind) (row col : Int) :
    Spares (matrix.readElement library kind row col) :=
  .bind (resolve_spares hs _) fun _ => withErrorHandle_spares library hs fun _ =>
    .bind (ask_spares _ _) fun _ => .bind (check_spares library _ _) fun _ => .pure _

theorem writeElement_spares (hs : matrix.source.Candid) (kind : ElementKind) (row col : Int)
    (value : Element kind) : Spares (matrix.writeElement library kind row col value) :=
  .bind (resolve_spares hs _) fun _ => withErrorHandle_spares library hs fun _ =>
    .bind (run_spares _ _) fun _ => check_spares library _ _

theorem release_spares (hs : matrix.source.Candid) : Spares (matrix.release library) := by
  unfold release
  split_ifs
  · exact .bind (resolve_spares hs _) fun _ => withErrorHandle_spares library hs fun _ =>
      .bind (note_spares _) fun _ => .bind (run_spares _ _) fun _ => check_spares library _ _
  · exact .pure ()

theorem checkExtent_spares (symbol axis : String) (extent : Nat) :
    Spares (checkExtent symbol axis extent : NativeAction σ Unit) := by
  unfold checkExtent
  split_ifs
  · exact .pure ()
  · exact .throw rfl

/-- Construction is refused so at most by the source, before the library is called. -/
theorem construct_precedes {source : SymbolSource} {family : SymbolFamily} {rows cols : Nat}
    {s : Session σ} {fault : Fault}
    (hf : (construct library source family rows cols s).1 = .error fault)
    (hp : fault.precedes = true) :
    (construct library source family rows cols s).2.calls = s.calls := by
  unfold construct at hf ⊢
  rcases resolve_apply source (family.symbol .newSized) s with ⟨found, h, -⟩ | ⟨h, -⟩
  · rw [bind_error h]
  · have hrest : fault.precedes = false := by
      rw [bind_ok h] at hf
      refine Spares.bind (checkExtent_spares _ _ _) (fun _ => ?_) s fault hf
      refine .bind (checkExtent_spares _ _ _) fun _ => .bind (note_spares _) fun _ =>
        .bind (ask_spares _ _) fun result => ?_
      cases result with
      | none => exact .throw rfl
      | some pointer => exact .bind (note_spares _) fun _ => .pure _
    rw [hrest] at hp
    contradiction

end NativeMatrix

/-! ### Views -/

namespace ViewAction

theorem native_spares {α : Type} {action : NativeAction σ α} (h : Spares action) :
    Spares (native action) := fun w fault hf => h w.session fault hf

/-- What is refused while nothing refers to the matrix is refused for its own reason. -/
theorem orAbandon_spares {α : Type} {action : NativeAction σ α} (h : Spares action)
    (matrix : NativeMatrix) : Spares (orAbandon library matrix action) := by
  intro s fault hf
  unfold orAbandon at hf
  rw [tryCatch_apply] at hf
  rcases hr : action s with ⟨found | a, t⟩ <;> rw [hr] at hf
  · have hok := (matrix.abandon_release library t).1
    dsimp only at hf
    rw [bind_ok (Prod.ext hok rfl)] at hf
    cases hf
    exact h s fault (congrArg Prod.fst hr)
  · contradiction

theorem windowOf_spares (kind : ElementKind) (layout : NativeLayout) :
    Spares (windowOf kind layout : NativeAction σ Window) := by
  intro s fault hf
  rw [windowOf_fst] at hf
  split_ifs at hf
  cases hf
  rfl

theorem mapM_spares {α β : Type} {step : α → ViewAction σ β} (h : ∀ a, Spares (step a))
    (list : List α) : Spares (list.mapM step) := by
  induction list with
  | nil => exact .pure []
  | cons a list ih =>
    rw [List.mapM_cons]
    exact .bind (h a) fun _ => .bind ih fun _ => .pure _

theorem forM_spares {α : Type} {step : α → ViewAction σ Unit} (h : ∀ a, Spares (step a))
    (list : List α) : Spares (list.forM step) := by
  induction list with
  | nil => exact .pure ()
  | cons a list ih => exact .bind (h a) fun _ => ih

theorem toArray_spares (view : View) : Spares (toArray library view) :=
  mapM_spares (fun _ => mapM_spares (fun _ => .of_ok fun _ => ⟨_, rfl⟩) _) _

theorem fill_spares (view : View) (value : Nat → Nat → Element view.kind) :
    Spares (fill library view value) :=
  forM_spares (fun _ => forM_spares (fun _ => .of_ok fun _ => ⟨(), rfl⟩) _) _

theorem takeHandle_spares (view : View) : Spares (takeHandle view : ViewAction σ (Option Nat)) := by
  unfold takeHandle
  cases view.sharedHandle with
  | none => exact .pure _
  | some matrix => exact .of_ok fun _ => ⟨_, rfl⟩

theorem dropHandle_spares (matrix : Nat) : Spares (dropHandle library matrix) :=
  .of_ok fun _ => ⟨(), (letGo_collects library matrix _).1⟩

theorem drop_spares (id : Nat) : Spares (drop library id) := by
  refine .bind (.of_ok fun w => ?_) fun _ => .bind (.of_ok fun w => ⟨w, rfl⟩) fun w => ?_
  · rw [tryCatch_apply]
    rcases finalize library id w with ⟨fault | done, v⟩ <;> exact ⟨(), rfl⟩
  · cases w.view? id with
    | none => exact .pure ()
    | some view =>
      refine .bind (.of_ok fun _ => ⟨(), rfl⟩) fun _ => ?_
      exact .bind (.of_ok fun v => ⟨(), (letGo?_collects library _ v).1⟩) fun _ =>
        .of_ok fun v => ⟨(), (letGo?_collects library _ v).1⟩

/-- Settling is refused only for the error that destroying the matrix reports. -/
theorem settle_spares {w : Workspace σ} {matrix : Nat}
    (hs : ∀ found, w.matrices matrix = some found → found.source.Candid) (id : Nat) {fault : Fault}
    (hf : (settle library id matrix w).1 = .error fault) : fault.precedes = false := by
  unfold settle at hf
  rw [bind_ok (get_apply w)] at hf
  cases hm : w.matrices matrix with
  | none =>
    rw [hm] at hf
    contradiction
  | some found =>
    rw [hm] at hf
    dsimp only at hf
    split_ifs at hf
    · exact NativeMatrix.release_spares library (hs found hm) w.session fault hf
    · contradiction

/-- Collecting matrices leaves those that stay as they are. -/
theorem collectsAll_fewer {list : List Nat} {w v : Workspace σ}
    (h : CollectsAll library list w v) (number : Nat) :
    v.matrices number = none ∨ v.matrices number = w.matrices number := by
  induction h with
  | nil => exact .inr rfl
  | cons first _ ih =>
    rcases ih with hv | hv
    · exact .inl hv
    rw [hv]
    cases first with
    | kept session hq hr => exact .inr rfl
    | gone found session hm hr hd =>
      change (if number = _ then none else _) = none ∨ (if number = _ then none else _) = _
      split_ifs
      · exact .inl rfl
      · exact .inr rfl

/-- Finalizing is refused only for the error that destroying the matrix reports. -/
theorem finalize_spares {w : Workspace σ}
    (hs : ∀ number matrix, w.matrices number = some matrix → matrix.source.Candid) (id : Nat) :
    ∀ fault, (finalize library id w).1 = .error fault → fault.precedes = false := by
  intro fault hf
  by_cases hex : ∃ view matrix, w.view? id = some view ∧ view.owns = true ∧
      view.handle = some matrix
  · obtain ⟨view, matrix, hv, ho, hh⟩ := hex
    obtain ⟨hok, hk⟩ := letGo?_collects library view.keepAlive (w.setView view.emptied)
    rw [finalize_of_owner library hv ho hh, bind_ok (Prod.ext hok rfl)] at hf
    refine settle_spares library (fun found hfound => ?_) id hf
    rcases collectsAll_fewer library hk matrix with hm | hm
    · rw [hm] at hfound
      contradiction
    · exact hs matrix found (hm.symm.trans hfound)
  · rw [finalize_of_other library] at hf
    · contradiction
    · rintro view hv ⟨ho, hsome⟩
      obtain ⟨matrix, hh⟩ := Option.isSome_iff_exists.mp hsome
      exact hex ⟨view, matrix, hv, ho, hh⟩

end ViewAction

/-! ### Operations -/

/-- If the action is refused for an index out of range or a null handle then no call was made. -/
def Precedes {α : Type} (action : ViewAction σ α) (w : Workspace σ) : Prop :=
  ∀ fault, (action w).1 = .error fault → fault.precedes = true →
    (action w).2.session.calls = w.session.calls

namespace Precedes

variable {α β : Type} {action : ViewAction σ α} {w : Workspace σ}

theorem of_calls (h : (action w).2.session.calls = w.session.calls) : Precedes action w :=
  fun _ _ _ => h

theorem of_spares (h : Spares action) : Precedes action w := by
  intro fault hf hp
  rw [h w fault hf] at hp
  contradiction

/-- A derivation makes no call unless it succeeds. -/
theorem of_derivesFrom {view : View} {action : ViewAction σ Nat}
    (h : DerivesFrom library view action) : Precedes action w := by
  intro fault hf _
  rcases h w with ⟨found, he⟩ | ⟨window, session, -, he⟩ <;> rw [he] at hf ⊢
  contradiction

/-- Looking for the matrix of a view makes no call. -/
theorem liveMatrix {view : View} {operation : String} {f : NativeMatrix → ViewAction σ β}
    (h : ∀ matrix, view.handle.bind w.matrices = some matrix → Precedes (f matrix) w) :
    Precedes (ViewAction.liveMatrix view operation >>= f) w := by
  cases hm : view.handle.bind w.matrices with
  | none =>
    refine of_calls ?_
    rw [bind_error (ViewAction.liveMatrix_none hm _)]
  | some matrix =>
    intro fault
    rw [bind_ok (ViewAction.liveMatrix_ok hm _)]
    exact h matrix hm fault

/-- A check makes no call. -/
theorem checked {result : Except Fault β} {f : β → ViewAction σ α}
    (h : ∀ a, Precedes (f a) w) : Precedes (ViewAction.checked result >>= f) w := by
  cases result with
  | error found => exact of_calls rfl
  | ok a => exact h a

/-- What follows without such a refusal does not count. -/
theorem bind {f : α → ViewAction σ β} (h : Precedes action w) (hf : ∀ a, Spares (f a)) :
    Precedes (action >>= f) w := by
  intro fault he hp
  rw [bind_apply] at he ⊢
  have haction := h fault
  rcases hr : action w with ⟨found | a, t⟩ <;> rw [hr] at he haction
  · cases he
    exact haction rfl hp
  · rw [hf a t fault he] at hp
    contradiction

/-- Forgetting the answer does not change the refusal. -/
theorem silently (h : Precedes action w) : Precedes (ForeignMatrix.silently action) w :=
  h.bind fun _ => .pure ()

theorem withView {id : Nat} {action : View → ViewAction σ Unit}
    (h : ∀ view, w.view? id = some view → Precedes (action view) w) :
    Precedes (ForeignMatrix.withView id action) w := by
  rcases withView_apply id action w with ⟨hw, -⟩ | ⟨view, hv, hw⟩
  · refine .of_calls ?_
    rw [hw]
  · intro fault
    rw [hw]
    exact h view hv fault

end Precedes

namespace ViewAction

variable {w : Workspace σ} {view : View}

/-- An element is reached only after the checks, and then without such a refusal. -/
theorem getElement_precedes
    (hs : ∀ matrix, view.handle.bind w.matrices = some matrix → matrix.source.Candid)
    (row col : Int) : Precedes (getElement library view row col) w := by
  refine .liveMatrix fun matrix hm => .checked fun ij => ?_
  dsimp only
  split_ifs
  · exact .of_calls rfl
  · exact .of_spares (native_spares (NativeMatrix.readElement_spares library (hs matrix hm) _ _ _))

theorem setElement_precedes
    (hs : ∀ matrix, view.handle.bind w.matrices = some matrix → matrix.source.Candid)
    (row col : Int) (value : Element view.kind) :
    Precedes (setElement library view row col value) w := by
  refine .liveMatrix fun matrix hm => .checked fun ij => ?_
  dsimp only
  split_ifs
  · exact .of_calls rfl
  · exact .of_spares
      (native_spares (NativeMatrix.writeElement_spares library (hs matrix hm) _ _ _ _))

theorem getBaseElement_precedes
    (hs : ∀ matrix, view.handle.bind w.matrices = some matrix → matrix.source.Candid)
    (row col : Int) : Precedes (getBaseElement library view row col) w :=
  .liveMatrix fun matrix hm => .checked fun _ => .checked fun _ =>
    .of_spares (native_spares (NativeMatrix.readElement_spares library (hs matrix hm) _ _ _))

end ViewAction

namespace Acquisition

/-- Before there is a matrix, what refuses an acquisition makes no call or is its own fault. -/
theorem obtain_precedes (a : Acquisition) {s : Session σ} {fault : Fault}
    (hf : (a.obtain library s).1 = .error fault) (hp : fault.precedes = true) :
    (a.obtain library s).2.calls = s.calls := by
  unfold obtain ViewAction.obtain at hf ⊢
  cases he : a.existing with
  | none =>
    rw [he] at hf
    dsimp only at hf ⊢
    split_ifs at hf ⊢
    · exact NativeMatrix.construct_precedes library hf hp
    · exact NativeMatrix.construct_precedes library hf hp
  | some pointer =>
    rw [he] at hf
    contradiction

/-- An acquisition whose matrix has a candid source makes no call if it is refused so. -/
theorem perform_precedes (a : Acquisition) {w : Workspace σ}
    (hs : ∀ matrix, a.matrix? library w.session = some matrix → matrix.source.Candid) :
    Precedes (a.perform library) w := by
  by_cases hk : a.shape.kind = a.expected
  · rw [perform_eq library a hk]
    intro fault hf hp
    rcases ho : a.obtain library w.session with ⟨found | matrix, s⟩
    · rw [bind_error (ViewAction.native_apply ho)] at hf ⊢
      cases hf
      have hcalls := a.obtain_precedes library (congrArg Prod.fst ho) hp
      rw [ho] at hcalls
      exact hcalls
    · have hmatrix : a.matrix? library w.session = some matrix := by
        rw [matrix?, if_pos hk, ho]
        rfl
      rw [bind_ok (ViewAction.native_apply ho)] at hf
      have hlayout := NativeMatrix.layout_spares library (hs matrix hmatrix)
      have hrest : Spares (do
          let layout ← ViewAction.native
            (ViewAction.orAbandon library matrix (matrix.layout library))
          let window ← ViewAction.native
            (ViewAction.orAbandon library matrix (ViewAction.windowOf a.shape.kind layout))
          ViewAction.enter (σ := σ) a.shape matrix (layout.rows, layout.cols) window a.parent) :=
        .bind (ViewAction.native_spares (ViewAction.orAbandon_spares library hlayout matrix))
          fun layout => .bind (ViewAction.native_spares (ViewAction.orAbandon_spares library
            (ViewAction.windowOf_spares _ layout) matrix)) fun _ => .of_ok fun _ => ⟨_, rfl⟩
      rw [hrest _ fault hf] at hp
      contradiction
  · unfold perform ViewAction.acquire
    rw [if_pos hk]
    exact .of_calls rfl

end Acquisition

namespace History

variable {h : History σ} {op : Operation σ}

theorem precedes_of_acquires (hq : Acquires library h.workspace op)
    (hs : ∀ e ∈ (h.step library op).acquired, e.matrix.source.Candid) :
    Precedes (op.perform library) h.workspace := by
  rcases hq with ⟨-, hp⟩ | ⟨a, ha, hp⟩
  · refine .of_calls ?_
    rw [hp]
  · intro fault
    rw [hp]
    refine (a.perform_precedes library fun matrix hm => ?_).silently fault
    have hentry : (h.entry library op).map (·.matrix) = some matrix := by
      rw [entry, ha, Option.bind_some, hm]
      rfl
    obtain ⟨e, he, rfl⟩ := Option.map_eq_some_iff.mp hentry
    exact hs e (List.mem_append_left _ (Option.mem_toList.mpr he))

/-- An operation that is refused for an index out of range or a null handle makes no call, if the
matrices that it may reach have candid sources. -/
theorem refused_precedes (hr : Recorded h) (op : Operation σ)
    (hs : ∀ e ∈ (h.step library op).acquired, e.matrix.source.Candid) :
    Precedes (op.perform library) h.workspace := by
  have hheld : ∀ number matrix, h.workspace.matrices number = some matrix →
      matrix.source.Candid := by
    intro number matrix hm
    obtain ⟨e, he, -, rfl⟩ := hr.known number matrix hm
    exact hs e (List.mem_append_right _ he)
  have hview : ∀ view : View, ∀ matrix, view.handle.bind h.workspace.matrices = some matrix →
      matrix.source.Candid := by
    intro view matrix hm
    obtain ⟨number, -, hnumber⟩ := Option.bind_eq_some_iff.mp hm
    exact hheld number matrix hnumber
  cases op with
  | create binder kind shape => exact precedes_of_acquires library (.inr ⟨_, rfl, rfl⟩) hs
  | adopt binder kind shape pointer owns =>
    exact precedes_of_acquires library (.inr ⟨_, rfl, rfl⟩) hs
  | bind binder request parent =>
    exact precedes_of_acquires library (bind_acquires library h.workspace binder request parent) hs
  | derive id transform =>
    exact .withView fun view _ =>
      .silently (.of_derivesFrom library (ViewAction.derive_derivesFrom library view _))
  | deriveAs kind id transform =>
    exact .withView fun view _ =>
      .silently (.of_derivesFrom library (ViewAction.deriveAs_derivesFrom library kind view _))
  | slice id rows cols =>
    exact .withView fun view _ =>
      .silently (.of_derivesFrom library (ViewAction.slice_derivesFrom library view _ _))
  | row id position =>
    exact .withView fun view _ =>
      .silently (.of_derivesFrom library (ViewAction.row_derivesFrom library view _))
  | column id position =>
    exact .withView fun view _ =>
      .silently (.of_derivesFrom library (ViewAction.column_derivesFrom library view _))
  | transpose id =>
    exact .withView fun view _ =>
      .silently (.of_derivesFrom library (ViewAction.transpose_derivesFrom library view))
  | read id i j =>
    exact .withView fun view _ => .silently
      ((ViewAction.getElement_precedes library (hview view) i j).bind fun _ => .pure _)
  | write id i j value =>
    exact .withView fun view _ => ViewAction.setElement_precedes library (hview view) i j _
  | readBase id i j =>
    exact .withView fun view _ => .silently
      ((ViewAction.getBaseElement_precedes library (hview view) i j).bind fun _ => .pure _)
  | toArray id =>
    exact .withView fun view _ => .silently (.of_spares (ViewAction.toArray_spares library view))
  | fill id value =>
    exact .withView fun view _ => .of_spares (ViewAction.fill_spares library view _)
  | finalize id =>
    intro fault hf hp
    rw [ViewAction.finalize_spares library hheld id fault hf] at hp
    contradiction
  | drop id => exact .of_spares (ViewAction.drop_spares library id)
  | takeHandle id =>
    exact .withView fun view _ => .silently (.of_spares (ViewAction.takeHandle_spares view))
  | dropHandle matrix => exact .of_spares (ViewAction.dropHandle_spares library matrix)
  | outside change => exact .of_calls rfl

end History

end ForeignMatrix
