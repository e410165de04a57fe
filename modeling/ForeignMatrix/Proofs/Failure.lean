import ForeignMatrix.Proofs.Derivation.Access
import ForeignMatrix.Proofs.Sessions

/-!
# Refused operations

An operation that acquires or derives a view, or accesses one element, and is
refused leaves the views, the matrices and the references of the workspace as
they are. It may have made calls. The only matrix that they construct or destroy
is the one that the operation obtained itself; if it was constructed, or adopted
with ownership, it is destroyed once. Every other matrix holds what it held. What
a matrix holds is read off the state of the library in any way; it is assumed
that an accessor that reports an error does not change it, and that the calls
that are no accessors change it only where they construct or destroy that matrix.
-/

namespace ForeignMatrix

open Actions NativeAction

variable {σ α : Type} (library : NativeLibrary σ) (contents : MatrixPointer → σ → α)

/-! ### What matrices hold -/

/-- Matrices hold what they hold, whatever is called but an accessor that reports no error. -/
structure NativeLibrary.Guards : Prop where
  /-- Creating an error handle changes no matrix. -/
  newErrorHandle : ∀ held s, contents held (library.newErrorHandle s).2 = contents held s
  /-- Nor does destroying one. -/
  freeErrorHandle : ∀ held handle s,
    contents held (library.freeErrorHandle handle s) = contents held s
  /-- Nor does asking for a number. -/
  measure : ∀ held family which pointer handle s,
    contents held (library.measure family which pointer handle s).2 = contents held s
  /-- Nor does asking for the storage. -/
  data : ∀ held family pointer handle s,
    contents held (library.data family pointer handle s).2 = contents held s
  /-- Constructing a matrix changes no other one. -/
  newSized : ∀ held family rows cols s, (library.newSized family rows cols s).1 ≠ some held →
    contents held (library.newSized family rows cols s).2 = contents held s
  /-- Nor does destroying one. -/
  destroy : ∀ held family pointer handle s, pointer ≠ held →
    contents held (library.destroy family pointer handle s) = contents held s
  /-- Reading an element changes no matrix if it reports an error. -/
  get : ∀ held family kind pointer row col handle s,
    (library.errorState (library.get family kind pointer row col handle s).2 handle).code ≠ 0 →
      contents held (library.get family kind pointer row col handle s).2 = contents held s
  /-- Nor does storing one. -/
  set : ∀ held family kind pointer row col value handle s,
    (library.errorState (library.set family kind pointer row col value handle s) handle).code ≠ 0 →
      contents held (library.set family kind pointer row col value handle s) = contents held s

/-- The matrix holds what it held. -/
def Undisturbed (held : MatrixPointer) (s t : Session σ) : Prop :=
  contents held t.native = contents held s.native

instance (held : MatrixPointer) : Std.Refl (Undisturbed (σ := σ) contents held) :=
  ⟨fun _ => rfl⟩

instance (held : MatrixPointer) : IsTrans (Session σ) (Undisturbed contents held) :=
  ⟨fun _ _ _ hst htu => htu.trans hst⟩

/-! ### Actions of native matrices -/

namespace NativeMatrix

/-- What constructing a matrix answers, and what it does to the library: nothing if it is refused
before the library is called. -/
theorem construct_native (source : SymbolSource) (family : SymbolFamily) (rows cols : Nat)
    (s : Session σ) :
    let made := library.newSized family rows cols s.native
    let answer := construct library source family rows cols s
    (answer.1.toOption = none ∧ answer.2.native = s.native) ∨
      (answer.1.toOption = made.1.map (⟨·, true, family, source⟩) ∧
        answer.2.native = made.2) := by
  dsimp only
  unfold construct
  rcases resolve_apply source (family.symbol .newSized) s with ⟨fault, h, -⟩ | ⟨h, -⟩
  · rw [bind_error h]
    exact .inl ⟨rfl, rfl⟩
  rw [bind_ok h]
  unfold checkExtent
  split_ifs
  · right
    rw [bind_ok (pure_apply () s), bind_ok (pure_apply () s), note, bind_ok (modify_apply _ s),
      bind_ok (ask_apply _ _ _)]
    dsimp only
    rcases library.newSized family rows cols s.native with ⟨_ | pointer, native⟩ <;>
      exact ⟨rfl, rfl⟩
  · exact .inl ⟨rfl, rfl⟩
  · exact .inl ⟨rfl, rfl⟩
  · exact .inl ⟨rfl, rfl⟩

/-- A constructed matrix is owned. -/
theorem construct_owned {source : SymbolSource} {family : SymbolFamily} {rows cols : Nat}
    {s : Session σ} {matrix : NativeMatrix}
    (hm : (construct library source family rows cols s).1.toOption = some matrix) :
    matrix.owned = true := by
  rcases construct_native library source family rows cols s with
    ⟨ha, -⟩ | ⟨ha, -⟩ <;> rw [ha] at hm
  · contradiction
  · obtain ⟨pointer, -, rfl⟩ := Option.map_eq_some_iff.mp hm
    rfl

end NativeMatrix

section Matrices

variable {library contents} {held : MatrixPointer} (hg : library.Guards contents)

include hg

/-- Examining a matrix leaves all of them alone. -/
theorem examines_undisturbed : Examines library (Undisturbed contents held) where
  same _ _ hn _ := congrArg (contents held) hn
  createHandle s := hg.newErrorHandle held s.native
  destroyHandle handle s := hg.freeErrorHandle held handle s.native
  askNumber _ _ _ _ s := hg.measure held _ _ _ _ s.native
  askStorage _ _ _ s := hg.data held _ _ _ s.native

namespace NativeMatrix

theorem construct_undisturbed (source : SymbolSource) (family : SymbolFamily) (rows cols : Nat)
    {s : Session σ} (hne : ∀ matrix ∈ (construct library source family rows cols s).1.toOption,
      matrix.pointer ≠ held) :
    Undisturbed contents held s (construct library source family rows cols s).2 := by
  unfold Undisturbed
  rcases construct_native library source family rows cols s with
    ⟨-, hn⟩ | ⟨ha, hn⟩ <;> rw [hn]
  refine hg.newSized held _ _ _ _ fun hh => ?_
  rw [ha, hh] at hne
  exact hne _ rfl rfl

/-- Giving up a matrix leaves every other one alone, and all of them if it is not owned. -/
theorem abandon_undisturbed (matrix : NativeMatrix)
    (hne : matrix.owned = true → matrix.pointer ≠ held) :
    Moves (Undisturbed contents held) (matrix.abandon library) := by
  have hx : Examines library (Undisturbed contents held) := examines_undisturbed hg
  refine .tryCatch ?_ fun _ => hx.note _
  unfold release
  split_ifs with ho
  · exact .bind (hx.resolve _ _) fun _ => hx.withErrorHandle _ fun _ =>
      .bind (hx.note _) fun _ =>
      .bind (fun s => hg.destroy held _ _ _ s.native (hne ho)) fun _ => hx.check _ _
  · exact .pure ()

end NativeMatrix

end Matrices

/-! ### Acquisitions -/

namespace Acquisition

variable {a : Acquisition} {s : Session σ}

/-- Without a pointer to adopt a matrix is constructed, perhaps after a notice. -/
theorem obtain_constructs (he : a.existing = none) (s : Session σ) :
    ∃ t : Session σ, t.native = s.native ∧ a.obtain library s =
      NativeMatrix.construct library a.source a.shape.family a.shape.rows a.shape.cols t := by
  unfold obtain ViewAction.obtain
  rw [he]
  dsimp only
  split_ifs
  · exact ⟨{ s with notices := .ownershipForced a.shape.suffix :: s.notices }, rfl, rfl⟩
  · exact ⟨s, rfl, rfl⟩

variable {library contents} {held : MatrixPointer}

/-- A matrix is owned if it was constructed, or adopted with ownership. -/
theorem matrix?_owned {matrix : NativeMatrix} (hx : a.matrix? library s = some matrix) :
    matrix.owned = true ↔ a.existing = none ∨ a.owns = some true := by
  cases he : a.existing with
  | none =>
    unfold matrix? at hx
    split_ifs at hx
    obtain ⟨t, -, ht⟩ := obtain_constructs library he s
    rw [ht] at hx
    exact ⟨fun _ => .inl rfl, fun _ => NativeMatrix.construct_owned library hx⟩
  | some pointer =>
    rw [matrix?_adopted library hx he]
    cases a.owns <;> simp

variable (hg : library.Guards contents)

include hg

/-- Obtaining a matrix leaves every other one alone, and all of them if it is not owned. -/
theorem obtain_undisturbed (hne : ∀ matrix ∈ (a.obtain library s).1.toOption,
      matrix.owned = true → matrix.pointer ≠ held) :
    Undisturbed contents held s (a.obtain library s).2 := by
  cases he : a.existing with
  | none =>
    obtain ⟨t, hn, ht⟩ := obtain_constructs library he s
    rw [ht] at hne ⊢
    have hc := NativeMatrix.construct_undisturbed hg a.source a.shape.family a.shape.rows
      a.shape.cols fun matrix hm => hne matrix hm (NativeMatrix.construct_owned library hm)
    exact hc.trans (congrArg (contents held) hn)
  | some pointer =>
    unfold obtain ViewAction.obtain
    rw [he]
    rfl

/-- An acquisition leaves every matrix alone but the one that it obtains, and all of them if that
one is not owned. -/
theorem perform_undisturbed {w : Workspace σ} (hne : ∀ matrix ∈ a.matrix? library w.session,
      matrix.owned = true → matrix.pointer ≠ held) :
    Undisturbed contents held w.session (a.perform library w).2.session := by
  by_cases hk : a.shape.kind = a.expected
  · rw [matrix?, if_pos hk] at hne
    have hobtain := obtain_undisturbed hg hne
    rw [perform_eq library a hk]
    rcases ho : a.obtain library w.session with ⟨fault | matrix, s⟩ <;> rw [ho] at hobtain hne
    · rw [bind_error (ViewAction.native_apply ho)]
      exact hobtain
    rw [bind_ok (ViewAction.native_apply ho)]
    have hx : Examines library (Undisturbed contents held) := examines_undisturbed hg
    have habandon {α : Type} {action : NativeAction σ α}
        (haction : Moves (Undisturbed contents held) action) :
        Moves (Undisturbed contents held) (ViewAction.orAbandon library matrix action) :=
      .tryCatch haction fun _ =>
        .bind (NativeMatrix.abandon_undisturbed hg matrix (hne matrix rfl)) fun _ => .throw _
    -- Once there is a matrix, the rest of the acquisition does the same in every state.
    have hrest : Moves (Across (Undisturbed contents held)) (do
        let layout ← ViewAction.native
          (ViewAction.orAbandon library matrix (matrix.layout library))
        let window ← ViewAction.native
          (ViewAction.orAbandon library matrix (ViewAction.windowOf a.shape.kind layout))
        ViewAction.enter (σ := σ) a.shape matrix (layout.rows, layout.cols) window a.parent) :=
      .bind (Keeps.native (habandon (hx.layout matrix))) fun layout =>
        .bind (Keeps.native (habandon (ViewAction.windowOf_moves hx.note _ layout)))
          fun window => .get_bind fun w => hx.note _ w.session
    exact (hrest { w with session := s }).trans hobtain
  · unfold perform ViewAction.acquire
    rw [if_pos hk]
    rfl

end Acquisition

/-! ### Refused runs -/

/-- Every run of the action that is refused ends in a state related to the one it began in. -/
def Refuses {S β : Type} (R : S → S → Prop) (action : ExceptT Fault (StateM S) β) : Prop :=
  ∀ s fault, (action s).1 = .error fault → R s (action s).2

section Rules

variable {S β γ : Type} {R : S → S → Prop} {x : ExceptT Fault (StateM S) β}
  {f : β → ExceptT Fault (StateM S) γ}

/-- Only the last part of a sequence may be refused in a state that is not related. -/
theorem Refuses.bind [IsTrans S R] (hx : Moves R x) (hf : ∀ a, Refuses R (f a)) :
    Refuses R (x >>= f) := by
  intro s fault hfault
  have h := hx s
  rw [bind_apply] at hfault ⊢
  rcases hr : x s with ⟨cause | a, t⟩ <;> rw [hr] at h hfault
  · exact h
  · exact IsTrans.trans _ _ _ h (hf a t fault hfault)

/-- Answering something else is not refused. -/
theorem Refuses.answer (hx : Refuses R x) (g : β → γ) :
    Refuses R (x >>= fun a => pure (g a)) := by
  intro s fault hfault
  rw [bind_apply] at hfault ⊢
  rcases hr : x s with ⟨cause | a, t⟩ <;> rw [hr] at hfault
  · have h := hx s cause (congrArg Prod.fst hr)
    rw [hr] at h
    exact h
  · contradiction

theorem Refuses.ite {c : Prop} [Decidable c] {y : ExceptT Fault (StateM S) β}
    (hx : Refuses R x) (hy : Refuses R y) : Refuses R (if c then x else y) := by
  split
  · exact hx
  · exact hy

end Rules

section Accesses

variable {library contents} {held : MatrixPointer} (hg : library.Guards contents)

include hg

/-- An action under an error handle is refused with a matrix left alone if it is so under a given
one. -/
theorem withErrorHandle_refuses {β : Type} (source : SymbolSource)
    {body : ErrorHandle → NativeAction σ β}
    (hb : ∀ handle, Refuses (Undisturbed contents held) (body handle)) :
    Refuses (Undisturbed contents held) (withErrorHandle library source body) := by
  have hx : Examines library (Undisturbed contents held) := examines_undisturbed hg
  refine .bind (hx.resolve source _) fun _ => .bind (hx.resolve source _) fun _ =>
    .bind hx.createHandle fun result => ?_
  cases result with
  | none => exact fun s _ _ => Std.Refl.refl s
  | some handle =>
    exact fun s fault hfault => (hx.destroyHandle handle _).trans (hb handle s fault hfault)

/-- A refused read was refused by an error of its accessor, or before the accessor was called. -/
theorem readElement_refuses (matrix : NativeMatrix) (kind : ElementKind) (row col : Int) :
    Refuses (Undisturbed contents held) (matrix.readElement library kind row col) := by
  refine .bind ((examines_undisturbed hg).resolve _ _) fun _ =>
    withErrorHandle_refuses hg _ fun handle => ?_
  intro s fault hfault
  let answer := library.get matrix.family kind matrix.pointer row col handle s.native
  rw [bind_ok (ask_apply _ _ s)] at hfault ⊢
  rcases check_cases library handle (matrix.symbol .get) { s with
      native := answer.2
      calls := .get matrix.family matrix.pointer row col handle :: s.calls } with
    ⟨-, h⟩ | ⟨hcode, code, message, notices, h⟩
  · rw [bind_ok h] at hfault
    contradiction
  · rw [bind_error h]
    exact hg.get held _ _ _ _ _ _ _ hcode

/-- So was a refused store. -/
theorem writeElement_refuses (matrix : NativeMatrix) (kind : ElementKind) (row col : Int)
    (value : Element kind) :
    Refuses (Undisturbed contents held) (matrix.writeElement library kind row col value) := by
  refine .bind ((examines_undisturbed hg).resolve _ _) fun _ =>
    withErrorHandle_refuses hg _ fun handle => ?_
  intro s fault hfault
  let changed := library.set matrix.family kind matrix.pointer row col value handle s.native
  rw [bind_ok (run_apply _ _ s)] at hfault ⊢
  rcases check_cases library handle (matrix.symbol .set) { s with
      native := changed
      calls := .set matrix.family matrix.pointer row col value.widen handle :: s.calls } with
    ⟨-, h⟩ | ⟨hcode, code, message, notices, h⟩
  · rw [h] at hfault
    contradiction
  · rw [h]
    exact hg.set held _ _ _ _ _ _ _ _ hcode

theorem getElement_refuses (view : View) (row col : Int) :
    Refuses (Across (Undisturbed contents held)) (ViewAction.getElement library view row col) := by
  refine .bind (Keeps.liveMatrix view _) fun matrix => .bind (Keeps.checked _) fun ij => ?_
  -- Reading from memory is never refused.
  refine .ite (fun w fault hfault => ?_) fun w fault hfault => ?_
  · contradiction
  · exact readElement_refuses hg matrix _ row col w.session fault hfault

theorem setElement_refuses (view : View) (row col : Int) (value : Element view.kind) :
    Refuses (Across (Undisturbed contents held))
      (ViewAction.setElement library view row col value) := by
  refine .bind (Keeps.liveMatrix view _) fun matrix => .bind (Keeps.checked _) fun ij => ?_
  -- Nor is storing to it.
  refine .ite (fun w fault hfault => ?_) fun w fault hfault => ?_
  · contradiction
  · exact writeElement_refuses hg matrix _ row col value w.session fault hfault

theorem getBaseElement_refuses (view : View) (row col : Int) :
    Refuses (Across (Undisturbed contents held))
      (ViewAction.getBaseElement library view row col) :=
  .bind (Keeps.liveMatrix view _) fun matrix => .bind (Keeps.checked _) fun _ =>
    .bind (Keeps.checked _) fun _ w fault hfault =>
    readElement_refuses hg matrix _ row col w.session fault hfault

end Accesses

/-! ### Refused operations -/

namespace Operation

/-- The operation acquires or derives a view or accesses one element. -/
def Attempts : Operation σ → Prop
  | toArray _ | fill _ _ | finalize _ | drop _ | takeHandle _ | dropHandle _ | outside _ => False
  | _ => True

/-- Matrix that an operation obtains, whether or not a view is made of it. -/
def obtained (op : Operation σ) (w : Workspace σ) : Option NativeMatrix :=
  (op.acquisition w).bind fun a => a.matrix? library w.session

end Operation

/-- What a refused operation leaves of a workspace. -/
structure Harmless (op : Operation σ) (w v : Workspace σ) : Prop where
  /-- Views, matrices, references and the next identities are as they were. -/
  kept : v = { w with session := v.session }
  /-- Calls were added. None of them destroys a matrix but one that the operation obtained itself
  and owns. With the entry points in place that one is destroyed, unless the last call made was for
  the error handle that this takes, and was answered by a null one. -/
  calls : ∃ made, v.session.calls = made ++ w.session.calls ∧
    (destroyed made = [] ∨
      destroyed made = ((op.obtained library w).bind NativeMatrix.duty).toList) ∧
    ∀ matrix ∈ op.obtained library w, matrix.destroyable = true →
      made.head? ≠ some (.newErrorHandle none) → destroyed made = matrix.duty.toList
  /-- Every other matrix holds what it held. -/
  contents : ∀ held,
    (∀ matrix ∈ op.obtained library w, matrix.owned = true → matrix.pointer ≠ held) →
      contents held v.session.native = contents held w.session.native

namespace Harmless

variable {library contents} {op : Operation σ} {w : Workspace σ} {session : Session σ}

/-- Where no matrix was obtained, the calls destroy none. -/
theorem of_quiet (ho : op.obtained library w = none) (hq : Quiet library w.session session)
    (hc : ∀ held, Undisturbed contents held w.session session) :
    Harmless library contents op w { w with session } := by
  obtain ⟨made, hmade⟩ := hq.grows
  have hsame : destroyed made ++ destroyed w.session.calls = destroyed w.session.calls := by
    rw [← destroyed_append, hmade, hq.same]
  refine ⟨rfl, ⟨made, hmade.symm, .inl (List.append_left_eq_self.mp hsame), ?_⟩,
    fun held _ => hc held⟩
  rw [ho]
  nofun

/-- Where one was obtained, it was given up. -/
theorem of_discharges {matrix : NativeMatrix} (ho : op.obtained library w = some matrix)
    (hd : Discharges library matrix w.session session)
    (hc : ∀ held, (matrix.owned = true → matrix.pointer ≠ held) →
      Undisturbed contents held w.session session) :
    Harmless library contents op w { w with session } := by
  obtain ⟨made, hmade⟩ := hd.grows
  have happend : destroyed session.calls = destroyed made ++ destroyed w.session.calls := by
    rw [← hmade, destroyed_append]
  refine ⟨rfl, ⟨made, hmade.symm, ?_, fun other hother ht hlast => ?_⟩, fun held hne => ?_⟩
  · rw [ho]
    refine hd.atMost.imp (fun h => ?_) fun h => ?_ <;> rw [happend] at h
    · exact List.append_left_eq_self.mp h
    · exact List.append_cancel_right h
  · rw [ho] at hother
    cases hother
    have hlast' := hd.last (fun _ => ht) made hmade.symm hlast
    rw [happend] at hlast'
    exact List.append_cancel_right hlast'
  · exact hc held (hne matrix ho)

/-- An operation that changed nothing is harmless. -/
theorem refl (ho : op.obtained library w = none) : Harmless library contents op w w :=
  of_quiet ho (Std.Refl.refl _) fun _ => rfl

variable {fault : Fault} (hf : (op.perform library w).1 = .error fault)

include hf

/-- A refused derivation is harmless. -/
theorem of_derivesFrom {id : Nat} {action : View → ViewAction σ Nat}
    (ha : op.acquisition w = none)
    (hp : op.perform library = withView id fun view => silently (action view))
    (hd : ∀ view, DerivesFrom library view (action view)) :
    Harmless library contents op w (op.perform library w).2 := by
  have ho : op.obtained library w = none := by rw [Operation.obtained, ha]; rfl
  rw [hp] at hf ⊢
  rcases withView_apply id (fun view => silently (action view)) w with ⟨hw, -⟩ | ⟨view, -, hw⟩ <;>
    rw [hw] at hf ⊢
  · contradiction
  rw [(silently_apply _ _).1]
  rcases hd view w with ⟨cause, he⟩ | ⟨window, session, -, he⟩
  · rw [he]
    exact .refl ho
  · rw [silently, bind_ok he] at hf
    contradiction

/-- A refused access is harmless. -/
theorem of_refuses {id : Nat} {action : View → ViewAction σ Unit}
    (ha : op.acquisition w = none) (hp : op.perform library = withView id action)
    (hm : ∀ view, Moves (Steady library) (action view))
    (hr : ∀ view held, Refuses (Across (Undisturbed contents held)) (action view)) :
    Harmless library contents op w (op.perform library w).2 := by
  have ho : op.obtained library w = none := by rw [Operation.obtained, ha]; rfl
  rw [hp] at hf ⊢
  rcases withView_apply id action w with ⟨hw, -⟩ | ⟨view, -, hw⟩ <;> rw [hw] at hf ⊢
  · contradiction
  obtain ⟨session, hq, hs⟩ := hm view w
  rw [hs]
  refine .of_quiet ho hq fun held => ?_
  have hc := hr view held w fault hf
  rw [hs] at hc
  exact hc

/-- A refused acquisition is harmless. -/
theorem of_acquires (hg : library.Guards contents) (hq : Acquires library w op) :
    Harmless library contents op w (op.perform library w).2 := by
  rcases hq with ⟨ha, hp⟩ | ⟨a, ha, hp⟩
  · rw [hp]
    exact .refl (by rw [Operation.obtained, ha]; rfl)
  have ho : op.obtained library w = a.matrix? library w.session := by
    rw [Operation.obtained, ha]
    rfl
  have hc : ∀ held, (∀ matrix ∈ a.matrix? library w.session,
      matrix.owned = true → matrix.pointer ≠ held) →
        Undisturbed contents held w.session (a.perform library w).2.session :=
    fun held => Acquisition.perform_undisturbed hg
  rw [hp] at hf ⊢
  rw [(silently_apply _ _).1]
  rcases a.perform_cases library w with
    ⟨cause, session, he, hx, hquiet⟩ | ⟨matrix, cause, session, he, hx, -, hd⟩ |
      ⟨matrix, layout, session, he, -, -, -⟩
  · rw [he] at hc ⊢
    refine .of_quiet (ho.trans hx) hquiet fun held => hc held ?_
    rw [hx]
    nofun
  · rw [he] at hc ⊢
    refine .of_discharges (ho.trans hx) hd fun held hne => hc held fun other hother => ?_
    rw [hx] at hother
    cases hother
    exact hne
  · rw [silently, bind_ok he] at hf
    contradiction

end Harmless

/-- A refused operation is harmless. -/
theorem Operation.harmless {library : NativeLibrary σ} {contents : MatrixPointer → σ → α}
    (hg : library.Guards contents) {op : Operation σ} (ha : op.Attempts) {w : Workspace σ}
    {fault : Fault} (hf : (op.perform library w).1 = .error fault) :
    Harmless library contents op w (op.perform library w).2 := by
  cases op with
  | create binder kind shape => exact .of_acquires hf hg (.inr ⟨_, rfl, rfl⟩)
  | adopt binder kind shape pointer owns => exact .of_acquires hf hg (.inr ⟨_, rfl, rfl⟩)
  | bind binder request parent =>
    exact .of_acquires hf hg (bind_acquires library w binder request parent)
  | derive id transform =>
    exact .of_derivesFrom hf rfl rfl fun view => ViewAction.derive_derivesFrom library view _
  | deriveAs kind id transform =>
    exact .of_derivesFrom hf rfl rfl fun view =>
      ViewAction.deriveAs_derivesFrom library kind view _
  | slice id rows cols =>
    exact .of_derivesFrom hf rfl rfl fun view => ViewAction.slice_derivesFrom library view _ _
  | row id position =>
    exact .of_derivesFrom hf rfl rfl fun view => ViewAction.row_derivesFrom library view _
  | column id position =>
    exact .of_derivesFrom hf rfl rfl fun view => ViewAction.column_derivesFrom library view _
  | transpose id =>
    exact .of_derivesFrom hf rfl rfl fun view => ViewAction.transpose_derivesFrom library view
  | read id i j =>
    exact .of_refuses hf rfl rfl
      (fun view => History.silently_steady library (ViewAction.read_steady library view i j))
      fun view _ => ((getElement_refuses hg view i j).answer _).answer _
  | write id i j value =>
    exact .of_refuses hf rfl rfl (fun view => ViewAction.write_steady library view i j value)
      fun view _ => setElement_refuses hg view i j _
  | readBase id i j =>
    exact .of_refuses hf rfl rfl
      (fun view => History.silently_steady library (ViewAction.readBase_steady library view i j))
      fun view _ => ((getBaseElement_refuses hg view i j).answer _).answer _
  | _ => exact ha.elim

/-! ### Requests that are refused at once -/

/-- A name of no element kind is refused before anything is done. -/
theorem Binder.bind_unnamed (binder : Binder) {request : ViewRequest} {name : String}
    (hn : request.kindName = some name) (hk : ElementKind.ofName? name = none) (w : Workspace σ) :
    binder.bind library request w = (.error (.invalidType name ElementKind.supported), w) := by
  unfold bind requestedKind ElementKind.ofName
  rw [hn]
  dsimp only
  rw [hk]
  rfl

/-- A null pointer is refused right after the name. -/
theorem Binder.bind_null (binder : Binder) {request : ViewRequest} {kind : ElementKind}
    (hk : binder.requestedKind request = .ok kind) (hn : request.existing = some none)
    (w : Workspace σ) :
    binder.bind library request w =
      (.error (.nullHandle ("wrap " ++ (requestedShape request kind).suffix)), w) := by
  unfold bind requestedPointer
  rw [hk, hn]
  rfl

/-- A shape of another kind than expected is refused before anything is done. -/
theorem Acquisition.perform_mismatched {a : Acquisition} (hk : a.shape.kind ≠ a.expected)
    (w : Workspace σ) :
    a.perform library w =
      (.error (.invalidType a.shape.kind.name ("(" ++ a.expected.name ++ ")")), w) := by
  unfold perform ViewAction.acquire
  rw [if_pos hk]
  rfl

/-- Every operation that acquires or derives a view or accesses one element is harmless if it is
refused; of the matrices it can obtain it owns those that it constructed or adopted with ownership.
A name of no element kind, a null pointer and a shape of another kind than expected are refused
without a call. -/
theorem refusals_harmless {library : NativeLibrary σ} {contents : MatrixPointer → σ → α}
    (hg : library.Guards contents) (w : Workspace σ) :
    (∀ (op : Operation σ) (fault : Fault), op.Attempts →
      (op.perform library w).1 = .error fault →
        Harmless library contents op w (op.perform library w).2) ∧
    (∀ (a : Acquisition) (matrix : NativeMatrix), a.matrix? library w.session = some matrix →
      (matrix.owned = true ↔ a.existing = none ∨ a.owns = some true)) ∧
    (∀ (binder : Binder) (request : ViewRequest) (name : String),
      request.kindName = some name → ElementKind.ofName? name = none →
        binder.bind library request w = (.error (.invalidType name ElementKind.supported), w)) ∧
    (∀ (binder : Binder) (request : ViewRequest) (kind : ElementKind),
      binder.requestedKind request = .ok kind → request.existing = some none →
        binder.bind library request w =
          (.error (.nullHandle ("wrap " ++ (Binder.requestedShape request kind).suffix)), w)) ∧
    ∀ (binder : Binder) (kind : ElementKind) (shape : Shape), shape.kind ≠ kind →
      let refused := (.error (.invalidType shape.kind.name ("(" ++ kind.name ++ ")")), w)
      binder.create library kind shape w = refused ∧
        ∀ pointer owns, binder.adopt library kind shape pointer owns w = refused :=
  ⟨fun _ _ ha hf => Operation.harmless hg ha hf, fun _ _ hx => Acquisition.matrix?_owned hx,
    fun binder _ _ hn hk => binder.bind_unnamed library hn hk w,
    fun binder _ _ hk hn => binder.bind_null library hk hn w,
    fun binder kind shape hk =>
      ⟨Acquisition.perform_mismatched library (a := ⟨binder.source, kind, shape, none, none, none⟩)
        hk w,
      fun pointer owns => Acquisition.perform_mismatched library
        (a := ⟨binder.source, kind, shape, some pointer, some owns, none⟩) hk w⟩⟩

namespace History

/-- A library whose matrices have one element each, which can be stored once, and of which the
second reports an error when it is asked for its number of columns. Its state is the code in the
only error handle, the number of the next matrix and what is in memory. -/
def locker : NativeLibrary (Int × Nat × (Int → Element .double)) where
  newErrorHandle s := (some ⟨0⟩, 0, s.2)
  freeErrorHandle _ s := s
  errorState s _ := { code := s.1 }
  newSized _ _ _ s := (some ⟨s.2.1⟩, s.1, s.2.1 + 1, s.2.2)
  destroy _ pointer _ s := (0, s.2.1, board.store .double (place pointer) default s.2.2)
  get _ kind pointer _ _ _ s := (board.load kind (place pointer) s.2.2, 0, s.2)
  set _ kind pointer _ _ value _ s :=
    if board.load .double (place pointer) s.2.2 = default then
      (0, s.2.1, board.store kind (place pointer) value s.2.2)
    else (5, s.2)
  measure _ which pointer _ s :=
    (1, if which = .cols ∧ pointer.number = 1 then 3 else 0, s.2)
  data _ pointer _ s := (place pointer, 0, s.2)
  load kind address s := board.load kind address s.2.2
  store kind address value s := (s.1, s.2.1, board.store kind address value s.2.2)
where
  /-- Address of the element of a matrix. -/
  place (pointer : MatrixPointer) : Int := 8 * (pointer.number + 1)

/-- Element of a matrix of the locker. -/
def locker.element (held : MatrixPointer) (s : Int × Nat × (Int → Element .double)) :
    Element.Binary .double := board.load .double (place held) s.2.2

/-- The elements of the locker are at places of their own, and one that was stored stays. -/
theorem locker_guards : locker.Guards locker.element where
  newErrorHandle _ _ := rfl
  freeErrorHandle _ _ _ := rfl
  measure _ _ _ _ _ _ := rfl
  data _ _ _ _ _ := rfl
  newSized _ _ _ _ _ _ := rfl
  destroy := by
    intro held family pointer handle s hne
    have hplace : locker.place held ≠ locker.place pointer := fun he => hne <| by
      have hnumber : pointer.number = held.number := by
        unfold locker.place at he
        omega
      exact congrArg MatrixPointer.mk hnumber
    exact if_neg hplace
  get _ _ _ _ _ _ _ _ _ := rfl
  set := by
    intro held family kind pointer row col value handle s hcode
    unfold locker at hcode ⊢
    dsimp only at hcode ⊢
    split_ifs at hcode ⊢
    · exact absurd rfl hcode
    · rfl

/-- An element is stored. A second matrix reports no layout and is destroyed; and the element cannot
be stored again. Neither refusal changes a view or the element. -/
theorem refusals_harmless_locker :
    let family := (Shape.fixed 1 1 .double).family
    let one : Element.Binary .double := .ofMagnitude .double false 1
    let create : Operation (Int × Nat × (Int → Element .double)) :=
      .create (shelfBinder {}) .double (.fixed 1 1 .double)
    let w := ((start (0, 0, fun _ => default)).run locker [create, .write 1 0 0 one]).workspace
    let created := (create.perform locker w).2
    let written := (Operation.perform locker (.write 1 0 0 default) w).2
    locker.element ⟨0⟩ w.session.native = one ∧
      created.views = w.views ∧ locker.element ⟨0⟩ created.session.native = one ∧
      (∃ made, created.session.calls = made ++ w.session.calls ∧
        destroyed made = [(family, ⟨1⟩)]) ∧
      written.views = w.views ∧ locker.element ⟨0⟩ written.session.native = one := by
  intro family one create w created written
  have hone : locker.element ⟨0⟩ w.session.native = one := by decide +kernel
  obtain ⟨hall, -⟩ := refusals_harmless locker_guards w
  have hcreated := hall create (.nativeOperation (family.symbol .cols) 3 "(no message)") trivial
    (by decide +kernel)
  have hwritten := hall (.write 1 0 0 default)
    (.nativeOperation (family.symbol .set) 5 "(no message)") trivial (by decide +kernel)
  have hobtained : (create.obtained locker w).map
        (fun matrix => (matrix.duty, matrix.pointer, matrix.destroyable)) =
      some (some (family, ⟨1⟩), ⟨1⟩, true) := by decide +kernel
  obtain ⟨matrix, hmatrix, hparts⟩ := Option.map_eq_some_iff.mp hobtained
  obtain ⟨hduty, hpointer, hready⟩ : matrix.duty = some (family, ⟨1⟩) ∧ matrix.pointer = ⟨1⟩ ∧
    matrix.destroyable = true := by simpa using hparts
  have hviews : created.views = w.views := (congrArg Workspace.views hcreated.kept).trans rfl
  have hviews' : written.views = w.views := (congrArg Workspace.views hwritten.kept).trans rfl
  refine ⟨hone, hviews, ?_, ?_, hviews', (hwritten.contents ⟨0⟩ nofun).trans hone⟩
  · refine (hcreated.contents ⟨0⟩ fun other hother _ he => ?_).trans hone
    rw [hmatrix] at hother
    cases hother
    rw [hpointer] at he
    contradiction
  · obtain ⟨made, hmade, -, hlast⟩ := hcreated.calls
    have hhead : made.head? ≠ some (.newErrorHandle none) := by
      intro hh
      have hfirst : created.session.calls.head? = some (.freeErrorHandle ⟨0⟩) := by decide +kernel
      rw [hmade, List.head?_append, hh, Option.some_or] at hfirst
      cases hfirst
    exact ⟨made, hmade, (hlast matrix hmatrix hready hhead).trans (congrArg Option.toList hduty)⟩

end History

end ForeignMatrix
