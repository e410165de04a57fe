import ForeignMatrix.Proofs.Derivation.Lineage
import ForeignMatrix.Proofs.Refusal

/-!
# Indices that reach the native accessors

The native accessors check no index, so the binder has to. Whatever view an
element is accessed through, a native accessor is called with the indices that
were given and only if they lie within the extents that the matrix reported.
The checks compare them with the window of the view and, for an access to the
matrix itself, with the reported extents. A derived view, whose window may be
longer than the matrix on an axis, calls the accessor for the latter only.
-/

namespace ForeignMatrix

open Actions NativeAction

variable {σ : Type} (library : NativeLibrary σ)

/-! ### Calls of the accessors -/

/-- Matrix and indices that a call of an accessor is given. -/
def NativeCall.element? : NativeCall → Option (MatrixPointer × Int × Int)
  | .get _ matrix row col _ => some (matrix, row, col)
  | .set _ matrix row col _ _ => some (matrix, row, col)
  | _ => none

/-- Elements that the calls of accessors were about, the latest first. -/
def accessed (calls : List NativeCall) : List (MatrixPointer × Int × Int) :=
  calls.filterMap NativeCall.element?

/-- Calls were added, at most one of them of an accessor, for the given element. If the accessor is
available there is exactly one. -/
def Visits (available : Prop) (element : MatrixPointer × Int × Int) (s t : Session σ) : Prop :=
  ∃ made, t.calls = made ++ s.calls ∧ (accessed made = [] ∨ accessed made = [element]) ∧
    (available → accessed made = [element])

namespace NativeMatrix

variable {matrix : NativeMatrix} {s : Session σ}

/-- An action under an error handle that makes one call of an accessor makes none where a symbol is
missing or the handle is null, and one otherwise. -/
theorem guarded_visits {α : Type} {entry : Entry} {element : MatrixPointer × Int × Int}
    {body : ErrorHandle → NativeAction σ α}
    (hb : ∀ handle t, ∃ call : NativeCall, call.element? = some element ∧
      (body handle t).2.calls = call :: t.calls) :
    Visits (matrix.Serves entry ∧ (library.newErrorHandle s.native).1 ≠ none) element s
      ((do
        resolve matrix.source (matrix.symbol entry)
        withErrorHandle library matrix.source body) s).2 := by
  have hvisited : ∀ handle native,
      ∃ made, (releasing library handle (body handle)
        { s with native, calls := .newErrorHandle (some handle) :: s.calls }).2.calls =
          made ++ s.calls ∧ accessed made = [element] := by
    intro handle native
    obtain ⟨call, hcall, hcalls⟩ := hb handle
      { s with native, calls := .newErrorHandle (some handle) :: s.calls }
    refine ⟨[.freeErrorHandle handle, call, .newErrorHandle (some handle)], ?_, ?_⟩
    · exact congrArg (List.cons _) hcalls
    · rw [accessed, List.filterMap_cons_none rfl, List.filterMap_cons_some hcall]
      rfl
  -- The cases of `withErrorHandle` do not say when a handle is available, so that is split off
  -- first: with one the call is made, without one at most one call is.
  by_cases havailable : matrix.Serves entry ∧ (library.newErrorHandle s.native).1 ≠ none
  · obtain ⟨hserves, hne⟩ := havailable
    obtain ⟨handle, hh⟩ := Option.ne_none_iff_exists'.mp hne
    rw [bind_ok (resolve_ok hserves.symbol s),
      withErrorHandle_handed library hserves.create hserves.destroy (Prod.ext hh rfl)]
    obtain ⟨made, hmade, hone⟩ := hvisited handle (library.newErrorHandle s.native).2
    exact ⟨made, hmade, .inr hone, fun _ => hone⟩
  rcases resolve_apply matrix.source (matrix.symbol entry) s with ⟨fault, h, -⟩ | ⟨h, -⟩
  · rw [bind_error h]
    exact ⟨[], rfl, .inl rfl, fun ha => absurd ha havailable⟩
  rw [bind_ok h]
  rcases withErrorHandle_cases library matrix.source body s with
    ⟨fault, h, -⟩ | ⟨fault, native, h, -⟩ | ⟨handle, native, h⟩ <;> rw [h]
  · exact ⟨[], rfl, .inl rfl, fun ha => absurd ha havailable⟩
  · exact ⟨[.newErrorHandle none], rfl, .inl rfl, fun ha => absurd ha havailable⟩
  · obtain ⟨made, hmade, hone⟩ := hvisited handle native
    exact ⟨made, hmade, .inr hone, fun _ => hone⟩

/-- Answering something else keeps the state. -/
theorem bind_pure_state {S α β : Type} (x : ExceptT Fault (StateM S) α) (f : α → β) (s : S) :
    ((x >>= fun a => pure (f a)) s).2 = (x s).2 := by
  rw [bind_apply]
  rcases x s with ⟨fault | a, t⟩ <;> rfl

/-- A check makes no call. -/
theorem check_calls (handle : ErrorHandle) (operation : String) (s : Session σ) :
    (check library handle operation s).2.calls = s.calls := by
  rcases check_cases library handle operation s with ⟨-, h⟩ | ⟨-, code, message, notices, h⟩ <;>
    rw [h]

theorem readElement_visits (kind : ElementKind) (row col : Int) :
    Visits (matrix.Serves .get ∧ (library.newErrorHandle s.native).1 ≠ none)
      (matrix.pointer, row, col) s (matrix.readElement library kind row col s).2 := by
  refine guarded_visits library fun handle t =>
    ⟨.get matrix.family matrix.pointer row col handle, rfl, ?_⟩
  rw [bind_ok (ask_apply _ _ t), bind_pure_state]
  exact check_calls library handle _ _

theorem writeElement_visits (kind : ElementKind) (row col : Int) (value : Element kind) :
    Visits (matrix.Serves .set ∧ (library.newErrorHandle s.native).1 ≠ none)
      (matrix.pointer, row, col) s (matrix.writeElement library kind row col value s).2 := by
  refine guarded_visits library fun handle t =>
    ⟨.set matrix.family matrix.pointer row col value.widen handle, rfl, ?_⟩
  rw [bind_ok (run_apply _ _ t)]
  exact check_calls library handle _ _

end NativeMatrix

/-! ### Accesses -/

/-- An access to one element of a view. -/
inductive Access (kind : ElementKind) where
  /-- Reads an element of the view. -/
  | get
  /-- Stores an element of the view. -/
  | set (value : Element kind)
  /-- Reads an element of the matrix itself. -/
  | base

namespace Access

/-- Carries out an access. -/
def perform (view : View) : Access view.kind → Int → Int → ViewAction σ Unit
  | get, i, j => silently (ViewAction.getElement library view i j)
  | set value, i, j => ViewAction.setElement library view i j value
  | base, i, j => silently (ViewAction.getBaseElement library view i j)

/-- Accessor that serves it. -/
def entry {kind : ElementKind} : Access kind → Entry
  | get | base => .get
  | set _ => .set

/-- The bounds checks of the access pass. -/
def Admits (view : View) : Access view.kind → Int → Int → Prop
  | get, i, j | set _, i, j => Inside view.window.extents i j
  | base, i, j => Inside view.window.extents i j ∧ Inside view.base i j

/-- Whether the access goes through an accessor and not through memory. -/
def calls (view : View) : Access view.kind → Bool
  | get | set _ => !view.derived
  | base => true

/-- The access, within the session and through the accessor. -/
def call {kind : ElementKind} (matrix : NativeMatrix) :
    Access kind → Int → Int → NativeAction σ Unit
  | get, i, j | base, i, j => silently (matrix.readElement library kind i j)
  | set value, i, j => matrix.writeElement library kind i j value

/-- The accessor and the entry points for error handles resolve, and an error handle is handed
out. -/
def Available (w : Workspace σ) (view : View) (access : Access view.kind) : Prop :=
  (∀ matrix, view.handle.bind w.matrices = some matrix → matrix.Serves access.entry) ∧
    (library.newErrorHandle w.session.native).1 ≠ none

section Performing

variable {view : View} {access : Access view.kind} {w : Workspace σ} {matrix : NativeMatrix}
  {i j : Int}

theorem call_visits {s : Session σ} :
    Visits (matrix.Serves access.entry ∧ (library.newErrorHandle s.native).1 ≠ none)
      (matrix.pointer, i, j) s (access.call library matrix i j s).2 := by
  cases access with
  | get | base =>
    rw [call, (silently_apply _ _).1]
    exact NativeMatrix.readElement_visits library _ i j
  | set value => exact NativeMatrix.writeElement_visits library _ i j value

/-- Without a matrix nothing is done. -/
theorem perform_dead (hm : view.handle.bind w.matrices = none) :
    (access.perform library view i j w).2 = w := by
  have hdead := ViewAction.liveMatrix_none hm
  cases access with
  | get =>
    rw [perform, (silently_apply _ _).1, ViewAction.getElement, bind_error (hdead _)]
  | set value => rw [perform, ViewAction.setElement, bind_error (hdead _)]
  | base =>
    rw [perform, (silently_apply _ _).1, ViewAction.getBaseElement, bind_error (hdead _)]

/-- An access whose checks do not pass does nothing. -/
theorem perform_refused (hm : view.handle.bind w.matrices = some matrix)
    (ha : ¬access.Admits view i j) : (access.perform library view i j w).2 = w := by
  cases access with
  | get =>
    have hout : ∃ axis index bound, ViewAction.getElement library view i j w =
        (.error (.range axis index bound), w) := ViewAction.access_outside hm ha _
    obtain ⟨axis, index, bound, h⟩ := hout
    rw [perform, (silently_apply _ _).1, h]
  | set value =>
    have hout : ∃ axis index bound, ViewAction.setElement library view i j value w =
        (.error (.range axis index bound), w) := ViewAction.access_outside hm ha _
    obtain ⟨axis, index, bound, h⟩ := hout
    rw [perform, h]
  | base =>
    have hout : ∃ axis index bound, ViewAction.getBaseElement library view i j w =
        (.error (.range axis index bound), w) := by
      by_cases hi : Inside view.window.extents i j
      · obtain ⟨axis, index, bound, hc⟩ := checkIndices_outside fun hb => ha ⟨hi, hb⟩
        refine ⟨axis, index, bound, ?_⟩
        unfold ViewAction.getBaseElement
        rw [ViewAction.access_inside hm hi, hc, ViewAction.checked, bind_error (throw_apply _ w)]
      · exact ViewAction.access_outside hm hi _
    obtain ⟨axis, index, bound, h⟩ := hout
    rw [perform, (silently_apply _ _).1, h]

/-- An access whose checks pass goes through the accessor or makes no call. -/
theorem perform_admitted (hm : view.handle.bind w.matrices = some matrix)
    (ha : access.Admits view i j) :
    (access.perform library view i j w).2.session.calls =
      if access.calls view = true then (access.call library matrix i j w.session).2.calls
      else w.session.calls := by
  cases access with
  | get =>
    rw [perform, call, (silently_apply _ _).1, (silently_apply _ _).1, ViewAction.getElement,
      ViewAction.access_inside hm ha]
    unfold calls
    cases view.derived <;> rfl
  | set value =>
    rw [perform, call, ViewAction.setElement, ViewAction.access_inside hm ha]
    unfold calls
    cases view.derived <;> rfl
  | base =>
    rw [perform, call, (silently_apply _ _).1, (silently_apply _ _).1, ViewAction.getBaseElement,
      ViewAction.access_inside hm ha.1, checkIndices_inside ha.2, ViewAction.checked,
      bind_ok (pure_apply _ w)]
    rfl

/-- No bounds check passes on a view that shows no element. -/
theorem not_admits_hollow (he : view.window.extents = (0, 0)) : ¬access.Admits view i j := by
  have hnone : ¬Inside view.window.extents i j := by
    rw [he]
    rintro ⟨⟨hr, hr'⟩, -⟩
    exact absurd hr' (Int.not_lt.mpr hr)
  cases access with
  | get | set value => exact hnone
  | base => exact fun ha => hnone ha.1

/-- Indices that reach an accessor are within the extents that the matrix reported. -/
theorem inside_layout {layout : NativeLayout}
    (hx : Inherits view layout) (ha : access.Admits view i j)
    (hc : access.calls view = true) : Inside (layout.rows, layout.cols) i j := by
  have hacquired : view.derived = false → Inside view.window.extents i j →
      Inside (layout.rows, layout.cols) i j := fun hd hi => Window.inside_ofLayout (hx.whole hd ▸ hi)
  cases access with
  | get | set value => exact hacquired (by simpa [calls] using hc) ha
  | base => exact hx.base ▸ ha.2

/-- An access is refused for an index or a null handle only before any call. -/
theorem perform_precedes
    (hs : ∀ matrix, view.handle.bind w.matrices = some matrix → matrix.source.Candid) :
    Precedes (access.perform library view i j) w := by
  cases access with
  | get => exact .silently (ViewAction.getElement_precedes library hs i j)
  | set value => exact ViewAction.setElement_precedes library hs i j value
  | base => exact .silently (ViewAction.getBaseElement_precedes library hs i j)

end Performing

end Access

namespace History

variable {h : History σ}

/-- Calls that an access to an element of a view may make: one of an accessor only if the checks of
the access pass and it does not go through memory, and then with the given indices, which are within
the extents that the matrix reported. If the accessor is available it is called then, and once. -/
structure Bounded (h : History σ) (view : View) (access : Access view.kind) (i j : Int)
    (made : List NativeCall) : Prop where
  /-- Accessors are called within the reported extents only. -/
  inside : ∀ element ∈ accessed made, access.Admits view i j ∧ access.calls view = true ∧
    ∃ matrix layout, Rests h view matrix layout ∧ element = (matrix.pointer, i, j) ∧
      Inside (layout.rows, layout.cols) i j
  /-- An accessor is called where it has to be. -/
  once : access.Available library h.workspace view → access.Admits view i j →
    access.calls view = true → (accessed made).length = 1

/-- An access makes such calls. -/
theorem perform_bounded (hr : h.Reachable library) {view : View} (hm : view ∈ h.workspace.views)
    (access : Access view.kind) (i j : Int) :
    ∃ made, (access.perform library view i j h.workspace).2.session.calls = made ++ h.calls ∧
      h.Bounded library view access i j made := by
  have hquiet : ¬(access.Admits view i j ∧ access.calls view = true) →
      h.Bounded library view access i j [] := fun hn =>
    ⟨fun _ hx => absurd hx List.not_mem_nil, fun _ ha hc => absurd ⟨ha, hc⟩ hn⟩
  cases hf : view.isFinalized with
  | true =>
    have hdead : view.handle.bind h.workspace.matrices = none := by
      rw [Option.isNone_iff_eq_none.mp hf, Option.bind_none]
    have hn : ¬access.Admits view i j := Access.not_admits_hollow (hr.hollow library hm hf)
    refine ⟨[], ?_, hquiet fun hx => hn hx.1⟩
    rw [Access.perform_dead library hdead]
    rfl
  | false =>
    obtain ⟨matrix, layout, hx⟩ := hr.rests library hm hf
    have hmatrix := hx.held library hr
    by_cases ha : access.Admits view i j
    swap
    · refine ⟨[], ?_, hquiet fun hx => ha hx.1⟩
      rw [Access.perform_refused library hmatrix ha]
      rfl
    have hcalls := Access.perform_admitted library hmatrix ha
    by_cases hc : access.calls view = true
    swap
    · rw [if_neg hc] at hcalls
      exact ⟨[], hcalls, hquiet fun hx => hc hx.2⟩
    rw [if_pos hc] at hcalls
    have hvisited : Visits _ (matrix.pointer, i, j) h.workspace.session
      (access.call library matrix i j h.workspace.session).2 := Access.call_visits library
    obtain ⟨made, hmade, hvisits, hone⟩ := hvisited
    refine ⟨made, hcalls.trans hmade, fun element he => ⟨ha, hc, matrix, layout, hx, ?_, ?_⟩,
      fun havailable _ _ => ?_⟩
    · rcases hvisits with hnone | hsome
      · rw [hnone] at he
        exact absurd he List.not_mem_nil
      · rw [hsome] at he
        exact List.mem_singleton.mp he
    · exact Access.inside_layout ((hr.lineage library).inherits hx) ha hc
    · rw [hone ⟨havailable.1 matrix hmatrix, havailable.2⟩]
      rfl

/-- An access calls an accessor only within the extents that the matrix reported, and once where
its checks pass and it does not go through memory. No operation that is refused for an index or a
null handle makes a call. -/
theorem accessors_bounded (hr : h.Reachable library) :
    (∀ view ∈ h.workspace.views, ∀ (access : Access view.kind) (i j : Int),
      (∃ made, (access.perform library view i j h.workspace).2.session.calls = made ++ h.calls ∧
        h.Bounded library view access i j made) ∧
      ((∀ e ∈ h.acquired, e.matrix.source.Candid) →
        Precedes (access.perform library view i j) h.workspace)) ∧
    ∀ op, (∀ e ∈ (h.step library op).acquired, e.matrix.source.Candid) →
      Precedes (op.perform library) h.workspace := by
  refine ⟨fun view hm access i j => ⟨perform_bounded library hr hm access i j, fun hs => ?_⟩,
    fun op hs => refused_precedes library hr.recorded op hs⟩
  refine Access.perform_precedes library fun matrix hmatrix => ?_
  obtain ⟨number, -, hnumber⟩ := Option.bind_eq_some_iff.mp hmatrix
  obtain ⟨e, he, -, rfl⟩ := hr.recorded.known number matrix hnumber
  exact hs e he

/-- The four elements of a board are shown as a column, which is longer than the board. Its second
element is within the board too, so the accessor is called for it once; its last element is not, and
no call is made. -/
theorem accessors_bounded_column :
    let h := (start fun _ => default).run board
      [.create (shelfBinder {}) .double (.fixed 2 2 .double),
        .derive 1 fun _ => ⟨8, ⟨4, 1⟩, ⟨1, 0⟩⟩]
    let column : View := ⟨2, .fixed 2 2 .double, some 0, none, false, some 1, true, (2, 2),
      ⟨8, ⟨4, 1⟩, ⟨1, 0⟩⟩⟩
    let access : Access column.kind := .base
    column ∈ h.workspace.views ∧
      (∃ made, (access.perform board column 1 0 h.workspace).2.session.calls = made ++ h.calls ∧
        (accessed made).length = 1) ∧
      (access.perform board column 3 0 h.workspace).2.session.calls = h.calls := by
  intro h column access
  have hmem : column ∈ h.workspace.views := by decide +kernel
  have hcandid : ∀ e ∈ h.acquired, e.matrix.source.Candid := by
    intro e he
    cases List.mem_singleton.mp he
    exact SymbolSource.candid_of_resolves fun _ => rfl
  obtain ⟨haccess, -⟩ := accessors_bounded board (h := h) ⟨_, _, rfl⟩
  obtain ⟨⟨made, hmade, hbounded⟩, -⟩ := haccess column hmem access 1 0
  have havailable : access.Available board h.workspace column := by
    refine ⟨fun matrix hmatrix => ?_, nofun⟩
    cases hmatrix
    exact ⟨rfl, rfl, rfl⟩
  refine ⟨hmem, ⟨made, hmade, hbounded.once havailable ?_ rfl⟩, ?_⟩
  · exact ⟨by decide, by decide⟩
  · exact (haccess column hmem access 3 0).2 hcandid (.range .row 3 2) rfl rfl

end History

end ForeignMatrix
