import ForeignMatrix.Native.Matrix
import ForeignMatrix.Proofs.Actions

/-!
# Examining a native matrix

What the steps of an operation on a native matrix do to a session. A symbol is
resolved without any trace, a check may leave a notice, and the layout of a
matrix is asked for in five calls under one error handle. A relation between
sessions that goes by the library and the calls, and holds across each of these
calls, holds across the whole examination, wherever it is refused.
-/

namespace ForeignMatrix

open Actions NativeAction

variable {σ : Type} (library : NativeLibrary σ)

/-! ### Steps -/

/-- Whether a symbol can be called. -/
def SymbolSource.resolves (source : SymbolSource) (symbol : String) : Bool :=
  match source.resolve symbol with
  | .ok _ => true
  | .error _ => false

/-- Resolving a symbol leaves the session as it is. -/
theorem resolve_apply (source : SymbolSource) (symbol : String) (s : Session σ) :
    (∃ fault, resolve source symbol s = (.error fault, s) ∧ source.resolves symbol = false) ∨
      (resolve source symbol s = (.ok (), s) ∧ source.resolves symbol = true) := by
  unfold resolve SymbolSource.resolves
  cases source.resolve symbol with
  | error fault => exact .inl ⟨fault, rfl, rfl⟩
  | ok address => exact .inr ⟨rfl, rfl⟩

/-- A symbol that resolves leaves the session as it is. -/
theorem resolve_ok {source : SymbolSource} {symbol : String}
    (h : source.resolves symbol = true) (s : Session σ) :
    resolve source symbol s = (.ok (), s) := by
  rcases resolve_apply source symbol s with ⟨fault, -, hf⟩ | ⟨hr, -⟩
  · rw [h] at hf
    contradiction
  · exact hr

theorem ask_apply {α : Type} (call : α → NativeCall) (step : σ → α × σ) (s : Session σ) :
    ask call step s = (.ok (step s.native).1,
      { s with native := (step s.native).2, calls := call (step s.native).1 :: s.calls }) := rfl

theorem run_apply (call : NativeCall) (step : σ → σ) (s : Session σ) :
    run call step s = (.ok (), { s with native := step s.native, calls := call :: s.calls }) := rfl

/-- A check goes by the error in the handle. It makes no call. -/
theorem check_cases (handle : ErrorHandle) (operation : String) (s : Session σ) :
    ((library.errorState s.native handle).code = 0 ∧
      check library handle operation s = (.ok (), s)) ∨
    ((library.errorState s.native handle).code ≠ 0 ∧ ∃ code message notices,
      check library handle operation s =
        (.error (.nativeOperation operation code message), { s with notices })) := by
  unfold check
  rw [bind_ok (get_apply s)]
  split_ifs with hcode
  · exact .inl ⟨hcode, rfl⟩
  · exact .inr ⟨hcode, _, _, _, rfl⟩

/-- The body runs under the error handle that is handed out. -/
theorem withErrorHandle_handed {α : Type} {source : SymbolSource} {s : Session σ}
    {handle : ErrorHandle} {t : σ} (hnew : source.resolves errorHandleNew = true)
    (hdestroy : source.resolves errorHandleDestroy = true)
    (hh : library.newErrorHandle s.native = (some handle, t))
    (body : ErrorHandle → NativeAction σ α) :
    withErrorHandle library source body s = releasing library handle (body handle)
      { s with native := t, calls := .newErrorHandle (some handle) :: s.calls } := by
  unfold withErrorHandle
  rw [bind_ok (resolve_ok hnew s), bind_ok (resolve_ok hdestroy s), bind_ok (ask_apply _ _ s), hh]

/-! ### Relations across an examination -/

/-- The relation goes by the library and the calls, and holds across the calls that an examination
makes. -/
structure Examines (R : Session σ → Session σ → Prop) : Prop where
  /-- Notices do not count. -/
  same : ∀ s t, t.native = s.native → t.calls = s.calls → R s t
  /-- Creating an error handle. -/
  createHandle : Moves R (ask .newErrorHandle library.newErrorHandle)
  /-- Destroying one. -/
  destroyHandle : ∀ handle,
    Moves R (run (.freeErrorHandle handle) (library.freeErrorHandle handle))
  /-- Asking for a number. -/
  askNumber : ∀ family which pointer handle,
    Moves R (ask (fun _ => .measure family which pointer handle)
      (library.measure family which pointer handle))
  /-- Asking for the storage. -/
  askStorage : ∀ family pointer handle,
    Moves R (ask (fun _ => .data family pointer handle) (library.data family pointer handle))

namespace Examines

variable {library} {R : Session σ → Session σ → Prop} (hx : Examines library R)

include hx

theorem note (notice : Notice) : Moves R (NativeAction.note notice) :=
  fun s => hx.same s _ rfl rfl

theorem resolve (source : SymbolSource) (symbol : String) :
    Moves R (NativeAction.resolve source symbol) := by
  intro s
  rcases resolve_apply source symbol s with ⟨fault, h, -⟩ | ⟨h, -⟩ <;> rw [h] <;>
    exact hx.same s s rfl rfl

theorem check (handle : ErrorHandle) (operation : String) :
    Moves R (NativeAction.check library handle operation) := by
  intro s
  rcases check_cases library handle operation s with ⟨-, h⟩ | ⟨-, code, message, notices, h⟩ <;>
    rw [h] <;> exact hx.same s _ rfl rfl

variable [Std.Refl R] [IsTrans (Session σ) R]

/-- The relation holds across an action under an error handle if it does under a given one. -/
theorem withErrorHandle {α : Type} (source : SymbolSource) {body : ErrorHandle → NativeAction σ α}
    (hb : ∀ handle, Moves R (body handle)) :
    Moves R (NativeAction.withErrorHandle library source body) := by
  refine .bind (hx.resolve source _) fun _ => .bind (hx.resolve source _) fun _ =>
    .bind hx.createHandle fun result => ?_
  cases result with
  | none => exact .throw _
  | some handle => exact fun s => IsTrans.trans _ _ _ (hb handle s) (hx.destroyHandle handle _)

theorem measure (matrix : NativeMatrix) (handle : ErrorHandle) (which : Measure) :
    Moves R (matrix.measure library handle which) :=
  .bind (hx.resolve _ _) fun _ => .bind (hx.askNumber _ _ _ _) fun _ =>
    .bind (hx.check _ _) fun _ => .pure _

theorem extent (matrix : NativeMatrix) (handle : ErrorHandle) (which : Measure) :
    Moves R (matrix.extent library handle which) :=
  .bind (hx.measure matrix handle which) fun _ => .ite (.throw _) (.pure _)

theorem storage (matrix : NativeMatrix) (handle : ErrorHandle) :
    Moves R (matrix.storage library handle) :=
  .bind (hx.resolve _ _) fun _ => .bind (hx.askStorage _ _ _) fun _ =>
    .bind (hx.check _ _) fun _ => .pure _

theorem layout (matrix : NativeMatrix) : Moves R (matrix.layout library) :=
  hx.withErrorHandle _ fun handle =>
    .bind (hx.extent matrix handle _) fun _ => .bind (hx.extent matrix handle _) fun _ =>
    .bind (hx.measure matrix handle _) fun _ => .bind (hx.measure matrix handle _) fun _ =>
    .bind (hx.storage matrix handle) fun _ => .bind (hx.note _) fun _ => .pure _

end Examines

end ForeignMatrix
