import ForeignMatrix.View.Basic
import Mathlib

/-!
# Actions as functions of their state

An action on a session or a workspace takes a state to an outcome and a state.
The equations below open an action one step at a time. `Moves` says of an
action that every run of it, refused or not, ends in a state that is related
to the one it began in; for a relation that is a preorder it is enough to look
at the parts. Nothing here depends on what the states are.
-/

namespace ForeignMatrix.Actions

variable {S α β : Type}

@[simp] theorem pure_apply (a : α) (s : S) :
    (pure a : ExceptT Fault (StateM S) α) s = (.ok a, s) := rfl

@[simp] theorem throw_apply (fault : Fault) (s : S) :
    (throw fault : ExceptT Fault (StateM S) α) s = (.error fault, s) := rfl

@[simp] theorem get_apply (s : S) : (get : ExceptT Fault (StateM S) S) s = (.ok s, s) := rfl

@[simp] theorem modify_apply (f : S → S) (s : S) :
    (modify f : ExceptT Fault (StateM S) Unit) s = (.ok (), f s) := rfl

/-- A sequence runs its second part on what the first one leaves, unless that was refused. -/
theorem bind_apply (x : ExceptT Fault (StateM S) α) (f : α → ExceptT Fault (StateM S) β) (s : S) :
    (x >>= f) s = match x s with
      | (.ok a, t) => f a t
      | (.error fault, t) => (.error fault, t) := by
  simp only [bind, ExceptT.bind, ExceptT.mk, StateT.bind]
  rcases x s with ⟨fault | a, t⟩ <;> rfl

theorem bind_ok {x : ExceptT Fault (StateM S) α} {s t : S} {a : α} (h : x s = (.ok a, t))
    (f : α → ExceptT Fault (StateM S) β) : (x >>= f) s = f a t := by
  rw [bind_apply, h]

theorem bind_error {x : ExceptT Fault (StateM S) α} {s t : S} {fault : Fault}
    (h : x s = (.error fault, t)) (f : α → ExceptT Fault (StateM S) β) :
    (x >>= f) s = (.error fault, t) := by
  rw [bind_apply, h]

/-- A handler runs on what the refused action leaves. -/
theorem tryCatch_apply (x : ExceptT Fault (StateM S) α)
    (handler : Fault → ExceptT Fault (StateM S) α) (s : S) :
    (tryCatch x handler) s = match x s with
      | (.ok a, t) => (.ok a, t)
      | (.error fault, t) => handler fault t := by
  simp only [tryCatch, tryCatchThe, MonadExceptOf.tryCatch, ExceptT.tryCatch, ExceptT.mk, bind,
    StateT.bind]
  rcases x s with ⟨fault | a, t⟩ <;> rfl

/-- Going through a list with steps that leave the state as it is answers what the steps answer. -/
theorem mapM_ok {list : List α} {step : α → ExceptT Fault (StateM S) β} {f : α → β} {s : S}
    (h : ∀ a ∈ list, step a s = (.ok (f a), s)) : list.mapM step s = (.ok (list.map f), s) := by
  induction list with
  | nil => rfl
  | cons a list ih =>
    have hrest := ih fun b hb => h b (List.mem_cons_of_mem a hb)
    rw [List.mapM_cons, bind_ok (h a List.mem_cons_self), bind_ok hrest]
    rfl

theorem forM_ok {list : List α} {step : α → ExceptT Fault (StateM S) Unit} {s : S}
    (h : ∀ a ∈ list, step a s = (.ok (), s)) : list.forM step s = (.ok (), s) := by
  induction list with
  | nil => rfl
  | cons a list ih =>
    change (step a >>= fun _ => list.forM step) s = (.ok (), s)
    rw [bind_ok (h a List.mem_cons_self)]
    exact ih fun b hb => h b (List.mem_cons_of_mem a hb)

/-- Every run of the action ends in a state related to the one it began in. -/
def Moves (R : S → S → Prop) (action : ExceptT Fault (StateM S) α) : Prop :=
  ∀ s, R s (action s).2

section Rules

variable {R : S → S → Prop} {x : ExceptT Fault (StateM S) α}
  {f : α → ExceptT Fault (StateM S) β}

theorem Moves.modify {g : S → S} (h : ∀ s, R s (g s)) :
    Moves R (modify g : ExceptT Fault (StateM S) Unit) := h

theorem Moves.bind [IsTrans S R] (hx : Moves R x) (hf : ∀ a, Moves R (f a)) :
    Moves R (x >>= f) := by
  intro s
  have h := hx s
  rw [bind_apply]
  rcases hr : x s with ⟨fault | a, t⟩ <;> rw [hr] at h
  · exact h
  · exact IsTrans.trans _ _ _ h (hf a t)

theorem Moves.pure [Std.Refl R] (a : α) :
    Moves R (pure a : ExceptT Fault (StateM S) α) := fun s => Std.Refl.refl s

theorem Moves.throw [Std.Refl R] (fault : Fault) :
    Moves R (throw fault : ExceptT Fault (StateM S) α) := fun s => Std.Refl.refl s

theorem Moves.get [Std.Refl R] : Moves R (get : ExceptT Fault (StateM S) S) :=
  fun s => Std.Refl.refl s

/-- A state that is read is the one that the rest begins in. -/
theorem Moves.get_bind {g : S → ExceptT Fault (StateM S) α} (h : ∀ s, R s (g s s).2) :
    Moves R ((MonadState.get : ExceptT Fault (StateM S) S) >>= g) := h

theorem Moves.tryCatch [IsTrans S R] {handler : Fault → ExceptT Fault (StateM S) α}
    (hx : Moves R x) (hh : ∀ fault, Moves R (handler fault)) :
    Moves R (MonadExcept.tryCatch x handler) := by
  intro s
  have h := hx s
  rw [tryCatch_apply]
  rcases hr : x s with ⟨fault | a, t⟩ <;> rw [hr] at h
  · exact IsTrans.trans _ _ _ h (hh fault t)
  · exact h

/-- Going through a list keeps the relation that each of its steps keeps. -/
theorem Moves.forM [Std.Refl R] [IsTrans S R] {step : α → ExceptT Fault (StateM S) Unit}
    (h : ∀ a, Moves R (step a)) (list : List α) : Moves R (list.forM step) := by
  induction list with
  | nil => exact .pure ()
  | cons a list ih => exact .bind (h a) fun _ => ih

theorem Moves.mapM [Std.Refl R] [IsTrans S R] {step : α → ExceptT Fault (StateM S) β}
    (h : ∀ a, Moves R (step a)) (list : List α) : Moves R (list.mapM step) := by
  induction list with
  | nil => exact .pure []
  | cons a list ih =>
    rw [List.mapM_cons]
    exact .bind (h a) fun _ => .bind ih fun _ => .pure _

theorem Moves.ite {c : Prop} [Decidable c] {y : ExceptT Fault (StateM S) α}
    (hx : Moves R x) (hy : Moves R y) : Moves R (if c then x else y) := by
  split
  · exact hx
  · exact hy

end Rules

end ForeignMatrix.Actions
