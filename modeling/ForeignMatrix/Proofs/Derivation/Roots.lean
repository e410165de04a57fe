import ForeignMatrix.Proofs.Ownership.KeepAlive

/-!
# Acquired views and what they show

A view that was acquired and not derived shows the layout that its matrix
reported when it was acquired, as long as the view is not finalized. `LiveRoot`
names the view, the matrix and the layout.
-/

namespace ForeignMatrix

variable {σ : Type} (library : NativeLibrary σ)

/-- A view that is not finalized, its matrix and the layout that the matrix reported when it was
acquired. -/
structure Rests (h : History σ) (view : View) (matrix : NativeMatrix) (layout : NativeLayout) :
    Prop where
  /-- The view is there. -/
  mem : view ∈ h.workspace.views
  /-- The view refers to the matrix, and the matrix reported the layout. -/
  reported : ∃ e ∈ h.acquired, e.number = view.handle ∧ e.number.isSome = true ∧
    e.matrix = matrix ∧ e.layout = some layout

/-- The workspace holds the matrix under the handle of the view. -/
theorem Rests.held {h : History σ} {view : View} {matrix : NativeMatrix} {layout : NativeLayout}
    (hx : Rests h view matrix layout) (hr : h.Reachable library) :
    view.handle.bind h.workspace.matrices = some matrix := by
  have hrec := hr.recorded
  obtain ⟨e, he, hn, hs, rfl, -⟩ := hx.reported
  obtain ⟨number, hnumber⟩ := Option.isSome_iff_exists.mp hs
  rw [← hn, hnumber, Option.bind_some]
  obtain ⟨-, found, hfound⟩ := hrec.tidy.handle_held hx.mem (hn ▸ hnumber)
  refine (hrec.numbered e he number hnumber).2.resolve_left fun hnone => ?_
  rw [hnone] at hfound
  contradiction

/-- The matrix of a view that is not finalized was acquired. -/
theorem Recorded.acquired_of_live {h : History σ} (hr : Recorded h) {view : View}
    (hm : view ∈ h.workspace.views) (hf : view.isFinalized = false) :
    ∃ e ∈ h.acquired, e.number = view.handle ∧ e.number.isSome = true := by
  obtain ⟨number, hn⟩ := Option.ne_none_iff_exists'.mp
    (fun hnone => Bool.false_ne_true (hf.symm.trans (Option.isNone_iff_eq_none.mpr hnone)))
  obtain ⟨-, matrix, hmatrix⟩ := hr.tidy.handle_held hm hn
  obtain ⟨e, he, hnumber, -⟩ := hr.known number matrix hmatrix
  exact ⟨e, he, hnumber.trans hn.symm, Option.isSome_iff_exists.mpr ⟨number, hnumber⟩⟩

/-- An acquired view that is not finalized, its matrix and the layout that the matrix reported. -/
structure LiveRoot (h : History σ) (root : View) (matrix : NativeMatrix) (layout : NativeLayout) :
    Prop where
  /-- The view is there. -/
  mem : root ∈ h.workspace.views
  /-- The view was acquired. -/
  acquired : root.derived = false
  /-- The view refers to the matrix, and the matrix reported the layout. -/
  reported : ∃ e ∈ h.acquired, e.number = root.handle ∧ e.number.isSome = true ∧
    e.matrix = matrix ∧ e.layout = some layout

/-- Every acquired view that is not finalized shows the layout that its matrix reported. -/
def Rooted (h : History σ) : Prop :=
  ∀ root ∈ h.workspace.views, root.derived = false →
    ∀ e ∈ h.acquired, e.number = root.handle → e.number.isSome = true →
      ∃ layout, e.layout = some layout ∧ root.window = .ofLayout root.kind layout

namespace Rooted

variable {h : History σ}

/-- An operation makes at most one acquired view, and that one shows the layout reported for it. -/
theorem step (hr : Recorded h) (hx : Rooted h) (op : Operation σ) :
    Rooted (h.step library op) := by
  intro root hm hd e he hn hs
  have hentry := List.mem_append.mp he
  rw [Option.mem_toList] at hentry
  rcases (History.step_effect library hr.tidy op).outcome library with
    ⟨-, hviews, hnone⟩ | ⟨a, matrix, layout, session, hnew, hv⟩
  · have hold : root ∈ h.workspace.views := by
      refine (hviews root hm (hn ▸ hs)).resolve_right fun hx => ?_
      rw [hd] at hx
      exact Bool.false_ne_true hx.1
    rcases hentry with he | he
    · rw [hnone e he] at hs
      contradiction
    · exact hx root hold hd e he hn hs
  · rw [hv] at hm
    rw [hnew] at hentry
    rcases List.mem_append.mp hm with hm | hm
    · -- The number of the new matrix is none that an earlier view refers to.
      obtain ⟨number, hnumber⟩ := Option.isSome_iff_exists.mp hs
      have hlt := (hr.tidy.handle_held hm (hn ▸ hnumber)).1
      rcases hentry with he | he
      · cases he
        cases hnumber
        omega
      · exact hx root hm hd e he hn hs
    · rw [List.mem_singleton.mp hm] at hn ⊢
      rcases hentry with he | he
      · cases he
        exact ⟨layout, rfl, rfl⟩
      · have hlt := (hr.numbered e he _ hn).1
        omega

theorem run (hr : Recorded h) (hx : Rooted h) (ops : List (Operation σ)) :
    Rooted (h.run library ops) := by
  induction ops generalizing h with
  | nil => exact hx
  | cons op ops ih => exact ih (hr.step library op) (hx.step library hr op)

end Rooted

namespace History

variable {h : History σ}

theorem Reachable.rooted (hr : h.Reachable library) : Rooted h := by
  obtain ⟨native, ops, rfl⟩ := hr
  refine Rooted.run library (.start native) (fun root hm => ?_) ops
  exact absurd hm List.not_mem_nil

end History

namespace LiveRoot

variable {h : History σ} {root : View} {matrix : NativeMatrix} {layout : NativeLayout}

theorem rests (hx : LiveRoot h root matrix layout) : Rests h root matrix layout :=
  ⟨hx.mem, hx.reported⟩

/-- The workspace holds the matrix under the handle of the view. -/
theorem held (hx : LiveRoot h root matrix layout) (hr : h.Reachable library) :
    root.handle.bind h.workspace.matrices = some matrix := hx.rests.held library hr

/-- The view shows the reported layout. -/
theorem window (hx : LiveRoot h root matrix layout) (hr : h.Reachable library) :
    root.window = .ofLayout root.kind layout := by
  obtain ⟨e, he, hn, hs, -, hl⟩ := hx.reported
  obtain ⟨found, hf, hw⟩ := hr.rooted library root hx.mem hx.acquired e he hn hs
  cases hl.symm.trans hf
  exact hw

end LiveRoot

end ForeignMatrix
