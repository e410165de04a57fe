import ForeignMatrix.Proofs.Ownership.Effects
import ForeignMatrix.View.Lifetime

/-!
# Giving up references

A workspace is tidy when it holds exactly the matrices that a view or a caller
refers to. Finalizing a view, dropping it and giving back a reference first
remove references and then collect the matrices that lost them; each ends in a
tidy workspace. The balance of a workspace counts, for each family and pointer,
the calls that destroyed it and the owned matrices held that still have to be.
Collecting never raises a balance, and keeps it where destroying cannot fail
before the call is made.
-/

namespace ForeignMatrix

open Actions NativeAction

variable {σ : Type} (library : NativeLibrary σ)

namespace Workspace

/-- A view or a caller refers to the matrix. -/
def Refers (w : Workspace σ) (matrix : Nat) : Prop :=
  (∃ view ∈ w.views, matrix ∈ view.references) ∨ matrix ∈ w.outside

/-- A matrix without references is one that nothing refers to. -/
theorem references_eq_zero (w : Workspace σ) (matrix : Nat) :
    w.references matrix = 0 ↔ ¬w.Refers matrix := by
  rw [references, List.count_eq_zero, List.mem_append, List.mem_flatMap, Refers]

instance (w : Workspace σ) (matrix : Nat) : Decidable (w.Refers matrix) :=
  decidable_of_iff (w.references matrix ≠ 0)
    ((not_congr (w.references_eq_zero matrix)).trans not_not)

/-- What destroying the matrix of this number takes, if it is held and owned. -/
def duty (w : Workspace σ) (matrix : Nat) : Option Duty :=
  (w.matrices matrix).bind NativeMatrix.duty

/-- What still has to be destroyed, one entry for each owned matrix. -/
def held (w : Workspace σ) : List Duty := (List.range w.nextMatrix).filterMap w.duty

/-- How often something was destroyed or still has to be. -/
def balance (w : Workspace σ) (duty : Duty) : Nat :=
  (destroyed w.session.calls).count duty + w.held.count duty

/-- Every owned matrix of the workspace can be destroyed. -/
def Equipped (w : Workspace σ) : Prop :=
  ∀ matrix found, w.matrices matrix = some found → found.owned = true →
    found.destroyable = true

end Workspace

/-- The workspace holds exactly the matrices that are referred to, those in the list aside: they
may be held although nothing refers to them. Views stand in the order of their identities. -/
structure Tidy (w : Workspace σ) (loose : List Nat) : Prop where
  /-- Identities rise in order of creation. -/
  ordered : w.views.Pairwise (·.id < ·.id)
  /-- The next identity is greater than all of them. -/
  earlier : ∀ view ∈ w.views, view.id < w.nextView
  /-- What is referred to is held. -/
  entered : ∀ matrix, w.Refers matrix → (w.matrices matrix).isSome
  /-- What is held is referred to. -/
  needed : ∀ matrix, (w.matrices matrix).isSome → matrix ∉ loose → w.Refers matrix
  /-- The next number is greater than those of all matrices. -/
  bounded : ∀ matrix, (w.matrices matrix).isSome → matrix < w.nextMatrix

namespace Tidy

variable {w : Workspace σ} {loose : List Nat}

/-- Two views with one identity are the same. -/
theorem eq_of_id (h : Tidy w loose) {x y : View} (hx : x ∈ w.views) (hy : y ∈ w.views)
    (he : x.id = y.id) : x = y := by
  have hn : (w.views.map View.id).Nodup :=
    List.pairwise_map.mpr (h.ordered.imp fun hlt => Nat.ne_of_lt hlt)
  exact List.inj_on_of_nodup_map hn hx hy he

/-- A view that is found by its identity is in the workspace. -/
theorem view?_some {id : Nat} {view : View} (h : w.view? id = some view) :
    view ∈ w.views ∧ view.id = id := by
  refine ⟨List.mem_of_find?_eq_some h, ?_⟩
  have hp := List.find?_some h
  exact beq_iff_eq.mp hp

/-- A view of the workspace is found by its identity. -/
theorem view?_of_mem (h : Tidy w loose) {id : Nat} {view : View} (hm : view ∈ w.views)
    (hid : view.id = id) : w.view? id = some view := by
  rcases hv : w.view? id with _ | other
  · have hne := List.find?_eq_none.mp hv view hm
    exact absurd (beq_iff_eq.mpr hid) hne
  · obtain ⟨ho, he⟩ := view?_some hv
    rw [h.eq_of_id ho hm (he.trans hid.symm)]

/-- Without loose matrices, being held is being referred to. -/
theorem held_iff (h : Tidy w []) (matrix : Nat) :
    (w.matrices matrix).isSome ↔ w.Refers matrix :=
  ⟨fun hs => h.needed matrix hs List.not_mem_nil, h.entered matrix⟩

/-- The matrix under the handle of a view is held. -/
theorem handle_held (h : Tidy w loose) {view : View} (hm : view ∈ w.views) {number : Nat}
    (hh : view.handle = some number) :
    number < w.nextMatrix ∧ ∃ matrix, w.matrices number = some matrix := by
  have hrefers : w.Refers number :=
    .inl ⟨view, hm, List.mem_append_left _ (Option.mem_toList.mpr hh)⟩
  have hs := h.entered number hrefers
  exact ⟨h.bounded number hs, Option.isSome_iff_exists.mp hs⟩

/-- Forgetting references makes at most the matrices loose that were forgotten. -/
theorem forget (h : Tidy w []) {v : Workspace σ} (hviews : v.views.Pairwise (·.id < ·.id))
    (hearlier : ∀ view ∈ v.views, view.id < v.nextView) (hm : v.matrices = w.matrices)
    (hn : v.nextMatrix = w.nextMatrix) (hfewer : ∀ matrix, v.Refers matrix → w.Refers matrix)
    (hloose : ∀ matrix, w.Refers matrix → matrix ∉ loose → v.Refers matrix) : Tidy v loose := by
  refine ⟨hviews, hearlier, fun matrix hr => ?_, fun matrix hs hl => ?_, fun matrix hs => ?_⟩
  · rw [hm]
    exact h.entered matrix (hfewer matrix hr)
  · rw [hm] at hs
    exact hloose matrix ((h.held_iff matrix).mp hs) hl
  · rw [hm] at hs
    rw [hn]
    exact h.bounded matrix hs

/-- Only the session changed. -/
theorem of_session (h : Tidy w loose) (session : Session σ) :
    Tidy { w with session } loose :=
  ⟨h.ordered, h.earlier, h.entered, h.needed, h.bounded⟩

end Tidy

/-! ### The balance -/

/-- The values of a list begin with that of its first entry, if it has one. -/
theorem filterMap_cons_append {α β : Type} (f : α → Option β) (a : α) (list : List α) :
    (a :: list).filterMap f = (f a).toList ++ list.filterMap f := by
  cases h : f a with
  | none => rw [List.filterMap_cons_none h]; rfl
  | some b => rw [List.filterMap_cons_some h]; rfl

/-- Clearing one entry of a table takes its value out of the list of values. -/
theorem count_filterMap_clear {β : Type} [BEq β] {f g : Nat → Option β} {n : Nat}
    (hn : g n = none) (hg : ∀ i, i ≠ n → g i = f i) {list : List Nat} (hd : list.Nodup)
    (hm : n ∈ list) (b : β) :
    (list.filterMap g).count b + (f n).toList.count b = (list.filterMap f).count b := by
  induction list with
  | nil => exact absurd hm List.not_mem_nil
  | cons i list ih =>
    obtain ⟨hi, hd⟩ := List.nodup_cons.mp hd
    rw [filterMap_cons_append, filterMap_cons_append, List.count_append, List.count_append]
    rcases List.mem_cons.mp hm with rfl | hm
    · have he : list.filterMap g = list.filterMap f :=
        List.filterMap_congr fun j hj => hg j fun h => hi (h ▸ hj)
      rw [he, hn]
      simp [Nat.add_comm]
    · have hne : i ≠ n := fun h => hi (h ▸ hm)
      rw [hg i hne]
      have := ih hd hm
      omega

/-- What was destroyed and what is left to destroy fit together: earlier calls stay, matrices are
only ever removed, and none is destroyed without having been held. -/
structure Settles (w v : Workspace σ) : Prop where
  /-- Earlier calls stay. -/
  grows : w.session.calls <:+ v.session.calls
  /-- Matrices stay or go. -/
  fewer : ∀ matrix, v.matrices matrix = none ∨ v.matrices matrix = w.matrices matrix
  /-- No number is given out. -/
  next : v.nextMatrix = w.nextMatrix
  /-- Nothing is destroyed that did not have to be. -/
  atMost : ∀ duty, v.balance duty ≤ w.balance duty
  /-- With the entry points in place and no null error handle, all that has to be is destroyed. -/
  exact : w.Equipped → ¬Denied v.session.calls → ∀ duty, v.balance duty = w.balance duty
  /-- No error handle is null unless the library hands out such. -/
  handled : library.HandsOut → Denied v.session.calls → Denied w.session.calls

namespace Settles

variable {library}

theorem refl (w : Workspace σ) : Settles library w w :=
  ⟨List.suffix_refl _, fun _ => .inr rfl, rfl, fun _ => le_rfl, fun _ _ _ => rfl, fun _ => id⟩

theorem trans {u v w : Workspace σ} (h : Settles library u v) (k : Settles library v w) :
    Settles library u w := by
  refine ⟨h.grows.trans k.grows, fun matrix => ?_, k.next.trans h.next,
    fun duty => (k.atMost duty).trans (h.atMost duty), fun he hn duty => ?_,
    fun hl hd => h.handled hl (k.handled hl hd)⟩
  · rcases k.fewer matrix with hk | hk
    · exact .inl hk
    · rw [hk]
      exact h.fewer matrix
  · have hv : ¬Denied v.session.calls := fun hm => hn (k.grows.subset hm)
    have hequip : v.Equipped := by
      intro matrix found hf ho
      rcases h.fewer matrix with hm | hm
      · rw [hm] at hf
        contradiction
      · exact he matrix found (hm ▸ hf) ho
    exact (k.exact hequip hn duty).trans (h.exact he hv duty)

/-- The same matrices and calls have the same balance. -/
theorem of_same {w v : Workspace σ} (hc : Quiet library w.session v.session)
    (hm : v.matrices = w.matrices) (hn : v.nextMatrix = w.nextMatrix) : Settles library w v := by
  have hb : ∀ duty, v.balance duty = w.balance duty := by
    intro duty
    rw [Workspace.balance, Workspace.balance, hc.same, Workspace.held, Workspace.held, hn]
    unfold Workspace.duty
    rw [hm]
  exact ⟨hc.grows, fun matrix => .inr (by rw [hm]), hn, fun duty => (hb duty).le,
    fun _ _ => hb, hc.handled⟩

end Settles

/-! ### Collecting -/

/-- What becomes of a matrix once a reference to it was given up: it stays where something else
refers to it, and else leaves the workspace and is destroyed if it is owned. -/
inductive Collects (matrix : Nat) (w : Workspace σ) : Workspace σ → Prop where
  /-- The matrix stays, or was not there. -/
  | kept (session : Session σ) (hq : Quiet library w.session session)
      (hr : w.Refers matrix ∨ w.matrices matrix = none) : Collects matrix w { w with session }
  /-- The matrix goes. -/
  | gone (found : NativeMatrix) (session : Session σ) (hm : w.matrices matrix = some found)
      (hr : ¬w.Refers matrix)
      (hd : Discharges library found w.session session) :
      Collects matrix w { w.setMatrix matrix none with session }

namespace Collects

variable {library}

variable {w v : Workspace σ} {matrix : Nat} {loose : List Nat}

/-- Collecting concerns the matrices only. -/
theorem frame (h : Collects library matrix w v) :
    v.views = w.views ∧ v.outside = w.outside ∧ v.nextView = w.nextView := by
  cases h <;> exact ⟨rfl, rfl, rfl⟩

/-- A collected matrix is loose no more. -/
theorem tidy (h : Collects library matrix w v) (ht : Tidy w (matrix :: loose)) : Tidy v loose := by
  cases h with
  | kept session hq hr =>
    refine ⟨ht.ordered, ht.earlier, ht.entered, fun other hs hl => ?_, ht.bounded⟩
    by_cases he : other = matrix
    · rcases hr with hr | hr
      · exact he ▸ hr
      · change (w.matrices other).isSome = true at hs
        rw [he, hr] at hs
        contradiction
    · exact ht.needed other hs (List.not_mem_cons_of_ne_of_not_mem he hl)
  | gone found session hm hr hd =>
    have hset : ∀ other, other ≠ matrix →
        (w.setMatrix matrix none).matrices other = w.matrices other := fun other he => if_neg he
    have hgone : (w.setMatrix matrix none).matrices matrix = none := if_pos rfl
    refine ⟨ht.ordered, ht.earlier, fun other ho => ?_, fun other hs hl => ?_, fun other hs => ?_⟩
    · have he : other ≠ matrix := fun he => hr (he ▸ ho)
      change ((w.setMatrix matrix none).matrices other).isSome = true
      rw [hset other he]
      exact ht.entered other ho
    all_goals
      change ((w.setMatrix matrix none).matrices other).isSome = true at hs
      have he : other ≠ matrix := by
        intro he
        rw [he, hgone] at hs
        contradiction
      rw [hset other he] at hs
    · exact ht.needed other hs (List.not_mem_cons_of_ne_of_not_mem he hl)
    · exact ht.bounded other hs

/-- Collecting settles what the matrix owes. -/
theorem settles (h : Collects library matrix w v)
    (hb : ∀ other, (w.matrices other).isSome → other < w.nextMatrix) : Settles library w v := by
  cases h with
  | kept session hq hr => exact .of_same hq rfl rfl
  | gone found session hm hr hd =>
    have hlt : matrix < w.nextMatrix := hb matrix (by rw [hm]; rfl)
    have hheld : ∀ duty, ({ w.setMatrix matrix none with session } : Workspace σ).held.count duty +
        found.duty.toList.count duty = w.held.count duty := by
      intro duty
      have hf : w.duty matrix = found.duty := by rw [Workspace.duty, hm]; rfl
      rw [← hf]
      refine count_filterMap_clear (g := (w.setMatrix matrix none).duty) ?_ ?_
        List.nodup_range (List.mem_range.mpr hlt) duty
      · simp [Workspace.duty, Workspace.setMatrix]
      · intro other he
        simp [Workspace.duty, Workspace.setMatrix, he]
    refine ⟨hd.grows, fun other => ?_, rfl, fun duty => ?_, fun he hn duty => ?_, hd.handled⟩
    · by_cases he : other = matrix
      · exact .inl (if_pos he)
      · exact .inr (if_neg he)
    · have hh := hheld duty
      unfold Workspace.balance
      rcases hd.atMost with hc | hc
      · rw [hc]
        omega
      · rw [hc, List.count_append]
        omega
    · have hh := hheld duty
      unfold Workspace.balance
      rw [hd.exact (he matrix found hm) hn, List.count_append]
      omega

end Collects

/-- One matrix after the other is collected. -/
inductive CollectsAll : List Nat → Workspace σ → Workspace σ → Prop where
  /-- None is. -/
  | nil (w : Workspace σ) : CollectsAll [] w w
  /-- The first one is, and then the rest. -/
  | cons {matrix : Nat} {rest : List Nat} {u v w : Workspace σ}
      (first : Collects library matrix u v) (others : CollectsAll rest v w) :
      CollectsAll (matrix :: rest) u w

namespace CollectsAll

variable {library}

variable {w v : Workspace σ} {list : List Nat}

theorem append {u : Workspace σ} {rest : List Nat} (h : CollectsAll library list u v)
    (k : CollectsAll library rest v w) : CollectsAll library (list ++ rest) u w := by
  induction h with
  | nil => exact k
  | cons first _ ih => exact .cons first (ih k)

theorem frame (h : CollectsAll library list w v) :
    v.views = w.views ∧ v.outside = w.outside ∧ v.nextView = w.nextView := by
  induction h with
  | nil => exact ⟨rfl, rfl, rfl⟩
  | cons first _ ih =>
    obtain ⟨h₁, h₂, h₃⟩ := first.frame
    exact ⟨ih.1.trans h₁, ih.2.1.trans h₂, ih.2.2.trans h₃⟩

/-- Collecting all loose matrices leaves a tidy workspace and settles what they owe. -/
theorem tidy_settles (h : CollectsAll library list w v) (ht : Tidy w list) :
    Tidy v [] ∧ Settles library w v := by
  induction h with
  | nil => exact ⟨ht, .refl _⟩
  | cons first _ ih =>
    obtain ⟨hv, hs⟩ := ih (first.tidy ht)
    exact ⟨hv, (first.settles ht.bounded).trans hs⟩

end CollectsAll

namespace ViewAction

/-- Letting go of a matrix is never refused and collects it. -/
theorem letGo_collects (matrix : Nat) (w : Workspace σ) :
    (letGo library matrix w).1 = .ok () ∧ Collects library matrix w (letGo library matrix w).2 := by
  unfold letGo
  rw [bind_ok (get_apply w)]
  split_ifs with hr
  · rw [w.references_eq_zero] at hr
    cases hm : w.matrices matrix with
    | none => exact ⟨rfl, .kept w.session (Std.Refl.refl _) (.inr hm)⟩
    | some found =>
      have hd := found.abandon_discharges library w.session
      exact ⟨(found.abandon_release library w.session).1, .gone found _ hm hr hd⟩
  · rw [w.references_eq_zero, not_not] at hr
    exact ⟨rfl, .kept w.session (Std.Refl.refl _) (.inl hr)⟩

theorem letGo?_collects (matrix : Option Nat) (w : Workspace σ) :
    (letGo? library matrix w).1 = .ok () ∧
      CollectsAll library matrix.toList w (letGo? library matrix w).2 := by
  cases matrix with
  | none => exact ⟨rfl, .nil w⟩
  | some matrix =>
    obtain ⟨hr, hc⟩ := letGo_collects library matrix w
    exact ⟨hr, .cons hc (.nil _)⟩

/-- Settling a matrix collects it, whether or not destroying it is refused. -/
theorem settle_collects (view matrix : Nat) (w : Workspace σ) :
    Collects library matrix w (settle library view matrix w).2 := by
  unfold settle
  rw [bind_ok (get_apply w)]
  cases hm : w.matrices matrix with
  | none => exact .kept w.session (Std.Refl.refl _) (.inr hm)
  | some found =>
    dsimp only
    split_ifs with hr
    · rw [w.references_eq_zero] at hr
      exact .gone found _ hm hr (found.release_discharges library w.session)
    · rw [w.references_eq_zero, not_not] at hr
      exact .kept _ (note_quiet library _ w.session) (.inl hr)

end ViewAction

/-! ### Finalizing, dropping, taking out and giving back -/

/-- A view that has given up its references and shows no element. -/
def View.emptied (view : View) : View :=
  { view with handle := none, keepAlive := none, window := .hollow view.kind 0 0 }

/-- The reference that a view shares is one of its own. -/
theorem View.sharedHandle_mem (view : View) {matrix : Nat} (h : view.sharedHandle = some matrix) :
    matrix ∈ view.references := by
  unfold sharedHandle at h
  rw [references, List.mem_append, Option.mem_toList, Option.mem_toList]
  cases hk : view.keepAlive with
  | none =>
    rw [hk] at h
    exact .inl h
  | some kept =>
    rw [hk] at h
    exact .inr h

/-- What finalizing makes of a view. -/
def View.finalized (view : View) : View :=
  if view.owns = true ∧ view.handle.isSome = true then view.emptied else view

/-- Finalizing keeps the identity of a view. -/
@[simp] theorem View.finalized_id (view : View) : view.finalized.id = view.id := by
  unfold finalized
  split_ifs <;> rfl

/-- A view that does not own its matrix, or has given it up, is final already. -/
theorem View.finalized_eq_self {view : View}
    (h : ¬(view.owns = true ∧ view.handle.isSome = true)) : view.finalized = view := if_neg h

/-- The workspace ended tidy and settled, with these views and outside references. -/
structure Clears (w v : Workspace σ) (views : List View) (outside : List Nat) : Prop where
  /-- Exactly what is referred to is held. -/
  tidy : Tidy v []
  /-- What lost its last reference is destroyed if it was owned. -/
  settles : Settles library w v
  /-- The views. -/
  views : v.views = views
  /-- The references that callers took out. -/
  outside : v.outside = outside
  /-- No identity is given out. -/
  nextView : v.nextView = w.nextView

namespace Clears

variable {library}

/-- A quiet change of the session clears nothing. -/
theorem of_session {w v : Workspace σ} {views : List View} {outside : List Nat}
    (h : Clears library w v views outside) {session : Session σ}
    (hq : Quiet library v.session session) :
    Clears library w { v with session } views outside :=
  ⟨h.tidy.of_session session, h.settles.trans (.of_same hq rfl rfl), h.views, h.outside,
    h.nextView⟩

theorem of_same {w : Workspace σ} (h : Tidy w []) {views : List View}
    (hviews : w.views = views) : Clears library w w views w.outside :=
  ⟨h, .refl w, hviews, rfl, rfl⟩

/-- Once the forgotten references are collected, the workspace is cleared. -/
theorem of_collectsAll {w u v : Workspace σ} {list : List Nat} (ht : Tidy u list)
    (hu : Settles library w u) (hn : u.nextView = w.nextView) (h : CollectsAll library list u v) :
    Clears library w v u.views u.outside := by
  obtain ⟨hv, hs⟩ := h.tidy_settles ht
  obtain ⟨h₁, h₂, h₃⟩ := h.frame
  exact ⟨hv, hu.trans hs, h₁, h₂, h₃.trans hn⟩

end Clears

section Views

variable {w : Workspace σ}

/-- The views after one of them was finalized. -/
def Workspace.viewsFinalized (w : Workspace σ) (id : Nat) : List View :=
  w.views.map fun view => if view.id = id then view.finalized else view

/-- Finalizing a view that is final already changes no view. -/
theorem viewsFinalized_eq_self {id : Nat}
    (h : ∀ view ∈ w.views, view.id = id → ¬(view.owns = true ∧ view.handle.isSome = true)) :
    w.viewsFinalized id = w.views := by
  rw [Workspace.viewsFinalized]
  conv_rhs => rw [← List.map_id w.views]
  refine List.map_congr_left fun view hm => ?_
  by_cases hid : view.id = id
  · rw [if_pos hid, View.finalized_eq_self (h view hm hid), id_eq]
  · rw [if_neg hid, id_eq]

/-- Replacing an owning view by its emptied self is finalizing it. -/
theorem setView_emptied_views (h : Tidy w []) {view : View} (hm : view ∈ w.views)
    (ho : view.owns = true ∧ view.handle.isSome = true) :
    (w.setView view.emptied).views = w.viewsFinalized view.id := by
  refine List.map_congr_left fun old hold => ?_
  change (if old.id = view.id then view.emptied else old) = _
  by_cases hid : old.id = view.id
  · rw [if_pos hid, if_pos hid, h.eq_of_id hold hm hid, View.finalized, if_pos ho]
  · rw [if_neg hid, if_neg hid]

/-- Dropping after finalizing leaves the views that dropping alone leaves. -/
theorem filter_viewsFinalized (id : Nat) :
    (w.viewsFinalized id).filter (·.id != id) = w.views.filter (·.id != id) := by
  rw [Workspace.viewsFinalized, List.filter_map]
  have hp : ((fun view : View => view.id != id) ∘
      fun view => if view.id = id then view.finalized else view) = fun view => view.id != id := by
    funext view
    simp only [Function.comp_apply]
    split_ifs <;> simp
  rw [hp]
  conv_rhs => rw [← List.map_id (w.views.filter (·.id != id))]
  refine List.map_congr_left fun view hm => ?_
  have hne : view.id ≠ id := by
    have := (List.mem_filter.mp hm).2
    exact bne_iff_ne.mp this
  rw [if_neg hne, id_eq]

/-- No view has an identity that is not found. -/
theorem view?_none {id : Nat} (h : w.view? id = none) {view : View} (hm : view ∈ w.views) :
    view.id ≠ id := by
  have hne := List.find?_eq_none.mp h view hm
  exact fun he => hne (beq_iff_eq.mpr he)

/-- An emptied view leaves its two references loose. -/
theorem Tidy.setView_emptied (h : Tidy w []) {view : View} (hm : view ∈ w.views) {matrix : Nat}
    (hh : view.handle = some matrix) :
    Tidy (w.setView view.emptied) (view.keepAlive.toList ++ [matrix]) := by
  have hmap : ∀ old ∈ w.views, (if old.id = view.emptied.id then view.emptied else old).id =
      old.id := by
    intro old _
    split_ifs with hid
    · exact hid.symm
    · rfl
  refine h.forget (List.pairwise_map.mpr (h.ordered.imp_of_mem fun hx hy hlt => ?_)) ?_ rfl rfl
    ?_ ?_
  · rw [hmap _ hx, hmap _ hy]
    exact hlt
  · intro new hnew
    obtain ⟨old, hold, rfl⟩ := List.mem_map.mp hnew
    rw [hmap old hold]
    exact h.earlier old hold
  · rintro other (⟨new, hnew, hr⟩ | hr)
    · obtain ⟨old, hold, rfl⟩ := List.mem_map.mp hnew
      split_ifs at hr with hid
      · exact absurd hr (by simp [View.emptied, View.references])
      · exact .inl ⟨old, hold, hr⟩
    · exact .inr hr
  · rintro other (⟨old, hold, hr⟩ | hr) hl
    · by_cases hid : old.id = view.emptied.id
      · rw [h.eq_of_id hold hm hid, View.references, hh] at hr
        exact absurd hr (fun hr => hl (by simpa [or_comm] using hr))
      · exact .inl ⟨old, List.mem_map.mpr ⟨old, hold, if_neg hid⟩, hr⟩
    · exact .inr hr

/-- A removed view leaves its references loose. -/
theorem Tidy.removeView (h : Tidy w []) {view : View} (hm : view ∈ w.views) :
    Tidy (w.removeView view.id) view.references := by
  refine h.forget (h.ordered.filter _) (fun old hold => ?_) rfl rfl ?_ ?_
  · exact h.earlier old (List.mem_filter.mp hold).1
  · rintro other (⟨old, hold, hr⟩ | hr)
    · exact .inl ⟨old, (List.mem_filter.mp hold).1, hr⟩
    · exact .inr hr
  · rintro other (⟨old, hold, hr⟩ | hr) hl
    · by_cases hid : old.id = view.id
      · rw [h.eq_of_id hold hm hid] at hr
        exact absurd hr hl
      · exact .inl ⟨old, List.mem_filter.mpr ⟨hold, bne_iff_ne.mpr hid⟩, hr⟩
    · exact .inr hr

end Views

namespace ViewAction

variable {w : Workspace σ}

/-- Finalizing an owning view empties it, lets go of the matrix that it kept alive and settles its
own. -/
theorem finalize_of_owner {id : Nat} {view : View} (hv : w.view? id = some view) {matrix : Nat}
    (ho : view.owns = true) (hh : view.handle = some matrix) :
    finalize library id w = (letGo? library view.keepAlive >>= fun _ => settle library id matrix)
      (w.setView view.emptied) := by
  unfold finalize
  rw [bind_ok (get_apply w), hv]
  obtain ⟨_, _, _, _, _, _, _, _, _⟩ := view
  cases ho
  cases hh
  rfl

/-- Finalizing any other view does nothing. -/
theorem finalize_of_other {id : Nat}
    (h : ∀ view, w.view? id = some view → ¬(view.owns = true ∧ view.handle.isSome = true)) :
    finalize library id w = (.ok (), w) := by
  unfold finalize
  rw [bind_ok (get_apply w)]
  rcases hv : w.view? id with _ | ⟨_, _, handle, _, owns, _, _, _, _⟩
  · rfl
  · have hn := h _ hv
    cases owns with
    | false => rfl
    | true =>
      cases handle with
      | none => rfl
      | some matrix => exact absurd ⟨rfl, rfl⟩ hn

/-- Finalizing empties the view if it owns a matrix, and clears what lost its last reference. -/
theorem finalize_clears (h : Tidy w []) (id : Nat) :
    Clears library w (finalize library id w).2 (w.viewsFinalized id) w.outside := by
  by_cases hex : ∃ view matrix, w.view? id = some view ∧ view.owns = true ∧
      view.handle = some matrix
  · obtain ⟨view, matrix, hv, ho, hh⟩ := hex
    obtain ⟨hm, rfl⟩ := Tidy.view?_some hv
    obtain ⟨hr, hk⟩ := letGo?_collects library view.keepAlive (w.setView view.emptied)
    have hc := settle_collects library view.id matrix
      (letGo? library view.keepAlive (w.setView view.emptied)).2
    rw [finalize_of_owner library hv ho hh, bind_ok (Prod.ext hr rfl),
      ← setView_emptied_views h hm ⟨ho, by rw [hh]; rfl⟩]
    exact .of_collectsAll (h.setView_emptied hm hh) (.of_same (Std.Refl.refl _) rfl rfl) rfl
      (hk.append (.cons hc (.nil _)))
  · have hn : ∀ view, w.view? id = some view →
        ¬(view.owns = true ∧ view.handle.isSome = true) := by
      rintro view hv ⟨ho, hs⟩
      obtain ⟨matrix, hh⟩ := Option.isSome_iff_exists.mp hs
      exact hex ⟨view, matrix, hv, ho, hh⟩
    rw [finalize_of_other library hn]
    refine .of_same h (viewsFinalized_eq_self fun view hm hid => hn view ?_).symm
    exact h.view?_of_mem hm hid

/-- Dropping removes the view and clears what lost its last reference. -/
theorem drop_clears (h : Tidy w []) (id : Nat) :
    Clears library w (drop library id w).2 (w.views.filter (·.id != id)) w.outside := by
  have hfinal : ∃ v, tryCatch (finalize library id) (fun fault => note (.finalizeFailed id fault)) w
      = (.ok (), v) ∧ Clears library w v (w.viewsFinalized id) w.outside := by
    have hf := finalize_clears library h id
    rw [tryCatch_apply]
    rcases hr : finalize library id w with ⟨fault | done, v⟩ <;> rw [hr] at hf
    · exact ⟨_, rfl, hf.of_session (note_quiet library _ v.session)⟩
    · exact ⟨v, rfl, hf⟩
  obtain ⟨v, hc, hf⟩ := hfinal
  unfold drop
  rw [bind_ok hc, bind_ok (get_apply v), ← filter_viewsFinalized, ← hf.views]
  cases hv : v.view? id with
  | none =>
    have hall : v.views.filter (·.id != id) = v.views :=
      List.filter_eq_self.mpr fun view hm => bne_iff_ne.mpr (view?_none hv hm)
    rw [hall, hf.views]
    exact hf
  | some view =>
    obtain ⟨hm, rfl⟩ := Tidy.view?_some hv
    dsimp only
    obtain ⟨hr, hk⟩ := letGo?_collects library view.handle (v.removeView view.id)
    rw [bind_ok (modify_apply _ v), bind_ok (Prod.ext hr rfl)]
    have hl := (letGo?_collects library view.keepAlive
      (letGo? library view.handle (v.removeView view.id)).2).2
    have hd := Clears.of_collectsAll (hf.tidy.removeView hm)
      (hf.settles.trans (.of_same (Std.Refl.refl _) rfl rfl)) hf.nextView (hk.append hl)
    exact ⟨hd.tidy, hd.settles, hd.views, hd.outside.trans hf.outside, hd.nextView⟩

/-- Taking out a reference adds it to those of callers. -/
theorem takeHandle_clears (h : Tidy w []) {view : View} (hm : view ∈ w.views) :
    Clears library w (takeHandle view w).2 w.views (view.sharedHandle.toList ++ w.outside) := by
  unfold takeHandle
  cases hs : view.sharedHandle with
  | none => exact .of_same h rfl
  | some matrix =>
    have hr : matrix ∈ view.references := view.sharedHandle_mem hs
    refine ⟨h.forget h.ordered h.earlier rfl rfl ?_ ?_, .of_same (Std.Refl.refl _) rfl rfl, rfl,
      rfl, rfl⟩
    · rintro other (ho | ho)
      · exact .inl ho
      · rcases List.mem_cons.mp ho with rfl | ho
        · exact .inl ⟨view, hm, hr⟩
        · exact .inr ho
    · rintro other (ho | ho) -
      · exact .inl ho
      · exact .inr (List.mem_cons_of_mem _ ho)

/-- Giving a reference back takes it from those of callers and clears the matrix if that was the
last one. -/
theorem dropHandle_clears (h : Tidy w []) (matrix : Nat) :
    Clears library w (dropHandle library matrix w).2 w.views (w.outside.erase matrix) := by
  have ht : Tidy { w with outside := w.outside.erase matrix } [matrix] := by
    refine h.forget h.ordered h.earlier rfl rfl ?_ ?_
    · rintro other (ho | ho)
      · exact .inl ho
      · exact .inr (List.mem_of_mem_erase ho)
    · rintro other (ho | ho) hl
      · exact .inl ho
      · have hne : other ≠ matrix := fun he => hl (he ▸ List.mem_singleton_self _)
        exact .inr ((List.mem_erase_of_ne hne).mpr ho)
  have hc := (letGo_collects library matrix { w with outside := w.outside.erase matrix }).2
  exact .of_collectsAll ht (.of_same (Std.Refl.refl _) rfl rfl) rfl (.cons hc (.nil _))

end ViewAction

end ForeignMatrix
