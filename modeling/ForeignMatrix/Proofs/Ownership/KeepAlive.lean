import ForeignMatrix.Proofs.Ownership.Destruction

/-!
# What a view acquired under another keeps alive

A view that adopts the pointer of its parent without owning it shares one
reference with the parent: the one the parent keeps for its own parent, and the
parent's own only if there is no such. The matrix behind the pointer is safe as
long as the view is there if that reference is to its owner. If it is not, the
parent being an owner that was itself acquired under a view of another matrix,
then dropping the other views destroys the matrix under the view.
-/

namespace ForeignMatrix

open Actions

variable {σ : Type} (library : NativeLibrary σ)

namespace History

variable {h : History σ}

/-! ### Views that stay -/

/-- A view that does not own its matrix, or has given it up, stays as it is until it is dropped. -/
theorem step_view_mem (ht : Tidy h.workspace []) {view : View} (hm : view ∈ h.workspace.views)
    (hf : ¬(view.owns = true ∧ view.handle.isSome = true)) {op : Operation σ}
    (hop : op ≠ .drop view.id) :
    view ∈ (h.step library op).workspace.views := by
  have he := step_effect library ht op
  generalize (h.step library op).workspace = v at he ⊢
  generalize h.entry library op = entry at he
  cases he with
  | steady hs =>
    obtain ⟨session, hq, rfl⟩ := hs
    exact hm
  | derived source hsource window session hq => exact List.mem_append_left _ hm
  | finalized id hc =>
    rw [hc.views]
    refine List.mem_map.mpr ⟨view, hm, ?_⟩
    split_ifs
    · exact View.finalized_eq_self hf
    · rfl
  | dropped id hc =>
    rw [hc.views]
    refine List.mem_filter.mpr ⟨hm, bne_iff_ne.mpr fun hid => hop ?_⟩
    rw [hid]
  | taken source hsource hc =>
    rw [hc.views]
    exact hm
  | returned matrix hc =>
    rw [hc.views]
    exact hm
  | abandoned a ha matrix hx session hd => exact hm
  | entered a ha matrix hx layout hl session hq => exact List.mem_append_left _ hm

theorem run_view_mem (hr : Recorded h) {view : View} (hm : view ∈ h.workspace.views)
    (hf : ¬(view.owns = true ∧ view.handle.isSome = true)) {ops : List (Operation σ)}
    (hops : .drop view.id ∉ ops) :
    view ∈ (h.run library ops).workspace.views := by
  induction ops generalizing h with
  | nil => exact hm
  | cons op ops ih =>
    obtain ⟨hop, hrest⟩ := not_or.mp (mt List.mem_cons.mpr hops)
    exact ih (hr.step library op) (step_view_mem library hr.tidy hm hf (Ne.symm hop)) hrest

/-! ### Giving everything else up -/

/-- Dropping views removes them and acquires nothing. -/
theorem run_drops (hr : Recorded h) (ids : List Nat) :
    (h.run library (ids.map .drop)).workspace.views =
        h.workspace.views.filter (fun view => decide (view.id ∉ ids)) ∧
      (h.run library (ids.map .drop)).workspace.outside = h.workspace.outside ∧
      (h.run library (ids.map .drop)).acquired = h.acquired := by
  induction ids generalizing h with
  | nil =>
    refine ⟨?_, rfl, rfl⟩
    simp only [List.map_nil, run_nil, List.not_mem_nil, not_false_eq_true, decide_true,
      List.filter_true]
  | cons id ids ih =>
    have hc := ViewAction.drop_clears library hr.tidy id
    have hviews : (h.step library (.drop id)).workspace.views =
        h.workspace.views.filter (·.id != id) := hc.views
    have houtside : (h.step library (.drop id)).workspace.outside = h.workspace.outside :=
      hc.outside
    obtain ⟨h₁, h₂, h₃⟩ := ih (hr.step library (.drop id))
    rw [List.map_cons, run_cons, h₁, h₂, h₃, hviews, houtside]
    refine ⟨?_, rfl, rfl⟩
    rw [List.filter_filter]
    refine List.filter_congr fun view _ => ?_
    simp only [List.mem_cons, not_or, bne, Bool.decide_and, decide_not]
    rw [Bool.and_comm]
    rfl

/-- Giving back every reference leaves callers without any. -/
theorem run_dropHandles (hr : Recorded h) :
    (h.run library (h.workspace.outside.map .dropHandle)).workspace.views = h.workspace.views ∧
      (h.run library (h.workspace.outside.map .dropHandle)).workspace.outside = [] ∧
      (h.run library (h.workspace.outside.map .dropHandle)).acquired = h.acquired := by
  generalize hout : h.workspace.outside = list
  induction list generalizing h with
  | nil => exact ⟨rfl, hout, rfl⟩
  | cons matrix list ih =>
    have hc := ViewAction.dropHandle_clears library hr.tidy matrix
    have hviews : (h.step library (.dropHandle matrix)).workspace.views = h.workspace.views :=
      hc.views
    have houtside : (h.step library (.dropHandle matrix)).workspace.outside = list := by
      refine hc.outside.trans ?_
      rw [hout, List.erase_cons_head]
    obtain ⟨h₁, h₂, h₃⟩ := ih (hr.step library (.dropHandle matrix)) houtside
    exact ⟨h₁.trans hviews, h₂, h₃⟩

/-- Operations that drop every view but one and give back all references. -/
def allBut (h : History σ) (view : View) : List (Operation σ) :=
  ((h.workspace.views.map View.id).filter (· != view.id)).map .drop ++
    h.workspace.outside.map .dropHandle

/-- The one view is not dropped. -/
theorem drop_not_mem_allBut (h : History σ) (view : View) :
    (.drop view.id : Operation σ) ∉ h.allBut view := by
  intro hm
  rcases List.mem_append.mp hm with hm | hm
  · obtain ⟨id, hid, he⟩ := List.mem_map.mp hm
    cases he
    have hne := (List.mem_filter.mp hid).2
    simp at hne
  · obtain ⟨matrix, -, he⟩ := List.mem_map.mp hm
    contradiction

/-- Nothing is acquired, and in the end only the one view refers to a matrix. -/
theorem run_allBut (hr : Recorded h) (view : View) (hm : view ∈ h.workspace.views) :
    (h.run library (h.allBut view)).acquired = h.acquired ∧
      ∀ matrix, (h.run library (h.allBut view)).workspace.Refers matrix →
        matrix ∈ view.references := by
  obtain ⟨hviews, houtside, hacquired⟩ :=
    run_drops library hr ((h.workspace.views.map View.id).filter (· != view.id))
  have hg := hr.run library (((h.workspace.views.map View.id).filter (· != view.id)).map .drop)
  obtain ⟨h₁, h₂, h₃⟩ := run_dropHandles library hg
  rw [houtside, hviews] at h₁
  rw [houtside] at h₂ h₃
  rw [allBut, run_append]
  refine ⟨h₃.trans hacquired, ?_⟩
  rintro matrix (⟨other, ho, hx⟩ | hx)
  · rw [h₁] at ho
    obtain ⟨hother, hid⟩ := List.mem_filter.mp ho
    have hsame : other.id = view.id := by
      by_contra hne
      refine of_decide_eq_true hid (List.mem_filter.mpr ⟨List.mem_map_of_mem hother, ?_⟩)
      exact bne_iff_ne.mpr hne
    rw [hr.tidy.eq_of_id hother hm hsame] at hx
    exact hx
  · rw [h₂] at hx
    exact absurd hx List.not_mem_nil

/-- A library that hands out error handles never denied one in a run. -/
theorem run_not_denied (hl : library.HandsOut) (hr : Recorded h) (hd : ¬Denied h.calls)
    (ops : List (Operation σ)) : ¬Denied (h.run library ops).calls := by
  induction ops generalizing h with
  | nil => exact hd
  | cons op ops ih =>
    refine ih (hr.step library op) fun hx => hd ?_
    exact (step_effect library hr.tidy op).session.2 hl hx

/-! ### Copies of a parent -/

/-- A run of operations leads to the history. -/
def Reachable (h : History σ) : Prop := ∃ native ops, h = (start native).run library ops

/-- Acquired matrices are only ever added. -/
theorem run_acquired_suffix (h : History σ) (ops : List (Operation σ)) :
    h.acquired <:+ (h.run library ops).acquired := by
  induction ops generalizing h with
  | nil => exact List.suffix_refl _
  | cons op ops ih => exact (List.suffix_append _ _).trans (ih (h.step library op))

theorem Reachable.recorded (hr : h.Reachable library) : Recorded h := by
  obtain ⟨native, ops, rfl⟩ := hr
  exact (Recorded.start native).run library ops

theorem Reachable.not_denied (hr : h.Reachable library) (hl : library.HandsOut) :
    ¬Denied h.calls := by
  obtain ⟨native, ops, rfl⟩ := hr
  exact run_not_denied library hl (.start native) List.not_mem_nil ops

section Copies

variable {binder : Binder} {request : ViewRequest} {parent view : View} {pointer : MatrixPointer}

/-- Acquiring a view under a parent from the pointer of the parent, without ownership, records a
matrix that is not owned, and makes a view that keeps alive what the parent shares. -/
theorem step_copy (ht : Tidy h.workspace []) (hparent : parent ∈ h.workspace.views)
    (hexisting : request.existing = some (some pointer))
    (howns : request.owns.getD binder.defaults.ownsAdopted = false)
    (hview : view ∈ (h.step library (.bind binder request (some parent.id))).workspace.views)
    (hid : view.id = h.workspace.nextView) :
    view.owns = false ∧ view.handle = some h.workspace.nextMatrix ∧
      view.keepAlive = parent.sharedHandle ∧
      ∃ e, e.matrix.owned = false ∧
        (h.step library (.bind binder request (some parent.id))).acquired = e :: h.acquired := by
  obtain ⟨a, matrix, layout, session, ha, hx, rfl, -, hacquired⟩ :=
    entered_of_view library ht (bind_acquires library h.workspace binder request _) hview hid
  obtain ⟨found, hfound, hrequest⟩ := Option.bind_eq_some_iff.mp ha
  cases (ht.view?_of_mem hparent rfl).symm.trans hfound
  obtain ⟨hp, he, ho⟩ := Binder.acquisition_some hrequest
  have hadopted : a.existing = some pointer := by
    rw [hexisting] at he
    cases hax : a.existing with
    | none => rw [hax] at he; contradiction
    | some other => rw [hax] at he; cases he; rfl
  have hmatrix : matrix.owned = false := by
    rw [Acquisition.matrix?_adopted library hx hadopted, ho (by rw [hadopted]; rfl), howns]
    rfl
  refine ⟨hmatrix, rfl, ?_, _, hmatrix, hacquired⟩
  rw [Acquisition.view, hp]
  rfl

/-- What was acquired with ownership of a pointer was acquired before, if no more of it is. -/
theorem mem_of_count_eq {g : History σ} (new : List Acquired)
    (hacquired : g.acquired = new ++ h.acquired)
    (hcount : g.ownedPointers.count pointer = h.ownedPointers.count pointer) {e : Acquired}
    (he : e ∈ g.acquired) (hown : e.matrix.owned = true) (hp : e.matrix.pointer = pointer) :
    e ∈ h.acquired := by
  rw [ownedPointers, hacquired, List.filter_append, List.map_append, List.count_append] at hcount
  rw [hacquired] at he
  refine (List.mem_append.mp he).resolve_left fun hnew => ?_
  have hmem : pointer ∈ (new.filter (·.matrix.owned)).map (·.matrix.pointer) :=
    List.mem_map.mpr ⟨e, List.mem_filter.mpr ⟨hnew, hown⟩, hp⟩
  have hpos := List.count_pos_iff.mpr hmem
  rw [ownedPointers] at hcount
  omega

/-- A view that does not own keeps its matrices from destruction until it is dropped, as long as
whatever is acquired with ownership of the pointer is what the view keeps alive. -/
theorem run_safe (hr : Recorded h) (hview : view ∈ h.workspace.views) (hvowns : view.owns = false)
    (hshared : ∀ e ∈ h.acquired, e.matrix.owned = true → e.matrix.pointer = pointer →
      ∃ number, e.number = some number ∧ number ∈ view.references)
    {rest : List (Operation σ)} (hdrop : .drop view.id ∉ rest)
    (hcount : (h.run library rest).ownedPointers.count pointer = h.ownedPointers.count pointer) :
    destroys pointer (h.run library rest).calls = 0 := by
  by_contra hne
  obtain ⟨e, he, hown, hp, hx⟩ := (hr.run library rest).exists_of_destroys hne
  obtain ⟨made, hmade⟩ := run_acquired_suffix library h rest
  have hold := mem_of_count_eq made hmade.symm hcount he hown hp
  obtain ⟨number, hn, hrefers⟩ := hshared e hold hown hp
  have hfinal : ¬(view.owns = true ∧ view.handle.isSome = true) := by
    rw [hvowns]
    exact fun howner => Bool.false_ne_true howner.1
  exact hx ⟨number, hn, .inl ⟨view, run_view_mem library hr hview hfinal hdrop, hrefers⟩⟩

/-- If no run destroys the pointer before the view is dropped, then the view refers to whatever was
acquired with ownership of the pointer. -/
theorem refers_of_safe (hr : Recorded h) (hl : library.HandsOut) (ht : h.Trusted)
    (hview : view ∈ h.workspace.views)
    (hsafe : ∀ rest : List (Operation σ), .drop view.id ∉ rest →
      (h.run library rest).ownedPointers.count pointer = h.ownedPointers.count pointer →
        destroys pointer (h.run library rest).calls = 0)
    {e : Acquired} (he : e ∈ h.acquired) (hown : e.matrix.owned = true)
    (hp : e.matrix.pointer = pointer) :
    ∃ number, e.number = some number ∧ number ∈ view.references := by
  by_contra hnone
  obtain ⟨hsame, hrefers⟩ := run_allBut library hr view hview
  have hlater : e ∈ (h.run library (h.allBut view)).acquired := by
    rw [hsame]
    exact he
  have htrusted : (h.run library (h.allBut view)).Trusted := by
    refine ⟨?_, run_not_denied library hl hr ht.2 _⟩
    rw [hsame]
    exact ht.1
  have hgone : ¬(h.run library (h.allBut view)).Refers e := by
    rintro ⟨number, hn, hx⟩
    exact hnone ⟨number, hn, hrefers number hx⟩
  refine (hr.run library (h.allBut view)).destroys_ne_zero htrusted hlater hown hgone ?_
  rw [hp]
  refine hsafe _ (drop_not_mem_allBut h view) ?_
  rw [ownedPointers, hsame, ownedPointers]

/-- The matrix behind a copy of its parent's pointer is safe from destruction as long as the copy
is not dropped, in whatever order other views are finalized and dropped, exactly if whatever was
acquired with ownership of the pointer is the matrix that the parent shares. -/
theorem copy_alive_iff (hr : h.Reachable library) (hl : library.HandsOut)
    (hd : ∀ e ∈ h.acquired, e.matrix.owned = true → e.matrix.destroyable = true)
    (hparent : parent ∈ h.workspace.views) (hpointer : h.workspace.pointer? parent = some pointer)
    (hexisting : request.existing = some (some pointer))
    (howns : request.owns.getD binder.defaults.ownsAdopted = false)
    (hview : view ∈ (h.step library (.bind binder request (some parent.id))).workspace.views)
    (hid : view.id = h.workspace.nextView) :
    (∀ e ∈ h.acquired, e.matrix.owned = true → e.matrix.pointer = pointer →
        e.number = parent.sharedHandle) ↔
      ∀ rest : List (Operation σ), .drop view.id ∉ rest →
        let later := (h.step library (.bind binder request (some parent.id))).run library rest
        later.ownedPointers.count pointer = h.ownedPointers.count pointer →
          destroys pointer later.calls = 0 := by
  have hrec := hr.recorded
  have hbound := hrec.step library (.bind binder request (some parent.id))
  have hdenied := run_not_denied library hl hrec (hr.not_denied library hl)
    [.bind binder request (some parent.id)]
  obtain ⟨hvowns, hhandle, hkeep, new, hnew, hacquired⟩ :=
    step_copy library hrec.tidy hparent hexisting howns hview hid
  rw [run_cons, run_nil] at hdenied
  generalize h.step library (.bind binder request (some parent.id)) = bound at *
  have howned : ∀ e ∈ bound.acquired, e.matrix.owned = true → e ∈ h.acquired := by
    intro e he hown
    rw [hacquired] at he
    refine (List.mem_cons.mp he).resolve_left fun hn => ?_
    rw [hn, hnew] at hown
    exact Bool.false_ne_true hown
  have hcount : bound.ownedPointers = h.ownedPointers := by
    rw [ownedPointers, hacquired, List.filter_cons_of_neg (by rw [hnew]; decide), ownedPointers]
  -- The numbers of what was acquired before are not that of the copy.
  have hkept : ∀ e ∈ h.acquired, ∀ number, e.number = some number →
      (number ∈ view.references ↔ e.number = parent.sharedHandle) := by
    intro e he number hn
    have hlt := (hrec.numbered e he number hn).1
    have hne : h.workspace.nextMatrix ≠ number := by omega
    rw [View.references, hhandle, hkeep, hn, List.mem_append, Option.mem_toList,
      Option.mem_toList, Option.some_inj]
    exact ⟨fun hm => (hm.resolve_left hne).symm, fun hm => .inr hm.symm⟩
  constructor
  · intro hshared rest hdrop later hsame
    refine run_safe library hbound hview hvowns (fun e he hown hp => ?_) hdrop
      (hsame.trans (congrArg _ hcount.symm))
    have hold := howned e he hown
    have hnumber := hshared e hold hown hp
    cases hs : parent.sharedHandle with
    | none =>
      -- A parent with a pointer has a handle, and so it shares a reference.
      obtain ⟨matrix, hmatrix, -⟩ := Option.map_eq_some_iff.mp hpointer
      obtain ⟨handle, hh, -⟩ := Option.bind_eq_some_iff.mp hmatrix
      rw [View.sharedHandle, hh] at hs
      cases hk : parent.keepAlive <;> rw [hk] at hs <;> contradiction
    | some kept =>
      rw [hs] at hnumber
      exact ⟨kept, hnumber, (hkept e hold kept hnumber).mpr (hnumber.trans hs.symm)⟩
  · intro hsafe e he hown hp
    have hafter : e ∈ bound.acquired := by
      rw [hacquired]
      exact List.mem_cons_of_mem _ he
    have htrusted : bound.Trusted :=
      ⟨fun other ho hown => hd other (howned other ho hown) hown, hdenied⟩
    obtain ⟨number, hn, hm⟩ := refers_of_safe library hbound hl htrusted hview
      (fun rest hdrop hsame => hsafe rest hdrop (hsame.trans (congrArg _ hcount))) hafter hown hp
    exact (hkept e he number hn).mp hm

/-- The owner of a matrix is finalized and dropped, and the copy acquired under it still keeps the
matrix alive. -/
theorem copy_alive_under_owner :
    let h := (start (0, false)).run (shelf 0) [.bind (shelfBinder {}) (shelfRequest none none) none]
    let bound := h.step (shelf 0)
      (.bind (shelfBinder {}) (shelfRequest (some ⟨0⟩) (some false)) (some 1))
    let later := bound.run (shelf 0) [.finalize 1, .drop 1]
    (later.workspace.view? 2).bind later.workspace.pointer? = some ⟨0⟩ ∧
      destroys ⟨0⟩ later.calls = 0 := by
  intro h bound later
  refine ⟨by decide +kernel, ?_⟩
  let owner : View := ⟨1, .fixed 1 1 .double, some 0, none, true, none, false, (1, 1),
    ⟨8, ⟨1, 1⟩, ⟨1, 1⟩⟩⟩
  let copy : View := ⟨2, .fixed 1 1 .double, some 1, some 0, false, some 1, false, (1, 1),
    ⟨8, ⟨1, 1⟩, ⟨1, 1⟩⟩⟩
  have hmem : owner ∈ h.workspace.views := by decide +kernel
  have hcopy : copy ∈ bound.workspace.views := by decide +kernel
  refine (copy_alive_iff (h := h) (shelf 0) ⟨_, _, rfl⟩ (fun _ => nofun) (by decide +kernel) hmem
    (by decide +kernel) rfl rfl hcopy rfl).mp (by decide +kernel) [.finalize 1, .drop 1] ?_ ?_
  · simp [copy]
  · decide +kernel

/-- A view of a second matrix is acquired under the owner of a first one and then copied. The copy
keeps the first matrix alive and not the second, which is destroyed with its owner although the
copy still points to it. -/
theorem copy_outlives_matrix :
    let h := (start (0, false)).run (shelf 0)
      [.bind (shelfBinder {}) (shelfRequest none none) none,
        .bind (shelfBinder {}) (shelfRequest none none) (some 1)]
    let bound := h.step (shelf 0)
      (.bind (shelfBinder {}) (shelfRequest (some ⟨1⟩) (some false)) (some 2))
    let later := bound.step (shelf 0) (.drop 2)
    (h.workspace.view? 2).bind h.workspace.pointer? = some ⟨1⟩ ∧
      (later.workspace.view? 3).map (·.owns) = some false ∧
      (later.workspace.view? 3).bind later.workspace.pointer? = some ⟨1⟩ ∧
      later.ownedPointers.count ⟨1⟩ = 1 ∧ destroys ⟨1⟩ later.calls = 1 := by
  decide +kernel

end Copies

end History

end ForeignMatrix
