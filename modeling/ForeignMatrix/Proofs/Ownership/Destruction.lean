import ForeignMatrix.Proofs.Ownership.Balance

/-!
# One destruction for each owned matrix

Where every owned pointer is acquired once and the entry points for destruction
are in place, the balance of a run leaves each owned matrix a single
destruction. It comes in the operation that removes the last reference to the
matrix, which may be the failed acquisition itself, and counts whatever error
the call reports.
-/

namespace ForeignMatrix

open Actions

variable {σ : Type} (library : NativeLibrary σ)

/-- Number of calls that destroyed the pointer, through whatever family. -/
def destroys (pointer : MatrixPointer) (calls : List NativeCall) : Nat :=
  (destroyed calls).countP (·.2 == pointer)

theorem destroys_append (pointer : MatrixPointer) (made calls : List NativeCall) :
    destroys pointer (made ++ calls) = destroys pointer made + destroys pointer calls := by
  rw [destroys, destroyed_append, List.countP_append, destroys, destroys]

/-- Pointers that were acquired with ownership, once for each acquisition. -/
def History.ownedPointers (h : History σ) : List MatrixPointer :=
  (h.acquired.filter (·.matrix.owned)).map (·.matrix.pointer)

namespace Recorded

variable {h : History σ}

/-- A destroyed pointer belongs to an owned matrix that nothing refers to. -/
theorem exists_of_destroys (hr : Recorded h) {pointer : MatrixPointer}
    (hd : destroys pointer h.calls ≠ 0) :
    ∃ e ∈ h.acquired, e.matrix.owned = true ∧ e.matrix.pointer = pointer ∧ ¬h.Refers e := by
  obtain ⟨duty, hmem, hp⟩ := List.countP_pos_iff.mp (Nat.pos_of_ne_zero hd)
  obtain ⟨e, he, hduty, hx⟩ := hr.mem_destroyed hmem
  obtain ⟨hown, rfl⟩ := NativeMatrix.duty_eq_some.mp hduty
  exact ⟨e, he, hown, beq_iff_eq.mp hp, hx⟩

/-- With the entry points in place, an owned matrix that nothing refers to was destroyed. -/
theorem destroys_ne_zero (hr : Recorded h) (ht : h.Trusted) {e : Acquired} (he : e ∈ h.acquired)
    (hown : e.matrix.owned = true) (hx : ¬h.Refers e) : destroys e.matrix.pointer h.calls ≠ 0 := by
  have hspent : (e.matrix.family, e.matrix.pointer) ∈ h.spent := by
    refine List.mem_filterMap.mpr ⟨e, List.mem_filter.mpr ⟨he, ?_⟩, ?_⟩
    · rw [decide_eq_false hx]
      rfl
    · exact NativeMatrix.duty_eq_some.mpr ⟨hown, rfl⟩
  have hmem := (hr.destroyed_perm ht).mem_iff.mpr hspent
  exact Nat.ne_of_gt (List.countP_pos_iff.mpr ⟨_, hmem, beq_self_eq_true _⟩)

/-- A pointer is destroyed at most as often as it was acquired with ownership. -/
theorem destroys_le (hr : Recorded h) (pointer : MatrixPointer) :
    destroys pointer h.calls ≤ h.ownedPointers.count pointer := by
  have hsub : (destroyed h.calls).Subperm h.spent :=
    List.subperm_ext_iff.mpr fun duty _ => hr.destroyed_count_le duty
  have hspent : h.spent.countP (·.2 == pointer) ≤ h.ownedPointers.count pointer := by
    have hmap : h.spent.countP (·.2 == pointer) = (h.spent.map (·.2)).count pointer := by
      rw [List.count, List.countP_map]
      rfl
    rw [hmap, History.spent, dutiesOf_pointers]
    exact ((List.filter_sublist.filter _).map _).count_le pointer
  exact (hsub.countP_le _).trans hspent

/-- A pointer that was not acquired with ownership is not destroyed. -/
theorem destroys_of_not_mem (hr : Recorded h) {pointer : MatrixPointer}
    (hn : pointer ∉ h.ownedPointers) : destroys pointer h.calls = 0 := by
  have hle := hr.destroys_le pointer
  rw [List.count_eq_zero_of_not_mem hn] at hle
  omega

/-- Among matrices with pointers of their own, an owned one is destroyed once if nothing refers
to it, and not at all before that. -/
theorem destroys_owned (hr : Recorded h) (ho : h.ownedPointers.Nodup) (ht : h.Trusted)
    {e : Acquired} (he : e ∈ h.acquired) (hown : e.matrix.owned = true) :
    (h.Refers e → destroys e.matrix.pointer h.calls = 0) ∧
      (¬h.Refers e → destroys e.matrix.pointer h.calls = 1) := by
  constructor
  · intro hrefers
    by_contra hd
    obtain ⟨other, hother, hown', hp, hx⟩ := hr.exists_of_destroys hd
    have heq : other = e := List.inj_on_of_nodup_map ho
      (List.mem_filter.mpr ⟨hother, hown'⟩) (List.mem_filter.mpr ⟨he, hown⟩) hp
    exact hx (heq ▸ hrefers)
  · intro hx
    have hne := hr.destroys_ne_zero ht he hown hx
    have hle := hr.destroys_le e.matrix.pointer
    have hone := List.nodup_iff_count_le_one.mp ho e.matrix.pointer
    omega

end Recorded

namespace History

/-- The operation removed the last reference to an acquired matrix, or acquired it without a
reference to it. -/
def LosesLast (before after : History σ) (e : Acquired) : Prop :=
  (e ∈ before.acquired → before.Refers e) ∧ ¬after.Refers e

variable {h : History σ}

/-- What is in place after a step was in place before it. -/
theorem Trusted.of_step (hr : Recorded h) {op : Operation σ} (ht : (h.step library op).Trusted) :
    h.Trusted := by
  obtain ⟨hcalls, hacquired⟩ := step_grows library hr.tidy op
  exact ⟨fun e he => ht.1 e (hacquired.subset he), fun hm => ht.2 (hcalls.subset hm)⟩

/-- Pointers that are acquired once after a step were acquired at most once before it. -/
theorem ownedPointers_suffix (hr : Recorded h) (op : Operation σ) :
    h.ownedPointers <:+ (h.step library op).ownedPointers := by
  obtain ⟨-, hacquired⟩ := step_grows library hr.tidy op
  exact (hacquired.filter _).map _

/-- Before a step, an owned matrix was destroyed if it was acquired and had lost its last
reference by then, and not otherwise. -/
theorem destroys_before (hr : Recorded h) {op : Operation σ} (ht : (h.step library op).Trusted)
    (ho : (h.step library op).ownedPointers.Nodup) {e : Acquired}
    (he : e ∈ (h.step library op).acquired) (hown : e.matrix.owned = true) :
    ((e ∈ h.acquired → h.Refers e) → destroys e.matrix.pointer h.calls = 0) ∧
      (¬(e ∈ h.acquired → h.Refers e) → destroys e.matrix.pointer h.calls = 1) := by
  have hnodup : h.ownedPointers.Nodup :=
    ho.sublist (ownedPointers_suffix library hr op).sublist
  have htrusted := Trusted.of_step library hr ht
  constructor
  · intro hbefore
    by_cases hmem : e ∈ h.acquired
    · exact (hr.destroys_owned hnodup htrusted hmem hown).1 (hbefore hmem)
    · apply hr.destroys_of_not_mem
      intro hp
      obtain ⟨other, hother, hpointer⟩ := List.mem_map.mp hp
      obtain ⟨hold, hown'⟩ := List.mem_filter.mp hother
      have hafter : other ∈ (h.step library op).acquired :=
        (step_grows library hr.tidy op).2.subset hold
      have heq : other = e := List.inj_on_of_nodup_map ho
        (List.mem_filter.mpr ⟨hafter, hown'⟩) (List.mem_filter.mpr ⟨he, hown⟩) hpointer
      exact hmem (heq ▸ hold)
  · intro hbefore
    obtain ⟨hmem, hnot⟩ := Classical.not_imp.mp hbefore
    exact (hr.destroys_owned hnodup htrusted hmem hown).2 hnot

/-- An operation destroys exactly the owned matrices whose last reference it removes, each of
them once. -/
theorem step_destroys (hr : Recorded h) (op : Operation σ) (ht : (h.step library op).Trusted)
    (ho : (h.step library op).ownedPointers.Nodup) :
    ∃ made, (h.step library op).calls = made ++ h.calls ∧
      (∀ e ∈ (h.step library op).acquired, e.matrix.owned = true →
        (LosesLast h (h.step library op) e → destroys e.matrix.pointer made = 1) ∧
        (¬LosesLast h (h.step library op) e → destroys e.matrix.pointer made = 0)) ∧
      ∀ duty ∈ destroyed made, ∃ e ∈ (h.step library op).acquired,
        e.matrix.duty = some duty ∧ LosesLast h (h.step library op) e := by
  have hafter := hr.step library op
  obtain ⟨made, hmade⟩ := (step_grows library hr.tidy op).1
  have hmatrix : ∀ e ∈ (h.step library op).acquired, e.matrix.owned = true →
      (LosesLast h (h.step library op) e → destroys e.matrix.pointer made = 1) ∧
      (¬LosesLast h (h.step library op) e → destroys e.matrix.pointer made = 0) := by
    intro e he hown
    obtain ⟨hlive, hdead⟩ := hafter.destroys_owned ho ht he hown
    obtain ⟨hzero, hone⟩ := destroys_before library hr ht ho he hown
    rw [← hmade, destroys_append] at hlive hdead
    constructor
    · rintro ⟨hbefore, hnot⟩
      have hb := hzero hbefore
      have ha := hdead hnot
      omega
    · intro hnot
      by_cases hbefore : e ∈ h.acquired → h.Refers e
      · have hrefers : (h.step library op).Refers e := by
          by_contra hx
          exact hnot ⟨hbefore, hx⟩
        have ha := hlive hrefers
        omega
      · have hb := hone hbefore
        by_cases hrefers : (h.step library op).Refers e
        · have ha := hlive hrefers
          omega
        · have ha := hdead hrefers
          omega
  refine ⟨made, hmade.symm, hmatrix, fun duty hd => ?_⟩
  have hall : duty ∈ destroyed (h.step library op).calls := by
    rw [← hmade, destroyed_append]
    exact List.mem_append_left _ hd
  obtain ⟨e, he, hduty, -⟩ := hafter.mem_destroyed hall
  refine ⟨e, he, hduty, ?_⟩
  obtain ⟨hown, rfl⟩ := NativeMatrix.duty_eq_some.mp hduty
  by_contra hnot
  have hzero := (hmatrix e he hown).2 hnot
  rw [destroys, List.countP_eq_zero] at hzero
  exact hzero _ hd (beq_self_eq_true _)

/-- In every run that acquires each owned pointer once, with the entry points for destruction in
place, every owned matrix is destroyed exactly once and in the very operation that removes its
last reference, whatever that call reports; before that it is not destroyed, and a matrix that is
not owned never is. -/
theorem owned_destroyed_once (native : σ) (ops : List (Operation σ)) (op : Operation σ)
    (ht : ((start native).run library (ops ++ [op])).Trusted)
    (ho : ((start native).run library (ops ++ [op])).ownedPointers.Nodup) :
    let before := (start native).run library ops
    let after := (start native).run library (ops ++ [op])
    ∃ made, after.calls = made ++ before.calls ∧
      (∀ e ∈ after.acquired, e.matrix.owned = true →
        (after.Refers e → destroys e.matrix.pointer after.calls = 0) ∧
        (¬after.Refers e → destroys e.matrix.pointer after.calls = 1) ∧
        (LosesLast before after e → destroys e.matrix.pointer made = 1) ∧
        (¬LosesLast before after e → destroys e.matrix.pointer made = 0)) ∧
      (∀ duty ∈ destroyed made, ∃ e ∈ after.acquired,
        e.matrix.duty = some duty ∧ LosesLast before after e) ∧
      ∀ pointer, pointer ∉ after.ownedPointers → destroys pointer after.calls = 0 := by
  intro before after
  have hr : Recorded before := (Recorded.start native).run library ops
  have hstep : after = before.step library op := (run_step library _ ops op).symm
  have hafter : Recorded after := hstep ▸ hr.step library op
  obtain ⟨made, hcalls, hmatrix, hduty⟩ :=
    step_destroys library hr op (hstep ▸ ht) (hstep ▸ ho)
  rw [← hstep] at hcalls hmatrix hduty
  refine ⟨made, hcalls, fun e he hown => ?_, hduty, fun _ => hafter.destroys_of_not_mem⟩
  obtain ⟨hlive, hdead⟩ := hafter.destroys_owned ho ht he hown
  obtain ⟨hlast, hother⟩ := hmatrix e he hown
  exact ⟨hlive, hdead, hlast, hother⟩

/-- A constructed matrix is shared by its owner, a derived view, a view acquired under the owner
and a caller. The owner is finalized first and the caller is the last to let go: that destroys the
matrix, although the call reports an error. -/
def sharedRun : List (Operation (Nat × Bool)) :=
  [.create (shelfBinder {}) .double (.fixed 1 1 .double), .transpose 1,
    .bind (shelfBinder {}) (shelfRequest (some ⟨7⟩) none) (some 1), .takeHandle 1, .finalize 1,
    .drop 2, .drop 3]

theorem owned_destroyed_once_shared :
    let before := (start (0, false)).run (shelf 5) sharedRun
    let after := (start (0, false)).run (shelf 5) (sharedRun ++ [.dropHandle 0])
    after.Trusted ∧ after.ownedPointers.Nodup ∧ before.workspace.Refers 0 ∧
      ∃ made, after.calls = made ++ before.calls ∧ destroys ⟨0⟩ made = 1 ∧
        destroys ⟨7⟩ after.calls = 0 := by
  intro before after
  have ht : after.Trusted := by decide +kernel
  have ho : after.ownedPointers.Nodup := by decide +kernel
  have hr : before.workspace.Refers 0 := by decide +kernel
  obtain ⟨made, hcalls, hmatrix, -, hnone⟩ :=
    owned_destroyed_once (shelf 5) (0, false) sharedRun (.dropHandle 0) ht ho
  have hgone : ¬after.workspace.Refers 0 := by decide +kernel
  have he : ⟨⟨⟨0⟩, true, (Shape.fixed 1 1 .double).family, (shelfBinder {}).source⟩, some 0, true,
      true, some ⟨1, 1, 1, 1, 8⟩⟩ ∈ after.acquired := .tail _ (.head _)
  refine ⟨ht, ho, hr, made, hcalls, ?_, hnone ⟨7⟩ (by decide +kernel)⟩
  refine (hmatrix _ he rfl).2.2.1 ⟨fun _ => ⟨0, rfl, hr⟩, ?_⟩
  rintro ⟨number, hn, hx⟩
  cases hn
  exact hgone hx

end History

end ForeignMatrix
