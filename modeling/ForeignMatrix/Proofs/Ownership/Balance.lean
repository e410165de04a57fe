import ForeignMatrix.Proofs.History

/-!
# The balance of a run

What was acquired with ownership is, at every moment of a run, either destroyed
or still held. Each operation keeps that balance: one that acquires adds to both
sides, one that gives up references moves a matrix from the held to the
destroyed. As exactly the matrices that are referred to are held, the calls that
destroyed a matrix are those owed to the owned matrices without a reference,
each of them once.
-/

namespace ForeignMatrix

open Actions

variable {σ : Type} (library : NativeLibrary σ)

/-! ### Views and matrices that are added -/

namespace Tidy

variable {w : Workspace σ}

/-- A view with the next identity keeps the order of the views. -/
theorem views_append (h : Tidy w []) (view : View) (hid : view.id = w.nextView) :
    (w.views ++ [view]).Pairwise (·.id < ·.id) ∧
      ∀ other ∈ w.views ++ [view], other.id < w.nextView + 1 := by
  constructor
  · rw [List.pairwise_append]
    refine ⟨h.ordered, List.pairwise_singleton _ _, fun x hx y hy => ?_⟩
    rw [List.mem_singleton.mp hy, hid]
    exact h.earlier x hx
  · intro other ho
    rcases List.mem_append.mp ho with ho | ho
    · have hlt := h.earlier other ho
      omega
    · rw [List.mem_singleton.mp ho, hid]
      omega

/-- A derived view adds no matrix that is referred to. -/
theorem refers_derived {view : View} (hm : view ∈ w.views) (window : Window)
    (session : Session σ) (matrix : Nat) :
    (w.derived view window session).Refers matrix ↔ w.Refers matrix := by
  constructor
  · rintro (⟨other, ho, hr⟩ | hr)
    · rcases List.mem_append.mp ho with ho | ho
      · exact .inl ⟨other, ho, hr⟩
      · rw [List.mem_singleton.mp ho, View.child_references] at hr
        exact .inl ⟨view, hm, hr⟩
    · exact .inr hr
  · rintro (⟨other, ho, hr⟩ | hr)
    · exact .inl ⟨other, List.mem_append_left _ ho, hr⟩
    · exact .inr hr

/-- Deriving a view leaves a tidy workspace. -/
theorem derived (h : Tidy w []) {view : View} (hm : view ∈ w.views) (window : Window)
    (session : Session σ) : Tidy (w.derived view window session) [] := by
  obtain ⟨hord, hlt⟩ := h.views_append (view.child w.nextView window) rfl
  have hr := refers_derived hm window session
  refine ⟨hord, hlt, fun matrix hx => ?_, fun matrix hs hl => ?_, h.bounded⟩
  · exact h.entered matrix ((hr matrix).mp hx)
  · exact (hr matrix).mpr (h.needed matrix hs hl)

/-- A new view adds the matrix it was made of to those that are referred to. -/
theorem refers_entered (a : Acquisition) (hp : ∀ parent, a.parent = some parent → parent ∈ w.views)
    (found : NativeMatrix) (layout : NativeLayout) (session : Session σ) (matrix : Nat) :
    (a.entered w found layout session).Refers matrix ↔
      w.Refers matrix ∨ matrix = w.nextMatrix := by
  constructor
  · rintro (⟨other, ho, hr⟩ | hr)
    · rcases List.mem_append.mp ho with ho | ho
      · exact .inl (.inl ⟨other, ho, hr⟩)
      · rw [List.mem_singleton.mp ho] at hr
        rcases List.mem_append.mp hr with hr | hr
        · right
          cases Option.mem_toList.mp hr
          rfl
        · left
          obtain ⟨parent, hparent, hs⟩ := Option.bind_eq_some_iff.mp (Option.mem_toList.mp hr)
          exact .inl ⟨parent, hp parent hparent, parent.sharedHandle_mem hs⟩
    · exact .inl (.inr hr)
  · rintro ((⟨other, ho, hr⟩ | hr) | rfl)
    · exact .inl ⟨other, List.mem_append_left _ ho, hr⟩
    · exact .inr hr
    · refine .inl ⟨a.view w found layout, List.mem_append_right _ (List.mem_singleton_self _), ?_⟩
      exact List.mem_append_left _ (Option.mem_toList.mpr rfl)

/-- The matrices of the workspace after an acquisition. -/
theorem entered_matrices (a : Acquisition) (found : NativeMatrix) (layout : NativeLayout)
    (session : Session σ) :
    (a.entered w found layout session).matrices w.nextMatrix = some found ∧
      ∀ matrix, matrix ≠ w.nextMatrix →
        (a.entered w found layout session).matrices matrix = w.matrices matrix :=
  ⟨if_pos rfl, fun _ hne => if_neg hne⟩

/-- Entering the view of a new matrix leaves a tidy workspace. -/
theorem enter (h : Tidy w []) (a : Acquisition)
    (hp : ∀ parent, a.parent = some parent → parent ∈ w.views) (found : NativeMatrix)
    (layout : NativeLayout) (session : Session σ) :
    Tidy (a.entered w found layout session) [] := by
  obtain ⟨hord, hlt⟩ := h.views_append (a.view w found layout) rfl
  obtain ⟨hnew, hold⟩ := entered_matrices (w := w) a found layout session
  have hr := refers_entered a hp found layout session
  refine ⟨hord, hlt, fun matrix hx => ?_, fun matrix hs hl => ?_, fun matrix hs => ?_⟩
  · by_cases he : matrix = w.nextMatrix
    · rw [he, hnew]
      rfl
    · rw [hold matrix he]
      exact h.entered matrix (((hr matrix).mp hx).resolve_right he)
  · rw [hr matrix]
    by_cases he : matrix = w.nextMatrix
    · exact .inr he
    · rw [hold matrix he] at hs
      exact .inl (h.needed matrix hs hl)
  · change matrix < w.nextMatrix + 1
    by_cases he : matrix = w.nextMatrix
    · omega
    · rw [hold matrix he] at hs
      have hlt := h.bounded matrix hs
      omega

end Tidy

/-- An acquisition adds what destroying its matrix takes to what is held. -/
theorem held_entered {w : Workspace σ} (a : Acquisition) (found : NativeMatrix)
    (layout : NativeLayout) (session : Session σ) :
    (a.entered w found layout session).held = w.held ++ found.duty.toList := by
  obtain ⟨hnew, hold⟩ := Tidy.entered_matrices (w := w) a found layout session
  have hsame : (List.range w.nextMatrix).filterMap (a.entered w found layout session).duty =
      w.held := by
    refine List.filterMap_congr fun matrix hm => ?_
    have hlt := List.mem_range.mp hm
    rw [Workspace.duty, Workspace.duty, hold matrix (by omega)]
  change (List.range (w.nextMatrix + 1)).filterMap (a.entered w found layout session).duty = _
  have hduty : (a.entered w found layout session).duty w.nextMatrix = found.duty := by
    rw [Workspace.duty, hnew]
    rfl
  rw [List.range_succ, List.filterMap_append, hsame, filterMap_cons_append, hduty,
    List.filterMap_nil, List.append_nil]

/-! ### What a run has acquired -/

/-- What destroying the matrices of a list takes, one entry for each owned one. -/
def dutiesOf (list : List Acquired) : List Duty := list.filterMap (·.matrix.duty)

/-- What a matrix takes to be destroyed names its pointer, and only an owned matrix takes it. -/
theorem NativeMatrix.duty_eq_some {matrix : NativeMatrix} {duty : Duty} :
    matrix.duty = some duty ↔ matrix.owned = true ∧ duty = (matrix.family, matrix.pointer) := by
  unfold NativeMatrix.duty
  split_ifs with ho
  · rw [Option.some_inj]
    exact ⟨fun h => ⟨ho, h.symm⟩, fun h => h.2.symm⟩
  · exact ⟨fun h => by contradiction, fun h => absurd h.1 ho⟩

/-- The pointers that have to be destroyed are those of the owned matrices. -/
theorem dutiesOf_pointers (list : List Acquired) :
    (dutiesOf list).map (·.2) = (list.filter (·.matrix.owned)).map (·.matrix.pointer) := by
  induction list with
  | nil => rfl
  | cons e list ih =>
    rw [dutiesOf, filterMap_cons_append, List.map_append]
    rw [dutiesOf] at ih
    rw [ih]
    cases ho : e.matrix.owned with
    | false => simp [NativeMatrix.duty, ho]
    | true => simp [NativeMatrix.duty, ho]

namespace History

/-- What the acquired matrices take to be destroyed. -/
def duties (h : History σ) : List Duty := dutiesOf h.acquired

/-- A newly acquired matrix adds what destroying it takes. -/
theorem count_duties_cons (h : History σ) (v : Workspace σ) (matrix : NativeMatrix)
    (number : Option Nat) (constructed fresh : Bool) (layout : Option NativeLayout)
    (duty : Duty) :
    (History.mk v
        (⟨matrix, number, constructed, fresh, layout⟩ :: h.acquired)).duties.count duty =
      matrix.duty.toList.count duty + h.duties.count duty := by
  rw [duties, dutiesOf, filterMap_cons_append, List.count_append, duties, dutiesOf]

/-- What destroying owned matrices takes was in place: the entry points resolve and no error
handle was null. -/
def Trusted (h : History σ) : Prop :=
  (∀ e ∈ h.acquired, e.matrix.owned = true → e.matrix.destroyable = true) ∧
    ¬Denied h.calls

instance (h : History σ) : Decidable h.Trusted := inferInstanceAs (Decidable (_ ∧ _))

/-- A view or a caller refers to the acquired matrix. -/
def Refers (h : History σ) (e : Acquired) : Prop :=
  ∃ number, e.number = some number ∧ h.workspace.Refers number

instance (h : History σ) (e : Acquired) : Decidable (h.Refers e) :=
  decidable_of_iff (e.number.any fun number => h.workspace.Refers number) (by
    rw [Option.any_eq_true]
    simp only [decide_eq_true_eq, Refers])

/-- What the matrices take to be destroyed that nothing refers to any more. -/
def spent (h : History σ) : List Duty := dutiesOf (h.acquired.filter fun e => !decide (h.Refers e))

end History

/-- The workspace of a history and its acquired matrices agree. -/
structure Recorded (h : History σ) : Prop where
  /-- The workspace holds exactly what is referred to. -/
  tidy : Tidy h.workspace []
  /-- An acquired matrix is held under its number or has left the workspace. -/
  numbered : ∀ e ∈ h.acquired, ∀ number, e.number = some number →
    number < h.workspace.nextMatrix ∧
      (h.workspace.matrices number = none ∨ h.workspace.matrices number = some e.matrix)
  /-- No number is given out twice. -/
  distinct : (h.acquired.filterMap (·.number)).Nodup
  /-- Every held matrix was acquired. -/
  known : ∀ number matrix, h.workspace.matrices number = some matrix →
    ∃ e ∈ h.acquired, e.number = some number ∧ e.matrix = matrix
  /-- No more is destroyed or held than was acquired. -/
  atMost : ∀ duty, h.workspace.balance duty ≤ h.duties.count duty
  /-- With the entry points in place, all that was acquired is destroyed or held. -/
  exact : h.Trusted → ∀ duty, h.workspace.balance duty = h.duties.count duty

namespace Recorded

variable {h : History σ}

/-- Nothing is acquired, held or destroyed at the start. -/
theorem start (native : σ) : Recorded (History.start native) := by
  refine ⟨⟨List.Pairwise.nil, fun _ hm => absurd hm List.not_mem_nil, ?_, ?_, ?_⟩,
    fun _ he => absurd he List.not_mem_nil, List.nodup_nil, fun _ _ hm => ?_, fun _ => le_rfl,
    fun _ _ => rfl⟩
  · rintro matrix (⟨view, hm, -⟩ | hm) <;> exact absurd hm List.not_mem_nil
  · exact fun matrix hs => absurd hs Bool.false_ne_true
  · exact fun matrix hs => absurd hs Bool.false_ne_true
  · contradiction

/-- What holds of the owned acquired matrices holds of those that are held. -/
theorem equipped (hr : Recorded h) (ht : h.Trusted) : h.workspace.Equipped := by
  intro number matrix hm ho
  obtain ⟨e, he, -, rfl⟩ := hr.known number matrix hm
  exact ht.1 e he ho

/-- Settling keeps the record. -/
theorem of_settles (hr : Recorded h) {v : Workspace σ} (ht : Tidy v [])
    (hs : Settles library h.workspace v) : Recorded ⟨v, h.acquired⟩ := by
  refine ⟨ht, fun e he number hn => ?_, hr.distinct, fun number matrix hm => ?_,
    fun duty => (hs.atMost duty).trans (hr.atMost duty), fun htr duty => ?_⟩
  · obtain ⟨hlt, hm⟩ := hr.numbered e he number hn
    refine ⟨hs.next ▸ hlt, ?_⟩
    rcases hs.fewer number with hf | hf
    · exact .inl hf
    · exact hf ▸ hm
  · rcases hs.fewer number with hf | hf
    · rw [hf] at hm
      contradiction
    · exact hr.known number matrix (hf ▸ hm)
  · have htrusted : h.Trusted := ⟨htr.1, fun hm => htr.2 (hs.grows.subset hm)⟩
    exact (hs.exact (hr.equipped htrusted) htr.2 duty).trans (hr.exact htrusted duty)

/-- An abandoned matrix is acquired and destroyed at once. -/
theorem of_abandoned (hr : Recorded h) (matrix : NativeMatrix) (constructed fresh : Bool)
    (layout : Option NativeLayout) (session : Session σ)
    (hd : Discharges library matrix h.workspace.session session) :
    Recorded ⟨{ h.workspace with session },
      ⟨matrix, none, constructed, fresh, layout⟩ :: h.acquired⟩ := by
  refine ⟨hr.tidy.of_session session, ?_, hr.distinct, fun number found hm => ?_, fun duty => ?_,
    fun htr duty => ?_⟩
  · intro e he number hn
    rcases List.mem_cons.mp he with rfl | he
    · contradiction
    · exact hr.numbered e he number hn
  · obtain ⟨e, he, hn, hmatrix⟩ := hr.known number found hm
    exact ⟨e, List.mem_cons_of_mem _ he, hn, hmatrix⟩
  · rw [History.count_duties_cons]
    have hle := hr.atMost duty
    unfold Workspace.balance at hle ⊢
    change (destroyed session.calls).count duty + h.workspace.held.count duty ≤ _
    rcases hd.atMost with hc | hc
    · rw [hc]
      omega
    · rw [hc, List.count_append]
      omega
  · have htrusted : h.Trusted :=
      ⟨fun e he => htr.1 e (List.mem_cons_of_mem _ he), fun hm => htr.2 (hd.grows.subset hm)⟩
    have heq := hr.exact htrusted duty
    have hc := hd.exact (htr.1 _ List.mem_cons_self) htr.2
    rw [History.count_duties_cons]
    unfold Workspace.balance at heq ⊢
    change (destroyed session.calls).count duty + h.workspace.held.count duty = _
    rw [hc, List.count_append]
    omega

/-- A matrix that is entered is acquired and held. -/
theorem of_entered (hr : Recorded h) (a : Acquisition)
    (hp : ∀ parent, a.parent = some parent → parent ∈ h.workspace.views) (matrix : NativeMatrix)
    (layout : NativeLayout) (session : Session σ) (hq : Quiet library h.workspace.session session)
    (constructed fresh : Bool) :
    Recorded ⟨a.entered h.workspace matrix layout session,
      ⟨matrix, some h.workspace.nextMatrix, constructed, fresh, some layout⟩ :: h.acquired⟩ := by
  obtain ⟨hnew, hold⟩ := Tidy.entered_matrices (w := h.workspace) a matrix layout session
  have hbalance : ∀ duty, (a.entered h.workspace matrix layout session).balance duty =
      h.workspace.balance duty + matrix.duty.toList.count duty := by
    intro duty
    rw [Workspace.balance, Workspace.balance, held_entered, List.count_append, ← add_assoc]
    change (destroyed session.calls).count duty + _ + _ = _
    rw [hq.same]
  have hdistinct : (h.workspace.nextMatrix :: h.acquired.filterMap (·.number)).Nodup := by
    refine List.nodup_cons.mpr ⟨fun hm => ?_, hr.distinct⟩
    obtain ⟨e, he, hn⟩ := List.mem_filterMap.mp hm
    have hlt := (hr.numbered e he _ hn).1
    omega
  refine ⟨hr.tidy.enter a hp matrix layout session, ?_, hdistinct, fun number found hm => ?_,
    fun duty => ?_, fun htr duty => ?_⟩
  · intro e he number hn
    change number < h.workspace.nextMatrix + 1 ∧ _
    rcases List.mem_cons.mp he with rfl | he
    · cases hn
      exact ⟨Nat.lt_succ_self _, .inr hnew⟩
    · obtain ⟨hlt, hm⟩ := hr.numbered e he number hn
      refine ⟨by omega, ?_⟩
      change (a.entered h.workspace matrix layout session).matrices number = none ∨ _
      rw [hold number (by omega)]
      exact hm
  · change (a.entered h.workspace matrix layout session).matrices number = some found at hm
    by_cases hn : number = h.workspace.nextMatrix
    · rw [hn, hnew] at hm
      cases hm
      exact ⟨_, List.mem_cons_self, by rw [hn], rfl⟩
    · rw [hold number hn] at hm
      obtain ⟨e, he, hen, hmatrix⟩ := hr.known number found hm
      exact ⟨e, List.mem_cons_of_mem _ he, hen, hmatrix⟩
  · have hle := hr.atMost duty
    rw [History.count_duties_cons, hbalance duty]
    omega
  · have htrusted : h.Trusted :=
      ⟨fun e he => htr.1 e (List.mem_cons_of_mem _ he), fun hm => htr.2 (hq.grows.subset hm)⟩
    have heq := hr.exact htrusted duty
    rw [History.count_duties_cons, hbalance duty]
    omega

/-- Every operation keeps the record. -/
theorem step (hr : Recorded h) (op : Operation σ) : Recorded (h.step library op) := by
  have he := History.step_effect library hr.tidy op
  change Recorded ⟨(h.step library op).workspace, (h.entry library op).toList ++ h.acquired⟩
  generalize (h.step library op).workspace = v at he ⊢
  generalize h.entry library op = entry at he ⊢
  cases he with
  | steady hs =>
    obtain ⟨session, hq, rfl⟩ := hs
    exact hr.of_settles library (hr.tidy.of_session session) (.of_same hq rfl rfl)
  | derived view hm window session hq =>
    exact hr.of_settles library (hr.tidy.derived hm window session) (.of_same hq rfl rfl)
  | finalized id hc => exact hr.of_settles library hc.tidy hc.settles
  | dropped id hc => exact hr.of_settles library hc.tidy hc.settles
  | taken view hm hc => exact hr.of_settles library hc.tidy hc.settles
  | returned matrix hc => exact hr.of_settles library hc.tidy hc.settles
  | abandoned a ha matrix hx session hd => exact hr.of_abandoned library matrix _ _ _ session hd
  | entered a ha matrix hx layout hl session hq =>
    exact hr.of_entered library a (fun parent hp => Operation.acquisition_parent ha hp) matrix
      layout session hq _ _

/-- Every run keeps the record. -/
theorem run (hr : Recorded h) (ops : List (Operation σ)) : Recorded (h.run library ops) := by
  induction ops generalizing h with
  | nil => exact hr
  | cons op ops ih => exact ih (hr.step library op)

/-- The numbers of the acquired matrices that are referred to are those that are held. -/
theorem numbers_perm (hr : Recorded h) :
    ((List.range h.workspace.nextMatrix).filter fun n => (h.workspace.matrices n).isSome).Perm
      ((h.acquired.filter fun e => decide (h.Refers e)).filterMap (·.number)) := by
  rw [List.perm_ext_iff_of_nodup (List.nodup_range.filter _)
    (hr.distinct.sublist (List.filter_sublist.filterMap _))]
  intro n
  rw [List.mem_filter, List.mem_filterMap]
  constructor
  · rintro ⟨-, hs⟩
    obtain ⟨matrix, hm⟩ := Option.isSome_iff_exists.mp hs
    obtain ⟨e, he, hn, -⟩ := hr.known n matrix hm
    have hx : h.Refers e := ⟨n, hn, (hr.tidy.held_iff n).mp hs⟩
    exact ⟨e, List.mem_filter.mpr ⟨he, decide_eq_true hx⟩, hn⟩
  · rintro ⟨e, he, hn⟩
    obtain ⟨-, hx⟩ := List.mem_filter.mp he
    obtain ⟨m, hm, hrefers⟩ := of_decide_eq_true hx
    cases hn.symm.trans hm
    have hs := hr.tidy.entered n hrefers
    exact ⟨List.mem_range.mpr (hr.tidy.bounded n hs), hs⟩

/-- What is held and has to be destroyed belongs to the matrices that are referred to. -/
theorem held_perm (hr : Recorded h) :
    h.workspace.held.Perm (dutiesOf (h.acquired.filter fun e => decide (h.Refers e))) := by
  have hheld : h.workspace.held = ((List.range h.workspace.nextMatrix).filter fun n =>
      (h.workspace.matrices n).isSome).filterMap h.workspace.duty := by
    rw [Workspace.held, List.filterMap_filter]
    refine List.filterMap_congr fun n _ => ?_
    rw [Workspace.duty]
    cases h.workspace.matrices n <;> rfl
  have hduty : dutiesOf (h.acquired.filter fun e => decide (h.Refers e)) =
      ((h.acquired.filter fun e => decide (h.Refers e)).filterMap (·.number)).filterMap
        h.workspace.duty := by
    rw [dutiesOf, List.filterMap_filterMap]
    refine List.filterMap_congr fun e he => ?_
    obtain ⟨hmem, hx⟩ := List.mem_filter.mp he
    obtain ⟨n, hn, hrefers⟩ := of_decide_eq_true hx
    have hs := hr.tidy.entered n hrefers
    rw [hn, Option.bind_some, Workspace.duty]
    rcases (hr.numbered e hmem n hn).2 with hm | hm <;> rw [hm] at hs ⊢
    · contradiction
    · rfl
  rw [hheld, hduty]
  exact hr.numbers_perm.filterMap _

/-- What has to be destroyed is held or spent. -/
theorem count_held_add_spent (hr : Recorded h) (duty : Duty) :
    h.workspace.held.count duty + h.spent.count duty = h.duties.count duty := by
  have hsplit := (List.filter_append_perm (fun e => decide (h.Refers e)) h.acquired).filterMap
    (·.matrix.duty)
  have hcount := hsplit.count_eq duty
  rw [List.filterMap_append, List.count_append] at hcount
  rw [hr.held_perm.count_eq duty]
  exact hcount

/-- With the entry points in place, exactly what is spent was destroyed. -/
theorem destroyed_perm (hr : Recorded h) (ht : h.Trusted) : (destroyed h.calls).Perm h.spent := by
  rw [List.perm_iff_count]
  intro duty
  have hsum := hr.count_held_add_spent duty
  have heq : (destroyed h.calls).count duty + h.workspace.held.count duty =
      h.duties.count duty := hr.exact ht duty
  omega

/-- Nothing was destroyed that is not spent, and nothing more often than it was acquired. -/
theorem destroyed_count_le (hr : Recorded h) (duty : Duty) :
    (destroyed h.calls).count duty ≤ h.spent.count duty := by
  have hsum := hr.count_held_add_spent duty
  have hle : (destroyed h.calls).count duty + h.workspace.held.count duty ≤
      h.duties.count duty := hr.atMost duty
  omega

/-- What was destroyed belongs to an owned matrix that nothing refers to. -/
theorem mem_destroyed (hr : Recorded h) {duty : Duty} (hd : duty ∈ destroyed h.calls) :
    ∃ e ∈ h.acquired, e.matrix.duty = some duty ∧ ¬h.Refers e := by
  have hpos := List.count_pos_iff.mpr hd
  have hle := hr.destroyed_count_le duty
  have hmem : duty ∈ h.spent := List.count_pos_iff.mp (by omega)
  obtain ⟨e, he, hduty⟩ := List.mem_filterMap.mp hmem
  obtain ⟨hacquired, hx⟩ := List.mem_filter.mp he
  exact ⟨e, hacquired, hduty, by simpa using hx⟩

end Recorded

end ForeignMatrix
