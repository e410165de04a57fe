import ForeignMatrix.Proofs.Ownership.KeepAlive

/-!
# One owner for each matrix

In an orderly run a pointer that the workspace holds is only adopted again as a
copy under a view that holds it, with nothing said about ownership, and code
outside hands over each of its matrices once. Where adopted matrices are not
owned by default, such a run never has two owners of one matrix. Where they are,
the copy becomes a second owner: the defaults are asked without regard to the
parent.
-/

namespace ForeignMatrix

open Actions

variable {σ : Type} (library : NativeLibrary σ)

/-! ### What an operation acquires -/

namespace History

variable {h : History σ} {op : Operation σ}

/-- What an operation records was obtained by the acquisition that it stands for. -/
theorem entry_some {e : Acquired} (he : e ∈ h.entry library op) :
    ∃ a, op.acquisition h.workspace = some a ∧
      a.matrix? library h.workspace.session = some e.matrix ∧
      e.constructed = a.existing.isNone ∧ e.fresh = !h.workspace.knows e.matrix.pointer := by
  obtain ⟨a, ha, he⟩ := Option.bind_eq_some_iff.mp he
  obtain ⟨matrix, hx, rfl⟩ := Option.map_eq_some_iff.mp he
  exact ⟨a, ha, hx, rfl, rfl⟩

end History

/-- Every matrix that the workspace holds has a pointer that it knows. -/
theorem Tidy.knows {w : Workspace σ} (ht : Tidy w []) {number : Nat} {matrix : NativeMatrix}
    (hm : w.matrices number = some matrix) : w.knows matrix.pointer = true := by
  have hlt := ht.bounded number (by rw [hm]; rfl)
  refine List.any_eq_true.mpr ⟨number, List.mem_range.mpr hlt, ?_⟩
  rw [hm]
  exact beq_self_eq_true matrix.pointer

/-! ### Orderly runs -/

/-- A view holds a matrix with the pointer, as its own or for its parent. -/
def Workspace.Holds (w : Workspace σ) (view : View) (pointer : MatrixPointer) : Prop :=
  ∃ number ∈ view.references, ∃ matrix, w.matrices number = some matrix ∧ matrix.pointer = pointer

/-- The operation asks for a copy of what the workspace holds and not for ownership: it names a
view that holds the pointer as the parent and says nothing about ownership, or it adopts without
ownership. -/
def Operation.AsksCopy (w : Workspace σ) (pointer : MatrixPointer) : Operation σ → Prop
  | .bind _ request (some parent) =>
    request.owns = none ∧ ∃ view ∈ w.views, view.id = parent ∧ w.Holds view pointer
  | .adopt _ _ _ _ owns => owns = false
  | _ => False

/-- Whether a matrix was handed over from outside with this pointer. -/
def Acquired.handedOver (pointer : MatrixPointer) (e : Acquired) : Bool :=
  !e.constructed && e.fresh && e.matrix.pointer == pointer

/-- Whether a matrix was constructed with this pointer. -/
def Acquired.builtAs (pointer : MatrixPointer) (e : Acquired) : Bool :=
  e.constructed && e.matrix.pointer == pointer

/-- What callers and the library keep to when they carry out an operation. -/
structure Orderly (defaults : ViewDefaults) (h : History σ) (op : Operation σ) : Prop where
  /-- The binder of a request has the defaults. -/
  uses : ∀ binder request parent, op = .bind binder request parent → binder.defaults = defaults
  /-- A constructor does not return a pointer that is in use. -/
  constructs : ∀ e ∈ h.entry library op, e.constructed = true → e.fresh = true
  /-- A pointer that the workspace holds is adopted as a copy. -/
  copies : ∀ e ∈ h.entry library op, e.constructed = false → e.fresh = false →
    op.AsksCopy h.workspace e.matrix.pointer
  /-- Code outside hands over a pointer at most once. -/
  handsOver : ∀ e ∈ h.entry library op, e.constructed = false → e.fresh = true →
    ∀ old ∈ h.acquired, old.handedOver e.matrix.pointer = false

/-- Every operation of the run is orderly. -/
def OrderlyRun (defaults : ViewDefaults) : History σ → List (Operation σ) → Prop
  | _, [] => True
  | h, op :: ops => Orderly library defaults h op ∧ OrderlyRun defaults (h.step library op) ops

namespace History

/-- Number of native matrices that came under a pointer: every construction makes one, and code
outside has at most one to hand over. -/
def arrivals (h : History σ) (pointer : MatrixPointer) : Nat :=
  h.acquired.countP (·.builtAs pointer) + min 1 (h.acquired.countP (·.handedOver pointer))

end History

/-- No native matrix has two owners. -/
structure SoleOwners (h : History σ) : Prop where
  /-- Two owned matrices with one pointer are the same. -/
  matrices : ∀ m n found other, h.workspace.matrices m = some found →
    h.workspace.matrices n = some other → found.owned = true → other.owned = true →
    found.pointer = other.pointer → m = n
  /-- Two owning views of one pointer are the same. -/
  views : ∀ view ∈ h.workspace.views, ∀ other ∈ h.workspace.views, view.owns = true →
    other.owns = true → ∀ pointer, h.workspace.pointer? view = some pointer →
    h.workspace.pointer? other = some pointer → view = other
  /-- No native matrix is destroyed twice. -/
  destroys : ∀ pointer, destroys pointer h.calls ≤ h.arrivals pointer

/-- What an orderly run keeps where adopted matrices are not owned by default. -/
structure Owned (h : History σ) : Prop where
  /-- Two owned matrices with one pointer are the same. -/
  sole : ∀ m n found other, h.workspace.matrices m = some found →
    h.workspace.matrices n = some other → found.owned = true → other.owned = true →
    found.pointer = other.pointer → m = n
  /-- An owning view that is not finalized holds an owned matrix. -/
  holds : ∀ view ∈ h.workspace.views, view.owns = true → ∀ number, view.handle = some number →
    ∃ matrix, h.workspace.matrices number = some matrix ∧ matrix.owned = true
  /-- No other view owns the same matrix. -/
  unique : ∀ view ∈ h.workspace.views, ∀ other ∈ h.workspace.views, view.owns = true →
    other.owns = true → ∀ number, view.handle = some number → other.handle = some number →
    view = other
  /-- Whatever was acquired with ownership had a pointer that was new. -/
  fresh : ∀ e ∈ h.acquired, e.matrix.owned = true → e.fresh = true
  /-- Each pointer was handed over at most once. -/
  once : ∀ pointer, h.acquired.countP (·.handedOver pointer) ≤ 1

namespace Owned

variable {h : History σ} {defaults : ViewDefaults} {op : Operation σ}

theorem start (native : σ) : Owned (History.start native) := by
  refine ⟨fun _ _ _ _ hm => ?_, fun _ hm => absurd hm List.not_mem_nil,
    fun _ hm => absurd hm List.not_mem_nil, fun _ he => absurd he List.not_mem_nil,
    fun _ => Nat.zero_le 1⟩
  contradiction

/-- Where adopted matrices are not owned by default, what an orderly operation acquires with
ownership has a new pointer. -/
theorem entry_fresh (hd : defaults.ownsAdopted = false) (ho : Orderly library defaults h op)
    {e : Acquired} (he : e ∈ h.entry library op) (hown : e.matrix.owned = true) :
    e.fresh = true := by
  cases hc : e.constructed with
  | true => exact ho.constructs e he hc
  | false =>
    by_contra hf
    have hcopy := ho.copies e he hc (Bool.eq_false_iff.mpr hf)
    obtain ⟨a, ha, hx, hexisting, -⟩ := History.entry_some library he
    rw [hc] at hexisting
    obtain ⟨pointer, hp⟩ := Option.ne_none_iff_exists'.mp
      (fun hn => Bool.false_ne_true (hexisting.trans (Option.isNone_iff_eq_none.mpr hn)))
    rw [Acquisition.matrix?_adopted library hx hp] at hown
    -- Only a request under a parent and an adoption can ask for a copy.
    cases op with
    | adopt binder kind shape pointer owns =>
      cases ha
      change owns = false at hcopy
      change owns = true at hown
      rw [hcopy] at hown
      exact absurd hown Bool.false_ne_true
    | bind binder request parent =>
      cases parent with
      | none => exact hcopy
      | some id =>
        obtain ⟨view, -, hrequest⟩ := Option.bind_eq_some_iff.mp ha
        obtain ⟨-, -, howns⟩ := Binder.acquisition_some hrequest
        change (a.owns.getD false) = true at hown
        rw [howns (by rw [hp]; rfl), Option.getD_some] at hown
        change (request.owns.getD binder.defaults.ownsAdopted) = true at hown
        rw [hcopy.1, Option.getD_none, ho.uses binder request _ rfl, hd] at hown
        exact absurd hown Bool.false_ne_true
    | _ => exact hcopy

/-- An operation hands over a pointer at most once, and not one that was handed over before. -/
theorem step_once (hx : Owned h) (hord : Orderly library defaults h op)
    (pointer : MatrixPointer) :
    (h.step library op).acquired.countP (·.handedOver pointer) ≤ 1 := by
  have hold := hx.once pointer
  change ((h.entry library op).toList ++ h.acquired).countP _ ≤ 1
  rw [List.countP_append]
  cases he : h.entry library op with
  | none => exact (Nat.zero_add _).trans_le hold
  | some e =>
    rw [Option.toList_some, List.countP_singleton]
    cases hp : e.handedOver pointer with
    | false => exact (Nat.zero_add _).trans_le hold
    | true =>
      unfold Acquired.handedOver at hp
      rw [Bool.and_eq_true, Bool.and_eq_true, Bool.not_eq_true', beq_iff_eq] at hp
      obtain ⟨⟨hc, hf⟩, rfl⟩ := hp
      have hnone : h.acquired.countP (·.handedOver e.matrix.pointer) = 0 := by
        rw [List.countP_eq_zero]
        intro old hmem hover
        rw [hord.handsOver e he hc hf old hmem] at hover
        exact Bool.false_ne_true hover
      rw [hnone, if_pos rfl]

/-- Where no matrix is entered and no view that has a handle becomes an owner, there is still a
single owner. -/
theorem of_fewer (hx : Owned h) {v : Workspace σ} (ht : Tidy v []) {acquired : List Acquired}
    (hfewer : ∀ number, v.matrices number = none ∨ v.matrices number = h.workspace.matrices number)
    (hviews : ∀ view ∈ v.views, view.owns = true → ∀ number, view.handle = some number →
      view ∈ h.workspace.views)
    (hfresh : ∀ e ∈ acquired, e.matrix.owned = true → e.fresh = true)
    (honce : ∀ pointer, acquired.countP (·.handedOver pointer) ≤ 1) : Owned ⟨v, acquired⟩ := by
  have hsame : ∀ number found, v.matrices number = some found →
      h.workspace.matrices number = some found := by
    intro number found hm
    rcases hfewer number with hf | hf <;> rw [hf] at hm
    · contradiction
    · exact hm
  refine ⟨fun m n found other hm hn => hx.sole m n found other (hsame m found hm)
    (hsame n other hn), fun view hview howns number hh => ?_,
    fun view hview other hother howns howns' number hh hh' => ?_, hfresh, honce⟩
  · have hold := hviews view hview howns number hh
    obtain ⟨found, hm, hown⟩ := hx.holds view hold howns number hh
    obtain ⟨-, other, hother⟩ := ht.handle_held hview hh
    cases (hsame number other hother).symm.trans hm
    exact ⟨_, hother, hown⟩
  · exact hx.unique view (hviews view hview howns number hh) other
      (hviews other hother howns' number hh') howns howns' number hh hh'

/-- Where a matrix is entered that is not owned or has a pointer of its own, there is still a
single owner. -/
theorem of_entered (hx : Owned h) (ht : Tidy h.workspace []) (a : Acquisition)
    (matrix : NativeMatrix) (layout : NativeLayout) (session : Session σ)
    {acquired : List Acquired}
    (halone : matrix.owned = true → ∀ number found, h.workspace.matrices number = some found →
      found.pointer ≠ matrix.pointer)
    (hfresh : ∀ e ∈ acquired, e.matrix.owned = true → e.fresh = true)
    (honce : ∀ pointer, acquired.countP (·.handedOver pointer) ≤ 1) :
    Owned ⟨a.entered h.workspace matrix layout session, acquired⟩ := by
  obtain ⟨hnew, hold⟩ := Tidy.entered_matrices (w := h.workspace) a matrix layout session
  have hearlier : ∀ view ∈ h.workspace.views, ∀ number, view.handle = some number →
      number ≠ h.workspace.nextMatrix := by
    intro view hview number hh
    have hlt := (ht.handle_held hview hh).1
    omega
  have hviews : ∀ view ∈ (a.entered h.workspace matrix layout session).views,
      view ∈ h.workspace.views ∨ view = a.view h.workspace matrix layout := fun view hview =>
    (List.mem_append.mp hview).imp_right List.mem_singleton.mp
  refine ⟨fun m n found other hm hn hown hown' hp => ?_, fun view hview howns number hh => ?_,
    fun view hview other hother howns howns' number hh hh' => ?_, hfresh, honce⟩
  · change (a.entered h.workspace matrix layout session).matrices m = some found at hm
    change (a.entered h.workspace matrix layout session).matrices n = some other at hn
    by_cases hmn : m = h.workspace.nextMatrix <;> by_cases hnn : n = h.workspace.nextMatrix
    · exact hmn.trans hnn.symm
    · rw [hmn, hnew] at hm
      rw [hold n hnn] at hn
      cases hm
      exact absurd hp.symm (halone hown n other hn)
    · rw [hnn, hnew] at hn
      rw [hold m hmn] at hm
      cases hn
      exact absurd hp (halone hown' m found hm)
    · rw [hold m hmn] at hm
      rw [hold n hnn] at hn
      exact hx.sole m n found other hm hn hown hown' hp
  · rcases hviews view hview with hview | rfl
    · obtain ⟨found, hm, hown⟩ := hx.holds view hview howns number hh
      exact ⟨found, (hold number (hearlier view hview number hh)).trans hm, hown⟩
    · cases hh
      exact ⟨matrix, hnew, howns⟩
  · rcases hviews view hview with hview | rfl <;> rcases hviews other hother with hother | rfl
    · exact hx.unique view hview other hother howns howns' number hh hh'
    · cases hh'
      exact absurd rfl (hearlier view hview _ hh)
    · cases hh
      exact absurd rfl (hearlier other hother _ hh')
    · rfl

/-- Where adopted matrices are not owned by default, orderly operations keep a single owner. -/
theorem step (hd : defaults.ownsAdopted = false) (hr : Recorded h) (hx : Owned h)
    (hord : Orderly library defaults h op) : Owned (h.step library op) := by
  have hfresh : ∀ e ∈ (h.step library op).acquired, e.matrix.owned = true → e.fresh = true := by
    intro e he hown
    rcases List.mem_append.mp he with he | he
    · exact entry_fresh library hd hord (Option.mem_toList.mp he) hown
    · exact hx.fresh e he hown
  have honce := hx.step_once library hord
  rcases (History.step_effect library hr.tidy op).outcome library with
    ⟨hfewer, hviews, -⟩ | ⟨a, matrix, layout, session, hentry, hv⟩
  · refine hx.of_fewer (hr.step library op).tidy hfewer (fun view hview howns number hh => ?_)
      hfresh honce
    refine (hviews view hview (by rw [hh]; rfl)).resolve_right fun hd => ?_
    rw [hd.2] at howns
    exact Bool.false_ne_true howns
  · have halone : matrix.owned = true → ∀ number found,
        h.workspace.matrices number = some found → found.pointer ≠ matrix.pointer := by
      intro hown number found hm hp
      have hf := entry_fresh library hd hord hentry hown
      have hk := hr.tidy.knows hm
      rw [hp] at hk
      change (!h.workspace.knows matrix.pointer) = true at hf
      rw [hk] at hf
      exact Bool.false_ne_true hf
    have hentered := hx.of_entered hr.tidy a matrix layout session halone hfresh honce
    rw [← hv] at hentered
    exact hentered

/-- Where adopted matrices are not owned by default, orderly runs keep a single owner. -/
theorem run (hd : defaults.ownsAdopted = false) (hr : Recorded h) (hx : Owned h)
    {ops : List (Operation σ)} (hord : OrderlyRun library defaults h ops) :
    Owned (h.run library ops) := by
  induction ops generalizing h with
  | nil => exact hx
  | cons op ops ih => exact ih (hr.step library op) (hx.step library hd hr hord.1) hord.2

/-- A pointer is acquired with ownership no more often than native matrices came under it. -/
theorem ownedPointers_le (hx : Owned h) (pointer : MatrixPointer) :
    h.ownedPointers.count pointer ≤ h.arrivals pointer := by
  have hsum : ∀ list : List Acquired,
      (∀ e ∈ list, e.matrix.owned = true → e.fresh = true) →
      ((list.filter (·.matrix.owned)).map (·.matrix.pointer)).count pointer ≤
        list.countP (·.builtAs pointer) + list.countP (·.handedOver pointer) := by
    intro list hlist
    rw [List.count, List.countP_map, List.countP_filter]
    induction list with
    | nil => exact Nat.zero_le _
    | cons e list ih =>
      have hrest := ih fun other ho => hlist other (List.mem_cons_of_mem _ ho)
      have hfresh := hlist e List.mem_cons_self
      simp only [List.countP_cons, Acquired.builtAs, Acquired.handedOver, Function.comp_apply]
        at hrest ⊢
      cases hp : e.matrix.pointer == pointer <;> cases hc : e.constructed <;>
        cases hf : e.fresh <;> cases hown : e.matrix.owned <;> simp_all <;> omega
  have hle := hsum h.acquired hx.fresh
  have honce := hx.once pointer
  rw [History.arrivals, Nat.min_eq_right honce]
  exact hle

/-- What an orderly run keeps leaves no native matrix with two owners. -/
theorem soleOwners (hr : Recorded h) (hx : Owned h) : SoleOwners h := by
  refine ⟨hx.sole, fun view hview other hother howns howns' pointer hp hp' => ?_,
    fun pointer => (hr.destroys_le pointer).trans (hx.ownedPointers_le pointer)⟩
  obtain ⟨found, hm, hpointer⟩ := Option.map_eq_some_iff.mp hp
  obtain ⟨other', hm', hpointer'⟩ := Option.map_eq_some_iff.mp hp'
  obtain ⟨m, hh, hfound⟩ := Option.bind_eq_some_iff.mp hm
  obtain ⟨n, hh', hfound'⟩ := Option.bind_eq_some_iff.mp hm'
  obtain ⟨_, hheld, hown⟩ := hx.holds view hview howns m hh
  obtain ⟨_, hheld', hown'⟩ := hx.holds other hother howns' n hh'
  cases hheld.symm.trans hfound
  cases hheld'.symm.trans hfound'
  have hsame := hx.sole m n _ _ hfound hfound' hown hown' (hpointer.trans hpointer'.symm)
  exact hx.unique view hview other hother howns howns' m hh (hsame ▸ hh')

end Owned

/-! ### Where adopted matrices are owned by default -/

namespace History

/-- A matrix is constructed, copied under its view, and both views are dropped. -/
def copyRun (defaults : ViewDefaults) : List (Operation (Nat × Bool)) :=
  [.bind (shelfBinder defaults) (shelfRequest none none) none,
    .bind (shelfBinder defaults) (shelfRequest (some ⟨0⟩) none) (some 1), .drop 2, .drop 1]

/-- Dropping a view is orderly. -/
theorem orderly_drop (defaults : ViewDefaults) (h : History σ) (id : Nat) :
    Orderly library defaults h (.drop id) := by
  refine ⟨fun binder request parent he => ?_, fun e he => ?_, fun e he => ?_, fun e he => ?_⟩ <;>
    contradiction

/-- The run is orderly: the copy is asked for under the view that holds its pointer, and nothing
is said about ownership. -/
theorem copyRun_orderly (kind : ElementKind) :
    OrderlyRun (shelf 0) ⟨kind, true⟩ (start (0, false)) (copyRun ⟨kind, true⟩) := by
  refine ⟨⟨?_, ?_, ?_, ?_⟩, ⟨?_, ?_, ?_, ?_⟩, orderly_drop _ _ _ 2,
    orderly_drop _ _ _ 1, trivial⟩
  · rintro _ _ _ ⟨⟩
    rfl
  · cases kind <;> decide +kernel
  · cases kind <;> rintro _ ⟨⟩ ⟨⟩
  · cases kind <;> rintro _ ⟨⟩ ⟨⟩
  · rintro _ _ _ ⟨⟩
    rfl
  · cases kind <;> decide +kernel
  · cases kind <;> rintro _ ⟨⟩ - - <;>
      exact ⟨rfl, _, List.mem_cons_self, rfl, 0, List.mem_cons_self, _, rfl, rfl⟩
  · cases kind <;> decide +kernel

/-- Orderly runs leave every native matrix a single owner, whatever the library does, exactly if
adopted matrices are not owned by default. -/
theorem soleOwners_iff (defaults : ViewDefaults) :
    (∀ (σ : Type) (library : NativeLibrary σ) (native : σ) (ops : List (Operation σ)),
      OrderlyRun library defaults (start native) ops →
        SoleOwners ((start native).run library ops)) ↔ defaults.ownsAdopted = false := by
  constructor
  · intro hall
    obtain ⟨kind, owns⟩ := defaults
    cases owns with
    | false => rfl
    | true =>
      have hle := (hall _ (shelf 0) (0, false) _ (copyRun_orderly kind)).destroys ⟨0⟩
      cases kind <;> exact absurd hle (by decide +kernel)
  · intro hd σ library native ops hord
    have hx := (Owned.start native).run library hd (.start native) hord
    exact hx.soleOwners ((Recorded.start native).run library ops)

/-- The copy of a matrix that is owned by default is a second owner, and the one native matrix is
destroyed once for each of the two. -/
theorem copy_owned_by_default :
    let defaults : ViewDefaults := { ownsAdopted := true }
    let shared := (start (0, false)).run (shelf 0) ((copyRun defaults).take 2)
    let later := (start (0, false)).run (shelf 0) (copyRun defaults)
    OrderlyRun (shelf 0) defaults (start (0, false)) (copyRun defaults) ∧
      (∀ number < 2, (shared.workspace.matrices number).any fun matrix =>
        matrix.owned && matrix.pointer == ⟨0⟩) ∧
      shared.workspace.views.map (·.owns) = [true, true] ∧
      destroys ⟨0⟩ later.calls = 2 ∧ later.arrivals ⟨0⟩ = 1 :=
  ⟨copyRun_orderly .double, by decide +kernel⟩

end History

end ForeignMatrix
