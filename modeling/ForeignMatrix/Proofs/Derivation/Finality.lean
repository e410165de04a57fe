import ForeignMatrix.Proofs.Derivation.Ancestry

/-!
# What finalizing a view leaves

A finalized view is inert: it has no reference and no element, it can be
finalized and dropped without a call, and every access to it and every
derivation from it is refused before anything is done. It stays so until it is
dropped, whatever else happens. The views derived from it share both references
that it had, so finalizing it while one of them is there makes no call at all
and takes nothing from them. What destroying the matrix reports has no
influence on any of this.
-/

namespace ForeignMatrix

open Actions

variable {σ : Type} (library : NativeLibrary σ)

/-! ### Actions on a view without a matrix -/

/-- The action is refused and does nothing. -/
def Declines {α : Type} (action : ViewAction σ α) (w : Workspace σ) : Prop :=
  ∃ fault, action w = (.error fault, w)

namespace Declines

variable {α β : Type} {w : Workspace σ}

/-- What begins with a refused action is refused. -/
theorem bind {action : ViewAction σ α} (h : Declines action w) (rest : α → ViewAction σ β) :
    Declines (action >>= rest) w := by
  obtain ⟨fault, he⟩ := h
  exact ⟨fault, bind_error he rest⟩

/-- A check in front of a refused action is passed or refused itself. -/
theorem checked {result : Except Fault α} {rest : α → ViewAction σ β}
    (h : ∀ a, Declines (rest a) w) : Declines (ViewAction.checked result >>= rest) w := by
  cases result with
  | error fault => exact ⟨fault, rfl⟩
  | ok a => exact h a

end Declines

namespace ViewAction

variable {view : View} (hh : view.handle = none) (w : Workspace σ)

include hh

theorem liveMatrix_declines (operation : String) : Declines (liveMatrix view operation) w := by
  have hmatrix : view.handle.bind w.matrices = none := by rw [hh, Option.bind_none]
  exact ⟨_, liveMatrix_none hmatrix operation⟩

theorem derive_declines (transform : Window → Window) : Declines (derive view transform) w :=
  (liveMatrix_declines hh w _).bind _

/-- A rectangle is refused by its own checks or by the derivation. -/
theorem slice_declines (rows cols : Nat × Nat) : Declines (slice view rows cols) w :=
  .checked fun _ => .checked fun _ => derive_declines hh w _

end ViewAction

/-! ### Inert views -/

/-- A view that has given up its matrix. Nothing can be done with it any more, except to finalize
it once more or to drop it, and neither makes a call. -/
structure Inert (w : Workspace σ) (view : View) : Prop where
  /-- It refers to no matrix. -/
  handle : view.handle = none
  /-- It keeps none alive. -/
  keepAlive : view.keepAlive = none
  /-- It has no element. -/
  extents : view.window.extents = (0, 0)
  /-- Finalizing succeeds and does nothing. -/
  finalize : ViewAction.finalize library view.id w = (.ok (), w)
  /-- Dropping succeeds and only takes the view away. -/
  drop : ViewAction.drop library view.id w = (.ok (), w.removeView view.id)
  /-- No element can be read. -/
  get : ∀ row col, Declines (ViewAction.getElement library view row col) w
  /-- No element can be stored. -/
  set : ∀ row col value, Declines (ViewAction.setElement library view row col value) w
  /-- No element of the matrix itself can be read. -/
  base : ∀ row col, Declines (ViewAction.getBaseElement library view row col) w
  /-- Nothing can be derived. -/
  derive : ∀ transform, Declines (ViewAction.derive view transform) w
  /-- Nothing can be derived for an element kind. -/
  deriveAs : ∀ kind transform, Declines (ViewAction.deriveAs kind view transform) w
  /-- No rectangle can be derived. -/
  slice : ∀ rows cols, Declines (ViewAction.slice view rows cols) w
  /-- No row can be derived. -/
  row : ∀ position, Declines (ViewAction.row view position) w
  /-- No column can be derived. -/
  column : ∀ position, Declines (ViewAction.column view position) w
  /-- The transpose cannot be derived. -/
  transpose : Declines (ViewAction.transpose view) w

/-- Finalizing a view that does not own its matrix, or has given it up, does nothing. -/
theorem ViewAction.finalize_of_final {w : Workspace σ} (ht : Tidy w []) {view : View}
    (hm : view ∈ w.views) (hf : ¬(view.owns = true ∧ view.handle.isSome = true)) :
    ViewAction.finalize library view.id w = (.ok (), w) := by
  refine finalize_of_other library fun other hother => ?_
  have hsame : view = other := Option.some.inj ((ht.view?_of_mem hm rfl).symm.trans hother)
  exact hsame ▸ hf

/-- Dropping a view that refers to nothing takes it away. -/
theorem ViewAction.drop_of_unreferred {w : Workspace σ} {view : View}
    (hv : w.view? view.id = some view) (hh : view.handle = none) (hk : view.keepAlive = none)
    (hf : ViewAction.finalize library view.id w = (.ok (), w)) :
    ViewAction.drop library view.id w = (.ok (), w.removeView view.id) := by
  have hcaught : tryCatch (finalize library view.id)
      (fun fault => note (.finalizeFailed view.id fault)) w = (.ok (), w) := by
    rw [tryCatch_apply, hf]
  unfold ViewAction.drop
  rw [bind_ok hcaught, bind_ok (get_apply w), hv]
  dsimp only
  rw [hh, hk]
  rfl

/-- An emptied view is inert. -/
theorem Inert.of_emptied {w : Workspace σ} (ht : Tidy w []) {view : View}
    (hm : view.emptied ∈ w.views) : Inert library w view.emptied := by
  have hv : w.view? view.emptied.id = some view.emptied := ht.view?_of_mem hm rfl
  have hf : ViewAction.finalize library view.emptied.id w = (.ok (), w) :=
    ViewAction.finalize_of_final library ht hm fun howner => Bool.false_ne_true howner.2
  have hslice (rows cols : Nat × Nat) : Declines (ViewAction.slice view.emptied rows cols) w :=
    ViewAction.slice_declines rfl w rows cols
  have hderive (transform : Window → Window) :
      Declines (ViewAction.derive view.emptied transform) w :=
    ViewAction.derive_declines rfl w transform
  exact {
    handle := rfl
    keepAlive := rfl
    extents := rfl
    finalize := hf
    drop := ViewAction.drop_of_unreferred library hv rfl rfl hf
    get := fun _ _ => (ViewAction.liveMatrix_declines rfl w _).bind _
    set := fun _ _ _ => (ViewAction.liveMatrix_declines rfl w _).bind _
    base := fun _ _ => (ViewAction.liveMatrix_declines rfl w _).bind _
    derive := hderive
    deriveAs := fun kind transform => by
      unfold ViewAction.deriveAs
      split_ifs
      · exact hderive transform
      · exact ⟨_, rfl⟩
    slice := hslice
    row := fun _ => .checked fun _ => hslice _ _
    column := fun _ => .checked fun _ => hslice _ _
    transpose := hderive _ }

/-! ### Views that share what is given up -/

namespace ViewAction

variable {w : Workspace σ}

/-- A matrix that something refers to is not let go. -/
theorem letGo_of_refers {matrix : Nat} (hr : w.Refers matrix) :
    letGo library matrix w = (.ok (), w) := by
  have hne : w.references matrix ≠ 0 := fun hzero => (w.references_eq_zero matrix).mp hzero hr
  unfold letGo
  rw [bind_ok (get_apply w), if_neg hne]
  rfl

/-- A matrix that something refers to is not destroyed when it is settled. -/
theorem settle_of_refers {view matrix : Nat} (hr : w.Refers matrix) :
    ∃ notices, settle library view matrix w =
      (.ok (), { w with session := { w.session with notices } }) := by
  have hne : w.references matrix ≠ 0 := fun hzero => (w.references_eq_zero matrix).mp hzero hr
  unfold settle
  rw [bind_ok (get_apply w)]
  cases hm : w.matrices matrix with
  | none => exact ⟨w.session.notices, rfl⟩
  | some found =>
    dsimp only
    rw [if_neg hne]
    exact ⟨_, rfl⟩

/-- Finalizing an owner whose references are those of another view makes no call. -/
theorem finalize_of_shared (ht : Tidy w []) {view heir : View} (hv : view ∈ w.views)
    (ho : view.owns = true) {matrix : Nat} (hh : view.handle = some matrix)
    (hm : heir ∈ w.views) (hid : heir.id ≠ view.id) (hhandle : heir.handle = view.handle)
    (hkeep : heir.keepAlive = view.keepAlive) :
    ∃ notices, finalize library view.id w =
      (.ok (), { w.setView view.emptied with session := { w.session with notices } }) := by
  have hheir : heir ∈ (w.setView view.emptied).views :=
    List.mem_map.mpr ⟨heir, hm, if_neg hid⟩
  have hrefers : ∀ number ∈ view.references, (w.setView view.emptied).Refers number := by
    intro number hnumber
    refine .inl ⟨heir, hheir, ?_⟩
    rw [View.references, hhandle, hkeep]
    exact hnumber
  have hkept : letGo? library view.keepAlive (w.setView view.emptied) =
      (.ok (), w.setView view.emptied) := by
    cases hk : view.keepAlive with
    | none => rfl
    | some kept =>
      refine letGo_of_refers library (hrefers kept ?_)
      exact List.mem_append_right _ (Option.mem_toList.mpr hk)
  have hshared : (w.setView view.emptied).Refers matrix :=
    hrefers matrix (List.mem_append_left _ (Option.mem_toList.mpr hh))
  rw [finalize_of_owner library (ht.view?_of_mem hv rfl) ho hh, bind_ok hkept]
  exact settle_of_refers library hshared

/-- What a derived view reads depends on its matrix being there and on memory only. -/
theorem getElement_congr {v : Workspace σ} {view : View} (hd : view.derived = true)
    (hm : view.handle.bind v.matrices = view.handle.bind w.matrices)
    (hn : v.session.native = w.session.native) (row col : Int) :
    (getElement library view row col v).1 = (getElement library view row col w).1 := by
  unfold getElement
  cases hmatrix : view.handle.bind w.matrices with
  | none =>
    rw [bind_error (liveMatrix_none hmatrix _), bind_error (liveMatrix_none (hm.trans hmatrix) _)]
  | some matrix =>
    rw [bind_ok (liveMatrix_ok hmatrix _), bind_ok (liveMatrix_ok (hm.trans hmatrix) _)]
    cases checkIndices view.window.extents row col with
    | error fault => rfl
    | ok ij =>
      rw [checked, bind_ok (pure_apply ij v), bind_ok (pure_apply ij w)]
      dsimp only
      rw [if_pos hd]
      exact congrArg (fun native => Except.ok (library.load view.kind _ native)) hn

end ViewAction

/-- The view is as it was, with its matrix, all its elements, and not a call in between. -/
structure Unaffected (w after : Workspace σ) (view : View) : Prop where
  /-- It is there with its identity, its window, its references and its root. -/
  mem : view ∈ after.views
  /-- Its matrix is still held. -/
  matrix : ∃ matrix, view.handle.bind w.matrices = some matrix ∧
    view.handle.bind after.matrices = some matrix
  /-- No call was made. -/
  calls : after.session.calls = w.session.calls
  /-- The state of the library is the same. -/
  native : after.session.native = w.session.native
  /-- Every pair of indices reads the same. -/
  get : ∀ row col, (ViewAction.getElement library view row col after).1 =
    (ViewAction.getElement library view row col w).1
  /-- A copy holds the same. -/
  copied : (ViewAction.toArray library view after).1 = (ViewAction.toArray library view w).1

/-! ### What is passed on -/

/-- One view was derived from another; both are named by their identities. -/
def DerivedAt (births : List Birth) (source child : Nat) : Prop :=
  ∃ b ∈ births, b.view.id = child ∧ b.view.derived = true ∧ b.source.map (·.id) = some source

instance (births : List Birth) (source child : Nat) : Decidable (DerivedAt births source child) :=
  inferInstanceAs (Decidable (∃ b ∈ births, _))

/-- A derived view has both references of its source, which is as it was born. -/
structure Birth.Shares (b c : Birth) : Prop where
  /-- The source. -/
  source : b.source = some c.view
  /-- The reference to the matrix. -/
  handle : b.view.handle = c.view.handle
  /-- The reference that keeps another matrix alive. -/
  keepAlive : b.view.keepAlive = c.view.keepAlive

/-- Derived views own nothing and share the references of their sources. -/
def Bequeathed (births : List Birth) : Prop :=
  ∀ b ∈ births, b.view.derived = true → b.view.owns = false ∧ ∃ c ∈ births, b.Shares c

namespace Registered

variable {library} {h : History σ} {births : List Birth}

/-- Views are derived only from live views, and those are as they were born. -/
theorem shares_of_born (hx : Registered births h) (hr : Recorded h) {op : Operation σ} {b : Birth}
    (hb : b ∈ h.born library op) (hd : b.view.derived = true) : ∃ c ∈ births, b.Shares c := by
  obtain ⟨hm, hid, -, hs⟩ := History.mem_of_born library hb
  obtain ⟨matrix, hlive⟩ := History.live_of_made library hr hm hid
  rcases History.made_of_view library hr hm hid with
    ⟨a, acquired, layout, -, hview⟩ | ⟨source, window, session, hsource, hview, -⟩
  · rw [hview] at hd
    contradiction
  have hhandle : b.view.handle = source.handle := (congrArg View.handle hview :)
  have hkeep : b.view.keepAlive = source.keepAlive := (congrArg View.keepAlive hview :)
  obtain ⟨c, hc, ⟨rfl, -⟩ | ⟨-, rfl⟩⟩ := hx.remembered source (Operation.source_mem hsource)
  · exact ⟨c, hc, hs.trans hsource, hhandle, hkeep⟩
  · rw [hhandle] at hlive
    contradiction

/-- A run passes the references on. -/
theorem bequeathed (hx : Registered births h) (hr : Recorded h) (hp : Bequeathed births)
    (ops : List (Operation σ)) : Bequeathed (births ++ h.births library ops) := by
  induction ops generalizing h births with
  | nil =>
    rw [History.births, List.append_nil]
    exact hp
  | cons op ops ih =>
    rw [History.births, ← List.append_assoc]
    refine ih (hx.step hr op) (hr.step library op) fun b hb hd => ?_
    have hshares : b.view.owns = false ∧ ∃ c ∈ births, b.Shares c := by
      rcases List.mem_append.mp hb with hold | hnew
      · exact hp b hold hd
      · have hborn := Option.mem_toList.mp hnew
        obtain ⟨parent, hdescends⟩ := History.descends_of_born library hr hborn hd
        exact ⟨hdescends.owns, hx.shares_of_born hr hborn hd⟩
    obtain ⟨howns, c, hc, hbc⟩ := hshares
    exact ⟨howns, c, List.mem_append_left _ hc, hbc⟩

/-- All along a chain of derivations that begins at a live view, births share its references. -/
theorem chain_shares (hx : Registered births h) (hp : Bequeathed births) {c : Birth}
    (hc : c ∈ births) {id : Nat} (hd : Relation.TransGen (DerivedAt births) c.view.id id) :
    ∃ b ∈ births, b.view.id = id ∧ b.view.derived = true ∧ b.view.owns = false ∧
      b.view.handle = c.view.handle ∧ b.view.keepAlive = c.view.keepAlive := by
  -- Each link of the chain is a birth whose source is the birth that the link starts from.
  have hlink {b source : Birth} (hsource : source ∈ births) (hb : b ∈ births)
      (hderived : b.view.derived = true) (hid : b.source.map (·.id) = some source.view.id) :
      b.view.owns = false ∧ b.view.handle = source.view.handle ∧
        b.view.keepAlive = source.view.keepAlive := by
    obtain ⟨howns, d, hdb, hshares⟩ := hp b hb hderived
    rw [hshares.source] at hid
    have hsame : d = source := Birth.eq_of_id hx.ordered hdb hsource (Option.some.inj hid)
    exact ⟨howns, hsame ▸ hshares.handle, hsame ▸ hshares.keepAlive⟩
  induction hd with
  | single hlast =>
    obtain ⟨b, hb, hid, hderived, hsource⟩ := hlast
    exact ⟨b, hb, hid, hderived, hlink hc hb hderived hsource⟩
  | tail _ hlast ih =>
    obtain ⟨b, hb, hid, hderived, hsource⟩ := hlast
    obtain ⟨d, hd, rfl, -, -, hhandle, hkeep⟩ := ih
    obtain ⟨howns, hbhandle, hbkeep⟩ := hlink hd hb hderived hsource
    exact ⟨b, hb, hid, hderived, howns, hbhandle.trans hhandle, hbkeep.trans hkeep⟩

/-- A view that is there and was derived from a live view has the references of that view. -/
theorem heir_shares (hx : Registered births h) (hp : Bequeathed births) {view heir : View}
    (hv : view ∈ h.workspace.views) (hlive : view.handle.isSome = true)
    (hm : heir ∈ h.workspace.views)
    (hd : Relation.TransGen (DerivedAt births) view.id heir.id) :
    heir.derived = true ∧ heir.owns = false ∧ heir.handle = view.handle ∧
      heir.keepAlive = view.keepAlive := by
  obtain ⟨c, hc, ⟨rfl, -⟩ | ⟨-, rfl⟩⟩ := hx.remembered view hv
  · obtain ⟨b, hb, hid, hderived, howns, hshared⟩ := hx.chain_shares hp hc hd
    obtain ⟨d, hdb, hremembers⟩ := hx.remembered heir hm
    have hsame : b = d :=
      Birth.eq_of_id hx.ordered hb hdb (hid.trans hremembers.names.1.symm)
    rcases hremembers with ⟨rfl, -⟩ | ⟨howner, -⟩
    · exact hsame ▸ ⟨hderived, howns, hshared⟩
    · rw [← hsame, howns] at howner
      contradiction
  · contradiction

end Registered

namespace History

variable {h : History σ} {births : List Birth} {view heir : View}

/-- An owner that is finalized is there emptied. -/
theorem finalize_emptied (hr : Recorded h) (hv : view ∈ h.workspace.views)
    (ho : view.owns = true) (hlive : view.handle.isSome = true) :
    view.emptied ∈ (h.step library (.finalize view.id)).workspace.views := by
  have hviews : (h.step library (.finalize view.id)).workspace.views =
      h.workspace.viewsFinalized view.id :=
    (ViewAction.finalize_clears library hr.tidy view.id).views
  have hfinalized : view.finalized = view.emptied := if_pos ⟨ho, hlive⟩
  rw [hviews, ← hfinalized]
  exact List.mem_map.mpr ⟨view, hv, if_pos rfl⟩

variable {library}

/-- An emptied view is inert as long as it is not dropped. -/
theorem run_inert (hr : Recorded h) (hm : view.emptied ∈ h.workspace.views)
    {later : List (Operation σ)} (hlater : .drop view.id ∉ later) :
    view.emptied ∈ (h.run library later).workspace.views ∧
      Inert library (h.run library later).workspace view.emptied := by
  have hfinal : ¬(view.emptied.owns = true ∧ view.emptied.handle.isSome = true) :=
    fun howner => Bool.false_ne_true howner.2
  have hstays := run_view_mem library hr hm hfinal hlater
  exact ⟨hstays, .of_emptied library (hr.run library later).tidy hstays⟩

/-- Finalizing an owner does not affect what was derived from it. -/
theorem finalize_unaffected (hr : Recorded h) (hx : Registered births h) (hp : Bequeathed births)
    (hv : view ∈ h.workspace.views) (ho : view.owns = true) (hlive : view.handle.isSome = true)
    (hm : heir ∈ h.workspace.views)
    (hd : Relation.TransGen (DerivedAt births) view.id heir.id) :
    Unaffected library h.workspace (h.step library (.finalize view.id)).workspace heir := by
  obtain ⟨number, hh⟩ := Option.isSome_iff_exists.mp hlive
  obtain ⟨hderived, howns, hhandle, hkeep⟩ := hx.heir_shares hp hv hlive hm hd
  have hid : heir.id ≠ view.id := by
    intro hid
    rw [hr.tidy.eq_of_id hm hv hid, ho] at howns
    contradiction
  obtain ⟨notices, he⟩ :=
    ViewAction.finalize_of_shared library hr.tidy hv ho hh hm hid hhandle hkeep
  have hw : (h.step library (.finalize view.id)).workspace = { h.workspace.setView view.emptied with
      session := { h.workspace.session with notices } } := congrArg Prod.snd he
  obtain ⟨-, matrix, hmatrix⟩ := hr.tidy.handle_held hv hh
  have hheld : heir.handle.bind h.workspace.matrices = some matrix := by
    rw [hhandle, hh, Option.bind_some, hmatrix]
  rw [hw]
  exact {
    mem := List.mem_map.mpr ⟨heir, hm, if_neg hid⟩
    matrix := ⟨matrix, hheld, hheld⟩
    calls := rfl
    native := rfl
    get := ViewAction.getElement_congr library hderived rfl rfl
    copied := by
      rw [ViewAction.toArray_apply, ViewAction.toArray_apply] }

variable (library)

/-- In any run of operations, a view that is finalized while it owns its matrix is inert from then
on until it is dropped, whether or not destroying the matrix reports an error, and the views that
were derived from it, directly or through others, are not affected. Finalizing a view that does not
own its matrix does nothing. -/
theorem finalize_final (native : σ) (ops : List (Operation σ)) :
    let h := (start native).run library ops
    let births := (start native).births library ops
    ∀ view ∈ h.workspace.views,
      (view.owns = true → view.isFinalized = false →
        let after := h.step library (.finalize view.id)
        (∀ later : List (Operation σ), .drop view.id ∉ later →
          let w := (after.run library later).workspace
          view.emptied ∈ w.views ∧ Inert library w view.emptied) ∧
        ∀ heir ∈ h.workspace.views, Relation.TransGen (DerivedAt births) view.id heir.id →
          Unaffected library h.workspace after.workspace heir) ∧
      (view.owns = false →
        ViewAction.finalize library view.id h.workspace = (.ok (), h.workspace)) := by
  intro h births view hv
  have hr : Recorded h := (Recorded.start native).run library ops
  have hx : Registered births h := (Registered.start native).run (.start native) ops
  have hnone : Bequeathed [] := fun b hb => absurd hb List.not_mem_nil
  have hp : Bequeathed births := (Registered.start native).bequeathed (.start native) hnone ops
  refine ⟨fun ho hf => ?_, fun ho => ?_⟩
  · have hlive : view.handle.isSome = true := by
      rw [View.isFinalized, Option.isNone_eq_false_iff] at hf
      exact hf
    have hemptied := finalize_emptied library hr hv ho hlive
    exact ⟨fun later hlater => run_inert (hr.step library _) hemptied hlater,
      fun heir hm hd => finalize_unaffected hr hx hp hv ho hlive hm hd⟩
  · refine ViewAction.finalize_of_final library hr.tidy hv fun howner => ?_
    rw [ho] at howner
    exact Bool.false_ne_true howner.1

/-- An owner of a second matrix is acquired under that of a first one, and a view is derived from it
and another one from that; the owner of a third matrix stands alone. Destroying a matrix reports an
error, so finalizing the third owner fails, and it is inert all the same. Finalizing the second one
leaves the views derived from it as they are, and finalizing one of those does nothing. -/
theorem finalize_final_failing :
    let ops := [.bind (shelfBinder {}) (shelfRequest none none) none,
      .bind (shelfBinder {}) (shelfRequest none none) (some 1), .transpose 2, .row 3 0,
      .bind (shelfBinder {}) (shelfRequest none none) none]
    let h := (start (0, false)).run (shelf 5) ops
    let owner : View := ⟨2, .fixed 1 1 .double, some 1, some 0, true, some 1, false, (1, 1),
      ⟨16, ⟨1, 1⟩, ⟨1, 1⟩⟩⟩
    let heir : View := ⟨4, .fixed 1 1 .double, some 1, some 0, false, some 1, true, (1, 1),
      ⟨16, ⟨1, 0⟩, ⟨1, 0⟩⟩⟩
    let alone : View := ⟨5, .fixed 1 1 .double, some 2, none, true, none, false, (1, 1),
      ⟨24, ⟨1, 1⟩, ⟨1, 1⟩⟩⟩
    let failed := h.step (shelf 5) (.finalize 5)
    (owner ∈ h.workspace.views ∧ heir ∈ h.workspace.views ∧ alone ∈ h.workspace.views) ∧
      (ViewAction.finalize (shelf 5) 5 h.workspace).1.isOk = false ∧
      Inert (shelf 5) (failed.run (shelf 5) [.finalize 5, .drop 1]).workspace alone.emptied ∧
      Unaffected (shelf 5) h.workspace (h.step (shelf 5) (.finalize 2)).workspace heir ∧
      ViewAction.finalize (shelf 5) 4 h.workspace = (.ok (), h.workspace) := by
  intro ops h owner heir alone failed
  have hviews : owner ∈ h.workspace.views ∧ heir ∈ h.workspace.views ∧
      alone ∈ h.workspace.views := by
    decide +kernel
  obtain ⟨howner, hheir, halone⟩ := hviews
  have hchain : Relation.TransGen (DerivedAt ((start (0, false)).births (shelf 5) ops)) 2 4 := by
    refine .tail (.single (b := 3) ?_) ?_
    · decide +kernel
    · decide +kernel
  have hlater : (.drop 5 : Operation (Nat × Bool)) ∉ [.finalize 5, .drop 1] := by simp
  obtain ⟨hinert, -⟩ := (finalize_final (shelf 5) (0, false) ops alone halone).1 rfl rfl
  obtain ⟨-, hheirs⟩ := (finalize_final (shelf 5) (0, false) ops owner howner).1 rfl rfl
  refine ⟨⟨howner, hheir, halone⟩, by decide +kernel, (hinert _ hlater).2, hheirs heir hheir hchain,
    ?_⟩
  exact (finalize_final (shelf 5) (0, false) ops heir hheir).2 rfl

end History

end ForeignMatrix
