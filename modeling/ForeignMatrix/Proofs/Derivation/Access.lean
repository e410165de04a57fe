import ForeignMatrix.Proofs.Derivation.Chain
import ForeignMatrix.Proofs.Derivation.Roots

/-!
# Reading and writing through derived views

An acquired view reaches elements through the native accessors, a derived one
in memory. Where the accessors reach the places that the reported layout names,
both ways meet: an element of a view at the end of a chain is the element of
the root that the index map of the chain names, and storing it changes that
element of the root and no other.
-/

namespace ForeignMatrix

open Actions NativeAction

variable {σ : Type} (library : NativeLibrary σ)

/-- The indices lie within the extents. -/
def Inside (extents : Nat × Nat) (row col : Int) : Prop :=
  (0 ≤ row ∧ row < extents.1) ∧ 0 ≤ col ∧ col < extents.2

instance (extents : Nat × Nat) (row col : Int) : Decidable (Inside extents row col) :=
  inferInstanceAs (Decidable (_ ∧ _))

theorem checkIndices_inside {extents : Nat × Nat} {row col : Int} (h : Inside extents row col) :
    checkIndices extents row col = .ok (row.toNat, col.toNat) := by
  unfold checkIndices checkIndex
  rw [if_pos h.1]
  dsimp only
  rw [if_pos h.2]

theorem checkIndices_outside {extents : Nat × Nat} {row col : Int} (h : ¬Inside extents row col) :
    ∃ axis index bound, checkIndices extents row col = .error (.range axis index bound) := by
  unfold checkIndices checkIndex
  by_cases hr : 0 ≤ row ∧ row < extents.1
  · have hc : ¬(0 ≤ col ∧ col < extents.2) := fun hc => h ⟨hr, hc⟩
    rw [if_pos hr]
    dsimp only
    rw [if_neg hc]
    exact ⟨_, _, _, rfl⟩
  · rw [if_neg hr]
    exact ⟨_, _, _, rfl⟩

/-! ### Calls of the accessors -/

namespace NativeMatrix

/-- An entry point of the matrix resolves, and so do those for error handles. -/
structure Serves (matrix : NativeMatrix) (entry : Entry) : Prop where
  /-- The entry point itself. -/
  symbol : matrix.source.resolves (matrix.symbol entry) = true
  /-- The one that creates error handles. -/
  create : matrix.source.resolves errorHandleNew = true
  /-- The one that destroys them. -/
  destroy : matrix.source.resolves errorHandleDestroy = true

variable {library} {matrix : NativeMatrix} {s : Session σ} {handle : ErrorHandle} {t : σ}

/-- Reading an element under an error handle that is handed out: one call of the accessor, between
the calls that create and destroy the handle. -/
theorem readElement_handed (hserves : matrix.Serves .get)
    (hh : library.newErrorHandle s.native = (some handle, t)) (kind : ElementKind)
    (row col : Int) :
    let answer := library.get matrix.family kind matrix.pointer row col handle t
    let after : Session σ :=
      { s with
        native := library.freeErrorHandle handle answer.2
        calls := .freeErrorHandle handle :: .get matrix.family matrix.pointer row col handle ::
          .newErrorHandle (some handle) :: s.calls }
    ((library.errorState answer.2 handle).code = 0 ∧
      matrix.readElement library kind row col s = (.ok answer.1, after)) ∨
    ((library.errorState answer.2 handle).code ≠ 0 ∧ ∃ code message notices,
      matrix.readElement library kind row col s =
        (.error (.nativeOperation (matrix.symbol .get) code message), { after with notices })) := by
  intro answer after
  unfold readElement
  rw [bind_ok (resolve_ok hserves.symbol s),
    withErrorHandle_handed library hserves.create hserves.destroy hh]
  unfold releasing
  rw [bind_ok (ask_apply _ _ _)]
  rcases check_cases library handle (matrix.symbol .get) { s with
      native := answer.2
      calls := .get matrix.family matrix.pointer row col handle ::
        .newErrorHandle (some handle) :: s.calls } with
    ⟨hcode, hc⟩ | ⟨hcode, code, message, notices, hc⟩
  · rw [bind_ok hc]
    exact .inl ⟨hcode, rfl⟩
  · rw [bind_error hc]
    exact .inr ⟨hcode, code, message, notices, rfl⟩

/-- Storing an element under an error handle that is handed out. -/
theorem writeElement_handed (hserves : matrix.Serves .set)
    (hh : library.newErrorHandle s.native = (some handle, t)) (kind : ElementKind)
    (row col : Int) (value : Element kind) :
    let changed := library.set matrix.family kind matrix.pointer row col value handle t
    let after : Session σ :=
      { s with
        native := library.freeErrorHandle handle changed
        calls := .freeErrorHandle handle ::
          .set matrix.family matrix.pointer row col value.widen handle ::
            .newErrorHandle (some handle) :: s.calls }
    ((library.errorState changed handle).code = 0 ∧
      matrix.writeElement library kind row col value s = (.ok (), after)) ∨
    ((library.errorState changed handle).code ≠ 0 ∧ ∃ code message notices,
      matrix.writeElement library kind row col value s =
        (.error (.nativeOperation (matrix.symbol .set) code message), { after with notices })) := by
  intro changed after
  unfold writeElement
  rw [bind_ok (resolve_ok hserves.symbol s),
    withErrorHandle_handed library hserves.create hserves.destroy hh]
  unfold releasing
  rw [bind_ok (run_apply _ _ _)]
  rcases check_cases library handle (matrix.symbol .set) { s with
      native := changed
      calls := .set matrix.family matrix.pointer row col value.widen handle ::
        .newErrorHandle (some handle) :: s.calls } with
    ⟨hcode, hc⟩ | ⟨hcode, code, message, notices, hc⟩ <;> rw [hc]
  · exact .inl ⟨hcode, rfl⟩
  · exact .inr ⟨hcode, code, message, notices, rfl⟩

/-- A read whose call reports no error answers what the call does. -/
theorem readElement_ok (hserves : matrix.Serves .get)
    (hne : (library.newErrorHandle s.native).1 ≠ none) {kind : ElementKind} {row col : Int}
    {value : Element kind}
    (hget : ∀ handle t, library.newErrorHandle s.native = (some handle, t) →
      let answer := library.get matrix.family kind matrix.pointer row col handle t
      (library.errorState answer.2 handle).code = 0 ∧ answer.1 = value) :
    (matrix.readElement library kind row col s).1 = .ok value := by
  obtain ⟨handle, hh⟩ := Option.ne_none_iff_exists'.mp hne
  have hhanded : library.newErrorHandle s.native = (some handle, _) := Prod.ext hh rfl
  obtain ⟨hcode, hvalue⟩ := hget handle _ hhanded
  rcases readElement_handed hserves hhanded kind row col with ⟨-, he⟩ | ⟨hbad, -⟩
  · rw [he, hvalue]
  · exact absurd hcode hbad

/-- A write whose call reports no error leaves the library in the state that the call and the
destruction of the error handle lead to. -/
theorem writeElement_ok (hserves : matrix.Serves .set)
    (hne : (library.newErrorHandle s.native).1 ≠ none) {kind : ElementKind} {row col : Int}
    {value : Element kind} {P : σ → Prop}
    (hset : ∀ handle t, library.newErrorHandle s.native = (some handle, t) →
      let changed := library.set matrix.family kind matrix.pointer row col value handle t
      (library.errorState changed handle).code = 0 ∧ P (library.freeErrorHandle handle changed)) :
    ∃ t, matrix.writeElement library kind row col value s = (.ok (), t) ∧ P t.native := by
  obtain ⟨handle, hh⟩ := Option.ne_none_iff_exists'.mp hne
  have hhanded : library.newErrorHandle s.native = (some handle, _) := Prod.ext hh rfl
  obtain ⟨hcode, hafter⟩ := hset handle _ hhanded
  rcases writeElement_handed hserves hhanded kind row col value with ⟨-, he⟩ | ⟨hbad, -⟩
  · exact ⟨_, he, hafter⟩
  · exact absurd hcode hbad

end NativeMatrix

/-! ### Storage behind the accessors -/

namespace NativeLayout

/-- Address of an element of a matrix with this layout. -/
def addressOf (kind : ElementKind) (layout : NativeLayout) (row col : Nat) : Int :=
  layout.data + (row * layout.rowStride + col * layout.colStride) * kind.size

/-- Memory of a matrix with this layout after an element was stored: what lies at the address of
the element is the value, and the rest of the matrix is as before. -/
def Stores (kind : ElementKind) (layout : NativeLayout) (row col : Nat) (value : Element kind)
    (before after : σ) : Prop :=
  ∀ r < layout.rows, ∀ c < layout.cols,
    library.load kind (layout.addressOf kind r c) after =
      if layout.addressOf kind r c = layout.addressOf kind row col then value
      else library.load kind (layout.addressOf kind r c) before

end NativeLayout

/-- A matrix whose elements are stored where its layout says, in every live state of the library:
its accessors reach them there without an error, and so does memory. -/
structure Backed (matrix : NativeMatrix) (kind : ElementKind) (layout : NativeLayout)
    (Live : σ → Prop) : Prop where
  /-- The accessors resolve, and so do the entry points for error handles. -/
  resolves : ∀ symbol ∈ [matrix.symbol .get, matrix.symbol .set, errorHandleNew,
    errorHandleDestroy], matrix.source.resolves symbol = true
  /-- An error handle is handed out. -/
  handed : ∀ s, Live s → (library.newErrorHandle s).1 ≠ none
  /-- No element is stored at null, as nothing in memory is. -/
  present : ∀ row < layout.rows, ∀ col < layout.cols, layout.addressOf kind row col ≠ 0
  /-- Reading an element reports no error and answers what is in memory. -/
  get : ∀ s, Live s → ∀ handle t, library.newErrorHandle s = (some handle, t) →
    ∀ row < layout.rows, ∀ col < layout.cols,
      let answer := library.get matrix.family kind matrix.pointer row col handle t
      (library.errorState answer.2 handle).code = 0 ∧
        answer.1 = library.load kind (layout.addressOf kind row col) s
  /-- Storing an element reports no error and puts it into memory. -/
  set : ∀ s, Live s → ∀ handle t, library.newErrorHandle s = (some handle, t) →
    ∀ row < layout.rows, ∀ col < layout.cols, ∀ value,
      let after := library.set matrix.family kind matrix.pointer row col value handle t
      (library.errorState after handle).code = 0 ∧ Live (library.freeErrorHandle handle after) ∧
        layout.Stores library kind row col value s (library.freeErrorHandle handle after)
  /-- Memory holds what was put into it. -/
  store : ∀ s, Live s → ∀ row < layout.rows, ∀ col < layout.cols, ∀ value,
    let after := library.store kind (layout.addressOf kind row col) value s
    Live after ∧ layout.Stores library kind row col value s after

namespace Backed

variable {library} {matrix : NativeMatrix} {kind : ElementKind} {layout : NativeLayout}
  {Live : σ → Prop} {s : Session σ} {row col : Nat}

/-- The native accessor reads what is in memory. -/
theorem readElement (hb : Backed library matrix kind layout Live) (hs : Live s.native)
    (hr : row < layout.rows) (hc : col < layout.cols) :
    (matrix.readElement library kind row col s).1 =
      .ok (library.load kind (layout.addressOf kind row col) s.native) := by
  obtain ⟨hget, -, hnew, hdestroy⟩ : _ ∧ _ ∧ _ ∧ _ := by simpa using hb.resolves
  exact NativeMatrix.readElement_ok ⟨hget, hnew, hdestroy⟩ (hb.handed s.native hs)
    fun handle t hh => hb.get s.native hs handle t hh row hr col hc

/-- The native accessor stores into memory. -/
theorem writeElement (hb : Backed library matrix kind layout Live) (hs : Live s.native)
    (hr : row < layout.rows) (hc : col < layout.cols) (value : Element kind) :
    ∃ t, matrix.writeElement library kind row col value s = (.ok (), t) ∧ Live t.native ∧
      layout.Stores library kind row col value s.native t.native := by
  obtain ⟨-, hset, hnew, hdestroy⟩ : _ ∧ _ ∧ _ ∧ _ := by simpa using hb.resolves
  exact NativeMatrix.writeElement_ok ⟨hset, hnew, hdestroy⟩ (hb.handed s.native hs)
    (P := fun t => Live t ∧ layout.Stores library kind row col value s.native t)
    fun handle t hh => hb.set s.native hs handle t hh row hr col hc value

end Backed

/-! ### Elements of a view -/

namespace ViewAction

variable {library} {view : View} {matrix : NativeMatrix} {w : Workspace σ} {row col : Int}

section Checked

variable {α : Type} {action : NativeMatrix → Nat × Nat → ViewAction σ α}

/-- Within the extents of a live view an access goes on with the matrix and the position. -/
theorem access_inside (hm : view.handle.bind w.matrices = some matrix)
    (hi : Inside view.window.extents row col) (operation : String) :
    (do
      let matrix ← liveMatrix view operation
      let ij ← checked (checkIndices view.window.extents row col)
      action matrix ij) w = action matrix (row.toNat, col.toNat) w := by
  rw [bind_ok (liveMatrix_ok hm _), checkIndices_inside hi, checked, bind_ok (pure_apply _ w)]

/-- An access to a live view is refused for what its check finds. -/
theorem access_refused (hm : view.handle.bind w.matrices = some matrix) {fault : Fault}
    (hc : checkIndices view.window.extents row col = .error fault) (operation : String) :
    (do
      let matrix ← liveMatrix view operation
      let ij ← checked (checkIndices view.window.extents row col)
      action matrix ij) w = (.error fault, w) := by
  rw [bind_ok (liveMatrix_ok hm _), hc, checked, bind_error (throw_apply _ w)]

/-- Outside the extents of a live view an access is refused. -/
theorem access_outside (hm : view.handle.bind w.matrices = some matrix)
    (ho : ¬Inside view.window.extents row col) (operation : String) :
    ∃ axis index bound, (do
      let matrix ← liveMatrix view operation
      let ij ← checked (checkIndices view.window.extents row col)
      action matrix ij) w = (.error (.range axis index bound), w) := by
  obtain ⟨axis, index, bound, hc⟩ := checkIndices_outside ho
  exact ⟨axis, index, bound, access_refused hm hc operation⟩

end Checked

/-- Copying a view reads memory at the address of each element of its array, and changes nothing. -/
theorem toArray_apply (view : View) (w : Workspace σ) :
    let array := view.window.rawArray view.kind
    toArray library view w = (.ok ((List.range array.row.length).map fun i =>
      (List.range array.col.length).map fun j =>
        library.load view.kind (array.addressOf view.kind i j) w.session.native), w) :=
  mapM_ok fun _ _ => mapM_ok fun _ _ => rfl

end ViewAction

/-! ### Elements at the end of a chain -/

/-- Through a view of the given extents, elements of a root are read and stored: those at the
indices that an index map names. -/
structure Reaches (w : Workspace σ) (root last : View) (hkind : last.kind = root.kind)
    (extents : Nat × Nat) (source : Int → Int → Nat × Nat) : Prop where
  /-- Reading within the extents gives what reading the root gives. -/
  get : ∀ i j, Inside extents i j → ∃ value,
    (ViewAction.getElement library root (source i j).1 (source i j).2 w).1 = .ok value ∧
      (ViewAction.getElement library last i j w).1 = .ok (hkind ▸ value)
  /-- Reading is a range error exactly outside the extents. -/
  range : ∀ i j, ¬Inside extents i j ↔ ∃ axis index bound,
    ViewAction.getElement library last i j w = (.error (.range axis index bound), w)
  /-- After storing within the extents the root has the value there and is elsewhere as before. -/
  set : ∀ i j, Inside extents i j → ∀ value : Element root.kind, ∃ session,
    ViewAction.setElement library last i j (hkind ▸ value) w = (.ok (), { w with session }) ∧
      ∀ r < root.window.row.length, ∀ c < root.window.col.length,
        (ViewAction.getElement library root r c { w with session }).1 =
          if root.window.addressOf root.kind r c =
              root.window.addressOf root.kind (source i j).1 (source i j).2 then .ok value
          else (ViewAction.getElement library root r c w).1
  /-- Outside the extents nothing is stored. -/
  refused : ∀ i j, ¬Inside extents i j → ∀ value, ∃ axis index bound,
    ViewAction.setElement library last i j value w = (.error (.range axis index bound), w)

section Reaching

variable {library} {w : Workspace σ} {root last view : View} {matrix : NativeMatrix}
  {layout : NativeLayout} {Live : σ → Prop} {row col : Nat} {i j : Int}

namespace ViewAction

/-- A view of a backed matrix reads memory: through its window if it was derived, and through the
accessor, at its own indices, if it was acquired. -/
theorem getElement_load (hm : view.handle.bind w.matrices = some matrix)
    (hb : Backed library matrix view.kind layout Live) (hlive : Live w.session.native)
    (hwindow : view.derived = false → view.window = layout.window)
    (hi : Inside view.window.extents i j) :
    (getElement library view i j w).1 = .ok (library.load view.kind
      (view.window.addressOf view.kind i.toNat j.toNat) w.session.native) := by
  unfold getElement
  rw [access_inside hm hi]
  cases hd : view.derived with
  | true => rfl
  | false =>
    obtain ⟨⟨hr, hr'⟩, hc, hc'⟩ := hi
    rw [hwindow hd] at hr' hc' ⊢
    obtain ⟨r, rfl⟩ := Int.eq_ofNat_of_zero_le hr
    obtain ⟨c, rfl⟩ := Int.eq_ofNat_of_zero_le hc
    exact hb.readElement hlive (Int.ofNat_lt.mp hr') (Int.ofNat_lt.mp hc')

/-- A view of a backed matrix stores into memory, at the element that lies where its own lies. -/
theorem setElement_stores (hm : view.handle.bind w.matrices = some matrix)
    (hb : Backed library matrix view.kind layout Live) (hlive : Live w.session.native)
    (hwindow : view.derived = false → view.window = layout.window)
    (hi : Inside view.window.extents i j) (hr : row < layout.rows) (hc : col < layout.cols)
    (haddress : view.window.addressOf view.kind i.toNat j.toNat =
      layout.addressOf view.kind row col) (value : Element view.kind) :
    ∃ session, setElement library view i j value w = (.ok (), { w with session }) ∧
      Live session.native ∧
      layout.Stores library view.kind row col value w.session.native session.native := by
  unfold setElement
  rw [access_inside hm hi]
  dsimp only
  cases hd : view.derived with
  | true =>
    refine ⟨_, rfl, ?_⟩
    dsimp only
    rw [haddress]
    exact hb.store _ hlive row hr col hc value
  | false =>
    obtain ⟨⟨hi, hi'⟩, hj, hj'⟩ := hi
    rw [hwindow hd] at hi' hj' haddress
    obtain ⟨r, rfl⟩ := Int.eq_ofNat_of_zero_le hi
    obtain ⟨c, rfl⟩ := Int.eq_ofNat_of_zero_le hj
    obtain ⟨t, ht, hlive', hstores⟩ :=
      hb.writeElement hlive (Int.ofNat_lt.mp hi') (Int.ofNat_lt.mp hj') value
    refine ⟨t, ?_, hlive', fun r' hr' c' hc' => ?_⟩
    · rw [if_neg Bool.false_ne_true, native, ht]
    · rw [hstores r' hr' c' hc', ← haddress]
      rfl

/-- A root reads its own elements where its layout says. -/
theorem getElement_root (hm : root.handle.bind w.matrices = some matrix)
    (hb : Backed library matrix root.kind layout Live) (hlive : Live w.session.native)
    (hwindow : root.window = layout.window) (hr : row < layout.rows) (hc : col < layout.cols) :
    (getElement library root row col w).1 =
      .ok (library.load root.kind (layout.addressOf root.kind row col) w.session.native) := by
  have hi : Inside root.window.extents row col := by
    rw [hwindow]
    have hrow : (row : Int) < layout.rows := by omega
    have hcol : (col : Int) < layout.cols := by omega
    exact ⟨⟨Int.natCast_nonneg row, hrow⟩, Int.natCast_nonneg col, hcol⟩
  rw [getElement_load hm hb hlive (fun _ => hwindow) hi, hwindow]
  rfl

end ViewAction

/-- What a matrix of one kind holds is what it holds as one of the same kind. -/
theorem NativeLibrary.load_cast {kind other : ElementKind} (hk : kind = other) (address : Int)
    (s : σ) : library.load kind address s = hk ▸ library.load other address s := by
  subst hk
  rfl

theorem NativeLayout.Stores.cast {kind other : ElementKind} (hk : kind = other)
    {value : Element other} {s t : σ} (h : layout.Stores library kind row col (hk ▸ value) s t) :
    layout.Stores library other row col value s t := by
  subst hk
  exact h

/-- An index within the extents stands for an element of the matrix, at the same address. -/
theorem Continues.place {extents : Nat × Nat} {source : Nat × Nat → Nat × Nat}
    (hc : Continues layout.window root last extents source) (hi : Inside extents i j) :
    ((source (i.toNat, j.toNat)).1 < layout.rows ∧ (source (i.toNat, j.toNat)).2 < layout.cols) ∧
      last.window.addressOf last.kind i.toNat j.toNat =
        layout.addressOf root.kind (source (i.toNat, j.toNat)).1
          (source (i.toNat, j.toNat)).2 := by
  have hkind : last.kind = root.kind := congrArg Shape.kind hc.shape
  obtain ⟨hi, hj⟩ := hi
  rw [← hc.extents] at hi hj
  change 0 ≤ i ∧ i < last.window.row.length at hi
  change 0 ≤ j ∧ j < last.window.col.length at hj
  have hrow : i.toNat < last.window.row.length := by omega
  have hcol : j.toNat < last.window.col.length := by omega
  rw [hkind]
  exact ⟨hc.shows.inside _ _ hrow hcol, hc.shows.address _ _ hrow hcol⟩

/-- Through the last view of a chain the elements of a backed root are reached. -/
theorem Derives.reaches {links : List Link} (hd : Derives σ root links last)
    (hm : root.handle.bind w.matrices = some matrix)
    (hb : Backed library matrix root.kind layout Live) (hlive : Live w.session.native)
    (hwindow : root.window = layout.window) :
    ∃ hkind : last.kind = root.kind,
      Reaches library w root last hkind (Link.shapeOf root.window.extents links) fun i j =>
        Link.indexOf root.window.extents (i.toNat, j.toNat) links := by
  have hs : root.window.Storable root.kind := by
    rw [hwindow]
    exact fun r c hr hc => hb.present r hr c hc
  have hchain := hd.continues hs .refl
  rw [hwindow] at hchain ⊢
  obtain ⟨hderived, hlast⟩ := hchain
  have hkind : last.kind = root.kind := congrArg Shape.kind hlast.shape
  have hmlast : last.handle.bind w.matrices = some matrix := hlast.handle ▸ hm
  have hblast : Backed library matrix last.kind layout Live := hkind ▸ hb
  have hwlast : last.derived = false → last.window = layout.window := by
    intro hn
    cases hd with
    | nil => exact hwindow
    | cons =>
      rw [hderived (List.cons_ne_nil _ _)] at hn
      contradiction
  -- The extents of the last view decide, and they are those that the chain composes.
  have hextents := hlast.extents
  refine ⟨hkind, fun i j hi => ?_, fun i j => ?_, fun i j hi value => ?_, fun i j ho => ?_⟩
  · obtain ⟨⟨hr, hc⟩, ha⟩ := hlast.place hi
    refine ⟨_, ViewAction.getElement_root hm hb hlive hwindow hr hc, ?_⟩
    rw [ViewAction.getElement_load hmlast hblast hlive hwlast (hextents ▸ hi), ha,
      NativeLibrary.load_cast hkind]
  · rw [← hextents]
    refine ⟨fun ho => ViewAction.access_outside hmlast ho _, ?_⟩
    rintro ⟨axis, index, bound, he⟩ hi
    have hok := ViewAction.getElement_load hmlast hblast hlive hwlast hi
    rw [he] at hok
    contradiction
  · obtain ⟨⟨hr, hc⟩, ha⟩ := hlast.place hi
    rw [← hkind] at ha
    obtain ⟨session, he, hsession, hstores⟩ := ViewAction.setElement_stores hmlast hblast hlive
      hwlast (hextents ▸ hi) hr hc ha (hkind ▸ value)
    refine ⟨session, he, fun r hr' c hc' => ?_⟩
    rw [hwindow] at hr' hc' ⊢
    have hafter :=
      ViewAction.getElement_root (w := { w with session }) hm hb hsession hwindow hr' hc'
    have hbefore := ViewAction.getElement_root hm hb hlive hwindow hr' hc'
    rw [hafter, hbefore, hstores.cast hkind r hr' c hc', apply_ite Except.ok]
    rfl
  · rw [← hextents] at ho
    exact fun value => ViewAction.access_outside hmlast ho _

end Reaching

namespace History

variable {h : History σ} {root last : View} {matrix : NativeMatrix} {layout : NativeLayout}

/-- Through the last view of any chain of derivations from an acquired view, elements are read and
stored as through the acquired view, at the indices that the index map of the chain names. -/
theorem chain_reaches (hr : h.Reachable library) (hroot : LiveRoot h root matrix layout)
    (hdata : layout.data ≠ 0) {Live : σ → Prop} (hb : Backed library matrix root.kind layout Live)
    (hlive : Live h.workspace.session.native) {links : List Link}
    (hd : Derives σ root links last) :
    ∃ hkind : last.kind = root.kind,
      Reaches library h.workspace root last hkind (Link.shapeOf root.window.extents links)
        fun i j => Link.indexOf root.window.extents (i.toNat, j.toNat) links := by
  have hshown : Window.ofLayout root.kind layout = layout.window := if_pos hdata
  exact hd.reaches (hroot.held library hr) hb hlive ((hroot.window library hr).trans hshown)

/-- A library with a matrix of two rows and two columns, the last row first in memory. Its state is
what is in memory. -/
def board : NativeLibrary (Int → Element .double) where
  newErrorHandle s := (some ⟨0⟩, s)
  freeErrorHandle _ s := s
  errorState _ _ := {}
  newSized _ _ _ s := (some ⟨0⟩, s)
  destroy _ _ _ s := s
  get _ kind _ row col _ s := (peek kind (24 + (row * -2 + col * 1) * kind.size) s, s)
  set _ kind _ row col value _ s := poke kind (24 + (row * -2 + col * 1) * kind.size) value s
  measure _ which _ _ s :=
    (match which with | .rows | .cols => 2 | .rowStride => -2 | .colStride => 1, s)
  data _ _ _ s := (24, s)
  load := peek
  store := poke
where
  /-- Memory holds doubles only. -/
  peek : (kind : ElementKind) → Int → (Int → Element .double) → Element kind
    | .double, address, s => s address
    | .single, _, _ => default
  /-- One double is replaced. -/
  poke : (kind : ElementKind) → Int → Element kind → (Int → Element .double) → Int → Element .double
    | .double, address, value, s => fun other => if other = address then value else s other
    | .single, _, _, s => s

/-- The matrix of the board. -/
def boardMatrix : NativeMatrix :=
  ⟨⟨0⟩, true, (Shape.fixed 2 2 .double).family, (shelfBinder {}).source⟩

/-- The layout that it reports. -/
def boardLayout : NativeLayout := ⟨2, 2, -2, 1, 24⟩

/-- The accessors of the board reach the places that its layout names. -/
theorem board_backed : Backed board boardMatrix .double boardLayout fun _ => True where
  resolves _ _ := rfl
  handed _ _ := nofun
  present := by decide +kernel
  get := by
    intro s _ handle t ht row _ col _
    cases ht
    exact ⟨rfl, rfl⟩
  set := by
    intro s _ handle t ht row _ col _ value
    cases ht
    exact ⟨rfl, trivial, fun r _ c _ => rfl⟩
  store := by
    intro s _ row _ col _ value
    exact ⟨trivial, fun r _ c _ => rfl⟩

/-- The rows of a view of the board are reversed and the result is transposed. Its element `(1, 0)`
is the element `(1, 1)` of the board, for reading and for storing. -/
theorem chain_reaches_reversed :
    let h := (start fun _ => default).run board
      [.create (shelfBinder {}) .double (.fixed 2 2 .double)]
    let root : View := ⟨1, .fixed 2 2 .double, some 0, none, true, none, false, (2, 2),
      ⟨24, ⟨2, -2⟩, ⟨2, 1⟩⟩⟩
    let last : View := ⟨3, .fixed 2 2 .double, some 0, none, false, some 1, true, (2, 2),
      ⟨8, ⟨2, 1⟩, ⟨2, 2⟩⟩⟩
    let one : Element .double := .ofMagnitude .double false 1
    let after := (ViewAction.setElement board last 1 0 one h.workspace).2
    Derives (Int → Element .double) root [.cut ⟨0, none, -1⟩ .whole, .transpose] last ∧
      (ViewAction.getElement board root 1 1 after).1 = .ok one ∧
      (ViewAction.getElement board root 0 1 after).1 =
        (ViewAction.getElement board last 1 1 h.workspace).1 := by
  intro h root last one after
  let reversed : View := ⟨2, .fixed 2 2 .double, some 0, none, false, some 1, true, (2, 2),
    ⟨8, ⟨2, 2⟩, ⟨2, 1⟩⟩⟩
  have hmem : root ∈ h.workspace.views := by decide +kernel
  have hroot : LiveRoot h root boardMatrix boardLayout :=
    ⟨hmem, rfl, _, List.mem_cons_self, rfl, rfl, rfl, rfl⟩
  have hfits : (Link.cut ⟨0, none, -1⟩ .whole).Fits root.window.extents :=
    ⟨⟨by decide, by decide, nofun⟩, by decide, by decide, nofun⟩
  have hcut : ((Link.cut ⟨0, none, -1⟩ .whole).perform root h.workspace).1 = .ok 2 ∧
      ((Link.cut ⟨0, none, -1⟩ .whole).perform root h.workspace).2.views =
        h.workspace.views ++ [reversed] := by
    decide +kernel
  generalize hsecond : ((Link.cut ⟨0, none, -1⟩ .whole).perform root h.workspace).2 = second at hcut
  have hturn : (Link.transpose.perform reversed second).1 = .ok 3 ∧
      (Link.transpose.perform reversed second).2.views = second.views ++ [last] := by
    rw [← hsecond]
    decide +kernel
  have hrest : Derives (Int → Element .double) reversed [.transpose] last :=
    .cons second trivial hturn.1 hturn.2 (.nil last)
  have hlast : Derives (Int → Element .double) root [.cut ⟨0, none, -1⟩ .whole, .transpose] last :=
    .cons h.workspace hfits hcut.1 (hsecond ▸ hcut.2) hrest
  obtain ⟨hkind, hreach⟩ :=
    chain_reaches board ⟨_, _, rfl⟩ hroot (by decide) board_backed trivial hlast
  obtain ⟨session, hset, hroots⟩ := hreach.set 1 0 (by decide) one
  have hafter : after = { h.workspace with session } := congrArg Prod.snd hset
  obtain ⟨value, hread, hother⟩ := hreach.get 1 1 (by decide)
  rw [hafter]
  refine ⟨hlast, ?_, ?_⟩
  · exact (hroots 1 (by decide) 1 (by decide)).trans (if_pos (by decide))
  · have hkept := (hroots 0 (by decide) 1 (by decide)).trans (if_neg (by decide))
    exact hkept.trans (hread.trans hother.symm)

end History

end ForeignMatrix
