import ForeignMatrix.Proofs.Derivation.Lineage

/-!
# Views of one matrix share its elements

Any two views of a matrix show the same memory, whether they were acquired or
derived, and whatever the signs of their strides: an element that is stored
through one is read through the other where the two have the same address, and
nothing else changes, neither in this matrix nor in another. An acquired view
goes through the native accessors and a derived one through memory, so there
are four pairs to be had; the places of both lie in the window that the matrix
reported, and there they are told apart by address alone.
-/

namespace ForeignMatrix

open Actions

variable {σ : Type} (library : NativeLibrary σ)

/-! ### Places in memory -/

/-- The bytes of two elements do not overlap. -/
def Apart (kind : ElementKind) (address : Int) (other : ElementKind) (place : Int) : Prop :=
  address + kind.size ≤ place ∨ place + other.size ≤ address

namespace Window

variable {kind : ElementKind} {w : Window} {layout : NativeLayout}

/-- Two places of one window are the same or do not overlap. -/
theorem Spans.apart {a b : Int} (ha : w.Spans kind a) (hb : w.Spans kind b) (hne : a ≠ b) :
    Apart kind a kind b := by
  obtain ⟨k, rfl, -⟩ := ha
  obtain ⟨l, rfl, -⟩ := hb
  have hk : k ≠ l := fun he => hne (by rw [he])
  unfold Apart
  cases kind <;> dsimp only [ElementKind.size] <;> omega

/-- A window that has an element and shows a layout shows it with its storage. -/
theorem ofLayout_has {i j : Nat} (h : (ofLayout kind layout).Has i j) :
    ofLayout kind layout = layout.window := by
  unfold ofLayout at h ⊢
  split_ifs at h ⊢ with hdata hzero
  · rfl
  · -- Without storage the window has an element only if the layout has none.
    exact absurd hzero (count_ne_zero h)
  · exact absurd h.1 (Nat.not_lt_zero i)

end Window

/-- Indices within the extents of a view are at a place of the matrix, and an acquired view shows
the matrix as it was reported. -/
theorem Inherits.place {view : View} {layout : NativeLayout} (hx : Inherits view layout)
    {i j : Int} (hi : Inside view.window.extents i j) :
    layout.window.Spans view.kind (view.window.addressOf view.kind i.toNat j.toNat) ∧
      (view.derived = false → view.window = layout.window) := by
  have hhas := Window.has_of_inside hi
  have hspans := hx.confined _ _ hhas
  obtain ⟨k, -, ⟨r, c, hrc, -⟩, -⟩ := id hspans
  have hshown := Window.ofLayout_has hrc
  exact ⟨hshown ▸ hspans, fun hd => (hx.whole hd).trans hshown⟩

/-! ### What is assumed of the library -/

/-- Memory at the places where elements are stored, in every live state of the library: it holds
what was put into it, and storing one element changes no other. -/
structure NativeLibrary.Remembers (Mapped : ElementKind → Int → Prop) (Live : σ → Prop) : Prop where
  /-- Storing keeps the library alive. -/
  live : ∀ s, Live s → ∀ kind a, Mapped kind a → ∀ value, Live (library.store kind a value s)
  /-- The value that was stored is there. -/
  same : ∀ s, Live s → ∀ kind a, Mapped kind a → ∀ value,
    library.load kind a (library.store kind a value s) = value
  /-- What does not overlap is as before. -/
  other : ∀ s, Live s → ∀ kind a, Mapped kind a → ∀ value other b, Mapped other b →
    Apart kind a other b →
      library.load other b (library.store kind a value s) = library.load other b s

/-- Memory of cells for elements of one kind remembers, wherever they are. -/
theorem NativeLibrary.Remembers.of_cells {library : NativeLibrary σ} {kind : ElementKind}
    {Place : Int → Prop}
    (hsame : ∀ s a value, library.load kind a (library.store kind a value s) = value)
    (hother : ∀ s a value b, b ≠ a →
      library.load kind b (library.store kind a value s) = library.load kind b s) :
    library.Remembers (fun k a => k = kind ∧ Place a) fun _ => True where
  live _ _ _ _ _ _ := trivial
  same := by
    rintro s - k a ⟨rfl, -⟩ value
    exact hsame s a value
  other := by
    rintro s - k a ⟨rfl, -⟩ value other b ⟨rfl, -⟩ hapart
    refine hother s a value b fun he => ?_
    have hsize := other.size_ne_zero
    rw [he, Apart] at hapart
    omega

/-- The accessors of a matrix reach its elements where its layout says, in every live state of the
library and without an error. -/
structure Accesses (matrix : NativeMatrix) (kind : ElementKind) (layout : NativeLayout)
    (Mapped : ElementKind → Int → Prop) (Live : σ → Prop) : Prop where
  /-- The elements are in memory. -/
  mapped : ∀ a, layout.window.Spans kind a → Mapped kind a
  /-- Both accessors can be called. -/
  serves : matrix.Serves .get ∧ matrix.Serves .set
  /-- An error handle is handed out. -/
  handed : ∀ s, Live s → (library.newErrorHandle s).1 ≠ none
  /-- Reading an element answers what is in memory. -/
  get : ∀ s, Live s → ∀ handle t, library.newErrorHandle s = (some handle, t) →
    ∀ row < layout.rows, ∀ col < layout.cols,
      let answer := library.get matrix.family kind matrix.pointer row col handle t
      (library.errorState answer.2 handle).code = 0 ∧
        answer.1 = library.load kind (layout.addressOf kind row col) s
  /-- Storing an element does to memory what a store at its address does. -/
  set : ∀ s, Live s → ∀ handle t, library.newErrorHandle s = (some handle, t) →
    ∀ row < layout.rows, ∀ col < layout.cols, ∀ value,
      let changed := library.set matrix.family kind matrix.pointer row col value handle t
      let after := library.freeErrorHandle handle changed
      (library.errorState changed handle).code = 0 ∧ Live after ∧
        ∀ other b, Mapped other b → library.load other b after =
          library.load other b (library.store kind (layout.addressOf kind row col) value s)

namespace Accesses

variable {library} {matrix : NativeMatrix} {kind : ElementKind} {layout : NativeLayout}
  {Mapped : ElementKind → Int → Prop} {Live : σ → Prop} {s : Session σ} {row col : Nat}

theorem readElement (ha : Accesses library matrix kind layout Mapped Live) (hs : Live s.native)
    (hr : row < layout.rows) (hc : col < layout.cols) :
    (matrix.readElement library kind row col s).1 =
      .ok (library.load kind (layout.addressOf kind row col) s.native) :=
  NativeMatrix.readElement_ok ha.serves.1 (ha.handed s.native hs)
    fun handle t hh => ha.get s.native hs handle t hh row hr col hc

theorem writeElement (ha : Accesses library matrix kind layout Mapped Live) (hs : Live s.native)
    (hr : row < layout.rows) (hc : col < layout.cols) (value : Element kind) :
    ∃ t, matrix.writeElement library kind row col value s = (.ok (), t) ∧ Live t.native ∧
      ∀ other b, Mapped other b → library.load other b t.native = library.load other b
        (library.store kind (layout.addressOf kind row col) value s.native) :=
  NativeMatrix.writeElement_ok ha.serves.2 (ha.handed s.native hs)
    (P := fun t => Live t ∧ ∀ other b, Mapped other b → library.load other b t =
      library.load other b (library.store kind (layout.addressOf kind row col) value s.native))
    fun handle t hh => ha.set s.native hs handle t hh row hr col hc value

end Accesses

/-! ### Elements of a view -/

namespace ViewAction

variable {library} {view : View} {matrix : NativeMatrix} {layout : NativeLayout}
  {Mapped : ElementKind → Int → Prop} {Live : σ → Prop} {w : Workspace σ} {i j : Int}

/-- Indices of an acquired view are those of the matrix itself. -/
theorem acquired_indices (hwindow : view.window = layout.window)
    (hi : Inside view.window.extents i j) : ∃ row col : Nat, i = row ∧ j = col ∧
      row < layout.rows ∧ col < layout.cols := by
  rw [hwindow] at hi
  obtain ⟨⟨hr, hr'⟩, hc, hc'⟩ := hi
  obtain ⟨row, rfl⟩ := Int.eq_ofNat_of_zero_le hr
  obtain ⟨col, rfl⟩ := Int.eq_ofNat_of_zero_le hc
  exact ⟨row, col, rfl, rfl, Int.ofNat_lt.mp hr', Int.ofNat_lt.mp hc'⟩

/-- A view reads what is in memory at its own places. -/
theorem getElement_places (hm : view.handle.bind w.matrices = some matrix)
    (ha : Accesses library matrix view.kind layout Mapped Live)
    (hx : Inherits view layout) (hlive : Live w.session.native)
    (hi : Inside view.window.extents i j) :
    (getElement library view i j w).1 = .ok (library.load view.kind
      (view.window.addressOf view.kind i.toNat j.toNat) w.session.native) := by
  unfold getElement
  rw [access_inside hm hi]
  cases hd : view.derived with
  | true => rfl
  | false =>
    have hwindow := (hx.place hi).2 hd
    obtain ⟨row, col, rfl, rfl, hr, hc⟩ := acquired_indices hwindow hi
    rw [hwindow]
    exact ha.readElement hlive hr hc

/-- Storing through a view does to memory what a store at its own place does. -/
theorem setElement_places (hm : view.handle.bind w.matrices = some matrix)
    (ha : Accesses library matrix view.kind layout Mapped Live)
    (hx : Inherits view layout) (hr : library.Remembers Mapped Live)
    (hlive : Live w.session.native) (hi : Inside view.window.extents i j)
    (value : Element view.kind) :
    ∃ session, setElement library view i j value w = (.ok (), { w with session }) ∧
      Live session.native ∧
      ∀ other b, Mapped other b → library.load other b session.native = library.load other b
        (library.store view.kind (view.window.addressOf view.kind i.toNat j.toNat) value
          w.session.native) := by
  obtain ⟨hspans, hwindow⟩ := hx.place hi
  unfold setElement
  rw [access_inside hm hi]
  cases hd : view.derived with
  | true =>
    exact ⟨_, rfl, hr.live _ hlive _ _ (ha.mapped _ hspans) value, fun _ _ _ => rfl⟩
  | false =>
    obtain ⟨row, col, rfl, rfl, hrow, hcol⟩ := acquired_indices (hwindow hd) hi
    obtain ⟨t, ht, hlive', hmemory⟩ := ha.writeElement hlive hrow hcol value
    refine ⟨t, ?_, hlive', ?_⟩
    · dsimp only
      rw [if_neg Bool.false_ne_true, native, ht]
    · rw [hwindow hd]
      exact hmemory

end ViewAction

/-! ### Histories -/

namespace History

variable {h : History σ} {Mapped : ElementKind → Int → Prop} {Live : σ → Prop}

/-- The matrices behind the views of a history: their accessors and memory agree, each keeps to
one layout, and they do not overlap. -/
structure Coherent (h : History σ) (Mapped : ElementKind → Int → Prop) (Live : σ → Prop) :
    Prop where
  /-- The library is alive. -/
  live : Live h.workspace.session.native
  /-- Memory remembers. -/
  remembers : library.Remembers Mapped Live
  /-- The accessors reach the places that the layouts name. -/
  accesses : ∀ view matrix layout, Rests h view matrix layout →
    Accesses library matrix view.kind layout Mapped Live
  /-- A matrix reports the same layout whenever it is acquired. -/
  constant : ∀ x m k, Rests h x m k → ∀ y n l, Rests h y n l → m.pointer = n.pointer → k = l
  /-- Distinct matrices do not overlap. -/
  apart : ∀ x m k, Rests h x m k → ∀ y n l, Rests h y n l → m.pointer ≠ n.pointer →
    ∀ a, k.window.Spans x.kind a → ∀ b, l.window.Spans y.kind b → Apart x.kind a y.kind b

section Storing

variable {library} {x y : View} {m n : NativeMatrix} {k l : NativeLayout} {session : Session σ}

/-- The element of a view is at a place in memory, within the window of its matrix. -/
theorem Coherent.place (hc : h.Coherent library Mapped Live) (hr : h.Reachable library)
    (hx : Rests h x m k) {i j : Int} (hi : Inside x.window.extents i j) :
    Mapped x.kind (x.window.addressOf x.kind i.toNat j.toNat) ∧
      k.window.Spans x.kind (x.window.addressOf x.kind i.toNat j.toNat) := by
  have ha := hc.accesses x m k hx
  obtain ⟨hspans, -⟩ := ((hr.lineage library).inherits hx).place hi
  exact ⟨ha.mapped _ hspans, hspans⟩

/-- In a session whose library is alive, views read what is in memory. -/
theorem Coherent.reads (hc : h.Coherent library Mapped Live) (hr : h.Reachable library)
    (hx : Rests h x m k) (hlive : Live session.native) {i j : Int}
    (hi : Inside x.window.extents i j) :
    (ViewAction.getElement library x i j { h.workspace with session }).1 =
      .ok (library.load x.kind (x.window.addressOf x.kind i.toNat j.toNat) session.native) :=
  ViewAction.getElement_places (hx.held library hr) (hc.accesses x m k hx)
    ((hr.lineage library).inherits hx) hlive hi

end Storing

/-- Storing an element through one view of a matrix shows through every other view of it at the
elements with the same address, and nowhere else: no other element of the matrix, no element of
another matrix and no view changes. -/
theorem write_shared {library : NativeLibrary σ} (hr : h.Reachable library)
    (hc : h.Coherent library Mapped Live) {v w : View} {m n : NativeMatrix} {k l : NativeLayout}
    (hv : Rests h v m k) (hw : Rests h w n l) (hmatrix : m.pointer = n.pointer)
    (hkind : w.kind = v.kind) {i j : Int} (hi : Inside v.window.extents i j)
    (value : Element v.kind) :
    let place := v.window.addressOf v.kind i.toNat j.toNat
    ∃ session, ViewAction.setElement library v i j value h.workspace =
        (.ok (), { h.workspace with session }) ∧
      (∀ row col, Inside w.window.extents row col →
        (ViewAction.getElement library w row col { h.workspace with session }).1 =
          if w.window.addressOf w.kind row.toNat col.toNat = place then .ok (hkind ▸ value)
          else (ViewAction.getElement library w row col h.workspace).1) ∧
      (∀ y o q, Rests h y o q → m.pointer ≠ o.pointer → ∀ row col,
        Inside y.window.extents row col →
        (ViewAction.getElement library y row col { h.workspace with session }).1 =
          (ViewAction.getElement library y row col h.workspace).1) ∧
      ∀ other b, Mapped other b → Apart v.kind place other b →
        library.load other b session.native = library.load other b h.workspace.session.native := by
  intro place
  obtain ⟨hmapped, hspans⟩ := hc.place hr hv hi
  obtain ⟨session, hset, hlive, hmemory⟩ := ViewAction.setElement_places
    (hv.held library hr) (hc.accesses v m k hv)
    ((hr.lineage library).inherits hv) hc.remembers hc.live hi value
  -- Memory after the store, as far as the reads below look at it.
  have hother : ∀ other b, Mapped other b → Apart v.kind place other b →
      library.load other b session.native =
        library.load other b h.workspace.session.native := fun other b hb hapart =>
    (hmemory other b hb).trans (hc.remembers.other _ hc.live _ _ hmapped value other b hb hapart)
  have hsame : library.load v.kind place session.native = value :=
    (hmemory _ _ hmapped).trans (hc.remembers.same _ hc.live _ _ hmapped value)
  refine ⟨session, hset, fun row col hinside => ?_, fun y o q hy hne row col hinside => ?_,
    hother⟩
  · obtain ⟨hb, hbspans⟩ := hc.place hr hw hinside
    have hbefore := hc.reads hr hw hc.live hinside
    have hafter := hc.reads hr hw hlive hinside
    rw [hafter, hbefore]
    split_ifs with haddress
    · rw [haddress, NativeLibrary.load_cast hkind, hsame]
    · cases hc.constant v m k hv w n l hw hmatrix
      refine congrArg Except.ok (hother _ _ hb ?_)
      rw [hkind] at hbspans haddress ⊢
      exact hspans.apart hbspans (Ne.symm haddress)
  · obtain ⟨hb, hbspans⟩ := hc.place hr hy hinside
    have hapart := hc.apart v m k hv y o q hy hne _ hspans _ hbspans
    have hbefore := hc.reads hr hy hc.live hinside
    have hafter := hc.reads hr hy hlive hinside
    rw [hafter, hbefore, hother _ _ hb hapart]

/-- A library whose matrices have two rows and two columns, the last row first in memory, and lie
one behind the other. Its state is the number of the next one and what is in memory. -/
def desk : NativeLibrary (Nat × (Int → Element .double)) where
  newErrorHandle s := (some ⟨0⟩, s)
  freeErrorHandle _ s := s
  errorState _ _ := {}
  newSized _ _ _ s := (some ⟨s.1⟩, s.1 + 1, s.2)
  destroy _ _ _ s := s
  get _ kind pointer row col _ s :=
    (board.load kind (start pointer + (row * -2 + col * 1) * kind.size) s.2, s)
  set _ kind pointer row col value _ s :=
    (s.1, board.store kind (start pointer + (row * -2 + col * 1) * kind.size) value s.2)
  measure _ which _ _ s :=
    (match which with | .rows | .cols => 2 | .rowStride => -2 | .colStride => 1, s)
  data _ pointer _ s := (start pointer, s)
  load kind address s := board.load kind address s.2
  store kind address value s := (s.1, board.store kind address value s.2)
where
  /-- Address of the first element of a matrix. -/
  start (pointer : MatrixPointer) : Int := 24 + 32 * pointer.number

/-- Layout that a matrix of the desk reports. -/
def deskLayout (pointer : MatrixPointer) : NativeLayout := ⟨2, 2, -2, 1, desk.start pointer⟩

/-- Memory of the desk holds doubles at multiples of their size. -/
theorem desk_remembers :
    desk.Remembers (fun kind a => kind = .double ∧ a % 8 = 0) fun _ => True :=
  .of_cells (fun _ _ _ => if_pos rfl) fun _ _ _ _ hne => if_neg hne

/-- A matrix of the desk spans four places. -/
theorem deskLayout_spans {pointer : MatrixPointer} {a : Int}
    (h : (deskLayout pointer).window.Spans .double a) :
    ∃ k, a = desk.start pointer + k * 8 ∧ -2 ≤ k ∧ k ≤ 1 := by
  obtain ⟨k, rfl, ⟨i, j, hij, hlow⟩, i', j', hij', hhigh⟩ := h
  obtain ⟨hi, hj⟩ : i < 2 ∧ j < 2 := hij
  obtain ⟨hi', hj'⟩ : i' < 2 ∧ j' < 2 := hij'
  change (i : Int) * -2 + j * 1 ≤ k at hlow
  change k ≤ (i' : Int) * -2 + j' * 1 at hhigh
  exact ⟨k, rfl, by omega, by omega⟩

/-- The accessors of the desk reach the places that its layouts name. -/
theorem desk_accesses {matrix : NativeMatrix} (hget : matrix.Serves .get)
    (hset : matrix.Serves .set) :
    Accesses desk matrix .double (deskLayout matrix.pointer)
      (fun kind a => kind = .double ∧ a % 8 = 0) fun _ => True where
  mapped := by
    intro a ha
    obtain ⟨k, rfl, -⟩ := deskLayout_spans ha
    refine ⟨rfl, ?_⟩
    unfold desk.start
    omega
  serves := ⟨hget, hset⟩
  handed _ _ := nofun
  get := by
    intro s _ handle t ht row _ col _
    cases ht
    exact ⟨rfl, rfl⟩
  set := by
    intro s _ handle t ht row _ col _ value
    cases ht
    exact ⟨rfl, trivial, fun _ _ _ => rfl⟩

/-- Places of distinct matrices of the desk do not overlap. -/
theorem desk_apart {one other : MatrixPointer} (hne : one ≠ other) {a b : Int}
    (ha : (deskLayout one).window.Spans .double a)
    (hb : (deskLayout other).window.Spans .double b) : Apart .double a .double b := by
  have hnumber : one.number ≠ other.number := fun he => hne (congrArg MatrixPointer.mk he)
  obtain ⟨k, rfl, hk⟩ := deskLayout_spans ha
  obtain ⟨l, rfl, hl⟩ := deskLayout_spans hb
  unfold Apart desk.start
  dsimp only [ElementKind.size]
  omega

/-- A desk holds two matrices. The first is adopted again under its view, and from the second view
of it a view is derived from the lowest address on, column by column. What is stored there shows in
the first view, and neither elsewhere in it nor in the other matrix. -/
theorem write_shared_reversed :
    let h := (History.start (0, fun _ => default)).run desk
      [.create (shelfBinder {}) .double (.fixed 2 2 .double),
        .bind (shelfBinder {})
          { rows := 2, cols := 2, existing := some (some ⟨0⟩), owns := some false } (some 1),
        .create (shelfBinder {}) .double (.fixed 2 2 .double),
        .derive 2 fun _ => ⟨8, ⟨2, 1⟩, ⟨2, 2⟩⟩]
    let first : View := ⟨1, .fixed 2 2 .double, some 0, none, true, none, false, (2, 2),
      ⟨24, ⟨2, -2⟩, ⟨2, 1⟩⟩⟩
    let second : View := ⟨2, .fixed 2 2 .double, some 1, some 0, false, some 1, false, (2, 2),
      ⟨24, ⟨2, -2⟩, ⟨2, 1⟩⟩⟩
    let other : View := ⟨3, .fixed 2 2 .double, some 2, none, true, none, false, (2, 2),
      ⟨56, ⟨2, -2⟩, ⟨2, 1⟩⟩⟩
    let last : View := ⟨4, .fixed 2 2 .double, some 1, some 0, false, some 1, true, (2, 2),
      ⟨8, ⟨2, 1⟩, ⟨2, 2⟩⟩⟩
    let one : Element .double := .ofMagnitude .double false 1
    let after := (ViewAction.setElement desk last 1 0 one h.workspace).2
    h.workspace.views = [first, second, other, last] ∧
      (ViewAction.getElement desk first 1 1 after).1 = .ok one ∧
      (ViewAction.getElement desk first 0 1 after).1 =
        (ViewAction.getElement desk first 0 1 h.workspace).1 ∧
      (ViewAction.getElement desk other 1 1 after).1 =
        (ViewAction.getElement desk other 1 1 h.workspace).1 := by
  intro h first second other last one after
  let matrix (number : Nat) (owned : Bool) : NativeMatrix :=
    ⟨⟨number⟩, owned, (Shape.fixed 2 2 .double).family, (shelfBinder {}).source⟩
  have hr : h.Reachable desk := ⟨_, _, rfl⟩
  have hall : ∀ x ∈ h.workspace.views, ∀ e ∈ h.acquired, e.number = x.handle →
      x.kind = .double ∧ e.layout = some (deskLayout e.matrix.pointer) ∧
        ∀ symbol ∈ [e.matrix.symbol .get, e.matrix.symbol .set, errorHandleNew,
          errorHandleDestroy], e.matrix.source.resolves symbol = true := by
    decide +kernel
  have hrests : ∀ x m k, Rests h x m k →
      x.kind = .double ∧ k = deskLayout m.pointer ∧ m.Serves .get ∧ m.Serves .set := by
    intro x m k hx
    obtain ⟨e, he, hn, -, rfl, hl⟩ := hx.reported
    obtain ⟨hkind, hlayout, hresolves⟩ := hall x hx.mem e he hn
    obtain ⟨hget, hset, hnew, hdestroy⟩ : _ ∧ _ ∧ _ ∧ _ := by simpa using hresolves
    exact ⟨hkind, Option.some.inj (hl.symm.trans hlayout), ⟨hget, hnew, hdestroy⟩,
      hset, hnew, hdestroy⟩
  have hc : h.Coherent desk (fun kind a => kind = .double ∧ a % 8 = 0) fun _ => True := by
    refine ⟨trivial, desk_remembers, fun x m k hx => ?_, fun x m k hx y n l hy he => ?_,
      fun x m k hx y n l hy hne a ha b hb => ?_⟩
    · obtain ⟨hkind, rfl, hget, hset⟩ := hrests x m k hx
      rw [hkind]
      exact desk_accesses hget hset
    · rw [(hrests x m k hx).2.1, (hrests y n l hy).2.1, he]
    · obtain ⟨hkind, rfl, -⟩ := hrests x m k hx
      obtain ⟨hother, rfl, -⟩ := hrests y n l hy
      rw [hkind] at ha ⊢
      rw [hother] at hb ⊢
      exact desk_apart hne ha hb
  have hviews : h.workspace.views = [first, second, other, last] := by
    decide +kernel
  have hmem : first ∈ h.workspace.views ∧ other ∈ h.workspace.views ∧ last ∈ h.workspace.views := by
    rw [hviews]
    simp
  have hfirst : Rests h first (matrix 0 true) (deskLayout ⟨0⟩) :=
    ⟨hmem.1, _, List.mem_cons_of_mem _ (List.mem_cons_of_mem _ List.mem_cons_self), rfl, rfl, rfl,
      rfl⟩
  have hlast : Rests h last (matrix 0 false) (deskLayout ⟨0⟩) :=
    ⟨hmem.2.2, _, List.mem_cons_of_mem _ List.mem_cons_self, rfl, rfl, rfl, rfl⟩
  have hother : Rests h other (matrix 1 true) (deskLayout ⟨1⟩) :=
    ⟨hmem.2.1, _, List.mem_cons_self, rfl, rfl, rfl, rfl⟩
  obtain ⟨session, hset, hshared, hothers, -⟩ := write_shared hr hc hlast hfirst rfl rfl
    (by decide : Inside last.window.extents 1 0) one
  have hafter : after = { h.workspace with session } := congrArg Prod.snd hset
  rw [hafter]
  refine ⟨hviews, ?_, ?_, ?_⟩
  · exact (hshared 1 1 (by decide)).trans (if_pos (by decide))
  · exact (hshared 0 1 (by decide)).trans (if_neg (by decide))
  · exact hothers other _ _ hother (by decide) 1 1 (by decide)

end History

end ForeignMatrix
