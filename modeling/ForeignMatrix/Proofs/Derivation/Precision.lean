import ForeignMatrix.Proofs.Derivation.Sharing
import ForeignMatrix.Proofs.Element.Narrowing

/-!
# Elements exchanged as doubles

Callers read and write elements of any kind as doubles. A double that was read is
written back without a change to what is stored, also where it is a zero with a
sign, a subnormal value or an infinity. A number that is written is stored as the
nearest element of the kind, and that one is read. So two numbers that were
written do not change their order, though they may become equal. Accessors and
memory are assumed to agree, as for views that share a matrix, and nothing is said
about patterns that are not numbers.
-/

namespace ForeignMatrix

open Actions Element

variable {σ : Type}

namespace ViewAction

/-- What memory holds where a view has an element. -/
def stored (library : NativeLibrary σ) (view : View) (i j : Int) (session : Session σ) :
    Element view.kind :=
  library.load view.kind (view.window.addressOf view.kind i.toNat j.toNat) session.native

/-- How the elements of a view are exchanged as doubles, from a given state on. -/
structure Exchanges (library : NativeLibrary σ) (Mapped : ElementKind → Int → Prop) (view : View)
    (w : Workspace σ) : Prop where
  /-- Reading answers the double for what is stored. -/
  reads : ∀ i j, Inside view.window.extents i j →
    (read library view i j w).1 = .ok (widen (stored library view i j w.session))
  /-- Writing back what was read changes neither the stored pattern nor what lies apart from it. -/
  restores : ∀ i j, Inside view.window.extents i j →
    (stored library view i j w.session).isNaN = false →
    ∀ x, (read library view i j w).1 = .ok x →
      ∃ session, write library view i j x w = (.ok (), { w with session }) ∧
        stored library view i j session = stored library view i j w.session ∧
        ∀ other b, Mapped other b →
          Apart view.kind (view.window.addressOf view.kind i.toNat j.toNat) other b →
            library.load other b session.native = library.load other b w.session.native
  /-- A number is stored as the nearest element, which is what is read then. -/
  rounds : ∀ i j, Inside view.window.extents i j → ∀ x : Binary .double, x.isNaN = false →
    ∃ session, write library view i j x w = (.ok (), { w with session }) ∧
      stored library view i j session = narrow view.kind x ∧
      x.IsNearest (stored library view i j session) ∧
      (read library view i j { w with session }).1 = .ok (widen (narrow view.kind x))
  /-- Two numbers written to different places are read in the order that they had. -/
  orders : ∀ i j, Inside view.window.extents i j → ∀ k l, Inside view.window.extents k l →
    view.window.addressOf view.kind i.toNat j.toNat ≠
      view.window.addressOf view.kind k.toNat l.toNat →
    ∀ x y : Binary .double, x.isNaN = false → y.isNaN = false → x.value ≤ y.value →
      ∃ one both u v, write library view i j x w = (.ok (), { w with session := one }) ∧
        write library view k l y { w with session := one } = (.ok (), { w with session := both }) ∧
        (read library view i j { w with session := both }).1 = .ok u ∧
        (read library view k l { w with session := both }).1 = .ok v ∧ u.value ≤ v.value

section Places

variable {library : NativeLibrary σ} {view : View} {matrix : NativeMatrix} {layout : NativeLayout}
  {Mapped : ElementKind → Int → Prop} {Live : σ → Prop} {w : Workspace σ} {i j : Int}

/-- An element is read as the double with its value. -/
theorem read_places (hm : view.handle.bind w.matrices = some matrix)
    (ha : Accesses library matrix view.kind layout Mapped Live) (hx : Inherits view layout)
    (hlive : Live w.session.native) (hi : Inside view.window.extents i j) :
    (read library view i j w).1 = .ok (widen (stored library view i j w.session)) := by
  have hget := getElement_places hm ha hx hlive hi
  unfold read
  rw [bind_apply]
  rcases hr : getElement library view i j w with ⟨result, after⟩
  rw [hr] at hget
  subst hget
  rfl

/-- A double is stored narrowed, and what lies apart is as before. -/
theorem write_places (hm : view.handle.bind w.matrices = some matrix)
    (ha : Accesses library matrix view.kind layout Mapped Live)
    (hx : Inherits view layout) (hr : library.Remembers Mapped Live)
    (hlive : Live w.session.native) (hi : Inside view.window.extents i j) (x : Binary .double) :
    ∃ session, write library view i j x w = (.ok (), { w with session }) ∧
      Live session.native ∧ stored library view i j session = narrow view.kind x ∧
      ∀ other b, Mapped other b →
        Apart view.kind (view.window.addressOf view.kind i.toNat j.toNat) other b →
          library.load other b session.native = library.load other b w.session.native := by
  have hmapped := ha.mapped _ (hx.place hi).1
  obtain ⟨session, hset, hlive', hmemory⟩ :=
    setElement_places hm ha hx hr hlive hi (narrow view.kind x)
  refine ⟨session, hset, hlive', ?_, fun other b hb hapart => ?_⟩
  · exact (hmemory _ _ hmapped).trans (hr.same _ hlive _ _ hmapped _)
  · exact (hmemory _ _ hb).trans (hr.other _ hlive _ _ hmapped _ _ _ hb hapart)

/-- Elements are exchanged as doubles through any view whose accessors and memory agree. -/
theorem exchanges (hm : view.handle.bind w.matrices = some matrix)
    (ha : Accesses library matrix view.kind layout Mapped Live)
    (hx : Inherits view layout) (hr : library.Remembers Mapped Live)
    (hlive : Live w.session.native) : Exchanges library Mapped view w where
  reads i j hi := read_places hm ha hx hlive hi
  restores i j hi hnumber x hread := by
    rw [read_places hm ha hx hlive hi] at hread
    cases hread
    obtain ⟨session, hwrite, -, hstored, hapart⟩ := write_places hm ha hx hr hlive hi
      (widen (stored library view i j w.session))
    exact ⟨session, hwrite, hstored.trans (narrow_widen hnumber), hapart⟩
  rounds i j hi x hnumber := by
    obtain ⟨session, hwrite, hlive', hstored, -⟩ := write_places hm ha hx hr hlive hi x
    have hread := read_places (w := { w with session }) hm ha hx hlive' hi
    refine ⟨session, hwrite, hstored, (isNearest_iff_narrow hnumber).mpr hstored, ?_⟩
    rw [hread, hstored]
  orders i j hi k l hk hne x y hxnumber hynumber hle := by
    obtain ⟨one, hone, hlive', hx', -⟩ := write_places hm ha hx hr hlive hi x
    obtain ⟨both, hboth, hlive'', hy', hapart⟩ :=
      write_places (w := { w with session := one }) hm ha hx hr hlive' hk y
    have hi' := (hx.place hi).1
    have hk' := (hx.place hk).1
    -- The second store leaves the first place alone.
    have hkept : stored library view i j both = narrow view.kind x :=
      (hapart _ _ (ha.mapped _ hi') (hk'.apart hi' hne.symm)).trans hx'
    have hfirst := read_places (w := { w with session := both }) hm ha hx hlive'' hi
    have hsecond := read_places (w := { w with session := both }) hm ha hx hlive'' hk
    refine ⟨one, both, _, _, hone, hboth, hfirst, hsecond, ?_⟩
    change (widen (stored library view i j both)).value ≤ (widen (stored library view k l both)).value
    rw [hkept, hy']
    exact narrow_monotone hxnumber hynumber hle

end Places

end ViewAction

namespace History

/-- Elements keep their precision. Widening and narrowing an element gives back its pattern,
narrowing a double takes the nearest element, and does not reverse the order of two doubles. From
any reachable state on, elements of a view that is not finalized are read and written like that. -/
theorem precision_kept :
    (∀ kind (y : Element kind), y.isNaN = false → narrow kind (widen y) = y) ∧
    (∀ kind (x : Binary .double), x.isNaN = false →
      ∀ y : Element kind, x.IsNearest y ↔ y = narrow kind x) ∧
    (∀ kind (x y : Binary .double), x.isNaN = false → y.isNaN = false → x.value ≤ y.value →
      (widen (narrow kind x)).value ≤ (widen (narrow kind y)).value) ∧
    ∀ (σ : Type) (library : NativeLibrary σ) (h : History σ) (Mapped : ElementKind → Int → Prop)
      (Live : σ → Prop) (view : View) (matrix : NativeMatrix) (layout : NativeLayout),
      h.Reachable library → Rests h view matrix layout →
      Accesses library matrix view.kind layout Mapped Live → library.Remembers Mapped Live →
      Live h.workspace.session.native →
        ViewAction.Exchanges library Mapped view h.workspace := by
  refine ⟨fun kind y => narrow_widen, fun kind x hx y => isNearest_iff_narrow hx,
    fun kind x y => narrow_monotone, ?_⟩
  intro σ library h Mapped Live view matrix layout hr hv ha hremembers hlive
  have hm := hv.held library hr
  exact ViewAction.exchanges hm ha ((hr.lineage library).inherits hv) hremembers hlive

/-- A library with a matrix of one row and two columns in single precision. Its state is what is in
memory. -/
def slate : NativeLibrary (Int → Element .single) where
  newErrorHandle s := (some ⟨0⟩, s)
  freeErrorHandle _ s := s
  errorState _ _ := {}
  newSized _ _ _ s := (some ⟨0⟩, s)
  destroy _ _ _ s := s
  get _ kind _ row col _ s := (peek kind (16 + (row * 2 + col * 1) * kind.size) s, s)
  set _ kind _ row col value _ s := poke kind (16 + (row * 2 + col * 1) * kind.size) value s
  measure _ which _ _ s :=
    (match which with | .rows => 1 | .cols => 2 | .rowStride => 2 | .colStride => 1, s)
  data _ _ _ s := (16, s)
  load := peek
  store := poke
where
  /-- Memory holds single precision only. -/
  peek : (kind : ElementKind) → Int → (Int → Element .single) → Element kind
    | .single, address, s => s address
    | .double, _, _ => default
  /-- One element is replaced. -/
  poke : (kind : ElementKind) → Int → Element kind → (Int → Element .single) → Int → Element .single
    | .single, address, value, s => fun other => if other = address then value else s other
    | .double, _, _, s => s

/-- Memory of the slate holds elements at multiples of their size. -/
theorem slate_remembers :
    slate.Remembers (fun kind a => kind = .single ∧ a % 4 = 0) fun _ => True :=
  .of_cells (fun _ _ _ => if_pos rfl) fun _ _ _ _ hne => if_neg hne

/-- The accessors of the slate reach the places that its layout names. -/
theorem slate_accesses {matrix : NativeMatrix} (hget : matrix.Serves .get)
    (hset : matrix.Serves .set) :
    Accesses slate matrix .single ⟨1, 2, 2, 1, 16⟩ (fun kind a => kind = .single ∧ a % 4 = 0)
      fun _ => True where
  mapped := by
    intro a ha
    obtain ⟨k, rfl, -⟩ := ha
    refine ⟨rfl, ?_⟩
    change (16 + k * 4) % 4 = 0
    omega
  serves := ⟨hget, hset⟩
  handed _ _ := nofun
  get := by
    intro s _ handle t ht row _ col _
    cases ht
    exact ⟨rfl, rfl⟩
  set := by
    intro s _ handle t ht row _ col _ value
    cases ht
    exact ⟨rfl, trivial, fun _ _ _ => rfl⟩

/-- A negative zero is written back as it was read. Half a step above one is stored as one, and half
a step below the lowest finite value as negative infinity. -/
theorem precision_kept_single :
    let h := (start fun _ => .ofMagnitude .single true 0).run slate
      [.create (shelfBinder {}) .single (.fixed 1 2 .single)]
    let view : View := ⟨1, .fixed 1 2 .single, some 0, none, true, none, false, (1, 2),
      ⟨16, ⟨1, 2⟩, ⟨2, 1⟩⟩⟩
    let w := h.workspace
    view ∈ w.views ∧
      (∃ session, ViewAction.write slate view 0 0 (.ofMagnitude .double true 0) w =
          (.ok (), { w with session }) ∧ session.native 16 = .ofMagnitude .single true 0) ∧
      (∃ session, ViewAction.write slate view 0 1 (.ofBits .double 0x3FF0000010000000) w =
          (.ok (), { w with session }) ∧ session.native 20 = .ofBits _ 0x3F800000 ∧
        (ViewAction.read slate view 0 1 { w with session }).1 =
          .ok (.ofBits .double 0x3FF0000000000000)) ∧
      ∃ session, ViewAction.write slate view 0 1 (.ofBits .double 0xC7EFFFFFF0000000) w =
          (.ok (), { w with session }) ∧ session.native 20 = .ofBits _ 0xFF800000 := by
  intro h view w
  let matrix : NativeMatrix :=
    ⟨⟨0⟩, true, (Shape.fixed 1 2 .single).family, (shelfBinder {}).source⟩
  have hmem : view ∈ w.views := by decide +kernel
  have hr : h.Reachable slate := ⟨_, _, rfl⟩
  have hv : Rests h view matrix ⟨1, 2, 2, 1, 16⟩ :=
    ⟨hmem, _, List.mem_cons_self, rfl, rfl, rfl, rfl⟩
  have hserves : matrix.Serves .get ∧ matrix.Serves .set := ⟨⟨rfl, rfl, rfl⟩, rfl, rfl, rfl⟩
  have hexchanges := precision_kept.2.2.2 _ slate h _ _ view matrix _ hr hv
    (slate_accesses hserves.1 hserves.2) slate_remembers trivial
  have hfirst : Inside view.window.extents 0 0 := by decide
  have hlast : Inside view.window.extents 0 1 := by decide
  have hread : (ViewAction.read slate view 0 0 w).1 = .ok (.ofMagnitude .double true 0) :=
    (hexchanges.reads 0 0 hfirst).trans (by decide +kernel)
  obtain ⟨zeros, hzero, hkept, -⟩ := hexchanges.restores 0 0 hfirst (by decide +kernel) _ hread
  obtain ⟨ones, hone, hstored, -, hrounded⟩ :=
    hexchanges.rounds 0 1 hlast (.ofBits .double 0x3FF0000010000000) (by decide +kernel)
  obtain ⟨most, hmost, hinfinite, -⟩ :=
    hexchanges.rounds 0 1 hlast (.ofBits .double 0xC7EFFFFFF0000000) (by decide +kernel)
  have htie : narrow .single (.ofBits .double 0x3FF0000010000000) = .ofBits _ 0x3F800000 := by
    decide +kernel
  have hwide : widen (.ofBits _ 0x3F800000 : Element .single) =
      .ofBits .double 0x3FF0000000000000 := by
    decide +kernel
  have hbelow : narrow .single (.ofBits .double 0xC7EFFFFFF0000000) =
      .ofBits _ 0xFF800000 := by
    decide +kernel
  exact ⟨hmem, ⟨zeros, hzero, hkept⟩,
    ⟨ones, hone, hstored.trans htie, hrounded.trans (congrArg Except.ok (htie ▸ hwide))⟩,
    most, hmost, hinfinite.trans hbelow⟩

end History

end ForeignMatrix
