import ForeignMatrix.Proofs.Ownership.Lifetime

/-!
# Histories

The public operations on views, with views named by their identities, and the
history of a run of them: the workspace it has come to and every matrix that
was acquired on the way, also those of which no view was made. A run may begin
in any state of the library, and code outside may change that state between
any two operations. `Effect` lists all that one operation can do to a tidy
workspace; what a run preserves follows from it case by case.
-/

namespace ForeignMatrix

open Actions

variable {σ : Type} (library : NativeLibrary σ)

/-- A public operation on views. -/
inductive Operation (σ : Type) where
  /-- Constructs a matrix and a view that owns it. -/
  | create (binder : Binder) (kind : ElementKind) (shape : Shape)
  /-- Adopts a matrix. -/
  | adopt (binder : Binder) (kind : ElementKind) (shape : Shape) (pointer : MatrixPointer)
      (owns : Bool)
  /-- Constructs or adopts a matrix on request, under a parent if one is named. -/
  | bind (binder : Binder) (request : ViewRequest) (parent : Option Nat)
  /-- Derives a view through a transformation. -/
  | derive (view : Nat) (transform : Window → Window)
  /-- As `derive`, for a caller that expects a view of one element kind. -/
  | deriveAs (kind : ElementKind) (view : Nat) (transform : Window → Window)
  /-- Derives a rectangle. -/
  | slice (view : Nat) (rows cols : Nat × Nat)
  /-- Derives a row. -/
  | row (view : Nat) (position : Nat)
  /-- Derives a column. -/
  | column (view : Nat) (position : Nat)
  /-- Derives the transpose. -/
  | transpose (view : Nat)
  /-- Reads an element. -/
  | read (view : Nat) (i j : Int)
  /-- Stores an element. -/
  | write (view : Nat) (i j : Int) (value : Element.Binary .double)
  /-- Reads an element of the matrix itself. -/
  | readBase (view : Nat) (i j : Int)
  /-- Copies all elements. -/
  | toArray (view : Nat)
  /-- Stores an element at every position. -/
  | fill (view : Nat) (value : Nat → Nat → Element.Binary .double)
  /-- Finalizes a view. -/
  | finalize (view : Nat)
  /-- Drops a view. -/
  | drop (view : Nat)
  /-- Takes out a reference. -/
  | takeHandle (view : Nat)
  /-- Gives a reference back. -/
  | dropHandle (matrix : Nat)
  /-- Code outside changes the state of the library. -/
  | outside (change : σ → σ)

/-- Runs an action for what it does to the state. -/
def silently {S α : Type} (action : ExceptT Fault (StateM S) α) : ExceptT Fault (StateM S) Unit :=
  action >>= fun _ => pure ()

/-- Forgetting an answer keeps the state and whether the action was refused. -/
theorem silently_apply {S α : Type} (action : ExceptT Fault (StateM S) α) (s : S) :
    (silently action s).2 = (action s).2 ∧
      (silently action s).1.isOk = (action s).1.isOk := by
  rw [silently, bind_apply]
  rcases action s with ⟨fault | a, t⟩ <;> exact ⟨rfl, rfl⟩

/-- Runs an action on the view with this identity; without one, nothing is done. -/
def withView (id : Nat) (action : View → ViewAction σ Unit) : ViewAction σ Unit := do
  match (← get).view? id with
  | none => pure ()
  | some view => action view

theorem withView_apply (id : Nat) (action : View → ViewAction σ Unit) (w : Workspace σ) :
    (withView id action w = (.ok (), w) ∧ w.view? id = none) ∨
      ∃ view, w.view? id = some view ∧ withView id action w = action view w := by
  unfold withView
  rw [bind_ok (get_apply w)]
  cases w.view? id with
  | none => exact .inl ⟨rfl, rfl⟩
  | some view => exact .inr ⟨view, rfl, rfl⟩

/-- What a binder acquires on request, once it has accepted the request. -/
def Binder.acquisition (binder : Binder) (request : ViewRequest) : Except Fault Acquisition :=
  match binder.requestedKind request with
  | .error fault => .error fault
  | .ok kind =>
    let shape := Binder.requestedShape request kind
    match Binder.requestedPointer request shape with
    | .error fault => .error fault
    | .ok existing =>
      .ok ⟨binder.source, kind, shape, existing,
        if existing.isSome = true then some (request.owns.getD binder.defaults.ownsAdopted)
        else request.owns, request.parent⟩

/-- Binding is performing the acquisition that the request stands for. -/
theorem Binder.bind_eq (binder : Binder) (request : ViewRequest) :
    binder.bind library request =
      ViewAction.checked (binder.acquisition request) >>= fun a => a.perform library := by
  unfold Binder.bind Binder.acquisition
  cases binder.requestedKind request with
  | error fault => rfl
  | ok kind =>
    change (ViewAction.checked (Binder.requestedPointer request _) >>= _) = _
    dsimp only
    cases Binder.requestedPointer request (Binder.requestedShape request kind) with
    | error fault => rfl
    | ok existing => rfl

namespace Operation

/-- Carries out an operation. One on a view that is not there does nothing. -/
def perform : Operation σ → ViewAction σ Unit
  | create binder kind shape => silently (binder.create library kind shape)
  | adopt binder kind shape pointer owns => silently (binder.adopt library kind shape pointer owns)
  | bind binder request none => silently (binder.bind library { request with parent := none })
  | bind binder request (some parent) => withView parent fun view =>
      silently (binder.bind library { request with parent := some view })
  | derive id transform => withView id fun view => silently (ViewAction.derive view transform)
  | deriveAs kind id transform => withView id fun view =>
      silently (ViewAction.deriveAs kind view transform)
  | slice id rows cols => withView id fun view => silently (ViewAction.slice view rows cols)
  | row id position => withView id fun view => silently (ViewAction.row view position)
  | column id position => withView id fun view => silently (ViewAction.column view position)
  | transpose id => withView id fun view => silently (ViewAction.transpose view)
  | read id i j => withView id fun view => silently (ViewAction.read library view i j)
  | write id i j value => withView id fun view => ViewAction.write library view i j value
  | readBase id i j => withView id fun view => silently (ViewAction.readBase library view i j)
  | toArray id => withView id fun view => silently (ViewAction.toArray library view)
  | fill id value => withView id fun view =>
      ViewAction.fill library view fun i j => Element.narrow view.kind (value i j)
  | finalize id => ViewAction.finalize library id
  | drop id => ViewAction.drop library id
  | takeHandle id => withView id fun view => silently (ViewAction.takeHandle view)
  | dropHandle matrix => ViewAction.dropHandle library matrix
  | outside change => modify fun w => { w with session.native := change w.session.native }

/-- What an operation acquires in a workspace, if the binder accepts it. -/
def acquisition (w : Workspace σ) : Operation σ → Option Acquisition
  | create binder kind shape => some ⟨binder.source, kind, shape, none, none, none⟩
  | adopt binder kind shape pointer owns =>
    some ⟨binder.source, kind, shape, some pointer, some owns, none⟩
  | bind binder request none => (binder.acquisition { request with parent := none }).toOption
  | bind binder request (some parent) => (w.view? parent).bind fun view =>
      (binder.acquisition { request with parent := some view }).toOption
  | _ => none

end Operation

/-- A matrix that was acquired. -/
structure Acquired where
  /-- The matrix. -/
  matrix : NativeMatrix
  /-- Number under which the workspace holds it; none if it was abandoned at once. -/
  number : Option Nat
  /-- Whether it was constructed and not adopted. -/
  constructed : Bool
  /-- Whether its pointer was new to the workspace. -/
  fresh : Bool
  /-- Layout that it reported, if it did. -/
  layout : Option NativeLayout

/-- Whether the workspace holds a matrix with this pointer. -/
def Workspace.knows (w : Workspace σ) (pointer : MatrixPointer) : Bool :=
  (List.range w.nextMatrix).any fun matrix => (w.matrices matrix).any (·.pointer == pointer)

/-- What a run has come to. -/
structure History (σ : Type) where
  /-- Views, matrices and references. -/
  workspace : Workspace σ
  /-- Every matrix acquired so far, the latest first. -/
  acquired : List Acquired := []

namespace History

/-- Record of the matrix that an operation acquires, if it acquires one. -/
def entry (h : History σ) (op : Operation σ) : Option Acquired :=
  (op.acquisition h.workspace).bind fun a =>
    (a.matrix? library h.workspace.session).map fun matrix =>
      { matrix
        number := if (op.perform library h.workspace).1.isOk = true then
          some h.workspace.nextMatrix else none
        constructed := a.existing.isNone
        fresh := !h.workspace.knows matrix.pointer
        layout := (matrix.layout library (a.obtain library h.workspace.session).2).1.toOption }

/-- Carries out one operation. -/
def step (h : History σ) (op : Operation σ) : History σ :=
  ⟨(op.perform library h.workspace).2, (h.entry library op).toList ++ h.acquired⟩

/-- Carries out operations in order. -/
def run (h : History σ) (ops : List (Operation σ)) : History σ := ops.foldl (step library) h

/-- No view, no matrix and no reference yet, in any state of the library. -/
def start (native : σ) : History σ := { workspace := { session := { native } } }

/-- Calls made so far, the latest first. -/
def calls (h : History σ) : List NativeCall := h.workspace.session.calls

@[simp] theorem run_nil (h : History σ) : h.run library [] = h := rfl

@[simp] theorem run_cons (h : History σ) (op : Operation σ) (ops : List (Operation σ)) :
    h.run library (op :: ops) = (h.step library op).run library ops := rfl

theorem run_append (h : History σ) (first second : List (Operation σ)) :
    h.run library (first ++ second) = (h.run library first).run library second :=
  List.foldl_append ..

/-- A step of a run is the run with one operation more. -/
theorem run_step (h : History σ) (ops : List (Operation σ)) (op : Operation σ) :
    (h.run library ops).step library op = h.run library (ops ++ [op]) := by
  rw [run_append]
  rfl

end History

/-! ### What one operation can do -/

/-- What an operation may do to a workspace, with the record of the matrix it acquired. -/
inductive Effect (w : Workspace σ) : Operation σ → Option Acquired → Workspace σ → Prop where
  /-- Only the session changed: the operation reads or writes elements, or was refused. -/
  | steady {op : Operation σ} {v : Workspace σ} (h : Steady library w v) : Effect w op none v
  /-- A view was derived. -/
  | derived {op : Operation σ} (view : View) (hm : view ∈ w.views) (window : Window)
      (session : Session σ) (hq : Quiet library w.session session) :
      Effect w op none (w.derived view window session)
  /-- A view was finalized. -/
  | finalized (id : Nat) {v : Workspace σ}
      (h : Clears library w v (w.viewsFinalized id) w.outside) :
      Effect w (.finalize id) none v
  /-- A view was dropped. -/
  | dropped (id : Nat) {v : Workspace σ}
      (h : Clears library w v (w.views.filter (·.id != id)) w.outside) : Effect w (.drop id) none v
  /-- A reference was taken out. -/
  | taken (view : View) (hm : view ∈ w.views) {v : Workspace σ}
      (h : Clears library w v w.views (view.sharedHandle.toList ++ w.outside)) :
      Effect w (.takeHandle view.id) none v
  /-- A reference was given back. -/
  | returned (matrix : Nat) {v : Workspace σ}
      (h : Clears library w v w.views (w.outside.erase matrix)) :
      Effect w (.dropHandle matrix) none v
  /-- A matrix was acquired and abandoned, as it reported no layout or none that a view can
  show. -/
  | abandoned {op : Operation σ} {layout : Option NativeLayout} (a : Acquisition)
      (ha : op.acquisition w = some a) (matrix : NativeMatrix)
      (hx : a.matrix? library w.session = some matrix) (session : Session σ)
      (hd : Discharges library matrix w.session session) :
      Effect w op (some ⟨matrix, none, a.existing.isNone, !w.knows matrix.pointer, layout⟩)
        { w with session }
  /-- A matrix was acquired and a view of it entered. -/
  | entered {op : Operation σ} (a : Acquisition) (ha : op.acquisition w = some a)
      (matrix : NativeMatrix) (hx : a.matrix? library w.session = some matrix)
      (layout : NativeLayout)
      (hl : (matrix.layout library (a.obtain library w.session).2).1 = .ok layout)
      (session : Session σ) (hq : Quiet library w.session session) :
      Effect w op
        (some ⟨matrix, some w.nextMatrix, a.existing.isNone, !w.knows matrix.pointer, some layout⟩)
        (a.entered w matrix layout session)

/-- Whatever an operation does, it keeps the earlier calls, and no error handle is null unless the
library hands out such. -/
theorem Effect.session {w v : Workspace σ} {op : Operation σ} {entry : Option Acquired}
    (he : Effect library w op entry v) :
    w.session.calls <:+ v.session.calls ∧
      (library.HandsOut → Denied v.session.calls → Denied w.session.calls) := by
  cases he with
  | steady hs =>
    obtain ⟨session, hq, rfl⟩ := hs
    exact ⟨hq.grows, hq.handled⟩
  | derived view hm window session hq => exact ⟨hq.grows, hq.handled⟩
  | finalized id hc => exact ⟨hc.settles.grows, hc.settles.handled⟩
  | dropped id hc => exact ⟨hc.settles.grows, hc.settles.handled⟩
  | taken view hm hc => exact ⟨hc.settles.grows, hc.settles.handled⟩
  | returned matrix hc => exact ⟨hc.settles.grows, hc.settles.handled⟩
  | abandoned a ha matrix hx session hd => exact ⟨hd.grows, hd.handled⟩
  | entered a ha matrix hx layout hl session hq => exact ⟨hq.grows, hq.handled⟩

/-- An operation enters a matrix with its view. Or else it adds no matrix, every view after it that
still has a handle was there before or is derived, and a matrix that it acquired got no number. -/
theorem Effect.outcome {w v : Workspace σ} {op : Operation σ} {entry : Option Acquired}
    (he : Effect library w op entry v) :
    ((∀ number, v.matrices number = none ∨ v.matrices number = w.matrices number) ∧
      (∀ view ∈ v.views, view.handle.isSome = true →
        view ∈ w.views ∨ view.derived = true ∧ view.owns = false) ∧
      ∀ e ∈ entry, e.number = none) ∨
    ∃ (a : Acquisition) (matrix : NativeMatrix) (layout : NativeLayout) (session : Session σ),
      entry = some ⟨matrix, some w.nextMatrix, a.existing.isNone, !w.knows matrix.pointer,
        some layout⟩ ∧ v = a.entered w matrix layout session := by
  cases he with
  | steady hs =>
    obtain ⟨session, hq, rfl⟩ := hs
    exact .inl ⟨fun _ => .inr rfl, fun _ hm _ => .inl hm, nofun⟩
  | derived source hsource window session hq =>
    refine .inl ⟨fun _ => .inr rfl, fun view hm _ => ?_, nofun⟩
    rcases List.mem_append.mp hm with hm | hm
    · exact .inl hm
    · rw [List.mem_singleton.mp hm]
      exact .inr ⟨rfl, rfl⟩
  | finalized id hc =>
    refine .inl ⟨hc.settles.fewer, fun view hm hs => .inl ?_, nofun⟩
    rw [hc.views] at hm
    obtain ⟨old, hold, rfl⟩ := List.mem_map.mp hm
    split_ifs at hs ⊢ with hid
    · rw [View.finalized] at hs ⊢
      split_ifs at hs ⊢ with howner
      · exact absurd hs Bool.false_ne_true
      · exact hold
    · exact hold
  | dropped id hc =>
    refine .inl ⟨hc.settles.fewer, fun view hm _ => .inl ?_, nofun⟩
    rw [hc.views] at hm
    exact (List.mem_filter.mp hm).1
  | taken source hsource hc =>
    refine .inl ⟨hc.settles.fewer, fun view hm _ => .inl ?_, nofun⟩
    rw [hc.views] at hm
    exact hm
  | returned matrix hc =>
    refine .inl ⟨hc.settles.fewer, fun view hm _ => .inl ?_, nofun⟩
    rw [hc.views] at hm
    exact hm
  | abandoned a ha matrix hx session hd =>
    refine .inl ⟨fun _ => .inr rfl, fun _ hm _ => .inl hm, fun e he => ?_⟩
    cases he
    rfl
  | entered a ha matrix hx layout hl session hq =>
    exact .inr ⟨a, matrix, layout, session, rfl, rfl⟩

/-- The action acquires what the operation stands for and does no more. -/
def Acquires (w : Workspace σ) (op : Operation σ) : Prop :=
  (op.acquisition w = none ∧ (op.perform library w).2 = w) ∨
    ∃ a, op.acquisition w = some a ∧ op.perform library w = silently (a.perform library) w

/-- A request is refused at once or stands for an acquisition. -/
theorem silently_bind_cases (binder : Binder) (request : ViewRequest) (w : Workspace σ) :
    ((binder.acquisition request).toOption = none ∧
      (silently (binder.bind library request) w).2 = w) ∨
    ∃ a, (binder.acquisition request).toOption = some a ∧
      silently (binder.bind library request) w = silently (a.perform library) w := by
  rw [Binder.bind_eq]
  cases binder.acquisition request with
  | error fault => exact .inl ⟨rfl, rfl⟩
  | ok a => exact .inr ⟨a, rfl, rfl⟩

/-- Creating, adopting and binding are acquisitions. -/
theorem bind_acquires (w : Workspace σ) (binder : Binder) (request : ViewRequest)
    (parent : Option Nat) : Acquires library w (.bind binder request parent) := by
  cases parent with
  | none => exact silently_bind_cases library binder _ w
  | some id =>
    rcases withView_apply id (fun view =>
      silently (binder.bind library { request with parent := some view })) w with
      ⟨h, hv⟩ | ⟨view, hv, h⟩
    · left
      refine ⟨?_, congrArg Prod.snd h⟩
      change (w.view? id).bind _ = none
      rw [hv]
      rfl
    · have hc := silently_bind_cases library binder { request with parent := some view } w
      unfold Acquires
      change ((w.view? id).bind _ = none ∧ (withView id _ w).2 = w) ∨
        ∃ a, (w.view? id).bind _ = some a ∧ withView id _ w = _
      rw [h, hv]
      exact hc

/-- What an accepted request stands for. -/
theorem Binder.acquisition_some {binder : Binder} {request : ViewRequest} {a : Acquisition}
    (h : (binder.acquisition request).toOption = some a) :
    a.parent = request.parent ∧ request.existing = a.existing.map some ∧
      (a.existing.isSome → a.owns = some (request.owns.getD binder.defaults.ownsAdopted)) := by
  unfold acquisition at h
  split at h
  · contradiction
  · dsimp only at h
    split at h
    · contradiction
    · rename_i existing hpointer
      cases h
      refine ⟨rfl, ?_, fun hs => if_pos hs⟩
      unfold requestedPointer at hpointer
      split at hpointer <;> cases hpointer <;> assumption

/-- The parent of an acquisition is a view of the workspace. -/
theorem Operation.acquisition_parent {w : Workspace σ} {op : Operation σ} {a : Acquisition}
    (ha : op.acquisition w = some a) {parent : View} (hp : a.parent = some parent) :
    parent ∈ w.views := by
  cases op with
  | create binder kind shape => cases ha; contradiction
  | adopt binder kind shape pointer owns => cases ha; contradiction
  | bind binder request id =>
    cases id with
    | none =>
      rw [(Binder.acquisition_some ha).1] at hp
      contradiction
    | some id =>
      obtain ⟨view, hv, hr⟩ := Option.bind_eq_some_iff.mp ha
      rw [(Binder.acquisition_some hr).1] at hp
      cases hp
      exact (Tidy.view?_some hv).1
  | _ => contradiction

namespace History

variable {h : History σ} {op : Operation σ}

/-- An operation that acquires nothing leaves the list of acquired matrices as it is. -/
theorem effect_of_none (ha : op.acquisition h.workspace = none)
    (he : Effect library h.workspace op none (op.perform library h.workspace).2) :
    Effect library h.workspace op (h.entry library op) (h.step library op).workspace := by
  have hn : h.entry library op = none := by rw [entry, ha]; rfl
  rw [hn]
  exact he

/-- An operation that only reads or writes is steady. -/
theorem effect_of_moves {id : Nat} {action : View → ViewAction σ Unit}
    (ha : op.acquisition h.workspace = none) (hp : op.perform library = withView id action)
    (hm : ∀ view, Moves (Steady library) (action view)) :
    Effect library h.workspace op (h.entry library op) (h.step library op).workspace := by
  refine effect_of_none library ha (.steady ?_)
  rw [hp]
  rcases withView_apply id action h.workspace with ⟨hw, -⟩ | ⟨view, -, hw⟩ <;> rw [hw]
  · exact Std.Refl.refl _
  · exact hm view _

/-- Forgetting the answer of a steady action leaves it steady. -/
theorem silently_steady {α : Type} {action : ViewAction σ α} (hm : Moves (Steady library) action) :
    Moves (Steady library) (silently action) := .bind hm fun _ => .pure ()

/-- An operation that derives has the effect of a derivation. -/
theorem effect_of_derivesFrom {id : Nat} {action : View → ViewAction σ Nat}
    (ha : op.acquisition h.workspace = none)
    (hp : op.perform library = withView id fun view => silently (action view))
    (hd : ∀ view, DerivesFrom library view (action view)) :
    Effect library h.workspace op (h.entry library op) (h.step library op).workspace := by
  refine effect_of_none library ha ?_
  rw [hp]
  rcases withView_apply id (fun view => silently (action view)) h.workspace with
    ⟨hw, -⟩ | ⟨view, hv, hw⟩ <;> rw [hw]
  · exact .steady (Std.Refl.refl _)
  · rw [(silently_apply _ _).1]
    rcases hd view h.workspace with ⟨fault, he⟩ | ⟨window, session, hq, he⟩ <;> rw [he]
    · exact .steady (Std.Refl.refl _)
    · exact .derived view (Tidy.view?_some hv).1 window session hq

/-- An operation that acquires has the effect of an acquisition. -/
theorem effect_of_acquires (hq : Acquires library h.workspace op) :
    Effect library h.workspace op (h.entry library op) (h.step library op).workspace := by
  rcases hq with ⟨ha, hp⟩ | ⟨a, ha, hp⟩
  · refine effect_of_none library ha ?_
    rw [hp]
    exact .steady (Std.Refl.refl _)
  have hentry : h.entry library op = (a.matrix? library h.workspace.session).map fun matrix =>
      { matrix
        number := if (a.perform library h.workspace).1.isOk = true then
          some h.workspace.nextMatrix else none
        constructed := a.existing.isNone
        fresh := !h.workspace.knows matrix.pointer
        layout :=
          (matrix.layout library (a.obtain library h.workspace.session).2).1.toOption } := by
    rw [entry, ha, hp, (silently_apply _ _).2]
    rfl
  have hstep : (h.step library op).workspace = (a.perform library h.workspace).2 := by
    change (op.perform library h.workspace).2 = _
    rw [hp, (silently_apply _ _).1]
  rw [hentry, hstep]
  rcases a.perform_cases library h.workspace with
    ⟨fault, session, he, hx, hs⟩ | ⟨matrix, fault, session, he, hx, -, hd⟩ |
      ⟨matrix, layout, session, he, hx, hl, -, hs⟩ <;> rw [he, hx]
  · exact .steady ⟨session, hs, rfl⟩
  · rw [Option.map_some]
    exact .abandoned a ha matrix hx session hd
  · rw [Option.map_some, hl]
    exact .entered a ha matrix hx layout hl session hs

/-- Where an acquisition left a view with the next identity, it was carried through. -/
theorem entered_of_view (ht : Tidy h.workspace []) (hq : Acquires library h.workspace op)
    {view : View} (hv : view ∈ (h.step library op).workspace.views)
    (hid : view.id = h.workspace.nextView) :
    ∃ a matrix layout session, op.acquisition h.workspace = some a ∧
      a.matrix? library h.workspace.session = some matrix ∧
      view = a.view h.workspace matrix layout ∧
      (h.step library op).workspace = a.entered h.workspace matrix layout session ∧
      (h.step library op).acquired =
        ⟨matrix, some h.workspace.nextMatrix, a.existing.isNone,
          !h.workspace.knows matrix.pointer, some layout⟩ :: h.acquired := by
  have hold : view ∉ h.workspace.views := fun hm => by
    have hlt := ht.earlier view hm
    omega
  rcases hq with ⟨-, hp⟩ | ⟨a, ha, hp⟩
  · change view ∈ (op.perform library h.workspace).2.views at hv
    rw [hp] at hv
    exact absurd hv hold
  have hstep : (h.step library op).workspace = (a.perform library h.workspace).2 := by
    change (op.perform library h.workspace).2 = _
    rw [hp, (silently_apply _ _).1]
  rw [hstep] at hv ⊢
  rcases a.perform_cases library h.workspace with
    ⟨fault, session, he, -, -⟩ | ⟨matrix, fault, session, he, -, -, -⟩ |
      ⟨matrix, layout, session, he, hx, hl, -⟩ <;> rw [he] at hv ⊢
  · exact absurd hv hold
  · exact absurd hv hold
  · have hview : view = a.view h.workspace matrix layout :=
      List.mem_singleton.mp ((List.mem_append.mp hv).resolve_left hold)
    refine ⟨a, matrix, layout, session, ha, hx, hview, rfl, ?_⟩
    have hentry : h.entry library op = some ⟨matrix, some h.workspace.nextMatrix,
        a.existing.isNone, !h.workspace.knows matrix.pointer, some layout⟩ := by
      rw [entry, ha, hp, (silently_apply _ _).2, he, Option.bind_some, hx, Option.map_some, hl]
      rfl
    rw [step, hentry]
    rfl

/-- Every operation on a tidy workspace has one of the effects. -/
theorem step_effect (ht : Tidy h.workspace []) (op : Operation σ) :
    Effect library h.workspace op (h.entry library op) (h.step library op).workspace := by
  cases op with
  | create binder kind shape => exact effect_of_acquires library (.inr ⟨_, rfl, rfl⟩)
  | adopt binder kind shape pointer owns =>
    exact effect_of_acquires library (.inr ⟨_, rfl, rfl⟩)
  | bind binder request parent =>
    exact effect_of_acquires library (bind_acquires library h.workspace binder request parent)
  | derive id transform =>
    exact effect_of_derivesFrom library rfl rfl fun view =>
      ViewAction.derive_derivesFrom library view _
  | deriveAs kind id transform =>
    exact effect_of_derivesFrom library rfl rfl fun view =>
      ViewAction.deriveAs_derivesFrom library kind view _
  | slice id rows cols =>
    exact effect_of_derivesFrom library rfl rfl fun view =>
      ViewAction.slice_derivesFrom library view _ _
  | row id position =>
    exact effect_of_derivesFrom library rfl rfl fun view =>
      ViewAction.row_derivesFrom library view _
  | column id position =>
    exact effect_of_derivesFrom library rfl rfl fun view =>
      ViewAction.column_derivesFrom library view _
  | transpose id =>
    exact effect_of_derivesFrom library rfl rfl fun view =>
      ViewAction.transpose_derivesFrom library view
  | read id i j =>
    exact effect_of_moves library rfl rfl fun view =>
      silently_steady library (ViewAction.read_steady library view i j)
  | write id i j value =>
    exact effect_of_moves library rfl rfl fun view =>
      ViewAction.write_steady library view i j value
  | readBase id i j =>
    exact effect_of_moves library rfl rfl fun view =>
      silently_steady library (ViewAction.readBase_steady library view i j)
  | toArray id =>
    exact effect_of_moves library rfl rfl fun view =>
      silently_steady library (ViewAction.toArray_steady library view)
  | fill id value =>
    exact effect_of_moves library rfl rfl fun view => ViewAction.fill_steady library view _
  | finalize id =>
    exact effect_of_none library rfl (.finalized id (ViewAction.finalize_clears library ht id))
  | drop id => exact effect_of_none library rfl (.dropped id (ViewAction.drop_clears library ht id))
  | takeHandle id =>
    refine effect_of_none library rfl ?_
    change Effect library h.workspace _ none (withView id _ h.workspace).2
    rcases withView_apply id (fun view => silently (ViewAction.takeHandle view)) h.workspace with
      ⟨hw, -⟩ | ⟨view, hv, hw⟩ <;> rw [hw]
    · exact .steady (Std.Refl.refl _)
    · obtain ⟨hm, rfl⟩ := Tidy.view?_some hv
      rw [(silently_apply _ _).1]
      exact .taken view hm (ViewAction.takeHandle_clears library ht hm)
  | dropHandle matrix =>
    exact effect_of_none library rfl
      (.returned matrix (ViewAction.dropHandle_clears library ht matrix))
  | outside change =>
    refine effect_of_none library rfl (.steady ⟨{ h.workspace.session with native := _ }, ?_, rfl⟩)
    exact .of_calls library rfl

end History

namespace History

variable {h : History σ}

/-- Calls and acquired matrices are only ever added. -/
theorem step_grows (ht : Tidy h.workspace []) (op : Operation σ) :
    h.calls <:+ (h.step library op).calls ∧ h.acquired <:+ (h.step library op).acquired :=
  ⟨(step_effect library ht op).session.1, List.suffix_append _ _⟩

end History

/-! ### A library to run operations on -/

/-- A library whose matrices have one element each and are numbered in order of construction. Its
state is the number of the next one, and whether the last call destroyed a matrix; if it did, the
error handle holds the given code. -/
def shelf (code : Int) : NativeLibrary (Nat × Bool) where
  newErrorHandle s := (some ⟨0⟩, s.1, false)
  freeErrorHandle _ s := s
  errorState s _ := { code := if s.2 = true then code else 0 }
  newSized _ _ _ s := (some ⟨s.1⟩, s.1 + 1, s.2)
  destroy _ _ _ s := (s.1, true)
  get _ _ _ _ _ _ s := (default, s)
  set _ _ _ _ _ _ _ s := s
  measure _ _ _ _ s := (1, s)
  data _ pointer _ s := (8 * (pointer.number + 1), s)
  load _ _ _ := default
  store _ _ _ s := s

/-- A binder whose entry points all resolve. -/
def shelfBinder (defaults : ViewDefaults) : Binder := ⟨⟨"shelf", fun _ => .ok 1⟩, defaults⟩

/-- A request for a matrix of one element. -/
def shelfRequest (existing : Option MatrixPointer) (owns : Option Bool) : ViewRequest :=
  { rows := 1, cols := 1, existing := existing.map some, owns }

end ForeignMatrix
