import ForeignMatrix.Proofs.Ownership.KeepAlive
import ForeignMatrix.Proofs.Sessions

/-!
# Error handles are bracketed

Every error handle that an operation is handed is destroyed once before the
operation is over, and no other is created in between. A call that takes an
error handle is given the open one, and finds no error in it: each call is
checked before the next one is made, and the first error ends the operation.
The library may answer and report what it likes and leave out any symbol; it is
only assumed that an error handle is handed out without an error in it.
-/

namespace ForeignMatrix

open Actions NativeAction

variable {σ : Type} (library : NativeLibrary σ)

/-! ### Calls with an open error handle -/

/-- Error handle that a call is given to report in. -/
def NativeCall.handle? : NativeCall → Option ErrorHandle
  | .destroy _ _ handle => some handle
  | .get _ _ _ _ handle => some handle
  | .set _ _ _ _ _ handle => some handle
  | .measure _ _ _ handle => some handle
  | .data _ _ handle => some handle
  | _ => none

/-- The call takes the library from one state to the other. -/
inductive NativeLibrary.Performs : NativeCall → σ → σ → Prop where
  /-- An error handle is created, or denied. -/
  | newErrorHandle (s : σ) :
      Performs (.newErrorHandle (library.newErrorHandle s).1) s (library.newErrorHandle s).2
  /-- An error handle is destroyed. -/
  | freeErrorHandle (handle : ErrorHandle) (s : σ) :
      Performs (.freeErrorHandle handle) s (library.freeErrorHandle handle s)
  /-- A matrix is constructed, or denied. -/
  | newSized (family : SymbolFamily) (rows cols : Int) (s : σ) :
      Performs (.newSized family rows cols (library.newSized family rows cols s).1) s
        (library.newSized family rows cols s).2
  /-- A matrix is destroyed. -/
  | destroy (family : SymbolFamily) (matrix : MatrixPointer) (handle : ErrorHandle) (s : σ) :
      Performs (.destroy family matrix handle) s (library.destroy family matrix handle s)
  /-- An element is read. -/
  | get (family : SymbolFamily) (kind : ElementKind) (matrix : MatrixPointer) (row col : Int)
      (handle : ErrorHandle) (s : σ) :
      Performs (.get family matrix row col handle) s
        (library.get family kind matrix row col handle s).2
  /-- An element is stored. -/
  | set (family : SymbolFamily) (kind : ElementKind) (matrix : MatrixPointer) (row col : Int)
      (value : Element kind) (handle : ErrorHandle) (s : σ) :
      Performs (.set family matrix row col value.widen handle) s
        (library.set family kind matrix row col value handle s)
  /-- A number is reported. -/
  | measure (family : SymbolFamily) (which : Measure) (matrix : MatrixPointer)
      (handle : ErrorHandle) (s : σ) :
      Performs (.measure family which matrix handle) s
        (library.measure family which matrix handle s).2
  /-- An address is reported. -/
  | data (family : SymbolFamily) (matrix : MatrixPointer) (handle : ErrorHandle) (s : σ) :
      Performs (.data family matrix handle) s (library.data family matrix handle s).2

/-- Calls in order, from a state with at most one error handle open to another such. One is created
only while none is open, and what is destroyed or reported in is the open one. It holds no error
when a call begins that reports in it. -/
inductive Bracketed : Option ErrorHandle → σ → List NativeCall → Option ErrorHandle → σ → Prop where
  /-- No call is made. -/
  | nil (opened : Option ErrorHandle) (s : σ) : Bracketed opened s [] opened s
  /-- An error handle is created, and open unless it is null. -/
  | create {result closed : Option ErrorHandle} {s t u : σ} {calls : List NativeCall}
      (hp : library.Performs (.newErrorHandle result) s t)
      (rest : Bracketed result t calls closed u) :
      Bracketed none s (.newErrorHandle result :: calls) closed u
  /-- The open error handle is destroyed. -/
  | free {handle : ErrorHandle} {closed : Option ErrorHandle} {s t u : σ} {calls : List NativeCall}
      (hp : library.Performs (.freeErrorHandle handle) s t)
      (rest : Bracketed none t calls closed u) :
      Bracketed (some handle) s (.freeErrorHandle handle :: calls) closed u
  /-- A call is given the open error handle, and there is no error in it. -/
  | report {call : NativeCall} {handle : ErrorHandle} {closed : Option ErrorHandle} {s t u : σ}
      {calls : List NativeCall} (hh : call.handle? = some handle)
      (hcode : (library.errorState s handle).code = 0) (hp : library.Performs call s t)
      (rest : Bracketed (some handle) t calls closed u) :
      Bracketed (some handle) s (call :: calls) closed u
  /-- A matrix is constructed; no error handle is taken for that. -/
  | construct {family : SymbolFamily} {rows cols : Int} {result : Option MatrixPointer}
      {opened closed : Option ErrorHandle} {s t u : σ} {calls : List NativeCall}
      (hp : library.Performs (.newSized family rows cols result) s t)
      (rest : Bracketed opened t calls closed u) :
      Bracketed opened s (.newSized family rows cols result :: calls) closed u

namespace Bracketed

variable {library} {opened middle closed : Option ErrorHandle} {s t u : σ}
  {first second : List NativeCall}

theorem append (h : Bracketed library opened s first middle t)
    (k : Bracketed library middle t second closed u) :
    Bracketed library opened s (first ++ second) closed u := by
  induction h with
  | nil => exact k
  | create hp _ ih => exact .create hp (ih k)
  | free hp _ ih => exact .free hp (ih k)
  | report hh hcode hp _ ih => exact .report hh hcode hp (ih k)
  | construct hp _ ih => exact .construct hp (ih k)

/-- An error handle is created as often as it is destroyed, but for what is open at the ends. -/
theorem count_created (h : Bracketed library opened s first closed t) (handle : ErrorHandle) :
    opened.toList.count handle + first.count (.newErrorHandle (some handle)) =
      first.count (.freeErrorHandle handle) + closed.toList.count handle := by
  induction h with
  | nil => simp
  | @create result closed s t u calls hp rest ih =>
    cases result with
    | none => simpa using ih
    | some found =>
      simp only [List.count_cons, Option.toList_some, Option.toList_none, List.count_nil,
        beq_iff_eq, NativeCall.newErrorHandle.injEq, Option.some.injEq, reduceCtorEq,
        if_false] at ih ⊢
      omega
  | free hp _ ih =>
    simp only [List.count_cons, Option.toList_some, Option.toList_none, List.count_nil,
      beq_iff_eq, NativeCall.freeErrorHandle.injEq, reduceCtorEq, if_false] at ih ⊢
    omega
  | @report call found closed s t u calls hh hcode hp rest ih =>
    have hcreate : call ≠ .newErrorHandle (some handle) := fun he => by rw [he] at hh; contradiction
    have hfree : call ≠ .freeErrorHandle handle := fun he => by rw [he] at hh; contradiction
    rw [List.count_cons_of_ne hcreate, List.count_cons_of_ne hfree]
    exact ih
  | construct hp _ ih =>
    simp only [List.count_cons, beq_iff_eq, reduceCtorEq, if_false]
    exact ih

end Bracketed

/-- Calls were added to a session, and those are bracketed. -/
def Brackets (opened closed : Option ErrorHandle) (s t : Session σ) : Prop :=
  ∃ made, t.calls = made.reverse ++ s.calls ∧ Bracketed library opened s.native made closed t.native

namespace Brackets

variable {library} {opened middle closed : Option ErrorHandle} {s t u : Session σ}

theorem trans (h : Brackets library opened middle s t) (k : Brackets library middle closed t u) :
    Brackets library opened closed s u := by
  obtain ⟨first, hfirst, hb⟩ := h
  obtain ⟨second, hsecond, hc⟩ := k
  refine ⟨first ++ second, ?_, hb.append hc⟩
  rw [hsecond, hfirst, List.reverse_append, List.append_assoc]

/-- Nothing was called. -/
theorem of_same (hc : t.calls = s.calls) (hn : t.native = s.native) :
    Brackets library opened opened s t :=
  ⟨[], hc, hn ▸ .nil opened t.native⟩

end Brackets

instance : Std.Refl (Brackets library none none) := ⟨fun _ => .of_same rfl rfl⟩

instance : IsTrans (Session σ) (Brackets library none none) := ⟨fun _ _ _ => .trans⟩

/-- With an open error handle that holds no error, an action makes calls that are given it. Unless
the action is refused there is no error in it afterwards. -/
def Guarded {α : Type} (handle : ErrorHandle) (action : NativeAction σ α) : Prop :=
  ∀ s, (library.errorState s.native handle).code = 0 →
    Brackets library (some handle) (some handle) s (action s).2 ∧
      ∀ a, (action s).1 = .ok a → (library.errorState (action s).2.native handle).code = 0

namespace Guarded

variable {library} {α β : Type} {handle : ErrorHandle}

theorem pure (a : α) : Guarded library handle (Pure.pure a : NativeAction σ α) :=
  fun _ hs => ⟨.of_same rfl rfl, fun _ _ => hs⟩

theorem throw (fault : Fault) :
    Guarded library handle (MonadExcept.throw fault : NativeAction σ α) :=
  fun _ _ => ⟨.of_same rfl rfl, nofun⟩

theorem note (notice : Notice) :
    Guarded library handle (NativeAction.note notice : NativeAction σ Unit) :=
  fun _ hs => ⟨.of_same rfl rfl, fun _ _ => hs⟩

theorem resolve (source : SymbolSource) (symbol : String) :
    Guarded library handle (NativeAction.resolve source symbol : NativeAction σ Unit) := by
  intro s hs
  rcases resolve_apply source symbol s with ⟨fault, h, -⟩ | ⟨h, -⟩ <;> rw [h]
  · exact ⟨.of_same rfl rfl, nofun⟩
  · exact ⟨.of_same rfl rfl, fun _ _ => hs⟩

theorem bind {x : NativeAction σ α} {f : α → NativeAction σ β} (hx : Guarded library handle x)
    (hf : ∀ a, Guarded library handle (f a)) : Guarded library handle (x >>= f) := by
  intro s hs
  obtain ⟨hb, hok⟩ := hx s hs
  rw [bind_apply]
  rcases hr : x s with ⟨fault | a, t⟩ <;> rw [hr] at hb hok
  · exact ⟨hb, nofun⟩
  · obtain ⟨hc, hok'⟩ := hf a t (hok a rfl)
    exact ⟨hb.trans hc, hok'⟩

/-- A call that answers something is checked, so no error is left unless the action is refused. -/
theorem ask {call : α → NativeCall} {step : σ → α × σ}
    (hh : ∀ a, (call a).handle? = some handle)
    (hp : ∀ s, library.Performs (call (step s).1) s (step s).2) (operation : String) :
    Guarded library handle (do
      let a ← NativeAction.ask call step
      check library handle operation
      return a) := by
  intro s hs
  let t : Session σ := { s with
    native := (step s.native).2
    calls := call (step s.native).1 :: s.calls }
  have hcall : Brackets library (some handle) (some handle) s t :=
    ⟨[_], rfl, .report (hh _) hs (hp s.native) (.nil _ _)⟩
  rw [bind_ok (ask_apply call step s)]
  rcases check_cases library handle operation t with
    ⟨hcode, h⟩ | ⟨-, code, message, notices, h⟩
  · rw [bind_ok h]
    exact ⟨hcall, fun _ _ => hcode⟩
  · rw [bind_error h]
    exact ⟨hcall.trans (.of_same rfl rfl), nofun⟩

theorem run {call : NativeCall} {step : σ → σ} (hh : call.handle? = some handle)
    (hp : ∀ s, library.Performs call s (step s)) (operation : String) :
    Guarded library handle (do
      NativeAction.run call step
      check library handle operation) := by
  intro s hs
  let t : Session σ := { s with native := step s.native, calls := call :: s.calls }
  have hcall : Brackets library (some handle) (some handle) s t :=
    ⟨[_], rfl, .report hh hs (hp s.native) (.nil _ _)⟩
  rw [bind_ok (run_apply call step s)]
  rcases check_cases library handle operation t with
    ⟨hcode, h⟩ | ⟨-, code, message, notices, h⟩ <;> rw [h]
  · exact ⟨hcall, fun _ _ => hcode⟩
  · exact ⟨hcall.trans (.of_same rfl rfl), nofun⟩

theorem measure (matrix : NativeMatrix) (which : Measure) :
    Guarded library handle (matrix.measure library handle which) :=
  .bind (.resolve _ _) fun _ => .ask (fun _ => rfl) (fun s => .measure _ which _ handle s) _

theorem extent (matrix : NativeMatrix) (which : Measure) :
    Guarded library handle (matrix.extent library handle which) := by
  refine .bind (.measure matrix which) fun value => ?_
  split_ifs
  · exact .throw _
  · exact .pure _

theorem storage (matrix : NativeMatrix) : Guarded library handle (matrix.storage library handle) :=
  .bind (.resolve _ _) fun _ => .ask (fun _ => rfl) (fun s => .data _ _ handle s) _

end Guarded

/-! ### Native matrices -/

theorem resolve_brackets (source : SymbolSource) (symbol : String) :
    Moves (Brackets library none none) (resolve source symbol : NativeAction σ Unit) := by
  intro s
  rcases resolve_apply source symbol s with ⟨fault, h, -⟩ | ⟨h, -⟩ <;> rw [h] <;>
    exact Std.Refl.refl s

/-- No error handle is taken to construct a matrix. -/
theorem construct_brackets (source : SymbolSource) (family : SymbolFamily) (rows cols : Nat) :
    Moves (Brackets library none none)
      (NativeMatrix.construct library source family rows cols) := by
  have hnote : ∀ notice, Moves (Brackets library none none) (note notice) :=
    fun notice s => .of_same rfl rfl
  refine .bind (resolve_brackets library _ _) fun _ => .bind (.ite (.pure _) (.throw _)) fun _ =>
    .bind (.ite (.pure _) (.throw _)) fun _ => .bind (hnote _) fun _ => .bind (fun s => ?_)
      fun result => ?_
  · exact ⟨[_], rfl, .construct (.newSized family rows cols s.native) (.nil _ _)⟩
  · cases result with
    | none => exact .throw _
    | some pointer => exact .bind (hnote _) fun _ => .pure _

/-- An error handle is handed out without an error in it. -/
def NativeLibrary.HandsOutClean : Prop :=
  ∀ s handle t, library.newErrorHandle s = (some handle, t) → (library.errorState t handle).code = 0

section Clean

variable {library} (hclean : library.HandsOutClean)

include hclean

/-- What runs under an error handle is bracketed by its creation and its destruction. -/
theorem withErrorHandle_brackets {α : Type} (source : SymbolSource)
    {body : ErrorHandle → NativeAction σ α} (hb : ∀ handle, Guarded library handle (body handle)) :
    Moves (Brackets library none none) (withErrorHandle library source body) := by
  refine .bind (resolve_brackets library _ _) fun _ => .bind (resolve_brackets library _ _)
    fun _ s => ?_
  rw [bind_ok (ask_apply _ _ s)]
  have hp : library.Performs (.newErrorHandle (library.newErrorHandle s.native).1) s.native _ :=
    .newErrorHandle s.native
  rcases hn : library.newErrorHandle s.native with ⟨_ | handle, native⟩ <;> rw [hn] at hp
  · exact ⟨[_], rfl, .create hp (.nil _ _)⟩
  · let t : Session σ :=
      { s with native, calls := .newErrorHandle (some handle) :: s.calls }
    have hopen : Brackets library none (some handle) s t := ⟨[_], rfl, .create hp (.nil _ _)⟩
    obtain ⟨hbody, -⟩ := hb handle t (hclean s.native handle native hn)
    have hclose : Brackets library (some handle) none (body handle t).2
        (releasing library handle (body handle) t).2 :=
      ⟨[_], rfl, .free (.freeErrorHandle handle _) (.nil _ _)⟩
    exact (hopen.trans hbody).trans hclose

/-- Whatever native matrices do is bracketed. -/
theorem keeps_brackets : Keeps library (Brackets library none none) where
  note _ _ := .of_same rfl rfl
  construct := construct_brackets library
  layout matrix := withErrorHandle_brackets hclean _ fun _ =>
    .bind (.extent matrix _) fun _ => .bind (.extent matrix _) fun _ =>
    .bind (.measure matrix _) fun _ => .bind (.measure matrix _) fun _ =>
    .bind (.storage matrix) fun _ => .bind (.note _) fun _ => .pure _
  readElement _ kind row col :=
    .bind (resolve_brackets library _ _) fun _ => withErrorHandle_brackets hclean _ fun handle =>
      .ask (fun _ => rfl) (fun s => .get _ kind _ row col handle s) _
  writeElement _ kind row col value :=
    .bind (resolve_brackets library _ _) fun _ => withErrorHandle_brackets hclean _ fun handle =>
      .run rfl (fun s => .set _ kind _ row col value handle s) _
  destroy _ :=
    .bind (resolve_brackets library _ _) fun _ => withErrorHandle_brackets hclean _ fun handle =>
      .bind (.note _) fun _ => .run rfl (fun s => .destroy _ _ handle s) _

end Clean

namespace History

variable {h : History σ}

/-- Balanced calls create every error handle as often as they destroy it. -/
def Balanced (calls : List NativeCall) : Prop :=
  ∀ handle, calls.count (.newErrorHandle (some handle)) = calls.count (.freeErrorHandle handle)

/-- An operation makes no call, or bracketed ones. -/
theorem step_brackets (hclean : library.HandsOutClean) (h : History σ) (op : Operation σ) :
    ∃ made, (h.step library op).calls = made.reverse ++ h.calls ∧ Balanced made ∧
      (made = [] ∨ Bracketed library none h.workspace.session.native made none
        (h.step library op).workspace.session.native) := by
  rcases op.keeps (keeps_brackets hclean) h.workspace with hsilent | ⟨made, hmade, hb⟩
  · exact ⟨[], hsilent, fun _ => rfl, .inl rfl⟩
  · refine ⟨made, hmade, fun handle => ?_, .inr hb⟩
    have hcount := hb.count_created handle
    simp only [Option.toList_none, List.count_nil] at hcount
    omega

theorem run_balanced (hclean : library.HandsOutClean) (hx : Balanced h.calls)
    (ops : List (Operation σ)) : Balanced (h.run library ops).calls := by
  induction ops generalizing h with
  | nil => exact hx
  | cons op ops ih =>
    refine ih fun handle => ?_
    obtain ⟨made, hmade, hb, -⟩ := step_brackets library hclean h op
    rw [hmade, List.count_append, List.count_append, List.count_reverse, List.count_reverse,
      hx handle, hb handle]

/-- In every run, the calls that an operation makes are bracketed by error handles: what is created
is destroyed before the operation is over and before another is created, and every call that takes
an error handle is given the open one, without an error in it. So an error handle is created as
often as it is destroyed, by each operation and in all. -/
theorem handles_bracketed (hclean : library.HandsOutClean) (hr : h.Reachable library) :
    Balanced h.calls ∧ ∀ op, ∃ made, (h.step library op).calls = made.reverse ++ h.calls ∧
      Balanced made ∧ (made = [] ∨ Bracketed library none h.workspace.session.native made none
        (h.step library op).workspace.session.native) := by
  refine ⟨?_, step_brackets library hclean h⟩
  obtain ⟨native, ops, rfl⟩ := hr
  exact run_balanced library hclean (fun _ => rfl) ops

/-- A library that reports an error whenever it is asked for a number of columns, and another when
it is to destroy a matrix. Its state is the code in the only error handle. -/
def grumbler : NativeLibrary Int where
  newErrorHandle _ := (some ⟨0⟩, 0)
  freeErrorHandle _ s := s
  errorState s _ := { code := s }
  newSized _ _ _ s := (some ⟨0⟩, s)
  destroy _ _ _ _ := 4
  get _ _ _ _ _ _ s := (default, s)
  set _ _ _ _ _ _ _ s := s
  measure _ which _ _ s := (1, match which with | .cols => 3 | _ => s)
  data _ _ _ s := (8, s)
  load _ _ _ := default
  store _ _ _ s := s

/-- A matrix that reports no layout is destroyed under an error handle of its own, after the first
one was destroyed. Both are bracketed, whatever error they were left with. -/
theorem handles_bracketed_abandoned :
    let h := (start 0).run grumbler []
    let after := h.step grumbler (.create (shelfBinder {}) .double (.fixed 1 1 .double))
    let family := (Shape.fixed 1 1 .double).family
    let made : List NativeCall := [.newSized family 1 1 (some ⟨0⟩), .newErrorHandle (some ⟨0⟩),
      .measure family .rows ⟨0⟩ ⟨0⟩, .measure family .cols ⟨0⟩ ⟨0⟩, .freeErrorHandle ⟨0⟩,
      .newErrorHandle (some ⟨0⟩), .destroy family ⟨0⟩ ⟨0⟩, .freeErrorHandle ⟨0⟩]
    after.calls = made.reverse ++ h.calls ∧
      Bracketed grumbler none h.workspace.session.native made none
        after.workspace.session.native := by
  intro h after family made
  have hclean : grumbler.HandsOutClean := by
    intro s handle t ht
    cases ht
    rfl
  have hcalls : after.calls = made.reverse ++ h.calls := by decide +kernel
  obtain ⟨-, hstep⟩ := handles_bracketed grumbler hclean (h := h) ⟨_, _, rfl⟩
  obtain ⟨found, hfound, -, hb⟩ := hstep (.create (shelfBinder {}) .double (.fixed 1 1 .double))
  have hsame : found = made :=
    List.reverse_injective (List.append_cancel_right (hfound.symm.trans hcalls))
  rw [hsame] at hb
  exact ⟨hcalls, hb.resolve_left (List.cons_ne_nil _ _)⟩

end History

end ForeignMatrix
