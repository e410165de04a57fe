import ForeignMatrix.Proofs.Examination
import ForeignMatrix.View.Acquire

/-!
# Calls that destroy a matrix

Which of the calls of a session destroy a matrix, and what each operation on a
native matrix adds to them. Construction, adoption, layout and element access
add none. Releasing or abandoning an owned matrix adds exactly one, whatever
error that call reports, provided that the entry points it takes resolve and an
error handle is handed out. What the library does to the matrices is not
looked at.
-/

namespace ForeignMatrix

open Actions NativeAction

variable {σ : Type} (library : NativeLibrary σ)

/-- Family and pointer with which a matrix is destroyed. -/
abbrev Duty := SymbolFamily × MatrixPointer

/-- What a call destroys. -/
def NativeCall.duty : NativeCall → Option Duty
  | .destroy family matrix _ => some (family, matrix)
  | _ => none

/-- What the calls destroyed, one entry for each call, the latest first. -/
def destroyed (calls : List NativeCall) : List Duty := calls.filterMap NativeCall.duty

theorem destroyed_append (later earlier : List NativeCall) :
    destroyed (later ++ earlier) = destroyed later ++ destroyed earlier := List.filterMap_append

/-- What has to be destroyed once a matrix is no longer referred to. -/
def NativeMatrix.duty (matrix : NativeMatrix) : Option Duty :=
  if matrix.owned = true then some (matrix.family, matrix.pointer) else none

/-- Whether the entry points that destroying a matrix takes can be called. -/
def NativeMatrix.destroyable (matrix : NativeMatrix) : Bool :=
  matrix.source.resolves (matrix.symbol .destroy) && matrix.source.resolves errorHandleNew
    && matrix.source.resolves errorHandleDestroy

/-- The library never hands out a null error handle. -/
def NativeLibrary.HandsOut : Prop := ∀ s, (library.newErrorHandle s).1 ≠ none

/-- Whether some call returned a null error handle. -/
abbrev Denied (calls : List NativeCall) : Prop := .newErrorHandle none ∈ calls

/-- Calls were added and none of them destroys a matrix. -/
structure Quiet (s t : Session σ) : Prop where
  /-- Earlier calls stay. -/
  grows : s.calls <:+ t.calls
  /-- Nothing else is destroyed. -/
  same : destroyed t.calls = destroyed s.calls
  /-- No error handle is null unless the library hands out such. -/
  handled : library.HandsOut → Denied t.calls → Denied s.calls

instance : Std.Refl (Quiet library) := ⟨fun s => ⟨List.suffix_refl s.calls, rfl, fun _ => id⟩⟩

instance : IsTrans (Session σ) (Quiet library) :=
  ⟨fun _ _ _ hst htu => ⟨hst.grows.trans htu.grows, htu.same.trans hst.same,
    fun hl hd => hst.handled hl (htu.handled hl hd)⟩⟩

/-- The same calls. -/
theorem Quiet.of_calls {s t : Session σ} (hc : t.calls = s.calls) : Quiet library s t :=
  ⟨hc ▸ List.suffix_refl s.calls, by rw [hc], fun _ => hc ▸ id⟩

/-- One call that destroys nothing. -/
theorem quiet_cons {s t : Session σ} (call : NativeCall) (hd : call.duty = none)
    (hn : library.HandsOut → call ≠ .newErrorHandle none) (hc : t.calls = call :: s.calls) :
    Quiet library s t := by
  refine ⟨hc ▸ List.suffix_cons call s.calls, ?_, fun hl hm => ?_⟩
  · rw [hc, destroyed, List.filterMap_cons_none hd, destroyed]
  · rw [hc] at hm
    exact (List.mem_cons.mp hm).resolve_left fun he => hn hl he.symm

/-- Whether a call neither destroys a matrix nor returned a null error handle. -/
def NativeCall.plain : NativeCall → Bool
  | .destroy .. => false
  | .newErrorHandle none => false
  | _ => true

theorem plain_quiet {s t : Session σ} (call : NativeCall) (hp : call.plain = true)
    (hc : t.calls = call :: s.calls) : Quiet library s t := by
  refine quiet_cons library call ?_ (fun _ he => ?_) hc
  · cases call with
    | destroy family matrix handle => contradiction
    | _ => rfl
  · rw [he] at hp
    contradiction

theorem note_quiet (notice : Notice) :
    Moves (Quiet library) (note notice : NativeAction σ Unit) :=
  fun _ => .of_calls library rfl

theorem ask_quiet {α : Type} {call : α → NativeCall} (hp : ∀ a, (call a).plain = true)
    (step : σ → α × σ) : Moves (Quiet library) (ask call step) :=
  fun s => plain_quiet library _ (hp (step s.native).1) rfl

theorem run_quiet {call : NativeCall} (hp : call.plain = true) (step : σ → σ) :
    Moves (Quiet library) (run call step) :=
  fun _ => plain_quiet library call hp rfl

/-- Examining a matrix destroys none. -/
theorem examines_quiet : Examines library (Quiet library) where
  same _ _ _ hc := .of_calls library hc
  createHandle s := quiet_cons library _ rfl
    (fun hl he => hl s.native (NativeCall.newErrorHandle.inj he)) rfl
  destroyHandle _ := run_quiet library rfl _
  askNumber _ _ _ _ := ask_quiet library (fun _ => rfl) _
  askStorage _ _ _ := ask_quiet library (fun _ => rfl) _

/-- The three ways in which asking for an error handle goes: a handle symbol is missing, the
handle is null, or the body runs and the handle is destroyed after it. -/
theorem withErrorHandle_cases {α : Type} (source : SymbolSource)
    (body : ErrorHandle → NativeAction σ α) (s : Session σ) :
    (∃ fault, withErrorHandle library source body s = (.error fault, s) ∧
      (source.resolves errorHandleNew && source.resolves errorHandleDestroy) = false) ∨
    (∃ fault native, withErrorHandle library source body s =
      (.error fault, { s with native, calls := .newErrorHandle none :: s.calls }) ∧
      ¬library.HandsOut) ∨
    (∃ handle native, withErrorHandle library source body s =
      releasing library handle (body handle)
        { s with native, calls := .newErrorHandle (some handle) :: s.calls }) := by
  unfold withErrorHandle
  rcases resolve_apply source errorHandleNew s with ⟨fault, h, hf⟩ | ⟨h, -⟩
  · exact .inl ⟨fault, bind_error h _, by rw [hf]; rfl⟩
  rw [bind_ok h]
  rcases resolve_apply source errorHandleDestroy s with ⟨fault, h, hf⟩ | ⟨h, -⟩
  · exact .inl ⟨fault, bind_error h _, by rw [hf, Bool.and_false]⟩
  rw [bind_ok h, bind_ok (ask_apply _ _ s)]
  right
  rcases hn : library.newErrorHandle s.native with ⟨_ | handle, native⟩
  · exact .inl ⟨_, native, rfl, fun hl => hl s.native (by rw [hn])⟩
  · exact .inr ⟨handle, native, rfl⟩

namespace NativeMatrix

theorem construct_quiet (source : SymbolSource) (family : SymbolFamily) (rows cols : Nat) :
    Moves (Quiet library) (construct library source family rows cols) := by
  unfold construct
  refine .bind ((examines_quiet library).resolve _ _) fun _ => .bind ?_ fun _ => .bind ?_ fun _ =>
    .bind (note_quiet library _) fun _ =>
    .bind (ask_quiet library (fun _ => rfl) _) fun result => ?_
  · exact .ite (.pure _) (.throw _)
  · exact .ite (.pure _) (.throw _)
  · cases result with
    | none => exact .throw _
    | some pointer => exact .bind (note_quiet library _) fun _ => .pure _

theorem adopt_quiet (source : SymbolSource) (family : SymbolFamily) (pointer : MatrixPointer)
    (owned : Bool) :
    Moves (Quiet library) (adopt source family pointer owned : NativeAction σ NativeMatrix) :=
  .bind (note_quiet library _) fun _ => .pure _

theorem readElement_quiet (matrix : NativeMatrix) (kind : ElementKind) (row col : Int) :
    Moves (Quiet library) (matrix.readElement library kind row col) := by
  have hx := examines_quiet library
  exact .bind (hx.resolve _ _) fun _ => hx.withErrorHandle _ fun _ =>
    .bind (ask_quiet library (fun _ => rfl) _) fun _ => .bind (hx.check _ _) fun _ => .pure _

theorem writeElement_quiet (matrix : NativeMatrix) (kind : ElementKind) (row col : Int)
    (value : Element kind) :
    Moves (Quiet library) (matrix.writeElement library kind row col value) := by
  have hx := examines_quiet library
  exact .bind (hx.resolve _ _) fun _ => hx.withErrorHandle _ fun _ =>
    .bind (run_quiet library rfl _) fun _ => hx.check _ _

end NativeMatrix

/-- The session did what giving up a matrix takes: it made at most the one call that destroys an
owned one, and made it if nothing stood in the way. -/
structure Discharges (matrix : NativeMatrix) (s t : Session σ) : Prop where
  /-- Earlier calls stay. -/
  grows : s.calls <:+ t.calls
  /-- Either nothing is destroyed or the matrix, once. -/
  atMost : destroyed t.calls = destroyed s.calls ∨
    destroyed t.calls = matrix.duty.toList ++ destroyed s.calls
  /-- With the entry points in place it is destroyed if it is owned, unless the last call made was
  for the error handle that this takes, and was answered by a null one. -/
  last : (matrix.owned = true → matrix.destroyable = true) → ∀ made, t.calls = made ++ s.calls →
    made.head? ≠ some (.newErrorHandle none) →
      destroyed t.calls = matrix.duty.toList ++ destroyed s.calls
  /-- No error handle is null unless the library hands out such. -/
  handled : library.HandsOut → Denied t.calls → Denied s.calls

/-- With the entry points in place and no null error handle it is destroyed if it is owned. -/
theorem Discharges.exact {library : NativeLibrary σ} {matrix : NativeMatrix} {s t : Session σ}
    (hd : Discharges library matrix s t) (ht : matrix.owned = true → matrix.destroyable = true)
    (hn : ¬Denied t.calls) : destroyed t.calls = matrix.duty.toList ++ destroyed s.calls := by
  obtain ⟨made, hmade⟩ := hd.grows
  refine hd.last ht made hmade.symm fun hh => hn ?_
  rw [← hmade]
  exact List.mem_append_left _ (List.mem_of_mem_head? hh)

/-- What was quiet before does not count. -/
theorem Discharges.of_quiet {matrix : NativeMatrix} {s t u : Session σ} (hq : Quiet library s t)
    (hd : Discharges library matrix t u) : Discharges library matrix s u := by
  refine ⟨hq.grows.trans hd.grows, hq.same ▸ hd.atMost, fun ht made hmade hlast => ?_,
    fun hl hx => hq.handled hl (hd.handled hl hx)⟩
  obtain ⟨later, hlater⟩ := hd.grows
  obtain ⟨first, hfirst⟩ := hq.grows
  have hsplit : made = later ++ first := by
    rw [← hlater, ← hfirst, ← List.append_assoc] at hmade
    exact (List.append_cancel_right hmade).symm
  rw [← hq.same]
  refine hd.last ht later hlater.symm fun hh => hlast ?_
  rw [hsplit, List.head?_append, hh, Option.some_or]

namespace NativeMatrix

/-- Calls of an attempt to destroy a matrix: none if an entry point is missing, a null error
handle, or one call that destroys the matrix, whatever error it reports. -/
theorem destroy_calls (matrix : NativeMatrix) (s : Session σ) :
    ((matrix.destroy library s).2.calls = s.calls ∧ matrix.destroyable = false) ∨
    ((matrix.destroy library s).2.calls = .newErrorHandle none :: s.calls ∧
      ¬library.HandsOut) ∨
    ∃ handle, (matrix.destroy library s).2.calls = .freeErrorHandle handle ::
      .destroy matrix.family matrix.pointer handle :: .newErrorHandle (some handle) ::
        s.calls := by
  unfold destroy destroyable
  rcases resolve_apply matrix.source (matrix.symbol .destroy) s with ⟨fault, h, hf⟩ | ⟨h, -⟩
  · rw [bind_error h, hf]
    exact .inl ⟨rfl, rfl⟩
  rw [bind_ok h]
  rcases withErrorHandle_cases library matrix.source _ s with
    ⟨fault, h, hf⟩ | ⟨fault, native, h, hn⟩ | ⟨handle, native, h⟩
  · rw [h, Bool.and_assoc, hf, Bool.and_false]
    exact .inl ⟨rfl, rfl⟩
  · rw [h]
    exact .inr (.inl ⟨rfl, hn⟩)
  · refine .inr (.inr ⟨handle, ?_⟩)
    rw [h]
    -- The check that follows the call may write a notice but makes no call.
    simp only [releasing, note, run, check, bind_apply, modify_apply, get_apply]
    split_ifs <;> simp [bind_apply]

theorem release_discharges (matrix : NativeMatrix) (s : Session σ) :
    Discharges library matrix s (matrix.release library s).2 := by
  unfold release
  by_cases ho : matrix.owned = true
  · rw [if_pos ho]
    have hduty : matrix.duty = some (matrix.family, matrix.pointer) := if_pos ho
    rcases destroy_calls library matrix s with ⟨h, hd⟩ | ⟨h, hn⟩ | ⟨handle, h⟩
    · refine ⟨h ▸ List.suffix_refl _, .inl (by rw [h]), fun ht => ?_, fun _ => h ▸ id⟩
      rw [ht ho] at hd
      contradiction
    · refine ⟨h ▸ List.suffix_cons _ _, .inl (h ▸ rfl), fun _ made hmade hlast => ?_,
        fun hl => absurd hl hn⟩
      have hsame : made = [.newErrorHandle none] := List.append_cancel_right (hmade.symm.trans h)
      rw [hsame] at hlast
      exact absurd rfl hlast
    · have hd : destroyed (matrix.destroy library s).2.calls =
          matrix.duty.toList ++ destroyed s.calls := by
        rw [h, hduty]
        rfl
      refine ⟨h ▸ List.suffix_append [_, _, _] s.calls, .inr hd, fun _ _ _ _ => hd, fun _ hx => ?_⟩
      rw [h] at hx
      simpa using hx
  · rw [if_neg ho]
    have hduty : matrix.duty = none := if_neg ho
    exact ⟨List.suffix_refl _, .inl rfl, fun _ _ _ _ => by rw [hduty]; rfl, fun _ => id⟩

/-- Abandoning is never refused and makes the calls of a release. -/
theorem abandon_release (matrix : NativeMatrix) (s : Session σ) :
    (matrix.abandon library s).1 = .ok () ∧
      (matrix.abandon library s).2.calls = (matrix.release library s).2.calls := by
  unfold abandon
  rw [tryCatch_apply]
  rcases matrix.release library s with ⟨fault | done, t⟩ <;> exact ⟨rfl, rfl⟩

theorem abandon_discharges (matrix : NativeMatrix) (s : Session σ) :
    Discharges library matrix s (matrix.abandon library s).2 := by
  have h := release_discharges library matrix s
  have hc := (abandon_release library matrix s).2
  exact ⟨hc ▸ h.grows, hc ▸ h.atMost, hc ▸ h.last, hc ▸ h.handled⟩

end NativeMatrix

end ForeignMatrix
