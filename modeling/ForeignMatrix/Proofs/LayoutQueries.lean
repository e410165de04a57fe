import ForeignMatrix.Loading.Library
import ForeignMatrix.Proofs.Examination

/-!
# Queries for a layout

A layout is put together from the answers to five questions, asked in order under one error handle.
Each question may fail in several ways: its entry point is missing, the call leaves an error, or a
negative extent is answered. The first question that fails decides on the fault, and none is asked
after it. The library may answer and report what it likes.
-/

namespace ForeignMatrix

open Actions NativeAction

variable {σ : Type}

/-! ### Questions -/

/-- What a matrix is asked about its layout. -/
inductive Question where
  /-- A number. -/
  | number (which : Measure)
  /-- The address of the storage. -/
  | storage
  deriving DecidableEq

namespace Question

/-- The questions that a layout takes, in order. -/
def all : List Question :=
  [number .rows, number .cols, number .rowStride, number .colStride, storage]

/-- Entry point that is called. -/
def entry : Question → Entry
  | number which => which.entry
  | storage => .data

/-- Whether the answer is an extent, which must not be negative. -/
def IsExtent (question : Question) : Prop :=
  question = number .rows ∨ question = number .cols

/-- The call. -/
def call (matrix : NativeMatrix) (handle : ErrorHandle) : Question → NativeCall
  | number which => .measure matrix.family which matrix.pointer handle
  | storage => .data matrix.family matrix.pointer handle

/-- What the library answers in a state, and the state after it. -/
def answer (library : NativeLibrary σ) (matrix : NativeMatrix) (handle : ErrorHandle) (t : σ) :
    Question → Int × σ
  | number which => library.measure matrix.family which matrix.pointer handle t
  | storage => library.data matrix.family matrix.pointer handle t

/-- Asks the question, with all that is checked before and after the call. -/
def ask (library : NativeLibrary σ) (matrix : NativeMatrix) (handle : ErrorHandle) :
    Question → NativeAction σ Int
  | number .rows => return (← matrix.extent library handle .rows)
  | number .cols => return (← matrix.extent library handle .cols)
  | number .rowStride => matrix.measure library handle .rowStride
  | number .colStride => matrix.measure library handle .colStride
  | storage => matrix.storage library handle

end Question

/-- A source whose symbols are registered one by one, or exported by a loaded library. -/
inductive SymbolSource.Provided : SymbolSource → Prop
  /-- A table. -/
  | table (table : SymbolTable) : Provided table.source
  /-- A loaded library. -/
  | library (library : LoadedLibrary) : Provided library.source

/-- Where symbols are missing from such a source it says so. -/
theorem SymbolSource.Provided.symbolNotFound {source : SymbolSource} (hp : source.Provided)
    {symbol : String} {fault : Fault} (h : source.address symbol = .error fault) :
    ∃ message, fault = .symbolNotFound symbol source.name message := by
  cases hp with
  | table table =>
    simp only [SymbolTable.source, SymbolTable.address] at h
    split at h
    · cases h
    · cases h
      exact ⟨_, rfl⟩
  | library library =>
    simp only [LoadedLibrary.source, LoadedLibrary.address] at h
    split_ifs at h
    · cases h
      exact ⟨_, rfl⟩
    · cases h
      exact ⟨_, rfl⟩

/-! ### One question -/

/-- A question that is put to a library in some state. -/
structure Query (σ : Type) where
  /-- The library, -/
  library : NativeLibrary σ
  /-- the matrix that the question is about, -/
  matrix : NativeMatrix
  /-- the error handle that is given along -/
  handle : ErrorHandle
  /-- and the question. -/
  question : Question
  /-- State of the library before the call. -/
  state : σ

namespace Query

variable (query : Query σ)

/-- Symbol of the entry point. -/
def symbol : String := query.matrix.symbol query.question.entry

/-- Value that is answered. -/
def value : Int := (query.question.answer query.library query.matrix query.handle query.state).1

/-- State of the library after the call. -/
def after : σ := (query.question.answer query.library query.matrix query.handle query.state).2

/-- Error that is in the handle after the call. -/
def error : ErrorState := query.library.errorState query.after query.handle

/-- The call that is made. -/
def call : NativeCall := query.question.call query.matrix query.handle

/-- The entry point resolves, its call leaves no error, and an extent is not negative. -/
structure Passes : Prop where
  /-- The entry point can be called. -/
  resolves : query.matrix.source.resolves query.symbol = true
  /-- No error is in the handle. -/
  clean : query.error.code = 0
  /-- Extents are counts. -/
  counts : query.question.IsExtent → 0 ≤ query.value

/-- Calls that a query makes and the fault that it ends in, if it does not pass. -/
inductive Fails : List NativeCall → Fault → Prop
  /-- The address of the entry point is null. -/
  | null (ha : query.matrix.source.address query.symbol = .ok 0) :
      Fails [] (.symbolNotFound query.symbol query.matrix.source.name
        "symbol resolved to a null address")
  /-- The entry point is missing. -/
  | missing {fault : Fault} (ha : query.matrix.source.address query.symbol = .error fault)
      (hp : query.matrix.source.Provided →
        ∃ message, fault = .symbolNotFound query.symbol query.matrix.source.name message) :
      Fails [] fault
  /-- The call leaves an error with a message. -/
  | reported {bytes : List UInt8} (hr : query.matrix.source.resolves query.symbol = true)
      (hc : query.error.code ≠ 0) (hm : query.error.message = some bytes) :
      Fails [query.call]
        (.nativeOperation query.symbol query.error.code (Text.Utf8.decodeLossy bytes))
  /-- The call leaves an error without a message. -/
  | silent (hr : query.matrix.source.resolves query.symbol = true)
      (hc : query.error.code ≠ 0) (hm : query.error.message = none) :
      Fails [query.call] (.nativeOperation query.symbol query.error.code "(no message)")
  /-- The answer is a negative extent. -/
  | negative (hr : query.matrix.source.resolves query.symbol = true) (hc : query.error.code = 0)
      (he : query.question.IsExtent) (hn : query.value < 0) :
      Fails [query.call] (.nativeOperation query.symbol (-1)
        ("negative extent " ++ toString query.value ++ " reported"))

/-- The session after the call. -/
def leaves (s : Session σ) : Session σ :=
  { s with native := query.after, calls := query.call :: s.calls }

/-- The action goes by what the query comes to: it answers the value if the query passes and else
ends in the fault, with no more calls than those of the query. -/
def Settles (action : NativeAction σ Int) : Prop :=
  ∀ s : Session σ, s.native = query.state →
    (query.Passes ∧ action s = (.ok query.value, query.leaves s)) ∨
      ∃ made fault t, query.Fails made fault ∧ t.calls = made ++ s.calls ∧
        action s = (.error fault, t)

/-- Makes the call, if its entry point is there, and checks the handle. -/
def look : NativeAction σ Int := do
  resolve query.matrix.source query.symbol
  let value ← ask (fun _ => query.call) fun t =>
    query.question.answer query.library query.matrix query.handle t
  check query.library query.handle query.symbol
  pure value

variable {query}

/-- A symbol that does not resolve is missing or null. -/
theorem fails_of_resolve {fault : Fault}
    (h : query.matrix.source.resolve query.symbol = .error fault) : query.Fails [] fault := by
  rw [SymbolSource.resolve] at h
  split at h
  · rename_i found ha
    cases h
    exact .missing ha fun hp => hp.symbolNotFound ha
  · rename_i ha
    cases h
    exact .null ha
  · cases h

/-- A symbol without an address, or with none but null, does not resolve. -/
theorem resolves_eq_false (ha : ∀ address,
    query.matrix.source.address query.symbol = .ok address → address = 0) :
    query.matrix.source.resolves query.symbol = false := by
  rw [SymbolSource.resolves, SymbolSource.resolve]
  cases haddress : query.matrix.source.address query.symbol with
  | error fault => rfl
  | ok address =>
    obtain rfl := ha address haddress
    rfl

/-- No query both fails and passes. -/
theorem Fails.not_passes {made : List NativeCall} {fault : Fault} (h : query.Fails made fault) :
    ¬ query.Passes := by
  rintro ⟨hr, hc, hcounts⟩
  cases h with
  | null ha =>
    have hnot : query.matrix.source.resolves query.symbol = false :=
      resolves_eq_false fun address h => by
        rw [ha] at h
        exact (Except.ok.inj h).symm
    rw [hr] at hnot
    contradiction
  | missing ha =>
    have hnot : query.matrix.source.resolves query.symbol = false :=
      resolves_eq_false fun address h => by
        rw [ha] at h
        contradiction
    rw [hr] at hnot
    contradiction
  | reported _ hne => exact hne hc
  | silent _ hne => exact hne hc
  | negative _ _ he hn => exact absurd (hcounts he) (not_le.mpr hn)

/-- A call that left an error fails by its message. -/
theorem fails_of_code (hr : query.matrix.source.resolves query.symbol = true)
    (hc : query.error.code ≠ 0) :
    query.Fails [query.call]
      (.nativeOperation query.symbol query.error.code (messageText query.error)) := by
  unfold messageText
  cases hm : query.error.message with
  | none => exact .silent hr hc hm
  | some bytes => exact .reported hr hc hm

/-- The check after the call refuses to go on if there is an error, and notes it. -/
theorem check_leaves (query : Query σ) (s : Session σ) :
    check query.library query.handle query.symbol (query.leaves s) =
      if query.error.code = 0 then (.ok (), query.leaves s)
      else (.error (.nativeOperation query.symbol query.error.code (messageText query.error)),
        { query.leaves s with
          notices := .callFailed query.symbol query.error.code :: s.notices }) := by
  rw [check, bind_ok (get_apply _)]
  change (if query.error.code = 0 then _ else _ : NativeAction σ Unit) (query.leaves s) = _
  split_ifs <;> rfl

/-- The call is made unless its entry point is missing, and then the handle is checked. -/
theorem look_cases {s : Session σ} (hs : s.native = query.state) :
    (query.matrix.source.resolves query.symbol = true ∧ query.error.code = 0 ∧
        query.look s = (.ok query.value, query.leaves s)) ∨
      ∃ made fault t, query.Fails made fault ∧ t.calls = made ++ s.calls ∧
        query.look s = (.error fault, t) := by
  cases hr : query.matrix.source.resolve query.symbol with
  | error fault =>
    have hresolve : resolve query.matrix.source query.symbol s = (.error fault, s) := by
      rw [resolve, hr]
      rfl
    exact .inr ⟨[], fault, s, fails_of_resolve hr, rfl, bind_error hresolve _⟩
  | ok address =>
    have hresolves : query.matrix.source.resolves query.symbol = true := by
      rw [SymbolSource.resolves, hr]
    have hlook : query.look s = (do
        check query.library query.handle query.symbol
        pure query.value : NativeAction σ Int) (query.leaves s) := by
      rw [look, bind_ok (resolve_ok hresolves s), bind_ok (ask_apply _ _ s), hs]
      rfl
    rw [hlook]
    have hcheck := query.check_leaves s
    by_cases hcode : query.error.code = 0
    · rw [if_pos hcode] at hcheck
      exact .inl ⟨hresolves, hcode, bind_ok hcheck _⟩
    · rw [if_neg hcode] at hcheck
      exact .inr ⟨_, _, _, fails_of_code hresolves hcode, rfl, bind_error hcheck _⟩

/-- A number that is no extent may be any. -/
theorem settles_look (he : ¬ query.question.IsExtent) : query.Settles query.look := by
  intro s hs
  exact (look_cases hs).imp_left fun ⟨hr, hc, h⟩ => ⟨⟨hr, hc, fun h => absurd h he⟩, h⟩

/-- A negative extent fails after the check. -/
theorem settles_extent {which : Measure} (hq : query.question = .number which)
    (he : query.question.IsExtent) :
    query.Settles do return (← query.matrix.extent query.library query.handle which) := by
  intro s hs
  have hmeasure : query.matrix.measure query.library query.handle which = query.look := by
    rw [look, call, symbol, hq]
    rfl
  rcases look_cases hs with ⟨hr, hc, hlook⟩ | ⟨made, fault, t, hfails, hcalls, hlook⟩
  · rw [← hmeasure] at hlook
    by_cases hn : query.value < 0
    · have hextent : query.matrix.extent query.library query.handle which s =
          (.error (.nativeOperation query.symbol (-1)
            ("negative extent " ++ toString query.value ++ " reported")), query.leaves s) := by
        rw [NativeMatrix.extent, bind_ok hlook, if_pos hn, symbol, hq]
        rfl
      exact .inr ⟨_, _, _, .negative hr hc he hn, rfl, bind_error hextent _⟩
    · have hextent : query.matrix.extent query.library query.handle which s =
          (.ok query.value.toNat, query.leaves s) := by
        rw [NativeMatrix.extent, bind_ok hlook, if_neg hn]
        rfl
      refine .inl ⟨⟨hr, hc, fun _ => not_lt.mp hn⟩, ?_⟩
      rw [bind_ok hextent, pure_apply, Int.toNat_of_nonneg (not_lt.mp hn)]
  · rw [← hmeasure] at hlook
    have hextent : query.matrix.extent query.library query.handle which s = (.error fault, t) :=
      bind_error hlook _
    exact .inr ⟨made, fault, t, hfails, hcalls, bind_error hextent _⟩

/-- A question is asked as its query says. -/
theorem settles_ask (query : Query σ) :
    query.Settles (query.question.ask query.library query.matrix query.handle) := by
  obtain ⟨library, matrix, handle, question, state⟩ := query
  cases question with
  | number which =>
    cases which with
    | rows => exact settles_extent rfl (.inl rfl)
    | cols => exact settles_extent rfl (.inr rfl)
    | rowStride => exact settles_look (by simp [Question.IsExtent])
    | colStride => exact settles_look (by simp [Question.IsExtent])
  | storage => exact settles_look (by simp [Question.IsExtent])

end Query

/-! ### All questions -/

namespace Question

variable (library : NativeLibrary σ) (matrix : NativeMatrix) (handle : ErrorHandle)

/-- The queries that questions lead to, each in the state that the one before leaves. -/
def queries : List Question → σ → List (Query σ)
  | [], _ => []
  | question :: rest, t =>
    let query : Query σ := ⟨library, matrix, handle, question, t⟩
    query :: queries rest query.after

/-- Questions are asked until one fails. -/
theorem mapM_ask_cases (questions : List Question) (s : Session σ) :
    ((∀ query ∈ queries library matrix handle questions s.native, query.Passes) ∧
      ∃ t, questions.mapM (ask library matrix handle) s =
          (.ok ((queries library matrix handle questions s.native).map Query.value), t) ∧
        t.calls = ((queries library matrix handle questions s.native).map Query.call).reverse ++
          s.calls) ∨
    ∃ before failing later made fault t,
      queries library matrix handle questions s.native = before ++ failing :: later ∧
      (∀ query ∈ before, query.Passes) ∧ failing.Fails made fault ∧
      questions.mapM (ask library matrix handle) s = (.error fault, t) ∧
      t.calls = made ++ (before.map Query.call).reverse ++ s.calls := by
  induction questions generalizing s with
  | nil => exact .inl ⟨by simp [queries], s, rfl, rfl⟩
  | cons question rest ih =>
    let query : Query σ := ⟨library, matrix, handle, question, s.native⟩
    rw [List.mapM_cons]
    rcases query.settles_ask s rfl with ⟨hpasses, hask⟩ | ⟨made, fault, t, hfails, hcalls, hask⟩
    · rw [bind_ok hask]
      rcases ih (query.leaves s) with
        ⟨hall, t, hrest, hcalls⟩ |
        ⟨before, failing, later, made, fault, t, hsplit, hall, hfails, hrest, hcalls⟩
      · refine .inl ⟨List.forall_mem_cons.mpr ⟨hpasses, hall⟩, t, bind_ok hrest _, ?_⟩
        rw [hcalls, queries, List.map_cons, List.reverse_cons, List.append_assoc]
        rfl
      · refine .inr ⟨query :: before, failing, later, made, fault, t, congrArg _ hsplit,
          List.forall_mem_cons.mpr ⟨hpasses, hall⟩, hfails, bind_error hrest _, ?_⟩
        rw [hcalls, List.map_cons, List.reverse_cons]
        simp [Query.leaves]
    · exact .inr ⟨[], query, _, made, fault, t, rfl, by simp, hfails, bind_error hask _,
        by simpa using hcalls⟩

end Question

/-! ### The layout -/

/-- The parts of a layout in the order in which they are asked for. -/
def NativeLayout.parts (layout : NativeLayout) : List Int :=
  [layout.rows, layout.cols, layout.rowStride, layout.colStride, layout.data]

/-- Layout of which the parts are given. -/
def NativeLayout.ofParts (parts : List Int) : NativeLayout :=
  ⟨(parts.getD 0 0).toNat, (parts.getD 1 0).toNat, parts.getD 2 0, parts.getD 3 0, parts.getD 4 0⟩

variable (library : NativeLibrary σ) {matrix : NativeMatrix} {handle : ErrorHandle}

/-- Asks all questions and puts the layout together from the answers. -/
def NativeMatrix.assemble (matrix : NativeMatrix) (handle : ErrorHandle) :
    NativeAction σ NativeLayout := do
  let parts ← Question.all.mapM (Question.ask library matrix handle)
  note (.measured matrix.family.suffix (.ofParts parts))
  pure (.ofParts parts)

/-- That is what is done for a layout. -/
theorem NativeMatrix.layout_eq (matrix : NativeMatrix) :
    matrix.layout library =
      withErrorHandle library matrix.source fun handle => matrix.assemble library handle := by
  simp only [layout, assemble, Question.all, List.mapM_cons, List.mapM_nil, Question.ask,
    bind_assoc, pure_bind, NativeLayout.ofParts, List.getD_cons_zero, List.getD_cons_succ,
    Int.toNat_natCast]

/-- Where all queries pass, the layout has the values that are answered: the extents are counts. -/
theorem parts_ofParts (matrix : NativeMatrix) (handle : ErrorHandle) {t : σ}
    (hall : ∀ query ∈ Question.queries library matrix handle Question.all t, query.Passes) :
    (NativeLayout.ofParts
        ((Question.queries library matrix handle Question.all t).map Query.value)).parts =
      (Question.queries library matrix handle Question.all t).map Query.value := by
  obtain ⟨hrows, hall⟩ := List.forall_mem_cons.mp hall
  obtain ⟨hcols, -⟩ := List.forall_mem_cons.mp hall
  have hrows := hrows.counts (.inl rfl)
  have hcols := hcols.counts (.inr rfl)
  simp only [Question.all, Question.queries, List.map_cons, List.map_nil, NativeLayout.ofParts,
    NativeLayout.parts, List.getD_cons_zero, List.getD_cons_succ, Int.toNat_of_nonneg hrows,
    Int.toNat_of_nonneg hcols]

/-- Under an error handle that was handed out, a layout is what the queries come to. -/
structure Queried (queries : List (Query σ)) (handle : ErrorHandle) (s : Session σ)
    (result : Except Fault NativeLayout) (t : Session σ) : Prop where
  /-- There is a layout exactly if all queries pass. -/
  succeeds : (∃ layout, result = .ok layout) ↔ ∀ query ∈ queries, query.Passes
  /-- A layout has the values that are answered, each after one call. -/
  shown : ∀ layout, result = .ok layout → layout.parts = queries.map Query.value ∧
    t.calls = .freeErrorHandle handle :: (queries.map Query.call).reverse ++
      .newErrorHandle (some handle) :: s.calls
  /-- A fault is that of the first query that fails, and no call is made after it. -/
  blamed : ∀ fault, result = .error fault → ∃ before failing later made,
    queries = before ++ failing :: later ∧ (∀ query ∈ before, query.Passes) ∧
      failing.Fails made fault ∧
      t.calls = .freeErrorHandle handle :: made ++ (before.map Query.call).reverse ++
        .newErrorHandle (some handle) :: s.calls

/-- What is asked for a layout goes by the first question that fails. -/
theorem NativeMatrix.layout_queried {s : Session σ} {t : σ}
    (hnew : matrix.source.resolves errorHandleNew = true)
    (hdestroy : matrix.source.resolves errorHandleDestroy = true)
    (hh : library.newErrorHandle s.native = (some handle, t)) :
    Queried (Question.queries library matrix handle Question.all t) handle s
      (matrix.layout library s).1 (matrix.layout library s).2 := by
  rw [matrix.layout_eq, withErrorHandle_handed library hnew hdestroy hh, releasing]
  rcases Question.mapM_ask_cases library matrix handle Question.all
      { s with native := t, calls := .newErrorHandle (some handle) :: s.calls } with
    ⟨hall, u, hask, hcalls⟩ |
    ⟨before, failing, later, made, fault, u, hsplit, hall, hfails, hask, hcalls⟩
  · rw [NativeMatrix.assemble, bind_ok hask]
    refine ⟨iff_of_true ⟨_, rfl⟩ hall, ?_, nofun⟩
    rintro _ ⟨⟩
    refine ⟨parts_ofParts library matrix handle hall, ?_⟩
    exact congrArg (List.cons _) hcalls
  · rw [NativeMatrix.assemble, bind_error hask]
    refine ⟨iff_of_false nofun fun h => ?_, nofun, ?_⟩
    · refine hfails.not_passes (h failing ?_)
      rw [hsplit]
      simp
    · rintro _ ⟨⟩
      refine ⟨before, failing, later, made, hsplit, hall, hfails, ?_⟩
      exact congrArg (List.cons _) hcalls

/-- A library that fails on the distance between columns. Its state is what was asked for last. -/
def brittle : NativeLibrary (Option Measure) where
  newErrorHandle t := (some ⟨1⟩, t)
  freeErrorHandle _ t := t
  errorState t _ := if t = some .colStride then { code := 7 } else {}
  newSized _ _ _ t := (none, t)
  destroy _ _ _ t := t
  get _ _ _ _ _ _ t := (default, t)
  set _ _ _ _ _ _ _ t := t
  measure _ which _ _ _ := (3, some which)
  data _ _ _ t := (0, t)
  load _ _ _ := default
  store _ _ _ t := t

/-- Its layouts fail at the fourth question, and the fifth is not asked. -/
theorem layout_brittle :
    let symbols : List String := [errorHandleNew, errorHandleDestroy] ++
      [Measure.rows, .cols, .rowStride, .colStride].map fun which =>
        SymbolFamily.symbol ⟨"XXd"⟩ which.entry
    let table : SymbolTable := ⟨"table", symbols.map (·, 1)⟩
    let matrix : NativeMatrix := ⟨⟨0⟩, true, ⟨"XXd"⟩, table.source⟩
    let ended := matrix.layout brittle ⟨none, [], []⟩
    (matrix.source.resolves errorHandleNew = true ∧
      matrix.source.resolves errorHandleDestroy = true ∧
      brittle.newErrorHandle none = (some ⟨1⟩, none)) ∧
    Queried (Question.queries brittle matrix ⟨1⟩ Question.all none) ⟨1⟩ ⟨none, [], []⟩
      ended.1 ended.2 ∧
    ended.1 = .error (.nativeOperation "vital_eigen_matrixXXd_col_stride" 7 "(no message)") := by
  intro symbols table matrix ended
  have hnew : matrix.source.resolves errorHandleNew = true := by decide
  have hdestroy : matrix.source.resolves errorHandleDestroy = true := by decide
  exact ⟨⟨hnew, hdestroy, rfl⟩, NativeMatrix.layout_queried brittle hnew hdestroy rfl,
    by decide +kernel⟩

end ForeignMatrix
