import ForeignMatrix.Scenario.Step
import ForeignMatrix.View.Narration

/-!
# Running a scenario

The answer of each step together with the calls and notices it caused. At the
end of a scenario the views that remain are dropped in the order of their slot
names, then the references in the order of theirs.
-/

namespace ForeignMatrix

/-- Why a step is refused. -/
inductive Refusal where
  /-- The binder refuses it. -/
  | fault (fault : Fault)
  /-- No view is in the slot. -/
  | noSuchView
  /-- No reference is in the slot. -/
  | noSuchHold
  /-- A pointer that must not be null is. -/
  | nullPointer
  deriving Repr

/-- What a step answers. -/
inductive Reply where
  /-- Nothing to tell. -/
  | done
  /-- Yes or no. -/
  | flag (value : Bool)
  /-- Several times yes or no. -/
  | flags (values : List Bool)
  /-- Identity of a new view. -/
  | view (id : Nat)
  /-- Pointer of a new matrix. -/
  | matrix (pointer : MatrixPointer)
  /-- An element. -/
  | value (value : Element.Binary .double)
  /-- Whether a matrix is alive, and its storage. -/
  | storage (alive : Bool) (cells : List (Element.Binary .double))
  /-- All elements of a view, row by row. -/
  | array (extents : Nat × Nat) (rows : List (List (Element.Binary .double)))
  /-- A text. -/
  | text (value : String)
  /-- Several texts. -/
  | texts (values : List String)
  /-- Defaults of the binder. -/
  | defaults (defaults : ViewDefaults)
  /-- A view, the pointer of its matrix and the number of its elements. -/
  | info (view : View) (pointer : Option MatrixPointer) (count : Nat)
  /-- A native matrix. -/
  | held (matrix : NativeMatrix)

/-- State of a scenario. -/
structure Scene where
  /-- Views and matrices. -/
  workspace : Workspace StandIn := { session := { native := {} } }
  /-- The binder in use. -/
  binder : Binder
  /-- Views by slot. -/
  slots : List (String × Nat) := []
  /-- References by slot. -/
  holds : List (String × Nat) := []

/-- An operation on a scene that may be refused; what it did before stays done. -/
abbrev SceneAction := ExceptT Refusal (StateM Scene)

namespace SceneAction

/-- Runs an operation of the workspace. -/
def views {α : Type} (action : ViewAction StandIn α) : SceneAction α := fun scene =>
  let (result, workspace) := action scene.workspace
  (result.mapError .fault, { scene with workspace })

/-- Changes the stand-in library. -/
def standIn (change : StandIn → StandIn) : SceneAction Unit :=
  modify fun scene =>
    { scene with workspace.session.native := change scene.workspace.session.native }

/-- View in a slot. -/
def findView (slot : String) : SceneAction View := do
  let scene ← get
  match (scene.slots.lookup slot).bind scene.workspace.view? with
  | some view => pure view
  | none => throw .noSuchView

/-- Puts a new view into a slot; the view that was there is dropped. -/
def putView (slot : String) (id : Nat) : SceneAction Reply := do
  let scene ← get
  set { scene with slots := (slot, id) :: scene.slots.filter (·.1 != slot) }
  match scene.slots.lookup slot with
  | some old => views (.drop StandIn.library old)
  | none => pure ()
  pure (.view id)

/-- Pointer from the place a step names. -/
def findPointer : PointerOrigin → SceneAction (Option MatrixPointer)
  | .null => pure none
  | .matrix number => do
    let found := (← get).workspace.session.native.matrix? number
    pure (found.map fun _ => ⟨number⟩)
  | .view slot => do
    let scene ← get
    pure ((scene.slots.lookup slot).bind scene.workspace.view? |>.bind scene.workspace.pointer?)

/-- Acquires a view on request and puts it into a slot. -/
def bind (slot : String) (step : BindStep) : SceneAction Reply := do
  let parent ← match step.parent with
    | some name => some <$> findView name
    | none => pure none
  let existing ← match step.existing with
    | some origin => some <$> findPointer origin
    | none => pure none
  let binder := (← get).binder
  putView slot (← views (binder.bind StandIn.library { step.request with existing, parent }))

/-- Element of a plane that rises along both axes. -/
def plane (start rowStep colStep : Element.Binary .double) (i j : Nat) :
    Element.Binary .double :=
  let number (x : Element.Binary .double) : Float := Float.ofBits x.toBits.toUInt64
  let value := number start + number rowStep * Float.ofNat i + number colStep * Float.ofNat j
  .ofBits .double value.toBits.toNat

/-- Injects an outcome. -/
def inject (point : FailurePoint) (injection : Injection) (state : StandIn) : StandIn :=
  match point with
  | .errorHandle => { state with refusesHandles := true }
  | .entry entry =>
    { state with injected := (entry, injection) :: state.injected.filter (·.1 != entry) }

/-- Removes an injected outcome. -/
def cure (point : FailurePoint) (state : StandIn) : StandIn :=
  match point with
  | .errorHandle => { state with refusesHandles := false }
  | .entry entry => { state with injected := state.injected.filter (·.1 != entry) }

/-- Misreports a number, or reports the true one again. -/
def misreport (measure : Measure) (value : Option Int) (state : StandIn) : StandIn :=
  let others := state.reported.filter (·.1 != measure)
  { state with reported := match value with
      | some value => (measure, value) :: others
      | none => others }

/-- Storage of a matrix as doubles. -/
def storage (matrix : StandInMatrix) : List (Element.Binary .double) :=
  (matrix.storage.elim [] (·.toList)).map Element.widen

/-- Carries out one step. -/
def run : Step → SceneAction Reply
  | .external matrix => do
    let scene ← get
    let (pointer, native) := scene.workspace.session.native.addMatrix matrix
    standIn fun _ => native
    pure (.matrix pointer)
  | .release number => do
    standIn fun state =>
      match state.matrix? number with
      | some matrix => state.setMatrix number { matrix with alive := false }
      | none => state
    pure .done
  | .peek number => do
    match (← get).workspace.session.native.matrix? number with
    | some matrix => pure (.storage matrix.alive (storage matrix))
    | none => throw .nullPointer
  | .fail point injection => do standIn (inject point injection); pure .done
  | .unfail point => do standIn (cure point); pure .done
  | .report measure value => do standIn (misreport measure value); pure .done
  | .hideStorage on => do standIn ({ · with hidesStorage := on }); pure .done
  | .layout rowMajor => do standIn ({ · with rowMajor }); pure .done
  | .defaults defaults => do
    modify fun scene => { scene with binder.defaults := defaults }
    pure (.defaults defaults)
  | .binderText => return .texts [(← get).binder.debugText, (← get).binder.source.name]
  | .bind slot step => bind slot step
  | .create slot kind shape => do
    let binder := (← get).binder
    putView slot (← views (binder.create StandIn.library kind shape))
  | .adopt slot kind shape origin owns => do
    match ← findPointer origin with
    | none => throw .nullPointer
    | some pointer =>
      let binder := (← get).binder
      putView slot (← views (binder.adopt StandIn.library kind shape pointer owns))
  | .drop slot => do
    let scene ← get
    match scene.slots.lookup slot with
    | none => pure (.flag false)
    | some id =>
      set { scene with slots := scene.slots.filter (·.1 != slot) }
      views (.drop StandIn.library id)
      pure (.flag true)
  | .into slot kind => return .flag ((← findView slot).kind = kind)
  | .kinds slot => do
    let view ← findView slot
    let fits := ElementKind.all.map (view.kind == ·)
    pure (.flags (fits ++ fits))
  | .get slot row col => return .value (← views (.read StandIn.library (← findView slot) row col))
  | .getBase slot row col =>
    return .value (← views (.readBase StandIn.library (← findView slot) row col))
  | .set slot row col value => do
    views (.write StandIn.library (← findView slot) row col value)
    pure .done
  | .finalize slot => do
    views (.finalize StandIn.library (← findView slot).id)
    pure .done
  | .array slot => do
    let view ← findView slot
    let rows ← views (.toArray StandIn.library view)
    pure (.array view.window.extents (rows.map (·.map Element.widen)))
  | .ramp slot start rowStep colStep => do
    let view ← findView slot
    views (.fill StandIn.library view fun i j =>
      Element.narrow view.kind (plane start rowStep colStep i j))
    pure .done
  | .info slot => do
    let view ← findView slot
    let count ← views (.checked view.window.checkCount)
    pure (.info view ((← get).workspace.pointer? view) count)
  | .debugText slot => return .text (← findView slot).debugText
  | .slice source slot rows cols => do
    putView slot (← views (.slice (← findView source) rows cols))
  | .row source slot position => do putView slot (← views (.row (← findView source) position))
  | .column source slot position => do
    putView slot (← views (.column (← findView source) position))
  | .transpose source slot => do putView slot (← views (.transpose (← findView source)))
  | .derive source slot kind chain => do
    let view ← findView source
    let transform := Reshaping.applyAll view.kind chain
    putView slot (← views (match kind with
      | some kind => .deriveAs kind view transform
      | none => .derive view transform))
  | .hold source slot => do
    match ← views (.takeHandle (← findView source)) with
    | none => pure (.flag false)
    | some matrix =>
      let scene ← get
      set { scene with holds := (slot, matrix) :: scene.holds.filter (·.1 != slot) }
      match scene.holds.lookup slot with
      | some old => views (.dropHandle StandIn.library old)
      | none => pure ()
      pure (.flag true)
  | .held slot => do
    let scene ← get
    match (scene.holds.lookup slot).bind scene.workspace.matrices with
    | some matrix => pure (.held matrix)
    | none => throw .noSuchHold
  | .unhold slot => do
    let scene ← get
    match scene.holds.lookup slot with
    | none => pure (.flag false)
    | some matrix =>
      set { scene with holds := scene.holds.filter (·.1 != slot) }
      views (.dropHandle StandIn.library matrix)
      pure (.flag true)

/-- Drops what remains at the end of a scenario. -/
def finish : SceneAction Unit := do
  let byName (entries : List (String × Nat)) := entries.mergeSort fun a b => a.1 ≤ b.1
  let scene ← get
  (byName scene.slots).forM fun (_, id) => views (.drop StandIn.library id)
  (byName scene.holds).forM fun (_, matrix) => views (.dropHandle StandIn.library matrix)

end SceneAction

/-- Outcome of one step with what it caused, in order. -/
structure StepRecord where
  /-- Reply, or why the step was refused. -/
  outcome : Except Refusal Reply
  /-- Calls made during the step. -/
  calls : List NativeCall
  /-- Notices written during the step. -/
  notices : List Notice

/-- Outcome of a whole scenario. -/
structure ScenarioRecord where
  /-- One record for each step. -/
  steps : List StepRecord
  /-- What dropping the rest caused. -/
  ending : StepRecord
  /-- For each native matrix, whether it is alive at the end. -/
  alive : List Bool

namespace Scene

/-- Carries out an operation and takes the record of what it caused. -/
def record (action : SceneAction Reply) (scene : Scene) : StepRecord × Scene :=
  let (outcome, scene) := action scene
  let session := scene.workspace.session
  (⟨outcome, session.calls.reverse, session.notices.reverse⟩,
    { scene with workspace.session := { session with calls := [], notices := [] } })

/-- Carries out steps in order. -/
def recordAll (scene : Scene) : List Step → List StepRecord × Scene
  | [] => ([], scene)
  | step :: steps =>
    let (first, scene) := scene.record (SceneAction.run step)
    let (rest, scene) := scene.recordAll steps
    (first :: rest, scene)

/-- Carries out a scenario. -/
def runAll (scene : Scene) (steps : List Step) : ScenarioRecord :=
  let (records, scene) := scene.recordAll steps
  let (ending, scene) := scene.record (do SceneAction.finish; pure .done)
  ⟨records, ending, scene.workspace.session.native.matrices.toList.map (·.alive)⟩

end Scene

end ForeignMatrix
