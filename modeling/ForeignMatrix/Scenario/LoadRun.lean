import ForeignMatrix.Scenario.LoadStep
import ForeignMatrix.StandIn.Basic
import ForeignMatrix.View.Access

/-!
# Running a loading scenario

Every loadable file holds the same stand-in library, which serves the families
of two by two and of open extents for both element kinds. A path finds a file
only if it has a slash: bare file names are looked for in the directories of
the system, which hold no such library. The empty path stands for the running
program, which exports no entry points.
-/

namespace ForeignMatrix

/-- Why a step of a loading scenario is refused. -/
inductive LoadRefusal where
  /-- The library or the view refuses it. -/
  | fault (fault : Fault)
  /-- Settings cannot be put to use. -/
  | settings (fault : SettingsFault)
  /-- No library is in the slot. -/
  | noSuchLibrary
  /-- No binder has been opened. -/
  | noBinder
  /-- No view has been acquired. -/
  | noView
  /-- A holder of the lock of the shared registry failed. -/
  | poisoned

/-- What a registry tells about a key. -/
structure RegistryReport where
  /-- Number of keys. -/
  size : Nat
  /-- Whether the key is present. -/
  contains : Bool
  /-- Path of the library under the key. -/
  path : Option String

/-- What a step of a loading scenario answers. -/
inductive LoadReply where
  /-- Nothing to tell. -/
  | done
  /-- A library was loaded from a path; the slots that hold the very same one. -/
  | loaded (path : String) (sameAs : List String)
  /-- A symbol is there. -/
  | found
  /-- What the shared registry tells. -/
  | registry (report : RegistryReport)
  /-- Number of keys of the scenario's own registry. -/
  | count (size : Nat)
  /-- What the scenario's own registry tells. -/
  | kept (report : RegistryReport)
  /-- Debug text of the current binder. -/
  | binder (text : String)
  /-- The new view. -/
  | view (view : View)
  /-- An element. -/
  | value (value : Element.Binary .double)

/-- State of a loading scenario. -/
structure LoadScene where
  /-- Nodes of the host; a file is a loadable library or not. -/
  files : FileTree Bool := {}
  /-- The shared registry. -/
  shared : SharedRegistry := {}
  /-- The scenario's own registry. -/
  own : LibraryRegistry := []
  /-- Libraries by slot. -/
  slots : List (String × LoadedLibrary) := []
  /-- The current binder. -/
  binder : Option Binder := none
  /-- Identity of the current view. -/
  view : Option Nat := none
  /-- Views and matrices. -/
  workspace : Workspace StandIn := { session := { native := { sizeLimit := none } } }

/-- An operation on a loading scene that may be refused. -/
abbrev LoadAction := ExceptT LoadRefusal (StateM LoadScene)

namespace LoadAction

/-- Families that the stand-in library of a file serves. -/
def families : List SymbolFamily := ["2x2d", "XxXd", "2x2f", "XxXf"].map SymbolFamily.mk

/-- Symbols that the stand-in library of a file exports. -/
def exportsSymbol (symbol : String) : Bool := (StandIn.table "" families [] []).contains symbol

/-- The path that the system takes: a null byte at the very end only ends it. -/
def terminated (path : HostPath) : HostPath :=
  if path.bytes.getLast? = some 0 then ⟨path.bytes.dropLast⟩ else path

/-- What a path loads. -/
def imageAt? (files : FileTree Bool) (path : HostPath) : Option (String → Bool) :=
  let path := terminated path
  if path.bytes = [] then some fun _ => false
  else if HostPath.slash ∈ path.bytes ∧ files.read? path = some true then some exportsSymbol
  else none

/-- What the files let a process load. -/
def host (files : FileTree Bool) : LibraryHost := ⟨files.isFile, imageAt? files⟩

/-- Answers a request that goes past the registry. -/
def loadFresh (load : (serial : Nat) → Except Fault LoadedLibrary) :
    LoadAction LoadedLibrary := do
  let scene ← get
  match load scene.shared.nextSerial with
  | .error fault => throw (.fault fault)
  | .ok library =>
    set { scene with shared.nextSerial := scene.shared.nextSerial + 1 }
    pure library

/-- Runs a request to the shared registry. -/
def useShared {ε α : Type} (refuse : ε → LoadRefusal)
    (request : LibraryHost → SharedRegistry → Except ε α × SharedRegistry) :
    LoadAction α := fun scene =>
  let (result, shared) := request (host scene.files) scene.shared
  (result.mapError refuse, { scene with shared })

/-- Loads a library. -/
def load (request : LoadRequest) : LoadAction LoadedLibrary := do
  let host := host (← get).files
  match request with
  | .sharedName name => useShared .fault fun host => SharedRegistry.loadName host name
  | .sharedPath path => useShared .fault fun host => SharedRegistry.loadPath host (.ofText path)
  | .freshPath path => loadFresh (LoadedLibrary.load host · (.ofText path))
  | .freshName name => loadFresh (LoadedLibrary.loadByName host · name)

/-- Library in a slot. -/
def findLibrary (slot : String) : LoadAction LoadedLibrary := do
  match (← get).slots.lookup slot with
  | some library => pure library
  | none => throw .noSuchLibrary

/-- The current binder. -/
def currentBinder : LoadAction Binder := do
  match (← get).binder with
  | some binder => pure binder
  | none => throw .noBinder

/-- Makes a binder the current one. -/
def putBinder (binder : Binder) : LoadAction LoadReply := do
  modify ({ · with binder := some binder })
  pure (.binder binder.debugText)

/-- Runs an operation of the workspace. -/
def views {α : Type} (action : ViewAction StandIn α) : LoadAction α := fun scene =>
  let (result, workspace) := action scene.workspace
  (result.mapError .fault, { scene with workspace })

/-- View with an identity. -/
def viewOf (id : Option Nat) : LoadAction View := do
  match id.bind (← get).workspace.view? with
  | some view => pure view
  | none => throw .noView

/-- What a registry tells about a key. -/
def report (registry : LibraryRegistry) (key : String) : RegistryReport :=
  ⟨registry.length, registry.contains key, (registry.find? key).map (·.path)⟩

/-- Carries out one step. -/
def run : LoadStep → LoadAction LoadReply
  | .place path node => do
    modify fun scene => { scene with files := scene.files.putAt path node }
    pure .done
  | .load slot request => do
    let library ← load request
    let scene ← get
    let same := scene.slots.filter fun entry => entry.2.serial == library.serial
    set { scene with slots := (slot, library) :: scene.slots.filter (·.1 != slot) }
    pure (.loaded library.source.name ((same.map (·.1)).mergeSort fun a b => a ≤ b))
  | .symbol slot name => do
    match (← findLibrary slot).source.resolve name with
    | .ok _ => pure .found
    | .error fault => throw (.fault fault)
  | .registry key => do
    let shared := (← get).shared
    if shared.poisoned then throw .poisoned
    pure (.registry (report shared.registry key))
  | .poison => do
    modify fun scene => { scene with shared.poisoned := true }
    pure .done
  | .keep slot key => do
    let library ← findLibrary slot
    modify fun scene => { scene with own := scene.own.insert key library }
    return .count (← get).own.length
  | .kept key => return .kept (report (← get).own key)
  | .openBinder (.path path) => do
    putBinder (← useShared .fault fun host => SharedRegistry.bindPath host (.ofText path))
  | .openBinder (.name name) => do
    putBinder (← useShared .fault fun host => SharedRegistry.bindName host name)
  | .openBinder (.settings settings) => do
    putBinder (← useShared .settings fun host => SharedRegistry.bindSettings host settings)
  | .defaults defaults => do putBinder { ← currentBinder with defaults }
  | .bind request => do
    let id ← views ((← currentBinder).bind StandIn.library request)
    let old := (← get).view
    modify ({ · with view := some id })
    match old with
    | some old => views (.drop StandIn.library old)
    | none => pure ()
    return .view (← viewOf (some id))
  | .setGet row col value => do
    let view ← viewOf (← get).view
    views (.write StandIn.library view row col value)
    return .value (← views (.read StandIn.library view row col))

end LoadAction

/-- Carries out the steps of a loading scenario in order. -/
def LoadScene.runAll (scene : LoadScene) : List LoadStep → List (Except LoadRefusal LoadReply)
  | [] => []
  | step :: steps =>
    let (outcome, scene) := LoadAction.run step scene
    outcome :: scene.runAll steps

end ForeignMatrix
