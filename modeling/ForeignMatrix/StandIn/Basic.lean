import ForeignMatrix.Native.Library
import ForeignMatrix.StandIn.Storage

/-!
# A stand-in library

A native library whose behaviour is known in every detail. Its matrices are
numbered in order of creation and keep flat storage that stays readable after
they are destroyed. Switches make entry points fail, misreport extents, report
no storage or choose a row-major layout.
-/

namespace ForeignMatrix

/-- A matrix of the stand-in library. -/
structure StandInMatrix where
  /-- Kind of the elements. -/
  kind : ElementKind
  /-- Number of rows. -/
  rows : Int
  /-- Number of columns. -/
  cols : Int
  /-- Distance between rows, in elements. -/
  rowStride : Int
  /-- Distance between columns, in elements. -/
  colStride : Int
  /-- Storage index of element `(0, 0)`. -/
  offset : Int
  /-- Flat storage; none where there was no room for it. -/
  storage : Option (Storage kind)
  /-- Whether the matrix has not been destroyed. -/
  alive : Bool := true

namespace StandInMatrix

/-- Element at a storage index. -/
def cell (matrix : StandInMatrix) (kind : ElementKind) (index : Int) : Element kind :=
  match matrix.storage with
  | none => default
  | some storage => if h : matrix.kind = kind then h ▸ storage.get index else default

/-- Replaces the element at a storage index. -/
def setCell (matrix : StandInMatrix) (kind : ElementKind) (index : Int)
    (value : Element kind) : StandInMatrix :=
  if h : kind = matrix.kind then
    { matrix with storage := matrix.storage.map (·.set index (h ▸ value)) }
  else matrix

/-- Storage index of element `(row, col)`. -/
def index (matrix : StandInMatrix) (row col : Int) : Int :=
  matrix.offset + row * matrix.rowStride + col * matrix.colStride

end StandInMatrix

/-- Injected outcome of an entry point. -/
structure Injection where
  /-- Error code; zero makes the call look like a success. -/
  code : Int
  /-- Bytes of the message, if there is one. -/
  message : Option (List UInt8)
  deriving DecidableEq, Repr

/-- State of the stand-in library. -/
structure StandIn where
  /-- Matrices in order of creation; the first has number one. -/
  matrices : Array StandInMatrix := #[]
  /-- Errors held by the error handles that exist. -/
  handles : List (Nat × ErrorState) := []
  /-- Number of the next error handle. -/
  nextHandle : Nat := 1
  /-- Entry points with injected outcomes. -/
  injected : List (Entry × Injection) := []
  /-- Whether no error handle is handed out. -/
  refusesHandles : Bool := false
  /-- Numbers reported instead of the true ones. -/
  reported : List (Measure × Int) := []
  /-- Whether no storage is reported. -/
  hidesStorage : Bool := false
  /-- Whether new matrices store rows one after another. -/
  rowMajor : Bool := false
  /-- Greatest number of elements of a matrix that the library constructs, if
  there is one. -/
  sizeLimit : Option Int := some 10000

namespace StandIn

/-- Distance between the storages of consecutive matrices, in bytes. No offset
that fits a machine word leads halfway to the next one. -/
def blockSize : Int := 0x100000000000000000000

/-- Address of the storage of a matrix. -/
def blockAddress (number : Nat) : Int := number * blockSize

/-- Address of memory that belongs to no matrix. -/
def strayAddress : Int := -blockSize

/-- Number of the matrix to whose storage an address is nearest. -/
def owner (address : Int) : Int := (address + blockSize / 2) / blockSize

/-- How texts show an address of storage. -/
def addressText (address : Int) : String :=
  if address = 0 then "null" else "data#" ++ toString (owner address)

/-- Matrix with this number. -/
def matrix? (state : StandIn) (number : Nat) : Option StandInMatrix :=
  if number = 0 then none else state.matrices[number - 1]?

/-- Replaces the matrix with this number. -/
def setMatrix (state : StandIn) (number : Nat) (matrix : StandInMatrix) : StandIn :=
  if number = 0 then state
  else { state with matrices := state.matrices.setIfInBounds (number - 1) matrix }

/-- Adds a matrix and answers its pointer. -/
def addMatrix (state : StandIn) (matrix : StandInMatrix) : MatrixPointer × StandIn :=
  (⟨state.matrices.size + 1⟩, { state with matrices := state.matrices.push matrix })

/-- Kind that a family serves: its suffix ends in the tag of the kind. -/
def familyKind (family : SymbolFamily) : ElementKind :=
  if family.suffix.endsWith (ElementKind.single.tag.toString) then .single else .double

/-- Puts an error into a handle. -/
def report (handle : ErrorHandle) (code : Int) (message : Option (List UInt8))
    (state : StandIn) : StandIn :=
  { state with
    handles := state.handles.map fun (number, error) =>
      if number = handle.number then (number, ⟨code, message⟩) else (number, error) }

/-- Puts an error with a text into a handle. -/
def reportText (handle : ErrorHandle) (code : Int) (message : String) (state : StandIn) :
    StandIn :=
  report handle code (some message.toUTF8.toList) state

/-- What an entry point checks before its own work: an injected outcome, then
that the matrix is alive, then that the family serves its elements. Answers
the matrix if nothing stands in the way, and the state with the error noted. -/
def enter (entry : Entry) (family : SymbolFamily) (pointer : MatrixPointer)
    (handle : ErrorHandle) (state : StandIn) : Option StandInMatrix × StandIn :=
  match state.injected.lookup entry with
  | some injection => (none, report handle injection.code injection.message state)
  | none =>
    match state.matrix? pointer.number with
    | none => (none, reportText handle 9 "dead matrix" state)
    | some matrix =>
      if !matrix.alive then (none, reportText handle 9 "dead matrix" state)
      else if matrix.kind ≠ familyKind family then
        (none, reportText handle 7 "element type mismatch" state)
      else (some matrix, state)

/-- Whether indices lie within the matrix; an error is noted if they do not. -/
def inRange (matrix : StandInMatrix) (row col : Int) (handle : ErrorHandle)
    (state : StandIn) : Bool × StandIn :=
  if 0 ≤ row ∧ row < matrix.rows ∧ 0 ≤ col ∧ col < matrix.cols then (true, state)
  else
    (false, reportText handle 3
      ("index (" ++ toString row ++ ", " ++ toString col ++ ") out of range") state)

/-- Number of bytes for which there is no room any more. -/
def memoryLimit : Int := 0x800000000

/-- A new matrix with all elements zero. -/
def blank (kind : ElementKind) (rows cols : Int) (rowMajor : Bool) : StandInMatrix :=
  { kind, rows, cols
    rowStride := if rowMajor then cols else 1
    colStride := if rowMajor then 1 else rows
    offset := 0
    storage := if memoryLimit ≤ rows * cols * kind.size then none
      else some (.zeros kind (rows * cols).toNat) }

/-- Creates an error handle, unless the switch is set. -/
def newErrorHandle (state : StandIn) : Option ErrorHandle × StandIn :=
  if state.refusesHandles then (none, state)
  else
    (some ⟨state.nextHandle⟩,
      { state with
        handles := (state.nextHandle, {}) :: state.handles
        nextHandle := state.nextHandle + 1 })

/-- Creates a matrix, unless a failure is injected or it would be too large. -/
def newSized (family : SymbolFamily) (rows cols : Int) (state : StandIn) :
    Option MatrixPointer × StandIn :=
  if (state.injected.lookup .newSized).isSome ∨ state.sizeLimit.any (· < rows * cols) then
    (none, state)
  else
    let (pointer, state) := state.addMatrix (blank (familyKind family) rows cols state.rowMajor)
    (some pointer, state)

/-- True value of a number about a matrix. -/
def trueMeasure (matrix : StandInMatrix) : Measure → Int
  | .rows => matrix.rows
  | .cols => matrix.cols
  | .rowStride => matrix.rowStride
  | .colStride => matrix.colStride

/-- Number of the matrix to which an address belongs, and the storage index of
the element there, which the storage need not reach. -/
def locate (kind : ElementKind) (address : Int) : Nat × Int :=
  ((owner address).toNat, (address - owner address * blockSize) / kind.size)

/-- The stand-in as a native library. -/
def library : NativeLibrary StandIn where
  newErrorHandle := newErrorHandle
  freeErrorHandle handle state :=
    { state with handles := state.handles.filter (·.1 != handle.number) }
  errorState state handle := (state.handles.lookup handle.number).getD {}
  newSized := newSized
  destroy family pointer handle state :=
    let (found, state) := enter .destroy family pointer handle state
    match found with
    | none => state
    | some matrix => state.setMatrix pointer.number { matrix with alive := false }
  get family kind pointer row col handle state :=
    let (found, state) := enter .get family pointer handle state
    match found with
    | none => (default, state)
    | some matrix =>
      let (fits, state) := inRange matrix row col handle state
      (if fits then matrix.cell kind (matrix.index row col) else default, state)
  set family kind pointer row col value handle state :=
    let (found, state) := enter .set family pointer handle state
    match found with
    | none => state
    | some matrix =>
      let (fits, state) := inRange matrix row col handle state
      if fits then
        state.setMatrix pointer.number (matrix.setCell kind (matrix.index row col) value)
      else state
  measure family which pointer handle state :=
    let (found, state) := enter which.entry family pointer handle state
    match found with
    | none => (0, state)
    | some matrix => ((state.reported.lookup which).getD (trueMeasure matrix which), state)
  data family pointer handle state :=
    let (found, state) := enter .data family pointer handle state
    match found with
    | none => (0, state)
    | some matrix =>
      (if state.hidesStorage ∨ matrix.storage.isNone then 0
        else blockAddress pointer.number + matrix.offset * matrix.kind.size, state)
  load kind address state :=
    let (number, index) := locate kind address
    match state.matrix? number with
    | none => default
    | some matrix => matrix.cell kind index
  store kind address value state :=
    let (number, index) := locate kind address
    match state.matrix? number with
    | none => state
    | some matrix => state.setMatrix number (matrix.setCell kind index value)

/-- Table of all entry points of the given families. Symbols in `missing` are
not registered and those in `null` have a null address. -/
def table (name : String) (families : List SymbolFamily) (missing null : List String) :
    SymbolTable :=
  let symbols := [errorHandleNew, errorHandleDestroy]
    ++ families.flatMap fun family => Entry.all.map family.symbol
  let present := (symbols ++ null).filter (!missing.contains ·)
  present.foldl (fun table symbol => table.insert symbol (if null.contains symbol then 0 else 1))
    { name }

end StandIn

/-- Text of a call in a transcript. -/
def NativeCall.text : NativeCall → String
  | newErrorHandle (some _) => "eh_new"
  | newErrorHandle none => "eh_new=null"
  | freeErrorHandle _ => "eh_destroy"
  | newSized family rows cols result =>
    call family .newSized [toString rows, toString cols] ++
      match result with
      | some pointer => "=#" ++ toString pointer.number
      | none => "=null"
  | destroy family matrix _ => call family .destroy [pointerText matrix]
  | get family matrix row col _ =>
    call family .get [pointerText matrix, toString row, toString col]
  | set family matrix row col value _ =>
    call family .set [pointerText matrix, toString row, toString col, value.text]
  | measure family which matrix _ => call family which.entry [pointerText matrix]
  | data family matrix _ => call family .data [pointerText matrix]
where
  /-- Number of a matrix after a hash sign. -/
  pointerText (matrix : MatrixPointer) : String := "#" ++ toString matrix.number
  /-- Suffix, word and arguments of a call. -/
  call (family : SymbolFamily) (entry : Entry) (arguments : List String) : String :=
    family.suffix ++ "_" ++ entry.word ++ "(" ++ ",".intercalate arguments ++ ")"

end ForeignMatrix
