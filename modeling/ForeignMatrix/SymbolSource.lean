import ForeignMatrix.Fault

/-!
# Symbol sources

Anything that hands out addresses of entry points by symbol. A symbol resolves
when its source knows it and its address is not null. A symbol table is the
source for entry points that are registered one by one.
-/

namespace ForeignMatrix

/-- A named origin of entry points. -/
structure SymbolSource where
  /-- Name of the source in error texts. -/
  name : String
  /-- Address of a symbol, or the fault that reports its absence. -/
  address : String → Except Fault Nat

/-- Address of a symbol that may be called. A null address is refused. -/
def SymbolSource.resolve (source : SymbolSource) (symbol : String) : Except Fault Nat :=
  match source.address symbol with
  | .error fault => .error fault
  | .ok 0 => .error (.symbolNotFound symbol source.name "symbol resolved to a null address")
  | .ok address => .ok address

/-- Registered symbols with their addresses, each symbol once. -/
structure SymbolTable where
  /-- Name of the table in error texts. -/
  name : String
  /-- Registered symbols, the latest first. -/
  entries : List (String × Nat) := []
  deriving Repr

namespace SymbolTable

/-- Registers a symbol; an earlier registration of it is replaced. -/
def insert (table : SymbolTable) (symbol : String) (address : Nat) : SymbolTable :=
  { table with entries := (symbol, address) :: table.entries.filter (·.1 != symbol) }

/-- Whether a symbol is registered. -/
def contains (table : SymbolTable) (symbol : String) : Bool :=
  (table.entries.lookup symbol).isSome

/-- Number of registered symbols. -/
def size (table : SymbolTable) : Nat := table.entries.length

/-- Whether no symbol is registered. -/
def isEmpty (table : SymbolTable) : Bool := table.entries.isEmpty

/-- Registered address of a symbol; it may be null. -/
def address (table : SymbolTable) (symbol : String) : Except Fault Nat :=
  match table.entries.lookup symbol with
  | some address => .ok address
  | none => .error (.symbolNotFound symbol table.name "not registered")

/-- The table as a source of entry points. -/
def source (table : SymbolTable) : SymbolSource := ⟨table.name, table.address⟩

end SymbolTable

end ForeignMatrix
