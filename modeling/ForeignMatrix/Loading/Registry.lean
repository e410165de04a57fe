import ForeignMatrix.Loading.Library

/-!
# Library registries

A registry keeps loaded libraries by the key they were requested under. A
request whose key is present is answered from the registry; any other is
answered by loading, and only a success is kept.
-/

namespace ForeignMatrix

/-- Libraries by key, each key once. -/
abbrev LibraryRegistry := List (String × LoadedLibrary)

namespace LibraryRegistry

/-- Library under a key. -/
def find? (registry : LibraryRegistry) (key : String) : Option LoadedLibrary :=
  registry.lookup key

/-- Whether a key is present. -/
def contains (registry : LibraryRegistry) (key : String) : Bool := (registry.find? key).isSome

/-- Enters a library; an earlier one under the key is replaced. -/
def insert (registry : LibraryRegistry) (key : String) (library : LoadedLibrary) :
    LibraryRegistry :=
  (key, library) :: registry.filter (·.1 != key)

end LibraryRegistry

/-- The registry that a process shares, with the count of libraries loaded. -/
structure SharedRegistry where
  /-- Libraries by key. -/
  registry : LibraryRegistry := []
  /-- Whether a holder of the lock failed, which bars every later request. -/
  poisoned : Bool := false
  /-- Number of the next library to be loaded. -/
  nextSerial : Nat := 0

namespace SharedRegistry

/-- Answers a request from the registry or, failing that, by loading. -/
def request (shared : SharedRegistry) (key : String)
    (load : (serial : Nat) → Except Fault LoadedLibrary) :
    Except Fault LoadedLibrary × SharedRegistry :=
  if shared.poisoned then
    (.error (.libraryLoad key "library registry lock poisoned"), shared)
  else
    match shared.registry.find? key with
    | some library => (.ok library, shared)
    | none =>
      match load shared.nextSerial with
      | .error fault => (.error fault, shared)
      | .ok library =>
        (.ok library,
          { shared with
            registry := shared.registry.insert key library
            nextSerial := shared.nextSerial + 1 })

/-- Requests a library by path; the path as texts show it is the key. -/
def loadPath (host : LibraryHost) (path : HostPath) (shared : SharedRegistry) :
    Except Fault LoadedLibrary × SharedRegistry :=
  shared.request path.shown fun serial => LoadedLibrary.load host serial path

/-- Requests a library by base name; the name is the key. -/
def loadName (host : LibraryHost) (name : String) (shared : SharedRegistry) :
    Except Fault LoadedLibrary × SharedRegistry :=
  shared.request name fun serial => LoadedLibrary.loadByName host serial name

end SharedRegistry

end ForeignMatrix
