import ForeignMatrix.HostPath
import ForeignMatrix.SymbolSource

/-!
# Loaded libraries

Shared libraries are loaded by path or by base name. A base name stands for a
file in the working directory and, failing that, for a bare file name that the
system's own search may find. A path may be any bytes, also such that encode no
text. What the host can load at the moment of a request is given to the request.
-/

namespace ForeignMatrix

/-- What a host can load at one moment. -/
structure LibraryHost where
  /-- Whether a path finds a regular file. -/
  isFile : HostPath → Bool
  /-- Symbols exported by the library that a path or bare file name loads, if
  it loads one. -/
  image? : HostPath → Option (String → Bool)

/-- A library that was loaded. -/
structure LoadedLibrary where
  /-- Number that no other loaded library has. -/
  serial : Nat
  /-- Path or bare file name that the system loaded it from. -/
  origin : HostPath
  /-- Whether a symbol is exported. -/
  exportsSymbol : String → Bool

/-- Stands for the system's own words on a failed load or look-up. -/
def loaderMessage : String := "<loader>"

namespace LoadedLibrary

/-- Path or bare file name that texts show for the library. -/
def path (library : LoadedLibrary) : String := library.origin.shown

/-- Address of an exported symbol. -/
def address (library : LoadedLibrary) (symbol : String) : Except Fault Nat :=
  if symbol.toList.contains '\x00' then
    .error (.symbolNotFound symbol library.path "symbol name contains a NUL byte")
  else if library.exportsSymbol symbol then .ok 1
  else .error (.symbolNotFound symbol library.path loaderMessage)

/-- The library as a source of entry points. -/
def source (library : LoadedLibrary) : SymbolSource := ⟨library.path, library.address⟩

/-- File name of a library with the given base name. -/
def fileName (name : String) : String := "lib" ++ name ++ ".so"

/-- Path of that file in the working directory. -/
def localPath (name : String) : String := "./" ++ fileName name

/-- Loads a library from a path. -/
def load (host : LibraryHost) (serial : Nat) (path : HostPath) :
    Except Fault LoadedLibrary :=
  match host.image? path with
  | some exportsSymbol => .ok ⟨serial, path, exportsSymbol⟩
  | none => .error (.libraryLoad path.shown loaderMessage)

/-- What a failed load by name reports as the library: the name and the places
that were tried. -/
def triedText (host : LibraryHost) (name : String) : String :=
  let tried := if host.isFile (.ofText (localPath name)) then [localPath name, fileName name]
    else [fileName name]
  name ++ " (tried '" ++ "', '".intercalate tried ++ "')"

/-- Loads a library by base name. A file in the working directory is tried
first; the bare file name is tried whenever that gave no library. -/
def loadByName (host : LibraryHost) (serial : Nat) (name : String) :
    Except Fault LoadedLibrary :=
  let nearby : HostPath := .ofText (localPath name)
  let bare : HostPath := .ofText (fileName name)
  let found := if host.isFile nearby then
      (host.image? nearby).map fun exportsSymbol => LoadedLibrary.mk serial nearby exportsSymbol
    else none
  match found, host.image? bare with
  | some library, _ => .ok library
  | none, some exportsSymbol => .ok ⟨serial, bare, exportsSymbol⟩
  | none, none => .error (.libraryLoad (triedText host name) loaderMessage)

end LoadedLibrary

end ForeignMatrix
