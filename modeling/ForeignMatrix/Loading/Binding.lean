import ForeignMatrix.Binder
import ForeignMatrix.Loading.Registry
import ForeignMatrix.Settings.Basic

/-!
# Binders over loaded libraries

A binder over a shared library is opened by path, by base name or by settings,
always by way of the shared registry. Settings that give a path are opened by
that path, all others by the base name.
-/

namespace ForeignMatrix.SharedRegistry

/-- Binder over the library at a path, with the usual defaults. -/
def bindPath (host : LibraryHost) (path : HostPath) (shared : SharedRegistry) :
    Except Fault Binder × SharedRegistry :=
  let (result, shared) := shared.loadPath host path
  (result.map fun library => { source := library.source }, shared)

/-- Binder over the library of a base name, with the usual defaults. -/
def bindName (host : LibraryHost) (name : String) (shared : SharedRegistry) :
    Except Fault Binder × SharedRegistry :=
  let (result, shared) := shared.loadName host name
  (result.map fun library => { source := library.source }, shared)

/-- Binder that settings describe. -/
def bindSettings (host : LibraryHost) (settings : Settings) (shared : SharedRegistry) :
    Except SettingsFault Binder × SharedRegistry :=
  let withDefaults (binder : Binder) : Binder := { binder with defaults := settings.views }
  match settings.library.path with
  | some path =>
    let (result, shared) := shared.bindPath host (.ofText path)
    ((result.map withDefaults).mapError (.badPath path), shared)
  | none =>
    let name := settings.library.name
    let (result, shared) := shared.bindName host name
    ((result.map withDefaults).mapError (.badName name), shared)

end ForeignMatrix.SharedRegistry
