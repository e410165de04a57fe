import ForeignMatrix.FileTree
import ForeignMatrix.Loading.Binding

/-!
# Steps of a loading scenario

A loading scenario puts files into a working directory and requests libraries
from there. Its steps name loaded libraries by slots; one binder and one view
are current at a time.
-/

namespace ForeignMatrix

/-- How a step asks for a library. -/
inductive LoadRequest where
  /-- By base name, from the shared registry. -/
  | sharedName (name : String)
  /-- By path, from the shared registry. -/
  | sharedPath (path : String)
  /-- By path, past the registry. -/
  | freshPath (path : String)
  /-- By base name, past the registry. -/
  | freshName (name : String)
  deriving Repr

/-- What a step opens a binder with. -/
inductive BinderOrigin where
  /-- Path of a library. -/
  | path (path : String)
  /-- Base name of a library. -/
  | name (name : String)
  /-- Settings. -/
  | settings (settings : Settings)
  deriving Repr

/-- One step of a loading scenario. -/
inductive LoadStep where
  /-- Puts a node where a path names one; a file is a loadable library or not. -/
  | place (path : HostPath) (node : FileNode Bool)
  /-- Loads a library into a slot. -/
  | load (slot : String) (request : LoadRequest)
  /-- Looks up a symbol. -/
  | symbol (slot name : String)
  /-- Asks about a key of the shared registry. -/
  | registry (key : String)
  /-- Fails while holding the lock of the shared registry. -/
  | poison
  /-- Enters a library into a registry of the scenario's own. -/
  | keep (slot key : String)
  /-- Asks about a key of that registry. -/
  | kept (key : String)
  /-- Opens a binder. -/
  | openBinder (origin : BinderOrigin)
  /-- Replaces the defaults of the current binder. -/
  | defaults (defaults : ViewDefaults)
  /-- Acquires a view from the current binder. -/
  | bind (request : ViewRequest)
  /-- Stores an element of the current view and reads it back. -/
  | setGet (row col : Int) (value : Element.Binary .double)

end ForeignMatrix
