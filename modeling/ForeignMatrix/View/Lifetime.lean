import ForeignMatrix.View.Basic

/-!
# Lifetime of views and matrices

Giving up references. A native matrix leaves the workspace in the step that
removes the last reference to it, and is then destroyed if it is owned. The
owner's own finalization reports a failure to destroy; everywhere else the
failure is only noted.
-/

namespace ForeignMatrix.ViewAction

variable {σ : Type} (library : NativeLibrary σ)

/-- Called after a reference to a matrix was given up: abandons the matrix if
that was the last one. -/
def letGo (matrix : Nat) : ViewAction σ Unit := do
  let workspace ← get
  if workspace.references matrix = 0 then
    match workspace.matrices matrix with
    | none => pure ()
    | some found =>
      set (workspace.setMatrix matrix none)
      native (found.abandon library)
  else
    pure ()

/-- As `letGo`, for a reference that may not have been there. -/
def letGo? : Option Nat → ViewAction σ Unit
  | none => pure ()
  | some matrix => letGo library matrix

/-- Called after the owner gave up its reference: releases the matrix if that
was the last one, and otherwise leaves it to the references that remain. -/
def settle (view matrix : Nat) : ViewAction σ Unit := do
  let workspace ← get
  match workspace.matrices matrix with
  | none => pure ()
  | some found =>
    let others := workspace.references matrix
    if others = 0 then
      set (workspace.setMatrix matrix none)
      native (found.release library)
    else
      note (.viewFinalized view others found.pointer)

/-- Releases the matrix of an owning view. The view keeps its identity and
shows no element any more. Nothing happens to a view that does not own its
matrix or has given it up. -/
def finalize (id : Nat) : ViewAction σ Unit := do
  match (← get).view? id with
  | none => pure ()
  | some view =>
    match view.owns, view.handle with
    | true, some matrix =>
      modify (·.setView
        { view with handle := none, keepAlive := none, window := .hollow view.kind 0 0 })
      letGo? library view.keepAlive
      settle library id matrix
    | _, _ => pure ()

/-- Drops a view: finalizes it, noting a failure, and gives up its references,
that to its own matrix first. -/
def drop (id : Nat) : ViewAction σ Unit := do
  tryCatch (finalize library id) fun fault => note (.finalizeFailed id fault)
  match (← get).view? id with
  | none => pure ()
  | some view =>
    modify (·.removeView id)
    letGo? library view.handle
    letGo? library view.keepAlive

/-- Takes out a reference to the matrix that views acquired under this one
would share. -/
def takeHandle (view : View) : ViewAction σ (Option Nat) := do
  match view.sharedHandle with
  | none => pure none
  | some matrix =>
    modify fun workspace => { workspace with outside := matrix :: workspace.outside }
    pure (some matrix)

/-- Gives back a reference that was taken out. -/
def dropHandle (matrix : Nat) : ViewAction σ Unit := do
  modify fun workspace => { workspace with outside := workspace.outside.erase matrix }
  letGo library matrix

end ForeignMatrix.ViewAction
