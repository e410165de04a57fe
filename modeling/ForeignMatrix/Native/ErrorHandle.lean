import ForeignMatrix.Native.Library
import ForeignMatrix.Text.Utf8

/-!
# Error handles

Every native call that can fail is given an error handle. A handle is created
right before it is needed and destroyed on every way out of the operation that
created it.
-/

namespace ForeignMatrix.NativeAction

variable {σ : Type}

/-- Text of the message that a failed call left. -/
def messageText (state : ErrorState) : String :=
  match state.message with
  | none => "(no message)"
  | some bytes => Text.Utf8.decodeLossy bytes

/-- Refuses to go on if the last call left an error in the handle. -/
def check (library : NativeLibrary σ) (handle : ErrorHandle) (operation : String) :
    NativeAction σ Unit := do
  let state := library.errorState (← get).native handle
  if state.code = 0 then
    pure ()
  else
    note (.callFailed operation state.code)
    throw (.nativeOperation operation state.code (messageText state))

/-- Runs the body and destroys the handle whether or not the body was refused. -/
def releasing {α : Type} (library : NativeLibrary σ) (handle : ErrorHandle)
    (body : NativeAction σ α) : NativeAction σ α := fun session =>
  let (result, after) := body session
  (result,
    { after with
      native := library.freeErrorHandle handle after.native
      calls := .freeErrorHandle handle :: after.calls })

/-- Runs the body with a fresh error handle. Both handle symbols must resolve
before the handle is created, and a null handle is a failed call. -/
def withErrorHandle {α : Type} (library : NativeLibrary σ) (source : SymbolSource)
    (body : ErrorHandle → NativeAction σ α) : NativeAction σ α := do
  resolve source errorHandleNew
  resolve source errorHandleDestroy
  match ← ask .newErrorHandle library.newErrorHandle with
  | none => throw (.native errorHandleNew "null error handle")
  | some handle => releasing library handle (body handle)

end ForeignMatrix.NativeAction
