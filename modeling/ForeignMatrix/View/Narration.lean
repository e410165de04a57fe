import ForeignMatrix.Text.Quoted
import ForeignMatrix.View.Basic

/-!
# Texts about views and matrices

The journal line of each notice and the debug texts of views and matrices. A
matrix pointer is shown by its number; how an address of storage is shown is
left to the caller.
-/

namespace ForeignMatrix

/-- A matrix pointer as texts show it. -/
def MatrixPointer.text (pointer : MatrixPointer) : String := "#" ++ toString pointer.number

/-- A pair as debug texts show it. -/
def pairText {α β : Type} [ToString α] [ToString β] (pair : α × β) : String :=
  "(" ++ toString pair.1 ++ ", " ++ toString pair.2 ++ ")"

/-- An optional view identity as debug texts show it. -/
def rootText : Option Nat → String
  | none => "None"
  | some id => "Some(ViewId(" ++ toString id ++ "))"

namespace Notice

/-- Severity of the notice. -/
def level : Notice → Level
  | callFailed .. | constructing .. | measured .. | viewDerived .. => .trace
  | constructed .. | adopting .. | destroying .. | ownershipForced .. | viewCreated ..
  | viewFinalized .. => .debug
  | destroyFailed .. | storageMissing .. | finalizeFailed .. => .warn

/-- Part of the library that writes the notice. -/
def target : Notice → String
  | callFailed .. => "matbind_view::error_handle"
  | constructing .. | constructed .. | adopting .. | measured .. | destroying ..
  | destroyFailed .. => "matbind_view::native"
  | ownershipForced .. | storageMissing .. | viewCreated .. | viewDerived ..
  | viewFinalized .. | finalizeFailed .. => "matbind_view::view"

/-- Text of the notice. -/
def message (addressText : Int → String) : Notice → String
  | callFailed operation code =>
    "native call " ++ operation ++ " reported error " ++ toString code
  | constructing symbol rows cols => "calling " ++ symbol ++ pairText (rows, cols)
  | constructed matrix symbol => "constructed native matrix " ++ matrix.text ++ " via " ++ symbol
  | adopting matrix suffix owned =>
    "wrapping native matrix " ++ matrix.text ++ " (" ++ suffix ++ ", owned: "
      ++ toString owned ++ ")"
  | measured suffix layout =>
    "queried " ++ suffix ++ ": " ++ toString layout.rows ++ "x" ++ toString layout.cols
      ++ ", strides " ++ pairText (layout.rowStride, layout.colStride) ++ ", data "
      ++ addressText layout.data
  | destroying matrix symbol => "destroying native matrix " ++ matrix.text ++ " via " ++ symbol
  | destroyFailed matrix fault =>
    "failed to destroy native matrix " ++ matrix.text ++ ": " ++ fault.message
  | ownershipForced suffix =>
    "ignoring owns_data=false for a newly constructed " ++ suffix ++ " matrix"
  | storageMissing rows cols =>
    "native matrix reported " ++ toString rows ++ "x" ++ toString cols
      ++ " elements but a null data pointer; exposing an empty buffer"
  | viewCreated view rows cols kind owns root =>
    "created view#" ++ toString view ++ " over " ++ toString rows ++ "x" ++ toString cols
      ++ " " ++ kind.name ++ " matrix (owns: " ++ toString owns ++ ", root: "
      ++ rootText root ++ ")"
  | viewDerived view source root =>
    "derived view#" ++ toString view ++ " from view#" ++ toString source ++ " (root view#"
      ++ toString root ++ ")"
  | viewFinalized view others matrix =>
    "view#" ++ toString view ++ " finalized; " ++ toString others
      ++ " derived view(s) still share native matrix " ++ matrix.text
  | finalizeFailed view fault =>
    "finalizing view#" ++ toString view ++ " failed: " ++ fault.message

/-- Journal line of the notice. -/
def line (addressText : Int → String) (notice : Notice) : JournalLine :=
  ⟨notice.level, notice.target, notice.message addressText⟩

end Notice

/-- Debug text of a view. -/
def View.debugText (view : View) : String :=
  view.kind.shortName.toUpper ++ "(MatrixView \x7b id: ViewId(" ++ toString view.id
    ++ "), suffix: " ++ Text.quoted view.shape.suffix
    ++ ", shape: " ++ pairText view.window.extents
    ++ ", strides: " ++ pairText (view.window.byteStrides view.kind)
    ++ ", owns_data: " ++ toString view.owns
    ++ ", root: " ++ rootText view.root
    ++ ", derived: " ++ toString view.derived
    ++ ", finalized: " ++ toString view.isFinalized ++ " \x7d)"

/-- Debug text of a native matrix. -/
def NativeMatrix.debugText (matrix : NativeMatrix) : String :=
  "NativeMatrix \x7b raw: " ++ matrix.pointer.text ++ ", owned: " ++ toString matrix.owned
    ++ ", suffix: " ++ Text.quoted matrix.family.suffix
    ++ ", library: " ++ Text.quoted matrix.source.name ++ " \x7d"

end ForeignMatrix
