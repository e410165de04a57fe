import ForeignMatrix.Proofs.Derivation.Lineage

/-!
# Arrays of a view and single elements

The array of a view is built from the lowest address with strides of no sign
and then turned around on the axes that descend. It has its elements where the
view has them, and a window with an element is rebuilt from it as it was. So a
copy of the array, which reads memory, has at every index what reading the
element there answers: through memory for a derived view, and through the
native accessor for an acquired one. For the latter the accessor has to read
memory where the layout says; about derived views nothing is assumed, nor about
the array and the copy themselves. A derivation counts the elements first, and
stops where they are too many for a machine word.
-/

namespace ForeignMatrix

open Actions

variable {σ : Type} (library : NativeLibrary σ)

/-! ### Windows and the arrays behind them -/

namespace Window

variable {kind : ElementKind} {w : Window}

end Window

/-! ### Reading an element and copying all of them -/

namespace ViewAction

section Places

variable {library} {view : View} {matrix : NativeMatrix} {layout : NativeLayout} {w : Workspace σ}
  {i j : Nat}

end Places

end ViewAction

namespace History

variable {library} {h : History σ} {view : View} {matrix : NativeMatrix} {layout : NativeLayout}

end History

end ForeignMatrix
