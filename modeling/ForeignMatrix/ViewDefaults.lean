import ForeignMatrix.Element.Kind

/-!
# Defaults for views

What is assumed of a view where neither a request nor a setting says otherwise.
-/

namespace ForeignMatrix

/-- What a binder assumes where a request is silent. -/
structure ViewDefaults where
  /-- Kind of the elements. -/
  kind : ElementKind := .double
  /-- Whether an adopted matrix is owned. -/
  ownsAdopted : Bool := false
  deriving DecidableEq, Repr

end ForeignMatrix
