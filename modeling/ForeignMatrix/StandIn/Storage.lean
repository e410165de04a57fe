import ForeignMatrix.Element.Kind

/-!
# Storage of the stand-in library

Flat storage of one kind of elements, zero where nothing has been stored. The
first cells lie side by side. Of the others only those that were stored are
kept, so that a large storage of which little is used stays small.
-/

namespace ForeignMatrix

/-- Flat storage for elements of a kind. -/
structure Storage (kind : ElementKind) where
  /-- Number of cells. -/
  size : Nat
  /-- The first cells. -/
  near : Array (Element kind)
  /-- Cells after these by index, the latest first. -/
  far : List (Nat × Element kind) := []

namespace Storage

variable {kind : ElementKind}

/-- Storage that holds the given elements. -/
def ofArray (elements : Array (Element kind)) : Storage kind := ⟨elements.size, elements, []⟩

/-- Greatest number of cells of a new storage that lie side by side. -/
def nearLimit : Nat := 0x10000

/-- Storage of so many zeros. -/
def zeros (kind : ElementKind) (size : Nat) : Storage kind :=
  ⟨size, Array.replicate (min size nearLimit) default, []⟩

/-- Element at an index; zero outside of the storage. -/
def get (storage : Storage kind) (index : Int) : Element kind :=
  if index < 0 then default
  else
    match storage.near[index.toNat]? with
    | some element => element
    | none => (storage.far.lookup index.toNat).getD default

/-- Replaces the element at an index, if the storage has it. -/
def set (storage : Storage kind) (index : Int) (element : Element kind) : Storage kind :=
  if index < 0 ∨ storage.size ≤ index.toNat then storage
  else if index.toNat < storage.near.size then
    { storage with near := storage.near.setIfInBounds index.toNat element }
  else { storage with far := (index.toNat, element) :: storage.far }

/-- All elements in order. -/
def toList (storage : Storage kind) : List (Element kind) :=
  storage.near.toList
    ++ (List.range' storage.near.size (storage.size - storage.near.size)).map fun (index : Nat) =>
      storage.get index

/-- A stored element is read back, and every other one is as before. -/
theorem get_set (storage : Storage kind) (index other : Int) (element : Element kind)
    (low : 0 ≤ index) (high : index.toNat < storage.size) :
    (storage.set index element).get other
      = if other = index then element else storage.get other := by
  have inside : ¬(index < 0 ∨ storage.size ≤ index.toNat) := by omega
  rw [set, if_neg inside]
  by_cases same : other = index
  · subst same
    by_cases near : other.toNat < storage.near.size
    · simp [get, near, Int.not_lt.mpr low]
    · simp [get, near, Int.not_lt.mpr low]
  · by_cases negative : other < 0
    · simp [get, same, negative]
    · have apart : index.toNat ≠ other.toNat := by omega
      have unlike : (other.toNat == index.toNat) = false := beq_false_of_ne (Ne.symm apart)
      by_cases near : index.toNat < storage.near.size
      · simp [get, near, same, negative, apart]
      · simp [get, near, same, negative, List.lookup_cons, unlike]

end Storage

end ForeignMatrix
