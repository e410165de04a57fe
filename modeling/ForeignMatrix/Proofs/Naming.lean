import ForeignMatrix.Shape
import Mathlib.Data.List.Basic

/-!
# Symbols name a family and an entry point

A matrix symbol is put together from a stem, two axis tokens, a tag and a word.
It can be taken apart in one way only: no axis token has an `x` in it, nothing
before the word an underscore, and no two numbers have one decimal rendering.
So two shapes share a symbol only if they belong to one family, and only for
one entry point. The symbols of error handles begin otherwise.
-/

namespace ForeignMatrix

/-! ### Words and tags -/

theorem Entry.word_injective {e f : Entry} (h : e.word = f.word) : e = f := by
  cases e <;> cases f <;> revert h <;> decide

/-- The symbol in the table of a family is the stem, the suffix and the word. -/
theorem SymbolFamily.symbol_eq (family : SymbolFamily) (entry : Entry) :
    family.symbol entry = matrixStem ++ family.suffix ++ "_" ++ entry.word := by
  cases entry <;> rfl

theorem ElementKind.tag_injective {kind other : ElementKind} (h : kind.tag = other.tag) :
    kind = other := by
  cases kind <;> cases other <;> revert h <;> decide

/-- A list is cut in one way at the first place of a character. -/
theorem eq_of_append_cons {c : Char} {u v s t : List Char} (hu : c ∉ u) (hv : c ∉ v)
    (h : u ++ c :: s = v ++ c :: t) : u = v ∧ s = t := by
  induction u generalizing v with
  | nil =>
    cases v with
    | nil => exact ⟨rfl, (List.cons.inj h).2⟩
    | cons d v => exact absurd ((List.cons.inj h).1 ▸ List.mem_cons_self) hv
  | cons d u ih =>
    cases v with
    | nil => exact absurd ((List.cons.inj h).1 ▸ List.mem_cons_self) hu
    | cons e v =>
      obtain ⟨rfl, hrest⟩ := List.cons.inj h
      obtain ⟨rfl, rfl⟩ := ih (fun hm => hu (List.mem_cons_of_mem _ hm))
        (fun hm => hv (List.mem_cons_of_mem _ hm)) hrest
      exact ⟨rfl, rfl⟩

/-! ### Axes -/

/-- Two axes have one token: both are dynamic, or both are fixed with one extent. -/
def AxisAlike (extent : Nat) (isDynamic : Bool) (other : Nat) (otherDynamic : Bool) : Prop :=
  isDynamic = true ∧ otherDynamic = true ∨
    isDynamic = false ∧ otherDynamic = false ∧ extent = other

/-- An axis token is made of digits, or is the token of a dynamic axis. -/
theorem axisToken_chars {extent : Nat} {isDynamic : Bool} {c : Char}
    (hc : c ∈ (Shape.axisToken extent isDynamic).toList) : c.isDigit = true ∨ c = 'X' := by
  cases isDynamic with
  | true =>
    change c ∈ dynamicToken.toList at hc
    exact .inr (by simpa [dynamicToken] using hc)
  | false =>
    change c ∈ extent.repr.toList at hc
    rw [Nat.toList_repr] at hc
    exact .inl (Nat.isDigit_of_mem_toDigits (by decide) (by decide) hc)

theorem notMem_axisToken {c : Char} (hd : c.isDigit = false) (hx : c ≠ 'X') (extent : Nat)
    (isDynamic : Bool) : c ∉ (Shape.axisToken extent isDynamic).toList := by
  intro hc
  rcases axisToken_chars hc with h | h
  · rw [hd] at h
    contradiction
  · exact hx h

/-- A number can be read off its decimal rendering. -/
theorem repr_injective {m n : Nat} (h : m.repr = n.repr) : m = n := by
  have hdigits := congrArg String.toList h
  rw [Nat.toList_repr, Nat.toList_repr] at hdigits
  have hread := congrArg (fun digits => Nat.ofDigitChars 10 digits 0) hdigits
  simpa only [Nat.ofDigitChars_ten_toDigits] using hread

/-- A decimal rendering is not the token of a dynamic axis. -/
theorem repr_ne_dynamicToken (n : Nat) : n.repr ≠ dynamicToken := by
  intro h
  have hx : 'X' ∈ n.repr.toList := by
    rw [h]
    simp [dynamicToken]
  rw [Nat.toList_repr] at hx
  exact absurd (Nat.isDigit_of_mem_toDigits (by decide) (by decide) hx) (by decide)

theorem axisToken_eq_iff {m n : Nat} {d e : Bool} :
    Shape.axisToken m d = Shape.axisToken n e ↔ AxisAlike m d n e := by
  unfold Shape.axisToken AxisAlike
  cases d <;> cases e
  · simp only [Bool.false_eq_true, if_false, false_and, true_and, false_or]
    exact ⟨repr_injective, congrArg Nat.repr⟩
  · simpa using repr_ne_dynamicToken m
  · simpa using (repr_ne_dynamicToken n).symm
  · simp

/-! ### Suffixes and symbols -/

namespace Shape

/-- The two shapes are served by one family: their elements are of one kind, and each axis is
dynamic in both or has one extent in both. -/
structure Alike (a b : Shape) : Prop where
  /-- The elements are of one kind. -/
  kind : a.kind = b.kind
  /-- The rows have one token. -/
  rows : AxisAlike a.rows a.dynamicRows b.rows b.dynamicRows
  /-- The columns have one token. -/
  cols : AxisAlike a.cols a.dynamicCols b.cols b.dynamicCols

theorem suffix_toList (shape : Shape) : shape.suffix.toList =
    (axisToken shape.rows shape.dynamicRows).toList ++ 'x' ::
      ((axisToken shape.cols shape.dynamicCols).toList ++ [shape.kind.tag]) := by
  simp [suffix]

theorem underscore_notMem_suffix (shape : Shape) : '_' ∉ shape.suffix.toList := by
  have hrows := notMem_axisToken (c := '_') (by decide) (by decide) shape.rows shape.dynamicRows
  have hcols := notMem_axisToken (c := '_') (by decide) (by decide) shape.cols shape.dynamicCols
  have htag : '_' ≠ shape.kind.tag := by cases shape.kind <;> decide
  rw [suffix_toList]
  simp [hrows, hcols, htag]

/-- The `x` between the axes is the first one, and the tag is the last character. -/
theorem suffix_eq_iff {a b : Shape} : a.suffix = b.suffix ↔ a.Alike b := by
  constructor
  · intro h
    have hlist := congrArg String.toList h
    rw [suffix_toList, suffix_toList] at hlist
    have hx (shape : Shape) : 'x' ∉ (axisToken shape.rows shape.dynamicRows).toList :=
      notMem_axisToken (by decide) (by decide) _ _
    obtain ⟨hrows, hrest⟩ := eq_of_append_cons (hx a) (hx b) hlist
    obtain ⟨hcols, htag⟩ := List.append_inj' hrest rfl
    refine ⟨?_, axisToken_eq_iff.mp (String.toList_injective hrows),
      axisToken_eq_iff.mp (String.toList_injective hcols)⟩
    exact ElementKind.tag_injective (List.singleton_injective htag)
  · rintro ⟨hkind, hrows, hcols⟩
    rw [suffix, suffix, hkind, axisToken_eq_iff.mpr hrows, axisToken_eq_iff.mpr hcols]

end Shape

theorem SymbolFamily.symbol_toList (family : SymbolFamily) (entry : Entry) :
    (family.symbol entry).toList =
      matrixStem.toList ++ (family.suffix.toList ++ '_' :: entry.word.toList) := by
  simp [symbol_eq]

/-- The underscore before the word is the first one after the stem. -/
theorem Shape.symbol_eq_iff {a b : Shape} {e f : Entry} :
    a.family.symbol e = b.family.symbol f ↔ e = f ∧ a.Alike b := by
  constructor
  · intro h
    have hlist := congrArg String.toList h
    rw [SymbolFamily.symbol_toList, SymbolFamily.symbol_toList] at hlist
    obtain ⟨hsuffix, hword⟩ := eq_of_append_cons a.underscore_notMem_suffix
      b.underscore_notMem_suffix (List.append_cancel_left hlist)
    refine ⟨Entry.word_injective (String.toList_injective hword), ?_⟩
    exact suffix_eq_iff.mp (String.toList_injective hsuffix)
  · rintro ⟨rfl, halike⟩
    rw [family, family, suffix_eq_iff.mpr halike]

/-- Nothing that does not begin with the stem is a matrix symbol. -/
theorem SymbolFamily.symbol_ne {name : String} (h : ¬matrixStem.toList <+: name.toList)
    (family : SymbolFamily) (entry : Entry) : family.symbol entry ≠ name := by
  rintro rfl
  rw [symbol_toList] at h
  exact h (List.prefix_append _ _)

/-- Two shapes share a symbol exactly if they belong to one family and it is that of one entry
point. They have the same table of symbols, and resolve to the same, exactly if they belong to one
family: the extents of dynamic axes do not count. No matrix symbol is one of error handles. -/
theorem Shape.symbols_readable (a b : Shape) :
    (∀ e f, a.resolve.family.symbol e = b.resolve.family.symbol f ↔ e = f ∧ a.Alike b) ∧
      (a.resolve.family = b.resolve.family ↔ a.Alike b) ∧
      (a.resolve.family.symbols = b.resolve.family.symbols ↔ a.Alike b) ∧
      (a.resolve = b.resolve ↔ a.Alike b) ∧
      ∀ e, a.resolve.family.symbol e ≠ errorHandleNew ∧
        a.resolve.family.symbol e ≠ errorHandleDestroy := by
  have hfamily : a.family = b.family ↔ a.Alike b := by
    rw [← suffix_eq_iff]
    exact ⟨congrArg SymbolFamily.suffix, congrArg SymbolFamily.mk⟩
  refine ⟨fun e f => symbol_eq_iff, hfamily, ?_, ?_, fun e => ⟨?_, ?_⟩⟩
  · refine ⟨fun h => ?_, fun h => congrArg SymbolFamily.symbols (hfamily.mpr h)⟩
    have hnew : a.family.symbol .new = b.family.symbol .new :=
      congrArg (fun table : Vector String 10 => table[Entry.new.index]) h
    exact (symbol_eq_iff.mp hnew).2
  · refine ⟨fun h => hfamily.mp (congrArg ResolvedShape.family h), fun h => ?_⟩
    rw [resolve, resolve, hfamily.mpr h, h.kind]
  · exact SymbolFamily.symbol_ne (by decide) _ e
  · exact SymbolFamily.symbol_ne (by decide) _ e

end ForeignMatrix
