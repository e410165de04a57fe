import ForeignMatrix.Proofs.Derivation.Confinement

/-!
# What the check of two spans decides

Whether a window lies inside another is a matter of all its elements, yet the
check looks at the ends of two spans and divides one distance. The ends of a
span are the least and the greatest offset of an element, whatever the signs of
the strides, and a distance is divided only where it is a whole number of
elements. So the check is exact for all addresses, extents and strides, and as
being inside is, it is reflexive and transitive. A window is empty if it has no
element.

A machine makes the check with words that wrap around. What it finds is the same
for any two windows in its memory: the elements of each can be counted, their
addresses are words, and so are, with a sign, their distances from the first one
in bytes. The distance of the two windows need not be one.
-/

namespace ForeignMatrix.Window

variable {kind : ElementKind} {outer middle inner w : Window} {low high : Int}

/-- Offsets of the elements of a window. -/
def offsets (w : Window) : Set Int := {x | ∃ i j, w.Has i j ∧ w.offset i j = x}

/-- A window that is not empty has a least and a greatest offset: they are the ends of its span. -/
theorem exists_extremes (h : w.count ≠ 0) :
    ∃ low high, IsLeast w.offsets low ∧ IsGreatest w.offsets high := by
  obtain ⟨low, high, hspan⟩ := exists_span h
  obtain ⟨hleast, hgreatest⟩ := span_reached hspan
  refine ⟨low, high, ⟨hleast, ?_⟩, hgreatest, ?_⟩
  · rintro x ⟨i, j, hij, rfl⟩
    exact (span_bounds hspan hij).1
  · rintro x ⟨i, j, hij, rfl⟩
    exact (span_bounds hspan hij).2

/-- An address lies among the elements of a window exactly if it is reached in a whole number of
elements between the least and the greatest offset. -/
theorem spans_iff (hlow : IsLeast w.offsets low) (hhigh : IsGreatest w.offsets high)
    {address : Int} :
    w.Spans kind address ↔ ∃ k, low ≤ k ∧ k ≤ high ∧ address = w.address + k * kind.size := by
  obtain ⟨⟨i, j, hij, hleast⟩, hbefore⟩ := hlow
  obtain ⟨⟨i', j', hij', hgreatest⟩, hbehind⟩ := hhigh
  constructor
  · rintro ⟨k, haddress, ⟨r, c, hrc, hk⟩, r', c', hrc', hk'⟩
    have hfirst : low ≤ w.offset r c := hbefore ⟨r, c, hrc, rfl⟩
    have hlast : w.offset r' c' ≤ high := hbehind ⟨r', c', hrc', rfl⟩
    exact ⟨k, by omega, by omega, haddress⟩
  · rintro ⟨k, hk, hk', haddress⟩
    exact ⟨k, haddress, ⟨i, j, hij, by omega⟩, i', j', hij', by omega⟩

/-- What a window that is not empty confines lies between its extremes. -/
theorem confines_iff (h : outer.count ≠ 0) :
    outer.Confines kind inner ↔ ∃ low high,
      IsLeast outer.offsets low ∧ IsGreatest outer.offsets high ∧
        ∀ i j, inner.Has i j → ∃ k, low ≤ k ∧ k ≤ high ∧
          inner.addressOf kind i j = outer.address + k * kind.size := by
  constructor
  · intro hconfines
    obtain ⟨low, high, hlow, hhigh⟩ := exists_extremes h
    refine ⟨low, high, hlow, hhigh, fun i j hij => ?_⟩
    exact (spans_iff hlow hhigh).mp (hconfines i j hij)
  · rintro ⟨low, high, hlow, hhigh, hplaces⟩ i j hij
    exact (spans_iff hlow hhigh).mpr (hplaces i j hij)

/-- A window is empty exactly if it has no element. -/
theorem count_eq_zero_iff : w.count = 0 ↔ w.offsets = ∅ := by
  constructor
  · intro hzero
    refine Set.eq_empty_iff_forall_notMem.mpr ?_
    rintro x ⟨i, j, hij, -⟩
    exact count_ne_zero hij hzero
  · intro hempty
    by_contra hne
    have hfirst : w.offset 0 0 ∈ w.offsets := ⟨0, 0, has_of_count hne, rfl⟩
    rw [hempty] at hfirst
    exact hfirst

/-- What covers a window covers what that window covers. -/
theorem covers_trans (h : outer.covers kind middle = true) (k : middle.covers kind inner = true) :
    outer.covers kind inner = true := by
  rw [covers_iff_confines] at h k ⊢
  rcases k with hzero | ⟨hmiddle, hinner⟩
  · exact .inl hzero
  rcases h with hzero | ⟨houter, hconfines⟩
  · exact absurd hzero hmiddle
  · exact .inr ⟨houter, hconfines.trans hinner⟩

/-! ### Machine words -/

/-- The integer is a signed machine word. -/
def IsWord (x : Int) : Prop := -(signedMax : Int) ≤ x + 1 ∧ x ≤ signedMax

instance (x : Int) : Decidable (IsWord x) := inferInstanceAs (Decidable (_ ∧ _))

/-- Signed machine word that is left of an integer. -/
def word (x : Int) : Int := x.bmod wordModulus

/-- As `offset`, in machine words. -/
def wordOffset (w : Window) (i j : Nat) : Int :=
  word (word (word i * w.row.stride) + word (word j * w.col.stride))

/-- As `span`, in machine words. -/
def wordSpan (w : Window) : Option (Int × Int) :=
  if w.count % wordModulus = 0 then none
  else
    let down := w.wordOffset (w.row.length - 1) 0
    let across := w.wordOffset 0 (w.col.length - 1)
    let far := w.wordOffset (w.row.length - 1) (w.col.length - 1)
    some (min (min 0 down) (min across far), max (max 0 down) (max across far))

/-- As `covers`, in machine words: the distance of the windows wraps around, and is divided towards
zero. -/
def wordCovers (kind : ElementKind) (outer inner : Window) : Bool :=
  match outer.wordSpan, inner.wordSpan with
  | some (low, high), some (innerLow, innerHigh) =>
    let distance := word (inner.address - outer.address)
    if distance.tmod kind.size ≠ 0 then false
    else
      let base := distance.tdiv kind.size
      decide (low ≤ word (base + innerLow)) && decide (word (base + innerHigh) ≤ high)
  | _, _ => inner.count % wordModulus == 0

/-- The window lies in the memory of a machine. -/
structure InMemory (kind : ElementKind) (w : Window) : Prop where
  /-- The elements can be counted. -/
  counted : w.Counted
  /-- The address of an element is a word. -/
  addresses : ∀ i j, w.Has i j → 0 ≤ w.addressOf kind i j ∧ w.addressOf kind i j < wordModulus
  /-- The distance of an element from the first one, in bytes, is a signed word. -/
  distances : ∀ i j, w.Has i j → IsWord (w.offset i j * kind.size)

/-- The positions are looked at in order. -/
theorem inMemory_iff : w.InMemory kind ↔ w.Counted ∧
    ∀ i < w.row.length, ∀ j < w.col.length,
      (0 ≤ w.addressOf kind i j ∧ w.addressOf kind i j < wordModulus) ∧
        IsWord (w.offset i j * kind.size) := by
  constructor
  · exact fun h => ⟨h.counted, fun i hi j hj => ⟨h.addresses i j ⟨hi, hj⟩, h.distances i j ⟨hi, hj⟩⟩⟩
  · rintro ⟨hcounted, hplaces⟩
    exact ⟨hcounted, fun i j hij => (hplaces i hij.1 j hij.2).1,
      fun i j hij => (hplaces i hij.1 j hij.2).2⟩

instance (kind : ElementKind) (w : Window) : Decidable (w.InMemory kind) :=
  decidable_of_iff _ inMemory_iff.symm

variable {x : Int}

/-- A signed machine word is left as it is. -/
theorem word_of_isWord (h : IsWord x) : word x = x := by
  obtain ⟨hlow, hhigh⟩ := h
  unfold signedMax at hlow hhigh
  unfold word wordModulus
  rw [Int.bmod_def]
  split_ifs <;> omega

/-- What is left of an integer is a word, and a number of times around away from it. -/
theorem word_spec (x : Int) : IsWord (word x) ∧ ∃ k, x = word x + k * wordModulus := by
  have hmod := Int.emod_add_mul_ediv x (wordModulus : Int)
  unfold IsWord word signedMax
  rw [Int.bmod_def]
  unfold wordModulus at hmod ⊢
  split_ifs
  · exact ⟨by omega, x / (18446744073709551616 : Nat), by omega⟩
  · exact ⟨by omega, x / (18446744073709551616 : Nat) + 1, by omega⟩

/-- Offsets may wrap around on the way. -/
theorem wordOffset_eq (w : Window) (i j : Nat) : w.wordOffset i j = word (w.offset i j) := by
  unfold wordOffset offset word
  rw [Int.bmod_mul_bmod, Int.bmod_mul_bmod, Int.add_bmod_bmod, Int.bmod_add_bmod]

/-- What fits a signed word in bytes does so in elements. -/
theorem IsWord.of_bytes (h : IsWord (x * kind.size)) : IsWord x := by
  unfold IsWord at h ⊢
  unfold signedMax at h ⊢
  cases kind <;> dsimp only [ElementKind.size] at h <;> omega

/-- The sum of two numbers of elements does not wrap around if either fits a signed word in
bytes. -/
theorem word_add {base : Int} (hbase : IsWord (base * kind.size)) (hx : IsWord (x * kind.size)) :
    word (base + x) = base + x := by
  refine word_of_isWord ?_
  unfold IsWord at hbase hx ⊢
  unfold signedMax at hbase hx ⊢
  cases kind <;> dsimp only [ElementKind.size] at hbase hx <;> omega

namespace InMemory

/-- The number of elements does not wrap around. -/
theorem count_mod (h : w.InMemory kind) : w.count % wordModulus = w.count :=
  Nat.mod_eq_of_lt h.counted

/-- Nothing wraps around in the span. -/
theorem wordSpan_eq (h : w.InMemory kind) : w.wordSpan = w.span := by
  have hoffset : ∀ i j, w.Has i j → w.wordOffset i j = w.offset i j := fun i j hij =>
    (w.wordOffset_eq i j).trans (word_of_isWord (h.distances i j hij).of_bytes)
  unfold wordSpan span
  rw [h.count_mod]
  by_cases hzero : w.count = 0
  · rw [if_pos hzero, if_pos hzero]
  · obtain ⟨hr, hc⟩ := has_of_count hzero
    have hlast : w.row.length - 1 < w.row.length ∧ w.col.length - 1 < w.col.length := by omega
    rw [if_neg hzero, if_neg hzero, hoffset _ _ ⟨hlast.1, hc⟩, hoffset _ _ ⟨hr, hlast.2⟩,
      hoffset _ _ hlast]

/-- The ends of the span enclose zero, are signed words in bytes, and are reached at addresses that
are words. -/
theorem ends (h : w.InMemory kind) (hspan : w.span = some (low, high)) :
    (low ≤ 0 ∧ 0 ≤ high) ∧ (IsWord (low * kind.size) ∧ IsWord (high * kind.size)) ∧
      0 ≤ w.address + low * kind.size ∧ w.address + high * kind.size < wordModulus := by
  obtain ⟨⟨i, j, hij, rfl⟩, i', j', hij', rfl⟩ := span_reached hspan
  have hfirst : w.Has 0 0 := ⟨Nat.zero_lt_of_lt hij.1, Nat.zero_lt_of_lt hij.2⟩
  have hzero : w.offset 0 0 = 0 := by simp [offset]
  have hbounds := span_bounds hspan hfirst
  rw [hzero] at hbounds
  exact ⟨hbounds, ⟨h.distances i j hij, h.distances i' j' hij'⟩, (h.addresses i j hij).1,
    (h.addresses i' j' hij').2⟩

/-- In words a window covers another on the condition that the distance, wrapped around, is a
number of elements that moves the inner span into the outer one. -/
theorem wordCovers_iff_base (houter : outer.InMemory kind) (hinner : inner.InMemory kind)
    {innerLow innerHigh : Int} (hspan : outer.span = some (low, high))
    (hinnerSpan : inner.span = some (innerLow, innerHigh)) :
    outer.wordCovers kind inner = true ↔ ∃ base : Int,
      word (inner.address - outer.address) = base * kind.size ∧
        low ≤ base + innerLow ∧ base + innerHigh ≤ high := by
  obtain ⟨-, ⟨hlowWord, hhighWord⟩, -⟩ := hinner.ends hinnerSpan
  -- No sum of a wrapped distance and an end of the inner span wraps around.
  have hsum : ∀ base : Int, word (inner.address - outer.address) = base * kind.size →
      word (base + innerLow) = base + innerLow ∧ word (base + innerHigh) = base + innerHigh := by
    intro base hbase
    have hword := (word_spec (inner.address - outer.address)).1
    rw [hbase] at hword
    exact ⟨word_add hword hlowWord, word_add hword hhighWord⟩
  unfold wordCovers
  rw [houter.wordSpan_eq, hinner.wordSpan_eq, hspan, hinnerSpan]
  dsimp only
  constructor
  · intro h
    split_ifs at h with hrest
    rw [not_not] at hrest
    have hbase := (Int.tdiv_mul_cancel (Int.dvd_of_tmod_eq_zero hrest)).symm
    obtain ⟨hlow, hhigh⟩ := hsum _ hbase
    rw [hlow, hhigh, Bool.and_eq_true, decide_eq_true_eq, decide_eq_true_eq] at h
    exact ⟨_, hbase, h⟩
  · rintro ⟨base, hbase, hbounds⟩
    obtain ⟨hlow, hhigh⟩ := hsum base hbase
    rw [hbase, Int.mul_tmod_left, if_neg (not_not.mpr rfl),
      Int.mul_tdiv_cancel _ kind.size_ne_zero, hlow, hhigh, Bool.and_eq_true, decide_eq_true_eq,
      decide_eq_true_eq]
    exact hbounds

/-- Between windows in memory, machine words find what integers without a bound find. -/
theorem wordCovers_eq (houter : outer.InMemory kind) (hinner : inner.InMemory kind) :
    outer.wordCovers kind inner = outer.covers kind inner := by
  by_cases hcount : outer.count = 0 ∨ inner.count = 0
  · rw [covers_of_count hcount, wordCovers, houter.wordSpan_eq, hinner.wordSpan_eq,
      hinner.count_mod]
    rcases hcount with hzero | hzero
    · have hnone : outer.span = none := if_pos hzero
      rw [hnone]
    · have hnone : inner.span = none := if_pos hzero
      rw [hnone]
      cases outer.span <;> rfl
  obtain ⟨houterCount, hinnerCount⟩ := not_or.mp hcount
  obtain ⟨low, high, hspan⟩ := exists_span houterCount
  obtain ⟨innerLow, innerHigh, hinnerSpan⟩ := exists_span hinnerCount
  obtain ⟨-, ⟨hlowWord, hhighWord⟩, hbefore, hbehind⟩ := houter.ends hspan
  obtain ⟨⟨hinnerLow, hinnerHigh⟩, -⟩ := hinner.ends hinnerSpan
  have haddress := hinner.addresses 0 0 (has_of_count hinnerCount)
  rw [addressOf_zero] at haddress
  rw [Bool.eq_iff_iff, wordCovers_iff_base houter hinner hspan hinnerSpan,
    covers_iff_base hspan hinnerSpan]
  refine exists_congr fun base => and_congr_left fun hbounds => ?_
  -- The first inner element lies within the outer window, so nothing can be once around away.
  have hplace : low * kind.size ≤ base * kind.size ∧ base * kind.size ≤ high * kind.size := by
    cases kind <;> dsimp only [ElementKind.size] <;> omega
  generalize base * (kind.size : Int) = bytes at hplace ⊢
  constructor
  · intro hword
    obtain ⟨-, k, hk⟩ := word_spec (inner.address - outer.address)
    rw [hword] at hk
    unfold wordModulus at hk hbehind haddress
    omega
  · intro hbytes
    have hdistance : inner.address - outer.address = bytes := by omega
    rw [hdistance]
    unfold IsWord at hlowWord hhighWord
    exact word_of_isWord ⟨by omega, by omega⟩

end InMemory

/-- A window covers another exactly if the other is empty, or if it is not empty itself and every
element of the other is reached from its address in a whole number of elements, no fewer than the
least and no more than the greatest offset of its own elements. A window is empty exactly if it has
no element. Every window covers itself, and what covers a window covers what that window covers. Of
windows in its memory a machine finds all this with words. -/
theorem covers_exactly :
    (∀ (kind : ElementKind) (outer inner : Window), outer.covers kind inner = true ↔
      inner.count = 0 ∨ outer.count ≠ 0 ∧ ∃ low high,
        IsLeast outer.offsets low ∧ IsGreatest outer.offsets high ∧
          ∀ i j, inner.Has i j → ∃ k, low ≤ k ∧ k ≤ high ∧
            inner.addressOf kind i j = outer.address + k * kind.size) ∧
    (∀ w : Window, w.count = 0 ↔ w.offsets = ∅) ∧
    (∀ (kind : ElementKind) (w : Window), w.covers kind w = true) ∧
    (∀ (kind : ElementKind) (outer middle inner : Window), outer.covers kind middle = true →
      middle.covers kind inner = true → outer.covers kind inner = true) ∧
    ∀ (kind : ElementKind) (outer inner : Window), outer.InMemory kind → inner.InMemory kind →
      outer.wordCovers kind inner = outer.covers kind inner := by
  refine ⟨fun kind outer inner => ?_, fun w => count_eq_zero_iff, fun kind w => covers_self,
    fun kind outer middle inner => covers_trans, fun kind outer inner => InMemory.wordCovers_eq⟩
  rw [covers_iff_confines]
  exact or_congr_right (and_congr_right confines_iff)

/-- Rows that run backwards through memory cover a column from the lowest element on, and that
covers a table in which elements overlap. So the rows cover the table, and each of its elements lies
among theirs, and a machine finds the same. They do not cover what lies between two elements. -/
theorem covers_exactly_overlapping :
    let rows : Window := ⟨24, ⟨2, -2⟩, ⟨2, 1⟩⟩
    let column : Window := ⟨8, ⟨4, 1⟩, ⟨1, 0⟩⟩
    let table : Window := ⟨32, ⟨3, -1⟩, ⟨2, -1⟩⟩
    rows.covers .double column = true ∧ column.covers .double table = true ∧
      rows.covers .double table = true ∧ rows.wordCovers .double table = true ∧
      table.offsets ≠ ∅ ∧
      (∃ k, -2 ≤ k ∧ k ≤ 1 ∧ table.addressOf .double 2 1 = 24 + k * 8) ∧
      rows.covers .double ⟨20, ⟨1, 0⟩, ⟨1, 0⟩⟩ = false := by
  intro rows column table
  obtain ⟨hexact, hempty, -, htrans, hwords⟩ := covers_exactly
  have hcolumn : rows.covers .double column = true := by decide
  have htable : column.covers .double table = true := by decide
  have hboth : rows.covers .double table = true := htrans .double rows column table hcolumn htable
  have hcount : table.count ≠ 0 := by decide
  have helements : table.offsets ≠ ∅ := fun h => hcount ((hempty table).mpr h)
  have hrows : rows.InMemory .double := by decide
  have htableMemory : table.InMemory .double := by decide
  have hmachine : rows.wordCovers .double table = true :=
    (hwords .double rows table hrows htableMemory).trans hboth
  refine ⟨hcolumn, htable, hboth, hmachine, helements, ?_, by decide⟩
  rcases (hexact .double rows table).mp hboth with hzero | ⟨-, low, high, hlow, hhigh, hplaces⟩
  · exact absurd hzero hcount
  have hfirst : -2 ≤ low := by
    obtain ⟨i, j, ⟨hi, hj⟩, rfl⟩ := hlow.1
    change i < 2 at hi
    change -2 ≤ (i : Int) * -2 + j * 1
    omega
  have hlast : high ≤ 1 := by
    obtain ⟨i, j, ⟨hi, hj⟩, rfl⟩ := hhigh.1
    change j < 2 at hj
    change (i : Int) * -2 + j * 1 ≤ 1
    omega
  obtain ⟨k, hk, hk', hplace⟩ := hplaces 2 1 (by decide)
  exact ⟨k, by omega, by omega, hplace⟩

end ForeignMatrix.Window
