import ForeignMatrix.Journal.Filter
import Mathlib

/-!
# What filters let pass

A directive is in force unless a later one has its condition. Of the directives in force that an
event meets without any span, one alone has the narrowest condition, and it decides on the event;
what is in force for a span lets pass what happens inside that span. In a filter without brackets
the longest target decides.
-/

namespace ForeignMatrix

/-! ### Directives in force -/

theorem Verbosity.admits_iff {bound : Verbosity} {level : Level} :
    bound.admits level = true ↔ level.rank ≤ bound :=
  decide_eq_true_iff

namespace Directive

/-- Target, span and field make up a condition. -/
theorem sameCondition_iff {a b : Directive} :
    a.sameCondition b = true ↔ a.target = b.target ∧ a.span = b.span ∧ a.field = b.field :=
  decide_eq_true_iff

theorem sameCondition_refl (a : Directive) : a.sameCondition a = true :=
  sameCondition_iff.mpr ⟨rfl, rfl, rfl⟩

theorem sameCondition_symm {a b : Directive} (h : a.sameCondition b = true) :
    b.sameCondition a = true := by
  obtain ⟨htarget, hspan, hfield⟩ := sameCondition_iff.mp h
  exact sameCondition_iff.mpr ⟨htarget.symm, hspan.symm, hfield.symm⟩

theorem sameCondition_trans {a b c : Directive} (h : a.sameCondition b = true)
    (h' : b.sameCondition c = true) : a.sameCondition c = true := by
  obtain ⟨htarget, hspan, hfield⟩ := sameCondition_iff.mp h
  obtain ⟨htarget', hspan', hfield'⟩ := sameCondition_iff.mp h'
  exact sameCondition_iff.mpr
    ⟨htarget.trans htarget', hspan.trans hspan', hfield.trans hfield'⟩

end Directive

namespace Filter

/-- The filter has the directive, and no later one with its condition. -/
def InForce (filter : Filter) (directive : Directive) : Prop :=
  ∃ before after, filter = before ++ directive :: after ∧
    ∀ later ∈ after, directive.sameCondition later = false

/-- The directives that are settled are those in force. -/
theorem mem_settled {filter : Filter} {directive : Directive} :
    directive ∈ filter.settled ↔ filter.InForce directive := by
  induction filter with
  | nil => simp [settled, InForce]
  | cons first rest ih =>
    have hrest : InForce (first :: rest) directive ↔
        InForce rest directive ∨
          directive = first ∧ ∀ later ∈ rest, directive.sameCondition later = false := by
      constructor
      · rintro ⟨_ | ⟨head, before⟩, after, heq, hlater⟩
        · cases heq
          exact .inr ⟨rfl, hlater⟩
        · cases heq
          exact .inl ⟨before, after, rfl, hlater⟩
      · rintro (⟨before, after, rfl, hlater⟩ | ⟨rfl, hlater⟩)
        · exact ⟨first :: before, after, rfl, hlater⟩
        · exact ⟨[], rest, rfl, hlater⟩
    rw [hrest, settled, ← ih]
    split_ifs with hany
    · refine ⟨.inl, ?_⟩
      rintro (h | ⟨rfl, hlater⟩)
      · exact h
      · obtain ⟨later, hmem, hsame⟩ := List.any_eq_true.mp hany
        rw [hlater later hmem] at hsame
        contradiction
    · have hlater : ∀ later ∈ rest, first.sameCondition later = false := by
        simpa using hany
      rw [List.mem_cons]
      constructor
      · rintro (rfl | h)
        · exact .inr ⟨rfl, hlater⟩
        · exact .inl h
      · rintro (h | ⟨rfl, -⟩)
        · exact .inr h
        · exact .inl rfl

/-- Of two directives in force the one comes after the other, or they are the same. -/
theorem InForce.eq {filter : Filter} {a b : Directive} (ha : filter.InForce a)
    (hb : filter.InForce b) (hs : a.sameCondition b = true) : a = b := by
  have hs' := Directive.sameCondition_symm hs
  obtain ⟨before, after, rfl, ha⟩ := ha
  obtain ⟨before', after', heq, hb⟩ := hb
  rcases List.append_eq_append_iff.mp heq with ⟨mid, -, hmid⟩ | ⟨mid, -, hmid⟩
  · rcases List.cons_eq_append_iff.mp hmid with ⟨rfl, hmid⟩ | ⟨mid, rfl, rfl⟩
    · exact (List.cons.inj hmid).1
    · rw [ha b (by simp)] at hs
      contradiction
  · rcases List.cons_eq_append_iff.mp hmid with ⟨rfl, hmid⟩ | ⟨mid, rfl, rfl⟩
    · exact (List.cons.inj hmid).1.symm
    · rw [hb a (by simp)] at hs'
      contradiction

end Filter

/-! ### The narrowest condition -/

namespace Directive

/-- How narrow a condition is for the events that it covers: first the length of the target counts,
then the name of the field, if one is asked for. -/
def narrowness (directive : Directive) : Nat ×ₗ WithBot String :=
  toLex (directive.target.length,
    directive.field.elim ⊥ fun demand => (demand.name : WithBot String))

/-- One of two conditions is the narrower one if it counts for more. -/
theorem narrower_iff {a b : Directive} : a.narrower b = true ↔ b.narrowness < a.narrowness := by
  rw [narrowness, narrowness, Prod.Lex.toLex_lt_toLex, narrower, fieldName, fieldName]
  split_ifs with hlength
  · have hfields (x y : WithBot String) :
        b.target.length < a.target.length ∨ b.target.length = a.target.length ∧ x < y ↔ x < y :=
      ⟨fun h => h.elim (fun h => absurd h (by omega)) And.right, fun h => .inr ⟨hlength.symm, h⟩⟩
    refine Iff.trans ?_ (hfields _ _).symm
    rcases a.field with _ | demand <;> rcases b.field with _ | other
    · exact iff_of_false Bool.false_ne_true (lt_irrefl _)
    · exact iff_of_false Bool.false_ne_true not_lt_bot
    · exact iff_of_true rfl (WithBot.bot_lt_coe demand.name)
    · exact decide_eq_true_iff.trans WithBot.coe_lt_coe.symm
  · rw [decide_eq_true_iff]
    exact ⟨.inl, fun h => h.elim id fun h => absurd h.1.symm hlength⟩

/-- A field that an event has is asked for by its name alone. -/
theorem value_of_meetsField {directive : Directive} {subject : Subject} {name : String}
    {value : Option String} (h : directive.meetsField subject = true)
    (hfield : directive.field = some ⟨name, value⟩) : value = none := by
  rw [meetsField, hfield, Bool.and_eq_true, Option.isNone_iff_eq_none] at h
  exact h.1

/-- Of the directives that one event meets without any span, no two with different conditions are
equally narrow. -/
theorem sameCondition_of_narrowness {a b : Directive} {subject : Subject}
    (ha : a.applies subject = true) (hb : b.applies subject = true)
    (h : a.narrowness = b.narrowness) : a.sameCondition b = true := by
  obtain ⟨hlength, hname⟩ := Prod.mk.inj (toLex_inj.mp h)
  rw [applies, Bool.and_eq_true, Bool.and_eq_true, Option.isNone_iff_eq_none] at ha hb
  obtain ⟨⟨haspan, hatarget⟩, hafield⟩ := ha
  obtain ⟨⟨hbspan, hbtarget⟩, hbfield⟩ := hb
  have htarget : a.target = b.target := by
    rw [coversTarget, List.isPrefixOf_iff_prefix] at hatarget hbtarget
    have hlong : a.target.toList.length ≤ b.target.toList.length := by
      rw [String.length_toList, String.length_toList, hlength]
    have hprefix := List.prefix_of_prefix_length_le hatarget hbtarget hlong
    rw [← String.toList_inj]
    refine hprefix.eq_of_length ?_
    rw [String.length_toList, String.length_toList, hlength]
  refine sameCondition_iff.mpr ⟨htarget, haspan.trans hbspan.symm, ?_⟩
  rcases hx : a.field with _ | ⟨x, asked⟩ <;> rcases hy : b.field with _ | ⟨y, asked'⟩ <;>
    rw [hx, hy] at hname
  · exact absurd hname WithBot.bot_ne_coe
  · exact absurd hname WithBot.coe_ne_bot
  · have hsame : x = y := WithBot.coe_injective hname
    rw [value_of_meetsField hafield hx, value_of_meetsField hbfield hy, hsame]

end Directive

namespace Filter

/-- The directive decides on an event: it is in force and met without any span, and so is no other
one with a longer target, or with a target as long and a field whose name comes later. -/
structure Decides (filter : Filter) (subject : Subject) (directive : Directive) : Prop where
  /-- It is in force. -/
  inForce : filter.InForce directive
  /-- Its condition is met. -/
  applies : directive.applies subject = true
  /-- No other one in force that is met has a narrower condition. -/
  narrowest : ∀ other, filter.InForce other → other.applies subject = true →
    other.narrower directive = false

theorem mem_applicable {filter : Filter} {subject : Subject} {directive : Directive} :
    directive ∈ filter.applicable subject ↔
      filter.InForce directive ∧ directive.applies subject = true := by
  rw [applicable, List.mem_filter, mem_settled]

/-- What decides is found by going through the directives and keeping the narrower one. -/
theorem deciding_eq_argmax (filter : Filter) (subject : Subject) :
    filter.deciding subject = (filter.applicable subject).argmax Directive.narrowness := by
  have hstronger : stronger =
      List.argAux fun later earlier => earlier.narrowness < later.narrowness := by
    funext earlier later
    rcases earlier with _ | earlier
    · rfl
    · simp only [stronger, List.argAux, Directive.narrower_iff]
  rw [deciding, hstronger, List.argmax]

/-- A directive is found exactly if it decides. -/
theorem deciding_eq_some_iff {filter : Filter} {subject : Subject} {directive : Directive} :
    filter.deciding subject = some directive ↔ filter.Decides subject directive := by
  rw [deciding_eq_argmax, ← Option.mem_def, List.mem_argmax_iff]
  constructor
  · rintro ⟨hmem, hmax, -⟩
    obtain ⟨hforce, happlies⟩ := mem_applicable.mp hmem
    refine ⟨hforce, happlies, fun other ho ha => ?_⟩
    rw [← Bool.not_eq_true, Directive.narrower_iff, not_lt]
    exact hmax other (mem_applicable.mpr ⟨ho, ha⟩)
  · rintro ⟨hforce, happlies, hnarrowest⟩
    have hmax : ∀ other ∈ filter.applicable subject,
        other.narrowness ≤ directive.narrowness := by
      intro other ho
      obtain ⟨ho, ha⟩ := mem_applicable.mp ho
      rw [← not_lt, ← Directive.narrower_iff, Bool.not_eq_true]
      exact hnarrowest other ho ha
    refine ⟨mem_applicable.mpr ⟨hforce, happlies⟩, hmax, fun other ho hle => ?_⟩
    have hmem := ho
    obtain ⟨ho, ha⟩ := mem_applicable.mp ho
    have hsame := Directive.sameCondition_of_narrowness ha happlies
      (le_antisymm (hmax other hmem) hle)
    rw [ho.eq hforce hsame]

/-- The levels up to the bound of a span pass: those that some directive in force for it admits. -/
theorem admits_spanBound {filter : Filter} {span : Span} {level : Level} :
    (filter.spanBound span).admits level = true ↔
      ∃ directive, filter.InForce directive ∧ directive.governs span = true ∧
        directive.bound.admits level = true := by
  have hrank : 0 < level.rank := by cases level <;> decide
  have hfold (bounds : List Verbosity) (least : Verbosity) :
      level.rank ≤ bounds.foldl max least ↔
        level.rank ≤ least ∨ ∃ bound ∈ bounds, level.rank ≤ bound := by
    induction bounds generalizing least with
    | nil => simp
    | cons bound bounds ih =>
      rw [List.foldl_cons, ih, le_max_iff, List.exists_mem_cons_iff, or_assoc]
  rw [Verbosity.admits_iff, spanBound, hfold]
  simp only [List.mem_map, List.mem_filter, mem_settled, Verbosity.admits_iff]
  constructor
  · rintro (h | ⟨_, ⟨directive, ⟨hforce, hgoverns⟩, rfl⟩, hadmits⟩)
    · omega
    · exact ⟨directive, hforce, hgoverns, hadmits⟩
  · rintro ⟨directive, hforce, hgoverns, hadmits⟩
    exact .inr ⟨_, ⟨directive, ⟨hforce, hgoverns⟩, rfl⟩, hadmits⟩

/-- An event passes: inside one of its spans, or by the directive that decides on it. -/
def Enabled (filter : Filter) (subject : Subject) : Prop :=
  (∃ span ∈ subject.spans, ∃ directive, filter.InForce directive ∧
    directive.governs span = true ∧ directive.bound.admits subject.level = true) ∨
  ∃ directive, filter.Decides subject directive ∧ directive.bound.admits subject.level = true

/-- A filter lets pass what is enabled. -/
theorem enables_iff {filter : Filter} {subject : Subject} :
    filter.enables subject = true ↔ filter.Enabled subject := by
  rw [enables, Bool.or_eq_true, List.any_eq_true, Enabled]
  simp only [admits_spanBound, ← deciding_eq_some_iff]
  refine or_congr_right ?_
  cases filter.deciding subject with
  | none => simp
  | some directive => simp

instance (filter : Filter) (subject : Subject) : Decidable (filter.Enabled subject) :=
  decidable_of_iff (filter.enables subject = true) enables_iff

/-! ### Filters without brackets -/

/-- No directive asks for a span or for a field. -/
def IsPlain (filter : Filter) : Prop :=
  ∀ directive ∈ filter, directive.span = none ∧ directive.field = none

variable {filter : Filter} {subject : Subject}

theorem InForce.mem {directive : Directive} (h : filter.InForce directive) :
    directive ∈ filter := by
  obtain ⟨before, after, rfl, -⟩ := h
  simp

/-- Every condition in a filter is that of a directive in force, the last one that has it. -/
theorem exists_inForce {directive : Directive} (hmem : directive ∈ filter) :
    ∃ last, filter.InForce last ∧ directive.sameCondition last = true := by
  induction filter generalizing directive with
  | nil => cases hmem
  | cons first rest ih =>
    by_cases hrest : ∃ later ∈ rest, directive.sameCondition later = true
    · obtain ⟨later, hlater, hsame⟩ := hrest
      obtain ⟨last, ⟨before, after, rfl, hafter⟩, hsame'⟩ := ih hlater
      exact ⟨last, ⟨first :: before, after, rfl, hafter⟩,
        Directive.sameCondition_trans hsame hsame'⟩
    · have hnone : ∀ later ∈ rest, directive.sameCondition later = false := by
        simpa using hrest
      rcases List.mem_cons.mp hmem with rfl | hmem
      · exact ⟨directive, ⟨[], rest, rfl, hnone⟩, directive.sameCondition_refl⟩
      · exact absurd ⟨directive, hmem, directive.sameCondition_refl⟩ hrest

/-- Without brackets a directive is met by the targets that begin with its own. -/
theorem IsPlain.applies_iff (hp : filter.IsPlain) {directive : Directive}
    (hmem : directive ∈ filter) :
    directive.applies subject = true ↔ directive.target.toList <+: subject.target.toList := by
  obtain ⟨hspan, hfield⟩ := hp directive hmem
  simp [Directive.applies, Directive.coversTarget, Directive.meetsField, hspan, hfield]

/-- Without brackets the longer target is the narrower condition. -/
theorem IsPlain.narrower_iff (hp : filter.IsPlain) {a b : Directive} (ha : a ∈ filter) :
    a.narrower b = true ↔ b.target.length < a.target.length := by
  have hfield : a.fieldName = none := by rw [Directive.fieldName, (hp a ha).2, Option.map_none]
  rw [Directive.narrower, hfield]
  split_ifs with hlength
  · rw [hlength]
    simp
  · exact decide_eq_true_iff

/-- Without brackets targets of one length are equally narrow. -/
theorem IsPlain.narrowness_eq (hp : filter.IsPlain) {a b : Directive} (ha : a ∈ filter)
    (hb : b ∈ filter) (hlength : a.target.length = b.target.length) :
    a.narrowness = b.narrowness := by
  rw [Directive.narrowness, Directive.narrowness, hlength, (hp a ha).2, (hp b hb).2]

/-- Of the directives with which the target of an event begins, the last one with the longest target
admits the level of the event. -/
def LongestAdmits (filter : Filter) (subject : Subject) : Prop :=
  ∃ before directive after, filter = before ++ directive :: after ∧
    directive.target.toList <+: subject.target.toList ∧
    directive.bound.admits subject.level = true ∧
    (∀ other ∈ before, other.target.toList <+: subject.target.toList →
      other.target.length ≤ directive.target.length) ∧
    ∀ other ∈ after, other.target.toList <+: subject.target.toList →
      other.target.length < directive.target.length

/-- Without brackets that is when an event passes. -/
theorem IsPlain.enabled_iff (hp : filter.IsPlain) :
    filter.Enabled subject ↔ filter.LongestAdmits subject := by
  constructor
  · rintro (⟨span, -, directive, hforce, hgoverns, -⟩ |
      ⟨directive, ⟨hforce, happlies, hnarrowest⟩, hadmits⟩)
    · have hspan := (hp directive hforce.mem).1
      simp [Directive.governs, hspan] at hgoverns
    have hlongest : ∀ other ∈ filter, other.target.toList <+: subject.target.toList →
        other.target.length ≤ directive.target.length := by
      intro other hmem hprefix
      obtain ⟨last, hlast, hsame⟩ := exists_inForce hmem
      have htarget := (Directive.sameCondition_iff.mp hsame).1
      have hnot := hnarrowest last hlast ((hp.applies_iff hlast.mem).mpr (htarget ▸ hprefix))
      rw [← Bool.not_eq_true, hp.narrower_iff hlast.mem, not_lt] at hnot
      rw [htarget]
      exact hnot
    have hprefix := (hp.applies_iff hforce.mem).mp happlies
    obtain ⟨before, after, rfl, hafter⟩ := hforce
    refine ⟨before, directive, after, rfl, hprefix, hadmits,
      fun other hmem => hlongest other (List.mem_append_left _ hmem), fun other hmem hother => ?_⟩
    have hmem' : other ∈ before ++ directive :: after := by simp [hmem]
    refine lt_of_le_of_ne (hlongest other hmem' hother) fun hlength => ?_
    -- Two targets of one length that one text begins with are the same, and so the conditions.
    have hsame := Directive.sameCondition_of_narrowness happlies
      ((hp.applies_iff hmem').mpr hother) (hp.narrowness_eq (by simp) hmem' hlength.symm)
    rw [hafter other hmem] at hsame
    contradiction
  · rintro ⟨before, directive, after, rfl, hprefix, hadmits, hbefore, hafter⟩
    have hmem : directive ∈ before ++ directive :: after := by simp
    refine .inr ⟨directive, ⟨⟨before, after, rfl, fun later hlater => ?_⟩,
      (hp.applies_iff hmem).mpr hprefix, fun other hforce happlies => ?_⟩, hadmits⟩
    · rw [← Bool.not_eq_true]
      intro hsame
      have htarget := (Directive.sameCondition_iff.mp hsame).1
      have hlt := hafter later hlater (htarget ▸ hprefix)
      rw [htarget] at hlt
      exact lt_irrefl _ hlt
    · rw [← Bool.not_eq_true, hp.narrower_iff hforce.mem, not_lt]
      have hother := (hp.applies_iff hforce.mem).mp happlies
      rcases List.mem_append.mp hforce.mem with h | h
      · exact hbefore other h hother
      · rcases List.mem_cons.mp h with rfl | h
        · exact le_rfl
        · exact (hafter other h hother).le

end Filter

end ForeignMatrix
