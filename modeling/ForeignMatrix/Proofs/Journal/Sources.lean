import ForeignMatrix.Proofs.Journal.Deciding
import ForeignMatrix.Proofs.Journal.Targets
import ForeignMatrix.Proofs.Settings.Precedence

/-!
# Where filters come from

A filter is spelled by the variable that programs share, by that of this library, by a given text,
or by a constant: the first of them that is there and well formed counts, and the others do not
matter. A variable that is empty is there, and lets nothing pass.
-/

namespace ForeignMatrix

/-! ### Sources -/

namespace Filter

/-- The filter is what the first source spells that is there and well formed. -/
def FirstOf (sources : List (Option String)) (filter : Filter) : Prop :=
  ∃ before text after, sources = before ++ some text :: after ∧ parse? text = some filter ∧
    ∀ source ∈ before, ∀ text, source = some text → parse? text = none

theorem firstOf_iff {sources : List (Option String)} {filter : Filter} :
    FirstOf sources filter ↔
      (sources.findSome? fun source => source.bind parse?) = some filter := by
  rw [List.findSome?_eq_some_iff]
  constructor
  · rintro ⟨before, text, after, rfl, hparse, hbefore⟩
    refine ⟨before, some text, after, rfl, hparse, fun source hsource => ?_⟩
    exact Option.bind_eq_none_iff.mpr (hbefore source hsource)
  · rintro ⟨before, source, after, rfl, hparse, hbefore⟩
    obtain ⟨text, rfl, hparse⟩ := Option.bind_eq_some_iff.mp hparse
    exact ⟨before, text, after, rfl, hparse,
      fun source hsource => Option.bind_eq_none_iff.mp (hbefore source hsource)⟩

/-- Where a source is there and well formed, those after it are not looked at. -/
theorem findSome?_take {sources : List (Option String)} {count : Nat} {text : String}
    (hs : sources[count]? = some (some text)) (hparse : (parse? text).isSome) :
    ((sources.take (count + 1)).findSome? fun source => source.bind parse?) =
      sources.findSome? fun source => source.bind parse? := by
  have htext : some text ∈ sources.take (count + 1) := by
    refine List.mem_of_getElem? (i := count) ?_
    rw [List.getElem?_take_of_lt (Nat.lt_succ_self count), hs]
  have hsome : ((sources.take (count + 1)).findSome? fun source =>
      source.bind parse?).isSome :=
    List.findSome?_isSome_iff.mpr ⟨some text, htext, hparse⟩
  conv_rhs => rw [← List.take_append_drop (count + 1) sources]
  rw [List.findSome?_append, Option.or_of_isSome hsome]

/-- A text spells no filter if some part of it is no directive. -/
theorem parse?_eq_none_iff {text : String} :
    parse? text = none ↔ ∃ part ∈ parts text, Directive.parse? part = none := by
  rw [parse?]
  induction parts text with
  | nil => simp
  | cons part rest ih =>
    rw [List.mapM_cons, List.exists_mem_cons_iff, ← ih]
    cases Directive.parse? part with
    | none => simp
    | some directive => cases List.mapM Directive.parse? rest <;> simp

/-- The name of a level spells the filter that lets everything up to this level pass. -/
theorem parse?_name (level : Level) :
    parse? level.name = some [⟨"", none, none, level.rank⟩] := by
  cases level <;> decide +kernel

/-- A text without directives spells the filter that lets nothing pass. -/
theorem parse?_empty : parse? "" = some [] := by
  decide +kernel

theorem not_enabled_nil (subject : Subject) : ¬ Enabled [] subject := by
  rintro (⟨span, -, directive, hforce, -⟩ | ⟨directive, ⟨hforce, -, -⟩, -⟩)
  · exact List.not_mem_nil hforce.mem
  · exact List.not_mem_nil hforce.mem

/-- Records reach the hook one for each event that is enabled. -/
theorem records_eq (filter : Filter) (events : List Event) :
    filter.records events =
      (events.filter fun event => filter.Enabled event.subject).map Record.ofEvent := by
  have hpass : (fun event : Event => filter.enables event.subject) =
      fun event : Event => decide (filter.Enabled event.subject) := by
    funext event
    rw [Bool.eq_iff_iff, decide_eq_true_iff, enables_iff]
  rw [records, hpass]

theorem records_nil (events : List Event) : records [] events = [] := by
  simp [records_eq, not_enabled_nil]

end Filter

namespace Variables

variable (given : Variables)

/-- Texts that may spell the filter, in order. -/
def sources (fallback : String) : List (Option String) :=
  [given.texts "RUST_LOG", given.texts "MATBIND_LOG", some fallback, some "info"]

/-- Records that reach the hook. -/
def records (fallback : String) (events : List Event) : List Record :=
  (Filter.ofEnvironment given.texts fallback).records events

/-- The variable spells no filter. -/
inductive Useless (name : String) : Prop
  /-- It is not set. -/
  | unset (hn : given name = none)
  /-- What it is set to is no text. -/
  | notText {bytes : List UInt8} (hb : given name = some bytes)
      (hd : Text.Utf8.decode? bytes = none)
  /-- The text has a part that is no directive. -/
  | malformed {bytes : List UInt8} {text part : String} (hb : given name = some bytes)
      (hd : Text.Utf8.decode? bytes = some text) (hp : part ∈ Filter.parts text)
      (hm : Directive.parse? part = none)

/-- A variable spells no filter for one of these reasons only. -/
theorem useless_iff {name : String} :
    given.Useless name ↔ (given.texts name).bind Filter.parse? = none := by
  rw [Option.bind_eq_none_iff, texts]
  constructor
  · rintro (hn | ⟨hb, hd⟩ | ⟨hb, hd, hp, hm⟩) text htext
    · rw [hn] at htext
      cases htext
    · rw [hb, Option.bind_some, hd] at htext
      cases htext
    · rw [hb, Option.bind_some, hd] at htext
      cases htext
      exact Filter.parse?_eq_none_iff.mpr ⟨_, hp, hm⟩
  · intro hnone
    rcases hb : given name with _ | bytes
    · exact .unset hb
    · rcases hd : Text.Utf8.decode? bytes with _ | text
      · exact .notText hb hd
      · obtain ⟨part, hp, hm⟩ := Filter.parse?_eq_none_iff.mp (hnone text (by rw [hb]; exact hd))
        exact .malformed hb hd hp hm

/-- The filter is that of the first source. -/
theorem firstOf_ofEnvironment (fallback : String) :
    Filter.FirstOf (given.sources fallback) (Filter.ofEnvironment given.texts fallback) := by
  rw [Filter.firstOf_iff, Filter.ofEnvironment, Filter.choose]
  have hlast : Filter.parse? "info" = _ := Filter.parse?_name .info
  have hsplit : given.sources fallback =
      [given.texts "RUST_LOG", given.texts "MATBIND_LOG", some fallback] ++ [some "info"] := rfl
  rw [hsplit, List.findSome?_append, List.findSome?_singleton, Option.bind_some, hlast,
    Option.or_some]
  rfl

/-- What the sources spell is all that matters. -/
theorem records_congr {other : Variables} {fallback fallback' : String} (events : List Event)
    (h : ((given.sources fallback).findSome? fun source => source.bind Filter.parse?) =
      (other.sources fallback').findSome? fun source => source.bind Filter.parse?) :
    given.records fallback events = other.records fallback' events := by
  have hgiven := Filter.firstOf_iff.mp (given.firstOf_ofEnvironment fallback)
  rw [h, Filter.firstOf_iff.mp (other.firstOf_ofEnvironment fallback'), Option.some_inj] at hgiven
  rw [records, records, hgiven]

variable {given} {name : String}

/-- Without a variable that spells no filter each variable spells what it did. -/
theorem Useless.bind_update (hname : given.Useless name) (read : String) :
    ((Variables.texts (Function.update given name none)) read).bind Filter.parse? =
      (given.texts read).bind Filter.parse? := by
  by_cases h : read = name
  · rw [h, given.useless_iff.mp hname, texts, Function.update_self]
    rfl
  · rw [texts, texts, Function.update_of_ne h]

/-- A variable that is set to nothing spells the empty text. -/
theorem texts_empty (hempty : given name = some []) : given.texts name = some "" := by
  rw [texts, hempty, Option.bind_some, Text.Utf8.decode?, Text.Utf8.pieces]
  rfl

/-- An empty variable is the first source that counts if the one before it does not. -/
theorem firstOf_empty (fallback : String) (hname : name ∈ ["RUST_LOG", "MATBIND_LOG"])
    (hempty : given name = some []) (hfirst : name = "MATBIND_LOG" → given.Useless "RUST_LOG") :
    Filter.FirstOf (given.sources fallback) [] := by
  have htext := texts_empty hempty
  rcases List.mem_cons.mp hname with rfl | hname
  · exact ⟨[], "", _, congrArg (· :: _) htext, Filter.parse?_empty, by simp⟩
  · cases List.mem_singleton.mp hname
    refine ⟨[given.texts "RUST_LOG"], "", _, congrArg (_ :: · :: _) htext,
      Filter.parse?_empty, ?_⟩
    rintro _ (_ | ⟨_, ⟨⟩⟩) text htext
    exact Option.bind_eq_none_iff.mp (given.useless_iff.mp (hfirst rfl)) text htext

/-- The records of a run are those of the events that the first source lets pass, and the sources
after it do not matter. -/
structure Journals (given : Variables) (fallback : String) (events : List Event)
    (records : List Record) : Prop where
  /-- Events that pass have their records, in order, and the others have none. -/
  passing : ∃ filter, Filter.FirstOf (given.sources fallback) filter ∧
    records = (events.filter fun event => filter.Enabled event.subject).map Record.ofEvent
  /-- If there are no brackets in it, the last directive with the longest target decides. -/
  longest : ∀ filter, Filter.FirstOf (given.sources fallback) filter → filter.IsPlain →
    ∀ event ∈ events, filter.Enabled event.subject ↔ filter.LongestAdmits event.subject
  /-- What comes after a source that is there and well formed does not matter. -/
  settled : ∀ count text, (given.sources fallback)[count]? = some (some text) →
    (Filter.parse? text).isSome → ∀ (other : Variables) (fallback' : String),
      (other.sources fallback').take (count + 1) = (given.sources fallback).take (count + 1) →
      other.records fallback' events = records
  /-- A variable that spells no filter might as well not be set. -/
  useless : ∀ name, given.Useless name →
    Variables.records (Function.update given name none) fallback events = records
  /-- A text that spells no filter might as well be the constant. -/
  malformed : Filter.parse? fallback = none → given.records "info" events = records
  /-- An empty variable is the first source that counts, and nothing passes. -/
  empty : ∀ name ∈ ["RUST_LOG", "MATBIND_LOG"], given name = some [] →
    (name = "MATBIND_LOG" → given.Useless "RUST_LOG") → records = []

/-- That is so for all variables, given texts and events. -/
theorem journals (given : Variables) (fallback : String) (events : List Event) :
    Journals given fallback events (given.records fallback events) where
  passing := ⟨_, given.firstOf_ofEnvironment fallback, Filter.records_eq _ events⟩
  longest filter _ hp event _ := hp.enabled_iff
  settled count text hcount hparse other fallback' htake := by
    have hother : (other.sources fallback')[count]? = some (some text) := by
      rw [← List.getElem?_take_of_lt (Nat.lt_succ_self count), htake,
        List.getElem?_take_of_lt (Nat.lt_succ_self count), hcount]
    refine other.records_congr events ?_
    rw [← Filter.findSome?_take hcount hparse, ← Filter.findSome?_take hother hparse, htake]
  useless name hname := by
    refine records_congr _ events ?_
    simp only [sources, List.findSome?_cons, hname.bind_update]
  malformed hparse := by
    refine given.records_congr events ?_
    have hinfo : Filter.parse? "info" = _ := Filter.parse?_name .info
    simp only [sources, List.findSome?_cons, Option.bind_some, hparse, hinfo]
  empty name hname hempty hfirst := by
    have hnone := Filter.firstOf_iff.mp (firstOf_empty fallback hname hempty hfirst)
    rw [Filter.firstOf_iff.mp (given.firstOf_ofEnvironment fallback), Option.some_inj] at hnone
    rw [records, hnone, Filter.records_nil]

end Variables

end ForeignMatrix
