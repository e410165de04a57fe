import ForeignMatrix.Proofs.Document.Numbers
import ForeignMatrix.Proofs.Journal.Targets
import Mathlib

/-!
# Fields that records show

The fields of an event may give one name several values. The record keeps what each name is given
last: the message and the target as texts, and a map of all other names but those of the bridge.
So the order of the fields does not matter as long as those of one name keep theirs.
-/

namespace ForeignMatrix

/-! ### Maps of fields -/

namespace FieldMap

/-- The name of the second field goes after that of the first. -/
def Rises (first second : String × RecordValue) : Prop := first.1 < second.1

instance : Std.Irrefl Rises := ⟨fun field => lt_irrefl field.1⟩

instance : Std.Antisymm Rises := ⟨fun _ _ h h' => absurd h' (not_lt_of_gt h)⟩

/-- The names rise from one field to the next, so none occurs twice. -/
def Ordered (map : FieldMap) : Prop := map.Pairwise Rises

/-- A field that is entered takes the place of the one with its name. -/
theorem mem_insert {map : FieldMap} (ho : map.Ordered) (name : String) (value : RecordValue)
    (field : String × RecordValue) :
    field ∈ map.insert name value ↔ field = (name, value) ∨ field.1 ≠ name ∧ field ∈ map := by
  induction map with
  | nil => simp [insert]
  | cons head rest ih =>
    obtain ⟨other, old⟩ := head
    obtain ⟨hlater, hrest⟩ := List.pairwise_cons.mp ho
    rw [insert]
    split_ifs with heq hlt
    · have hne : ∀ field ∈ rest, field.1 ≠ name := fun field hf => heq ▸ (hlater field hf).ne'
      grind
    · have hne : ∀ field ∈ (other, old) :: rest, field.1 ≠ name := by
        intro field hf
        rcases List.mem_cons.mp hf with rfl | hf
        · exact hlt.ne'
        · exact (hlt.trans (hlater field hf)).ne'
      grind
    · rw [List.mem_cons, List.mem_cons, ih hrest]
      grind

/-- Entering a field keeps the names in order. -/
theorem Ordered.insert {map : FieldMap} (ho : map.Ordered) (name : String) (value : RecordValue) :
    Ordered (map.insert name value) := by
  induction map with
  | nil => exact List.pairwise_singleton _ _
  | cons head rest ih =>
    obtain ⟨other, old⟩ := head
    obtain ⟨hlater, hrest⟩ := List.pairwise_cons.mp ho
    rw [FieldMap.insert]
    split_ifs with heq hlt
    · exact List.pairwise_cons.mpr ⟨heq ▸ hlater, hrest⟩
    · refine List.pairwise_cons.mpr ⟨fun field hf => ?_, ho⟩
      rcases List.mem_cons.mp hf with rfl | hf
      · exact hlt
      · exact hlt.trans (hlater field hf)
    · refine List.pairwise_cons.mpr ⟨fun field hf => ?_, ih hrest⟩
      rcases (mem_insert hrest name value field).mp hf with rfl | ⟨-, hf⟩
      · exact lt_of_le_of_ne (not_lt.mp hlt) (Ne.symm heq)
      · exact hlater field hf

end FieldMap

/-! ### The last value of a name -/

/-- Value that fields give a name last. -/
def lastValue? (fields : List (String × FieldValue)) (name : String) : Option FieldValue :=
  fields.reverse.lookup name

/-- What is given later counts. -/
theorem lastValue?_append (earlier later : List (String × FieldValue)) (name : String) :
    lastValue? (earlier ++ later) name = (lastValue? later name).or (lastValue? earlier name) := by
  rw [lastValue?, List.reverse_append, List.lookup_append]
  rfl

/-- A field gives its own name a value and no other. -/
theorem lastValue?_singleton (field : String × FieldValue) (name : String) :
    lastValue? [field] name = if field.1 = name then some field.2 else none := by
  rw [lastValue?, List.reverse_singleton, List.lookup_cons, List.lookup_nil]
  by_cases h : field.1 = name
  · rw [if_pos h, beq_iff_eq.mpr h.symm]
  · rw [if_neg h, beq_false_of_ne (Ne.symm h)]

/-- Of one more field only its own name takes notice. -/
theorem lastValue?_concat (fields : List (String × FieldValue)) (field : String × FieldValue)
    (name : String) :
    lastValue? (fields ++ [field]) name =
      if field.1 = name then some field.2 else lastValue? fields name := by
  rw [lastValue?_append, lastValue?_singleton]
  split_ifs <;> simp

/-- A name has a last value if it is one of the names. -/
theorem lastValue?_isSome {fields : List (String × FieldValue)} {name : String} :
    (lastValue? fields name).isSome ↔ ∃ field ∈ fields, field.1 = name := by
  induction fields using List.reverseRecOn with
  | nil => simp [lastValue?]
  | append_singleton fields field ih =>
    rw [lastValue?_concat]
    by_cases h : field.1 = name
    · simp [h]
    · simp [h, ih]

/-- Two neighbours with different names may change places. -/
theorem lastValue?_swap {first second : String × FieldValue} (hne : first.1 ≠ second.1)
    (before after : List (String × FieldValue)) (name : String) :
    lastValue? (before ++ first :: second :: after) name =
      lastValue? (before ++ second :: first :: after) name := by
  have hsplit (one other : String × FieldValue) :
      before ++ one :: other :: after = (before ++ [one] ++ [other]) ++ after := by simp
  rw [hsplit, hsplit, lastValue?_append, lastValue?_append _ after, lastValue?_concat,
    lastValue?_concat, lastValue?_concat, lastValue?_concat]
  split_ifs with h h'
  · exact absurd (h'.trans h.symm) hne
  all_goals rfl

/-! ### Gathering -/

/-- Whether a record shows a name among its fields: the message and the names of the bridge have
places of their own, or none. -/
def IsShown (name : String) : Prop := name ≠ "message" ∧ ¬ "log.".toList <+: name.toList

namespace Gathering

attribute [ext] Gathering

/-- A field named so gives the message. -/
theorem message_push (gathering : Gathering) (name : String) (value : FieldValue) :
    (gathering.push name value).message =
      if name = "message" then some (RecordValue.ofField value).plain else gathering.message := by
  rw [push]
  split_ifs <;> rfl

/-- A field whose name is shown is entered. -/
theorem fields_push_shown {name : String} (hshown : IsShown name) (gathering : Gathering)
    (value : FieldValue) :
    (gathering.push name value).fields =
      gathering.fields.insert name (RecordValue.ofField value) := by
  obtain ⟨hmessage, hbridge⟩ := hshown
  have htarget : name ≠ "log.target" := by
    rintro rfl
    exact hbridge (by decide)
  rw [push, if_neg hmessage, if_neg htarget, if_neg (List.isPrefixOf_iff_prefix.not.mpr hbridge)]

/-- Any other one is not. -/
theorem fields_push_other {name : String} (hshown : ¬ IsShown name) (gathering : Gathering)
    (value : FieldValue) : (gathering.push name value).fields = gathering.fields := by
  rw [push]
  by_cases hmessage : name = "message"
  · rw [if_pos hmessage]
  · have hbridge : "log.".toList <+: name.toList := by
      by_contra hbridge
      exact hshown ⟨hmessage, hbridge⟩
    rw [if_neg hmessage, if_pos (List.isPrefixOf_iff_prefix.mpr hbridge)]
    split_ifs <;> rfl

theorem ofFields_concat (fields : List (String × FieldValue)) (field : String × FieldValue) :
    ofFields (fields ++ [field]) = (ofFields fields).push field.1 field.2 := by
  rw [ofFields, List.foldl_append]
  rfl

/-- The message is the text of the last field named so. -/
theorem message_ofFields (fields : List (String × FieldValue)) :
    (ofFields fields).message =
      (lastValue? fields "message").map fun value => (RecordValue.ofField value).plain := by
  induction fields using List.reverseRecOn with
  | nil => rfl
  | append_singleton fields field ih =>
    rw [ofFields_concat, message_push, lastValue?_concat, ih]
    split_ifs <;> rfl

/-- The names that are entered are in order. -/
theorem ordered_ofFields (fields : List (String × FieldValue)) :
    (ofFields fields).fields.Ordered := by
  induction fields using List.reverseRecOn with
  | nil => exact .nil
  | append_singleton fields field ih =>
    rw [ofFields_concat]
    by_cases hshown : IsShown field.1
    · rw [fields_push_shown hshown]
      exact ih.insert _ _
    · rw [fields_push_other hshown]
      exact ih

/-- Entered are the names that are shown, each with its last value. -/
theorem mem_ofFields (fields : List (String × FieldValue)) (name : String) (value : RecordValue) :
    (name, value) ∈ (ofFields fields).fields ↔
      IsShown name ∧ ∃ last, lastValue? fields name = some last ∧ value = .ofField last := by
  induction fields using List.reverseRecOn with
  | nil => simp [ofFields, lastValue?]
  | append_singleton fields field ih =>
    rw [ofFields_concat, lastValue?_concat]
    by_cases hshown : IsShown field.1
    · rw [fields_push_shown hshown, FieldMap.mem_insert (ordered_ofFields fields), ih]
      by_cases hname : field.1 = name
      · subst hname
        simp [hshown]
      · simp [hname, Ne.symm hname]
    · rw [fields_push_other hshown, ih]
      by_cases hname : field.1 = name
      · subst hname
        simp [hshown]
      · simp [hname]

/-- Nothing is entered if no field has a name that is shown. -/
theorem fields_ofFields_eq_nil_iff (fields : List (String × FieldValue)) :
    (ofFields fields).fields = [] ↔ ∀ field ∈ fields, ¬ IsShown field.1 := by
  rw [List.eq_nil_iff_forall_not_mem]
  constructor
  · intro hnone field hfield hshown
    obtain ⟨last, hlast⟩ := Option.isSome_iff_exists.mp (lastValue?_isSome.mpr ⟨field, hfield, rfl⟩)
    exact hnone _ ((mem_ofFields fields field.1 _).mpr ⟨hshown, last, hlast, rfl⟩)
  · intro hnone field hfield
    obtain ⟨hshown, last, hlast, -⟩ := (mem_ofFields fields field.1 field.2).mp hfield
    obtain ⟨named, hnamed, hname⟩ := lastValue?_isSome.mp (Option.isSome_of_eq_some hlast)
    exact hnone named hnamed (hname ▸ hshown)

/-- The target is the text of the last field that carries one. -/
theorem target_ofFields (fields : List (String × FieldValue)) :
    (ofFields fields).target =
      (lastValue? fields bridgeField).map fun value => (RecordValue.ofField value).plain := by
  induction fields using List.reverseRecOn with
  | nil => rfl
  | append_singleton fields field ih =>
    rw [ofFields_concat, target_push, lastValue?_concat, ih]
    split_ifs <;> rfl

/-- What is gathered hangs on the last values only. -/
theorem ofFields_congr {fields others : List (String × FieldValue)}
    (h : ∀ name, lastValue? fields name = lastValue? others name) :
    ofFields fields = ofFields others := by
  have hmessage : (ofFields fields).message = (ofFields others).message := by
    rw [message_ofFields, message_ofFields, h]
  have htarget : (ofFields fields).target = (ofFields others).target := by
    rw [target_ofFields, target_ofFields, h]
  have hfields : (ofFields fields).fields = (ofFields others).fields := by
    refine (ordered_ofFields fields).eq_of_mem_iff (ordered_ofFields others) fun field => ?_
    rw [mem_ofFields, mem_ofFields, h]
  exact Gathering.ext hmessage htarget hfields

end Gathering

/-! ### Values and their texts -/

/-- What a record shows for the value of a field: the same value, or a null for a number that a
document cannot spell. -/
inductive FieldValue.ShownAs : FieldValue → RecordValue → Prop
  /-- A text. -/
  | text (value : String) : ShownAs (.text value) (.text value)
  /-- The debug text of a value. -/
  | debug (value : String) : ShownAs (.debug value) (.text value)
  /-- An integer. -/
  | int (value : Int) : ShownAs (.int value) (.int value)
  /-- A truth value. -/
  | flag (value : Bool) : ShownAs (.flag value) (.flag value)
  /-- A number that is finite. -/
  | finite {value : Element.Binary .double} (hn : value.isNaN = false)
      (hi : value.isInfinite = false) : ShownAs (.float value) (.float value)
  /-- No number at all. -/
  | notANumber {value : Element.Binary .double} (hn : value.isNaN = true) :
      ShownAs (.float value) .null
  /-- An infinite number. -/
  | infinite {value : Element.Binary .double} (hi : value.isInfinite = true) :
      ShownAs (.float value) .null

/-- Each value is shown in one way. -/
theorem FieldValue.shownAs_iff (value : FieldValue) (shown : RecordValue) :
    value.ShownAs shown ↔ shown = .ofField value := by
  constructor
  · rintro (_ | _ | _ | _ | ⟨hn, hi⟩ | hn | hi) <;> simp [RecordValue.ofField, *]
  · rintro rfl
    cases value with
    | text value => exact .text value
    | debug value => exact .debug value
    | int value => exact .int value
    | flag value => exact .flag value
    | float value =>
      rw [RecordValue.ofField]
      cases hn : value.isNaN
      · cases hi : value.isInfinite
        · exact .finite hn hi
        · exact .infinite hi
      · exact .notANumber hn

/-- The text of a value: a text itself, and for any other value the document that consists of
this value. -/
inductive RecordValue.HasText : RecordValue → String → Prop
  /-- A text stands without quotes. -/
  | text (value : String) : HasText (.text value) value
  /-- An integer is read as a number. -/
  | int {value : Int} (h : JsonValue.parse? (toString value) = some (.number (toString value))) :
      HasText (.int value) (toString value)
  /-- A finite number is read as one, in its shortest spelling. -/
  | float {value : Element.Binary .double}
      (h : JsonValue.parse? (Element.shortest value) = some (.number (Element.shortest value))) :
      HasText (.float value) (Element.shortest value)
  /-- A truth value is read as one. -/
  | flag {value : Bool} (h : JsonValue.parse? (toString value) = some (.flag value)) :
      HasText (.flag value) (toString value)
  /-- What has no value is read as a null. -/
  | null (h : JsonValue.parse? "null" = some .null) : HasText .null "null"

/-- These are the texts that records take up. -/
theorem RecordValue.hasText_plain (value : RecordValue) : value.HasText value.plain := by
  cases value with
  | text value => exact .text value
  | int value => exact .int (JsonValue.parse?_int value)
  | float value => exact .float (Element.parse?_shortest value)
  | flag value =>
    cases value
    · exact .flag rfl
    · exact .flag rfl
  | null => exact .null rfl

/-! ### Records -/

/-- A record that is built from fields shows of each name what they give it last, and states a
target and a name of its own where they give none. -/
structure Record.ShowsLast (build : List (String × FieldValue) → Record) (target name : String)
    (given : List (String × FieldValue)) : Prop where
  /-- The fields have the names that are shown, with the last value of each. -/
  fields (name : String) (shown : RecordValue) :
    (∃ map ∈ (build given).fields, (name, shown) ∈ map) ↔
      IsShown name ∧ ∃ value ∈ lastValue? given name, value.ShownAs shown
  /-- No name is repeated. -/
  ordered : ∀ map ∈ (build given).fields, map.Ordered
  /-- Without any such name there are no fields at all. -/
  absent : (build given).fields = none ↔ ∀ field ∈ given, ¬ IsShown field.1
  /-- The message is the text of the last field of this name, else the name of the event. -/
  message : match lastValue? given "message" with
    | none => (build given).message = name
    | some value => ∃ shown, value.ShownAs shown ∧ shown.HasText (build given).message
  /-- The target is the text of the last field of the bridge, else the one that is stated. -/
  target : match lastValue? given "log.target" with
    | none => (build given).target = target
    | some value => ∃ shown, value.ShownAs shown ∧ shown.HasText (build given).target
  /-- Two neighbours with different names may change places. -/
  swapped (before after : List (String × FieldValue)) (first second : String × FieldValue)
    (hne : first.1 ≠ second.1) (hgiven : given = before ++ first :: second :: after) :
    build (before ++ second :: first :: after) = build given

namespace Record

theorem fields_ofEvent (event : Event) :
    (ofEvent event).fields =
      if (Gathering.ofFields event.fields).fields = [] then none
      else some (Gathering.ofFields event.fields).fields := by
  rw [ofEvent]
  simp only [List.isEmpty_iff]

/-- The map of a record is what was gathered. -/
theorem exists_mem_fields_iff (event : Event) (field : String × RecordValue) :
    (∃ map ∈ (ofEvent event).fields, field ∈ map) ↔
      field ∈ (Gathering.ofFields event.fields).fields := by
  rw [fields_ofEvent]
  split_ifs with hempty
  · simp [hempty]
  · simp

/-- A text that comes from the last value of a name, or from elsewhere if there is none. -/
theorem hasText_getD (value : Option FieldValue) (otherwise : String) :
    match value with
    | none => (value.map fun value => (RecordValue.ofField value).plain).getD otherwise = otherwise
    | some last => ∃ shown, last.ShownAs shown ∧ shown.HasText
        ((value.map fun value => (RecordValue.ofField value).plain).getD otherwise) := by
  cases value with
  | none => rfl
  | some value =>
    exact ⟨.ofField value, (value.shownAs_iff _).mpr rfl, RecordValue.hasText_plain _⟩

/-- The record of an event with fields of its own shows what they give each name last. -/
theorem showsLast_direct (level : Level) (target name : String) (spans : List Span)
    (given : List (String × FieldValue)) :
    ShowsLast (fun fields => ofEvent (.direct level target name fields spans)) target name
      given where
  fields name shown := by
    rw [exists_mem_fields_iff, Gathering.mem_ofFields]
    simp only [Option.mem_def, FieldValue.shownAs_iff]
    rfl
  ordered map hmap := by
    rw [fields_ofEvent] at hmap
    split_ifs at hmap with hempty
    · exact absurd hmap (by simp)
    · rw [← Option.mem_some_iff.mp hmap]
      exact Gathering.ordered_ofFields _
  absent := by
    have hshown : (ofEvent (.direct level target name given spans)).fields =
        if (Gathering.ofFields given).fields = [] then none
        else some (Gathering.ofFields given).fields := fields_ofEvent _
    rw [hshown, ← Gathering.fields_ofFields_eq_nil_iff]
    split_ifs with hempty <;> simp [hempty]
  message := by
    rw [ofEvent, Gathering.message_ofFields]
    exact hasText_getD _ _
  target := by
    rw [ofEvent, Gathering.target_ofFields]
    exact hasText_getD _ _
  swapped before after first second hne hgiven := by
    have hgathered := Gathering.ofFields_congr (lastValue?_swap hne before after)
    rw [ofEvent, ofEvent, hgiven]
    simp only [Event.fields, hgathered]
    rfl

/-- The record of an event shows what its fields give each name last, whatever fields these are. A
line that came over the bridge is recorded like an event with the fields of the bridge. -/
theorem showsLast_ofEvent :
    (∀ level target name spans given,
      ShowsLast (fun fields => ofEvent (.direct level target name fields spans)) target name
        given) ∧
    ∀ (line : JournalLine) (origin : LineOrigin), ofEvent (.bridged line origin) =
      ofEvent (.direct line.level "log" "log event"
        (("message", .debug line.message) :: ("log.target", .text line.target) :: origin.fields)
        []) :=
  ⟨showsLast_direct, fun _ _ => rfl⟩

end Record

end ForeignMatrix
