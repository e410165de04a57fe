import ForeignMatrix.Settings.Reading
import Mathlib

/-!
# Settings made up of records

What a document has to mean for settings to be read off it: a record of three
records, whose parts mean the single settings. Nothing here depends on a format,
and a part that is left out is covered for the path alone.
-/

namespace ForeignMatrix

/-! ### Records -/

/-- In a record without repeated names every name finds its first part. -/
theorem RecordParts.fields?_named {ν : Type} {entries : List (Option String × ν)}
    (hnamed : ∀ entry ∈ entries, entry.1.isSome) (hdistinct : (entries.map (·.1)).Nodup)
    (allowsSurplus : Bool) (names : List String) :
    fields? allowsSurplus names (.named entries) = some fun name => entries.lookup (some name) := by
  have honce (name : String) : (entries.filter (·.1 == some name)).length ≤ 1 := by
    have hcount := List.nodup_iff_count_le_one.mp hdistinct (some name)
    rwa [List.count_eq_countP, List.countP_map, List.countP_eq_length_filter] at hcount
  have hall : entries.all (·.1.isSome) = true := List.all_eq_true.mpr hnamed
  have hnames : names.all (fun name => (entries.filter (·.1 == some name)).length ≤ 1) = true :=
    List.all_eq_true.mpr fun name _ => decide_eq_true (honce name)
  rw [fields?, hall, hnames, Bool.and_self, if_pos rfl]

namespace Reading

variable {ν : Type} {reading : Reading ν} {value : ν}

/-- A choice whose word is the name of a level is that level. -/
theorem choice_level {level : Level} (hword : reading.word value = some level.name) :
    reading.choice Level.name Level.all value = some level := by
  rw [choice, hword, Option.bind_eq_bind, Option.bind_some]
  cases level <;> decide

/-- A choice whose word is the short name of an element kind is that kind. -/
theorem choice_kind {kind : ElementKind} (hword : reading.word value = some kind.shortName) :
    reading.choice ElementKind.shortName ElementKind.all value = some kind := by
  rw [choice, hword, Option.bind_eq_bind, Option.bind_some]
  cases kind <;> decide

/-- The parts of a record with distinct names are found by their names. -/
theorem fields_named {entries : List (Option String × ν)}
    (hrecord : reading.record value = some (.named entries))
    (hnamed : ∀ entry ∈ entries, entry.1.isSome) (hdistinct : (entries.map (·.1)).Nodup)
    (names : List String) :
    reading.fields names value = some fun name => entries.lookup (some name) := by
  rw [fields, hrecord, Option.bind_eq_bind, Option.bind_some,
    RecordParts.fields?_named hnamed hdistinct]

/-- A record of parts under names is no empty list. -/
theorem isEmptyList_named {entries : List (Option String × ν)}
    (hrecord : reading.record value = some (.named entries)) :
    reading.isEmptyList value = false := by
  rw [isEmptyList, hrecord]

/-! ### Records of settings -/

/-- A record of a path and a name says where the library is. -/
theorem library_of_both {library : LibrarySettings} {path name : ν}
    (hrecord : reading.record value = some (.named [(some "path", path), (some "name", name)]))
    (hpath : reading.optionalText path = some library.path)
    (hname : reading.text name = some library.name) :
    reading.library value = some library := by
  have hfields := fields_named hrecord (by simp) (by simp) ["path", "name"]
  simp [Reading.library, isEmptyList_named hrecord, hfields, part, List.lookup_cons, hpath, hname]

/-- A record of a name alone leaves the path out. -/
theorem library_of_name {name : ν} {text : String}
    (hrecord : reading.record value = some (.named [(some "name", name)]))
    (hname : reading.text name = some text) :
    reading.library value = some { name := text } := by
  have hfields := fields_named hrecord (by simp) (by simp) ["path", "name"]
  simp [Reading.library, isEmptyList_named hrecord, hfields, part, List.lookup_cons, hname]

/-- A record of a kind and a flag says what is assumed about views. -/
theorem views_of_both {views : ViewDefaults} {kind flag : ν}
    (hrecord : reading.record value =
      some (.named [(some "default_dtype", kind), (some "default_owns_wrapped", flag)]))
    (hkind : reading.word kind = some views.kind.shortName)
    (hflag : reading.flag flag = some views.ownsAdopted) :
    reading.views value = some views := by
  have hfields := fields_named hrecord (by simp) (by simp)
    ["default_dtype", "default_owns_wrapped"]
  simp only [Reading.views, hfields, Option.bind_eq_bind, Option.bind_some]
  simp only [List.lookup_cons, Option.some_beq_some, String.reduceBEq, beq_self_eq_true, part]
  rw [choice_kind hkind, Option.bind_some, hflag]
  rfl

/-- A record of a level says how much goes to the journal. -/
theorem level_of_word {level : Level} {word : ν}
    (hrecord : reading.record value = some (.named [(some "level", word)]))
    (hword : reading.word word = some level.name) :
    reading.level value = some level := by
  have hfields := fields_named hrecord (by simp) (by simp) ["level"]
  simp [Reading.level, hfields, part, List.lookup_cons, choice_level hword]

/-- A record of the three records makes up settings. -/
theorem settings_of_records {settings : Settings} {library views level : ν}
    (hrecord : reading.record value =
      some (.named [(some "library", library), (some "views", views), (some "logging", level)]))
    (hlibrary : reading.library library = some settings.library)
    (hviews : reading.views views = some settings.views)
    (hlevel : reading.level level = some settings.level) :
    reading.settings value = some settings := by
  have hfields := fields_named hrecord (by simp) (by simp) ["library", "views", "logging"]
  simp [Reading.settings, hfields, part, List.lookup_cons, hlibrary, hviews, hlevel]

end Reading

end ForeignMatrix
