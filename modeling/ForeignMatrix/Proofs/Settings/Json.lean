import ForeignMatrix.Proofs.Document.Json
import ForeignMatrix.Proofs.Settings.Records
import ForeignMatrix.Settings.Json
import Mathlib

/-!
# Settings written as JSON are read back

The document is an object of three objects over several lines. Each part of it
means the setting it was written for, whatever characters the texts hold.
-/

namespace ForeignMatrix.Settings

open JsonValue (Member Spells objectLines)

/-! ### Parts of the document -/

/-- A text that may be absent, as it is written. -/
def optionalMember (key : String) (content : Option String) : Member where
  key := key
  chars := content.elim "null".toList fun content => (JsonValue.quoted content).toList
  value := content.elim .null fun content => .text content

/-- A text as it is written. -/
def textMember (key content : String) : Member :=
  ⟨key, (JsonValue.quoted content).toList, .text content⟩

/-- A flag as it is written. -/
def flagMember (key : String) (value : Bool) : Member := ⟨key, (toString value).toList, .flag value⟩

/-- A record within the document as it is written. -/
def recordMember (key : String) (members : List Member) : Member :=
  ⟨key, objectLines 2 members,
    .record (members.map fun member => (some member.key, member.value))⟩

/-- Where the library is. -/
def libraryMembers (library : LibrarySettings) : List Member :=
  [optionalMember "path" library.path, textMember "name" library.name]

/-- What is assumed about views. -/
def viewMembers (views : ViewDefaults) : List Member :=
  [textMember "default_dtype" views.kind.shortName,
    flagMember "default_owns_wrapped" views.ownsAdopted]

/-- How much goes to the journal. -/
def loggingMembers (level : Level) : List Member := [textMember "level" level.name]

/-- The three records. -/
def members (settings : Settings) : List Member :=
  [recordMember "library" (libraryMembers settings.library),
    recordMember "views" (viewMembers settings.views),
    recordMember "logging" (loggingMembers settings.level)]

/-- The document is the object of the three records. -/
theorem toList_toJson (settings : Settings) :
    settings.toJson.toList = objectLines 0 settings.members := by
  obtain ⟨⟨path, name⟩, views, level⟩ := settings
  cases path <;>
    simp [toJson, members, recordMember, libraryMembers, viewMembers, loggingMembers,
      optionalMember, textMember, flagMember, objectLines, JsonValue.entryLines,
      JsonValue.entryLine, JsonValue.lineStart, JsonValue.quoted, JsonValue.quotedChar,
      List.replicate]

/-! ### Reading the parts -/

theorem spells_optionalMember (key : String) (content : Option String) :
    Spells 1 (optionalMember key content).chars (optionalMember key content).value := by
  cases content with
  | none => exact JsonValue.spells_null
  | some content => exact JsonValue.spells_text content

theorem spells_textMember (key content : String) :
    Spells 1 (textMember key content).chars (textMember key content).value :=
  JsonValue.spells_text content

theorem spells_flagMember (key : String) (value : Bool) :
    Spells 1 (flagMember key value).chars (flagMember key value).value :=
  JsonValue.spells_flag value

/-- A record of one or two single values is read in four steps. -/
theorem spells_recordMember (key : String) {members : List Member} (hne : members ≠ [])
    (hfew : members.length ≤ 2)
    (hvalues : ∀ member ∈ members, Spells 1 member.chars member.value) :
    Spells 4 (recordMember key members).chars (recordMember key members).value :=
  (JsonValue.spells_objectLines hne hvalues 2).mono (by omega)

/-- Each of the three records is read. -/
theorem spells_members (settings : Settings) :
    ∀ member ∈ settings.members, Spells 4 member.chars member.value := by
  simp only [members, List.forall_mem_cons, List.not_mem_nil]
  refine ⟨?_, ?_, ?_, nofun⟩
  · refine spells_recordMember _ (List.cons_ne_nil _ _) (Nat.le_refl _) ?_
    simp only [libraryMembers, List.forall_mem_cons, List.not_mem_nil]
    exact ⟨spells_optionalMember _ _, spells_textMember _ _, nofun⟩
  · refine spells_recordMember _ (List.cons_ne_nil _ _) (Nat.le_refl _) ?_
    simp only [viewMembers, List.forall_mem_cons, List.not_mem_nil]
    exact ⟨spells_textMember _ _, spells_flagMember _ _, nofun⟩
  · refine spells_recordMember _ (List.cons_ne_nil _ _) (Nat.le_succ 1) ?_
    simp only [loggingMembers, List.forall_mem_cons, List.not_mem_nil]
    exact ⟨spells_textMember _ _, nofun⟩

/-- The document is read as the record of the three records. -/
theorem spells_toJson (settings : Settings) :
    Spells 8 settings.toJson.toList
      (.record (settings.members.map fun member => (some member.key, member.value))) := by
  rw [toList_toJson]
  exact JsonValue.spells_objectLines (List.cons_ne_nil _ _) settings.spells_members 0

/-- Settings written as JSON are read back. -/
theorem ofJson?_toJson (settings : Settings) : ofJson? settings.toJson = some settings := by
  have hlong : 8 ≤ 2 * settings.toJson.toList.length + 2 := by
    have hstart : ∃ tail, settings.toJson.toList = '\x7b' :: '\n' :: ' ' :: tail :=
      ⟨_, toList_toJson settings⟩
    obtain ⟨tail, htail⟩ := hstart
    rw [htail, List.length_cons, List.length_cons, List.length_cons]
    omega
  obtain ⟨more, hmore⟩ := Nat.exists_eq_add_of_le hlong
  have hread := spells_toJson settings more []
  rw [List.append_nil, ← hmore] at hread
  have hparse : JsonValue.parse? settings.toJson =
      some (.record (settings.members.map fun member => (some member.key, member.value))) := by
    simp only [JsonValue.parse?, hread]
    rfl
  rw [ofJson?, hparse, Option.bind_eq_bind, Option.bind_some]
  refine Reading.settings_of_records rfl ?_ ?_ ?_
  · refine Reading.library_of_both rfl ?_ rfl
    cases settings.library.path <;> rfl
  · exact Reading.views_of_both rfl rfl rfl
  · exact Reading.level_of_word rfl rfl

end ForeignMatrix.Settings
