import ForeignMatrix.Proofs.FileTree
import ForeignMatrix.Proofs.Settings.Overrides
import ForeignMatrix.Settings.Loader
import Mathlib

/-!
# What settings are loaded from

Each setting is what its own variable says, else what the one file that is read
says about it, else the usual value. No other file and no other variable counts for
it. A variable that is not set to a text counts as unset, and that goes for the one
that names the file too: a file that it names by other bytes is passed over.
-/

namespace ForeignMatrix

/-- Bytes of the variables that are set. -/
abbrev Variables := String → Option (List UInt8)

namespace Variables

/-- Texts of the variables that are set to one. -/
def texts (given : Variables) : Environment :=
  fun name => (given name).bind Text.Utf8.decode?

/-- Surroundings with these variables. -/
def surroundings (given : Variables) (files : FileTree (List UInt8)) : Surroundings :=
  ⟨files, given.texts⟩

end Variables

/-! ### Documents -/

namespace SettingsFormat

/-- Formats in which a document at a path is read: the one that the name tells, or any. -/
def candidates (path : HostPath) : List SettingsFormat :=
  match ofPath path with
  | some format => [format]
  | none => all

/-- The first of these that reads a document. -/
def first? (path : HostPath) (document : String) : Option SettingsFormat :=
  (candidates path).find? fun format => (format.read? document).isSome

/-- A document is settings if one of its formats reads it, as the first of them reads it. -/
theorem ofDocument_ok_iff {path : HostPath} {document : String} {settings : Settings} :
    Settings.ofDocument path document = .ok settings ↔
      ∃ format, first? path document = some format ∧ format.read? document = some settings := by
  have hfind (formats : List SettingsFormat) :
      formats.findSome? (fun format => format.read? document) =
        (formats.find? fun format => (format.read? document).isSome).bind
          fun format => format.read? document := by
    induction formats with
    | nil => rfl
    | cons format formats ih =>
      rw [List.findSome?_cons, List.find?_cons]
      cases hread : format.read? document with
      | none => exact ih
      | some settings => exact hread.symm
  have hdocument : Settings.ofDocument path document = .ok settings ↔
      (candidates path).findSome? (fun format => format.read? document) = some settings := by
    rw [Settings.ofDocument, candidates]
    cases ofPath path with
    | some format =>
      simp only [List.findSome?_cons, List.findSome?_nil]
      cases format.read? document <;> simp
    | none =>
      cases all.findSome? (fun format => format.read? document) <;> simp
  rw [hdocument, hfind, Option.bind_eq_some_iff]
  rfl

end SettingsFormat

/-! ### Files -/

namespace Settings

variable {surroundings : Surroundings}

/-- Text of a settings file, if it can be read and is one. -/
def text? (files : FileTree (List UInt8)) (path : HostPath) : Option String :=
  (files.read? path).bind Text.Utf8.decode?

/-- The file that settings are loaded from: the one that is named, whether or not it is there,
else the first of a few names that is a regular file in the working directory, else none. -/
inductive IsSource (surroundings : Surroundings) : Option HostPath → Prop
  /-- The file is named. -/
  | named {path : String} (hpath : surroundings.environment "MATBIND_CONFIG" = some path) :
      IsSource surroundings (some (.ofText path))
  /-- The file is found in the working directory. -/
  | found {directory : HostPath} {name : String} {before after : List String}
      (hunset : surroundings.environment "MATBIND_CONFIG" = none)
      (hdirectory : surroundings.files.workingPath? = some directory)
      (hnames : [".matbind.toml", ".matbind.yaml", ".matbind.yml", ".matbind.json"] =
        before ++ name :: after)
      (hbefore : ∀ other ∈ before,
        surroundings.files.isFile (directory.join (HostPath.ofText other).bytes) = false)
      (hfile : surroundings.files.isFile (directory.join (HostPath.ofText name).bytes) = true) :
      IsSource surroundings (some (directory.join (HostPath.ofText name).bytes))
  /-- There is no such file, or no such directory any more. -/
  | absent (hunset : surroundings.environment "MATBIND_CONFIG" = none)
      (hnone : ∀ directory ∈ surroundings.files.workingPath?,
        ∀ name ∈ [".matbind.toml", ".matbind.yaml", ".matbind.yml", ".matbind.json"],
          surroundings.files.isFile (directory.join (HostPath.ofText name).bytes) = false) :
      IsSource surroundings none

/-- In a working directory that is there each of the names may be a settings file. -/
theorem nearbyFiles_eq {files : FileTree (List UInt8)} {directory : HostPath}
    (hdirectory : files.workingPath? = some directory) :
    nearbyFiles files = fileNames.map fun name => directory.join (HostPath.ofText name).bytes := by
  rw [nearbyFiles, hdirectory]

/-- The file that is chosen is one that settings are loaded from. -/
theorem chosenFile_isSource (surroundings : Surroundings) :
    IsSource surroundings (chosenFile surroundings) := by
  rw [chosenFile]
  cases hconfig : surroundings.environment "MATBIND_CONFIG" with
  | some path => exact .named hconfig
  | none =>
    cases hworking : surroundings.files.workingPath? with
    | none =>
      rw [nearbyFiles, hworking]
      refine .absent hconfig fun directory hdirectory => ?_
      rw [hworking] at hdirectory
      contradiction
    | some directory =>
      rw [nearbyFiles_eq hworking, List.find?_map]
      cases hfind : fileNames.find? (surroundings.files.isFile ∘
          fun name => directory.join (HostPath.ofText name).bytes) with
      | none =>
        refine .absent hconfig fun other hother name hname => ?_
        obtain rfl : directory = other := Option.some.inj (hworking.symm.trans hother)
        exact Bool.eq_false_iff.mpr (List.find?_eq_none.mp hfind name hname)
      | some name =>
        obtain ⟨hfile, before, after, hnames, hbefore⟩ := List.find?_eq_some_iff_append.mp hfind
        refine .found hconfig hworking hnames (fun other hother => ?_) hfile
        rw [← Bool.not_eq_true']
        exact hbefore other hother

/-- There is no other one. -/
theorem chosenFile_eq_iff {file : Option HostPath} :
    chosenFile surroundings = file ↔ IsSource surroundings file := by
  refine ⟨fun h => h ▸ chosenFile_isSource surroundings, fun hsource => ?_⟩
  cases hsource with
  | named hpath => rw [chosenFile, hpath]
  | @found directory name before after hunset hdirectory hnames hbefore hfile =>
    have hfind : fileNames.find? (surroundings.files.isFile ∘
        fun name => directory.join (HostPath.ofText name).bytes) = some name :=
      List.find?_eq_some_iff_append.mpr
        ⟨hfile, _, _, hnames, fun other hother => (Bool.not_eq_true' _).mpr (hbefore other hother)⟩
    rw [chosenFile, hunset]
    simp only
    rw [nearbyFiles_eq hdirectory, List.find?_map, hfind]
    rfl
  | absent hunset hnone =>
    rw [chosenFile, hunset]
    cases hworking : surroundings.files.workingPath? with
    | none =>
      simp only [nearbyFiles, hworking]
      rfl
    | some directory =>
      have hfind : fileNames.find? (surroundings.files.isFile ∘
          fun name => directory.join (HostPath.ofText name).bytes) = none :=
        List.find?_eq_none.mpr fun name hname =>
          Bool.not_eq_true _ ▸ hnone directory hworking name hname
      simp only
      rw [nearbyFiles_eq hworking, List.find?_map, hfind]
      rfl

/-- Each of these names is one that a path can spell. -/
theorem isName_fileNames {name : String} (hname : name ∈ fileNames) :
    HostPath.IsName (HostPath.ofText name).bytes := by
  fin_cases hname <;> exact ⟨by decide, by decide, by decide, by decide, by decide, by decide⟩

/-- A file of such a name is the one in the working directory, unless its path is overlong. -/
theorem isFile_nearby {files : FileTree (List UInt8)} (hworks : files.Works)
    {directory : HostPath} (hdirectory : files.workingPath? = some directory) {name : String}
    (hname : name ∈ fileNames)
    (hshort : (directory.join (HostPath.ofText name).bytes).bytes.length ≤ FileTree.pathLimit) :
    files.isFile (directory.join (HostPath.ofText name).bytes) = true ↔
      ∃ content,
        files.node? (files.workingPlace ++ [(HostPath.ofText name).bytes]) = some (.file content) := by
  have hplace := FileTree.place?_join hworks hdirectory (isName_fileNames hname) hshort
  rw [FileTree.isFile, FileTree.find?, hplace, Option.bind_some]
  cases files.node? (files.workingPlace ++ [(HostPath.ofText name).bytes]) with
  | none => simp
  | some node => cases node <;> simp

/-- Settings are loaded from a file if it is a text that a format reads, as the first of them
reads it. -/
theorem loadFile_ok_iff {files : FileTree (List UInt8)} {path : HostPath} {settings : Settings} :
    loadFile files path = .ok settings ↔
      ∃ document, text? files path = some document ∧
        ∃ format, SettingsFormat.first? path document = some format ∧
          format.read? document = some settings := by
  rw [loadFile, ← text?]
  cases text? files path with
  | none => exact ⟨nofun, nofun⟩
  | some document =>
    refine SettingsFormat.ofDocument_ok_iff.trans ⟨fun h => ⟨document, rfl, h⟩, ?_⟩
    rintro ⟨other, hother, h⟩
    exact Option.some.inj hother ▸ h

/-- Settings before the environment overrides them. -/
def inherited (surroundings : Surroundings) : Except SettingsFault Settings :=
  match chosenFile surroundings with
  | some path => loadFile surroundings.files path
  | none => .ok {}

/-- Settings are loaded from the file, and then overridden. -/
theorem load_fst (surroundings : Surroundings) :
    (load surroundings).1 =
      (inherited surroundings).bind (·.override surroundings.environment) := by
  rw [load, inherited]
  cases chosenFile surroundings <;> rfl

/-- What the file says about a setting. -/
def said? (surroundings : Surroundings) (setting : Setting) : Option setting.Value := do
  let path ← chosenFile surroundings
  let document ← text? surroundings.files path
  let format ← SettingsFormat.first? path document
  format.said? setting document

/-- Whether there is a file, and it has no text that one of its formats reads. -/
def FileFails (surroundings : Surroundings) : Prop :=
  ∃ path, chosenFile surroundings = some path ∧
    ∀ document, text? surroundings.files path = some document →
      ∀ format ∈ SettingsFormat.candidates path, format.read? document = none

/-- Settings before they are overridden are what the file says, or else the usual. -/
theorem value_inherited {settings : Settings} (h : inherited surroundings = .ok settings)
    (setting : Setting) :
    setting.value settings = (said? surroundings setting).getD setting.usual := by
  rw [inherited] at h
  rw [said?]
  cases hfile : chosenFile surroundings with
  | none =>
    rw [hfile] at h
    exact congrArg setting.value (Except.ok.inj h).symm
  | some file =>
    rw [hfile] at h
    obtain ⟨document, htext, format, hfirst, hread⟩ := loadFile_ok_iff.mp h
    simp only [Option.bind_eq_bind, Option.bind_some, htext, hfirst]
    exact SettingsFormat.value_eq_said hread setting

/-- There are such settings unless the file fails. -/
theorem inherited_ok_iff :
    (∃ settings, inherited surroundings = .ok settings) ↔ ¬ FileFails surroundings := by
  rw [inherited, FileFails]
  cases hfile : chosenFile surroundings with
  | none => exact ⟨fun _ => nofun, fun _ => ⟨{}, rfl⟩⟩
  | some file =>
    constructor
    · rintro ⟨settings, h⟩ ⟨other, hother, hfails⟩
      obtain rfl := Option.some.inj hother
      obtain ⟨document, htext, format, hfirst, hread⟩ := loadFile_ok_iff.mp h
      rw [hfails document htext format (List.mem_of_find?_eq_some hfirst)] at hread
      contradiction
    · intro hreads
      push Not at hreads
      obtain ⟨document, htext, format, hformat, hread⟩ := hreads file rfl
      have hfirst : (SettingsFormat.first? file document).isSome := by
        rw [SettingsFormat.first?, List.find?_isSome]
        exact ⟨format, hformat, Option.isSome_iff_ne_none.mpr hread⟩
      obtain ⟨first, hfirst⟩ := Option.isSome_iff_exists.mp hfirst
      have hread := List.find?_some hfirst
      obtain ⟨settings, hsettings⟩ := Option.isSome_iff_exists.mp hread
      exact ⟨settings, loadFile_ok_iff.mpr ⟨document, htext, first, hfirst, hsettings⟩⟩

/-- Settings are loaded unless the file fails or the environment names an element kind that does
not exist; each is then what is heard, else what the file says, else the usual. -/
theorem load_ok_iff {settings : Settings} :
    (load surroundings).1 = .ok settings ↔
      ¬ FileFails surroundings ∧ ¬ NamesNoKind surroundings.environment ∧
        ∀ setting : Setting, setting.value settings =
          (setting.heard? surroundings.environment).getD
            ((said? surroundings setting).getD setting.usual) := by
  rw [load_fst, ← inherited_ok_iff]
  cases hinherited : inherited surroundings with
  | error fault => exact ⟨nofun, fun ⟨⟨_, h⟩, _⟩ => by contradiction⟩
  | ok base =>
    have hbase := value_inherited hinherited
    refine override_ok_iff.trans ⟨fun ⟨hkind, hvalues⟩ => ⟨⟨base, rfl⟩, hkind, fun setting => ?_⟩,
      fun ⟨_, hkind, hvalues⟩ => ⟨hkind, fun setting => ?_⟩⟩
    · rw [hvalues, hbase]
    · rw [hvalues, hbase]

/-- So these are the only ways in which loading fails. -/
theorem load_error_iff :
    (∃ fault, (load surroundings).1 = .error fault) ↔
      FileFails surroundings ∨ NamesNoKind surroundings.environment := by
  constructor
  · rintro ⟨fault, hfault⟩
    by_contra hfine
    obtain ⟨hreads, hkind⟩ := not_or.mp hfine
    obtain ⟨base, hbase⟩ := inherited_ok_iff.mpr hreads
    obtain ⟨result, hresult⟩ := override_total hkind base
    rw [load_fst, hbase, Except.bind, hresult] at hfault
    contradiction
  · intro hfails
    cases hload : (load surroundings).1 with
    | error fault => exact ⟨fault, rfl⟩
    | ok settings =>
      obtain ⟨hreads, hkind, -⟩ := load_ok_iff.mp hload
      exact absurd hfails (not_or.mpr ⟨hreads, hkind⟩)

/-- Two loads differ in a setting only if its variable or its own value in the file does. -/
theorem value_congr {elsewhere : Surroundings} {settings result : Settings}
    (hload : (load surroundings).1 = .ok settings) (hresult : (load elsewhere).1 = .ok result)
    {setting : Setting} (hheard : elsewhere.environment setting.variableName =
      surroundings.environment setting.variableName)
    (hsaid : said? elsewhere setting = said? surroundings setting) :
    setting.value result = setting.value settings := by
  rw [(load_ok_iff.mp hload).2.2 setting, (load_ok_iff.mp hresult).2.2 setting, hsaid,
    Setting.heard?, Setting.heard?, hheard]

/-- The variable of a setting does not say which file is read. -/
theorem said?_update (given : Variables) (files : FileTree (List UInt8))
    (changed setting : Setting) (bytes : Option (List UInt8)) :
    said? (Variables.surroundings (Function.update given changed.variableName bytes) files)
      setting = said? (given.surroundings files) setting := by
  have hconfig : Variables.texts (Function.update given changed.variableName bytes)
      "MATBIND_CONFIG" = given.texts "MATBIND_CONFIG" := by
    rw [Variables.texts, Variables.texts, Function.update_of_ne changed.variableName_ne_file]
  have hchosen : chosenFile (Variables.surroundings
      (Function.update given changed.variableName bytes) files) =
      chosenFile (given.surroundings files) := by
    rw [chosenFile, chosenFile, Variables.surroundings, Variables.surroundings]
    simp only [hconfig]
  rw [said?, said?, hchosen]
  rfl

/-- Where two trees have the same candidates and the same bytes of the file that is chosen, they
are loaded alike. -/
theorem load_congr {others : FileTree (List UInt8)}
    (hnearby : surroundings.environment "MATBIND_CONFIG" = none →
      nearbyFiles others = nearbyFiles surroundings.files ∧
        ∀ path ∈ nearbyFiles surroundings.files,
          others.isFile path = surroundings.files.isFile path)
    (hread : ∀ path, chosenFile surroundings = some path →
      others.read? path = surroundings.files.read? path) :
    load { surroundings with files := others } = load surroundings := by
  have hchosen : chosenFile { surroundings with files := others } = chosenFile surroundings := by
    rw [chosenFile, chosenFile]
    cases hconfig : surroundings.environment "MATBIND_CONFIG" with
    | some path => rfl
    | none =>
      obtain ⟨hpaths, hfiles⟩ := hnearby hconfig
      simp only
      rw [hpaths, List.find?_congr hfiles]
  rw [load, load, hchosen]
  cases hfile : chosenFile surroundings with
  | none => rfl
  | some path =>
    have hload : loadFile others path = loadFile surroundings.files path := by
      rw [loadFile, loadFile, hread path hfile]
    simp only [hload]

/-- A file that is named and cannot be read is reported. -/
theorem load_unreadable {path : String}
    (hpath : surroundings.environment "MATBIND_CONFIG" = some path)
    (hread : surroundings.files.read? (.ofText path) = none) :
    (load surroundings).1 = .error (.unreadable path) := by
  have hfile : loadFile surroundings.files (.ofText path) = .error (.unreadable path) := by
    rw [loadFile, hread, Option.bind_none, HostPath.shown_ofText]
  rw [load_fst, inherited, chosenFile, hpath]
  exact congrArg (Except.bind · _) hfile

/-- No path is empty. -/
theorem read?_empty (files : FileTree (List UInt8)) : files.read? (.ofText "") = none := by
  have hplace : files.place? (.ofText "") = none := if_pos (.inl rfl)
  rw [FileTree.read?, FileTree.find?, hplace]
  rfl

/-- What loading depends on, and what it does not. -/
structure LoadsByPrecedence (given : Variables) (files : FileTree (List UInt8)) : Prop where
  /-- At most one file is read: the one that is named, else the first of a few names. -/
  source (file : Option HostPath) :
    chosenFile (given.surroundings files) = file ↔ IsSource (given.surroundings files) file
  /-- These names stand for files in the working directory, unless its path is overlong. -/
  nearby (hworks : files.Works) (directory : HostPath)
    (hdirectory : files.workingPath? = some directory) (name : String) (hname : name ∈ fileNames)
    (hshort : (directory.join (HostPath.ofText name).bytes).bytes.length ≤ FileTree.pathLimit) :
    files.isFile (directory.join (HostPath.ofText name).bytes) = true ↔
      ∃ content,
        files.node? (files.workingPlace ++ [(HostPath.ofText name).bytes]) = some (.file content)
  /-- Of other files it counts only whether they are the first of these names. -/
  others (others : FileTree (List UInt8))
    (hnearby : given.texts "MATBIND_CONFIG" = none →
      nearbyFiles others = nearbyFiles files ∧
        ∀ path ∈ nearbyFiles files, others.isFile path = files.isFile path)
    (hread : ∀ path, chosenFile (given.surroundings files) = some path →
      others.read? path = files.read? path) :
    load (given.surroundings others) = load (given.surroundings files)
  /-- So another file may have any other content. -/
  contents (place : Place) (old new : List UInt8) (hold : files.node? place = some (.file old))
    (hplace : ∀ path, chosenFile (given.surroundings files) = some path →
      files.place? path ≠ some place) :
    load (given.surroundings (files.put place (.file new))) = load (given.surroundings files)
  /-- Each setting is what its variable says if that is accepted, else what the file says about
  it, else the usual. -/
  value (settings : Settings) (hload : (load (given.surroundings files)).1 = .ok settings)
    (setting : Setting) :
    setting.value settings = (setting.heard? given.texts).getD
      ((said? (given.surroundings files) setting).getD setting.usual)
  /-- Whatever else is different elsewhere, it is the same there if both of these are. -/
  depends (elsewhere : Surroundings) (settings result : Settings)
    (hload : (load (given.surroundings files)).1 = .ok settings)
    (hresult : (load elsewhere).1 = .ok result) (setting : Setting)
    (hheard : elsewhere.environment setting.variableName = given.texts setting.variableName)
    (hsaid : said? elsewhere setting = said? (given.surroundings files) setting) :
    setting.value result = setting.value settings
  /-- The variable of one setting changes no other one. -/
  variables_apart (changed : Setting) (bytes : Option (List UInt8)) (settings result : Settings)
    (hload : (load (given.surroundings files)).1 = .ok settings)
    (hresult : (load (Variables.surroundings (Function.update given changed.variableName bytes)
      files)).1 = .ok result)
    (setting : Setting) (hne : setting ≠ changed) :
    setting.value result = setting.value settings
  /-- Loading fails if the file does, or if an element kind is named that does not exist. -/
  fails :
    (∃ fault, (load (given.surroundings files)).1 = .error fault) ↔
      FileFails (given.surroundings files) ∨ NamesNoKind given.texts
  /-- A file that is named has to be there. -/
  unreadable (path : String) (hpath : given.texts "MATBIND_CONFIG" = some path)
    (hread : path = "" ∨ files.read? (.ofText path) = none) :
    (load (given.surroundings files)).1 = .error (.unreadable path)
  /-- A file that is named by bytes that are no text is passed over, as if none were named. -/
  passed_over (bytes : List UInt8) (hset : given "MATBIND_CONFIG" = some bytes)
    (hbroken : Text.Utf8.decode? bytes = none) :
    load (given.surroundings files) =
      load (Variables.surroundings (Function.update given "MATBIND_CONFIG" none) files)

/-- Bytes that are no text set no variable to one. -/
theorem texts_of_broken {given : Variables} {name : String} {bytes : List UInt8}
    (hset : given name = some bytes) (hbroken : Text.Utf8.decode? bytes = none) :
    given.texts = Variables.texts (Function.update given name none) := by
  funext other
  rw [Variables.texts, Variables.texts]
  by_cases hother : other = name
  · rw [hother, hset, Function.update_self]
    exact hbroken
  · rw [Function.update_of_ne hother]

/-- Settings are loaded from at most one file and their own variables. Bytes that are no text name
no file: they count as unset, as in every other variable. -/
theorem load_precedence (given : Variables) (files : FileTree (List UInt8)) :
    LoadsByPrecedence given files where
  source _ := chosenFile_eq_iff
  nearby hworks _ hdirectory _ hname hshort := isFile_nearby hworks hdirectory hname hshort
  others _ hnearby hread := load_congr hnearby hread
  contents place old new hold hplace := by
    have hfree : files.isDirectoryAt place = false := by rw [FileTree.isDirectoryAt, hold]
    refine @load_congr (given.surroundings files) _ (fun _ => ⟨?_, fun path _ => ?_⟩)
      fun path hfile => ?_
    · rw [nearbyFiles, FileTree.workingPath?_put_file hfree]
      rfl
    · exact FileTree.isFile_put_file hold new path
    · exact FileTree.read?_put_file hold new (hplace path hfile)
  value _ hload setting := (load_ok_iff.mp hload).2.2 setting
  depends _ _ _ hload hresult _ hheard hsaid := value_congr hload hresult hheard hsaid
  variables_apart changed bytes _ _ hload hresult setting hne := by
    refine value_congr hload hresult ?_ (said?_update given files changed setting bytes)
    have hname : setting.variableName ≠ changed.variableName :=
      fun h => hne (Setting.variableName_injective h)
    change Variables.texts _ _ = given.texts _
    rw [Variables.texts, Variables.texts, Function.update_of_ne hname]
  fails := load_error_iff
  unreadable path hpath hread := by
    refine load_unreadable hpath ?_
    rcases hread with rfl | hread
    · exact read?_empty files
    · exact hread
  passed_over bytes hset hbroken := by
    rw [Variables.surroundings, Variables.surroundings, texts_of_broken hset hbroken]

/-- The variable of the file is set in an empty directory, and yet the usual settings are loaded
from no file: its bytes are no text. -/
theorem broken_name_passed_over :
    let given : Variables :=
      Function.update (fun _ => none) "MATBIND_CONFIG" (some [0x31, 0xff])
    given "MATBIND_CONFIG" = some [0x31, 0xff] ∧
      chosenFile (given.surroundings {}) = none ∧
      (load (given.surroundings {})).1 = .ok {} := by
  have hbroken : Text.Utf8.decode? [0x31, 0xff] = none := by
    simp [Text.Utf8.decode?, Text.Utf8.pieces, Text.Utf8.next]
  intro given
  have hgiven : given "MATBIND_CONFIG" = some [0x31, 0xff] := Function.update_self ..
  have htexts : given.texts = fun _ => none := by
    have hnone : Function.update given "MATBIND_CONFIG" none = fun _ => none := by
      rw [Function.update_idem, Function.update_eq_self_iff]
    rw [texts_of_broken hgiven hbroken, hnone]
    rfl
  have hchosen : chosenFile ⟨{}, fun _ => none⟩ = none := by decide +kernel
  have hload : (load ⟨{}, fun _ => none⟩).1 = .ok {} := by
    rw [load, hchosen]
    rfl
  rw [Variables.surroundings, htexts]
  exact ⟨hgiven, hchosen, hload⟩

end Settings

end ForeignMatrix
