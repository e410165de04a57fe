import ForeignMatrix.FileTree
import ForeignMatrix.Proofs.Encoding
import Mathlib

/-!
# Paths, and files that have been written

Where a path leads depends on the directories alone. A file goes to a place that is
no directory, so it moves no path; it is read with its new content, and every other
path reads what it read before. A name below the path of the working directory leads
to the node of that name in it, unless the path is overlong.
-/

namespace ForeignMatrix

/-! ### Paths -/

namespace HostPath

/-- A path that spells a text is displayed as that text. -/
@[simp]
theorem shown_ofText (text : String) : (ofText text).shown = text :=
  Text.Utf8.decodeLossy_encoded text

/-- Paths of two texts are different. -/
theorem ofText_injective : Function.Injective ofText := fun first second h => by
  rw [← shown_ofText first, h, shown_ofText]

/-- A name that stands for a node of its directory wherever it occurs in a path. -/
structure IsName (name : NodeName) : Prop where
  /-- It is not empty. -/
  filled : name ≠ []
  /-- It is not the directory itself. -/
  not_here : name ≠ here
  /-- It is not the directory above. -/
  not_above : name ≠ above
  /-- It does not end within a path. -/
  no_slash : slash ∉ name
  /-- It does not end the path. -/
  no_null : 0 ∉ name
  /-- It is not overlong. -/
  short : name.length ≤ FileTree.nameLimit

variable {names : List NodeName}

/-- A path from the root has a slash before each name. -/
theorem bytes_ofNames (hnames : ∀ name ∈ names, IsName name) (hne : names ≠ []) :
    (ofNames names).bytes = names.flatMap (slash :: ·) := by
  induction names using List.reverseRecOn with
  | nil => contradiction
  | append_singleton names name ih =>
    have hconcat : ofNames (names ++ [name]) = (ofNames names).join name :=
      List.foldl_concat ..
    rw [hconcat, List.flatMap_append, List.flatMap_singleton]
    rcases List.eq_nil_or_concat names with rfl | ⟨before, last, rfl⟩
    · rfl
    · have hlast : IsName last := hnames last (by simp)
      have hbefore : (ofNames (before.concat last)).bytes =
          (before.flatMap (slash :: ·) ++ [slash]) ++ last := by
        rw [ih (fun other hother => hnames other (List.mem_append_left _ hother)) (by simp)]
        simp
      -- The name that stands last does not end in a slash.
      have hopen : ¬((ofNames (before.concat last)).bytes = [] ∨
          (ofNames (before.concat last)).bytes.getLast? = some slash) := by
        rw [hbefore, List.getLast?_append_of_ne_nil _ hlast.filled]
        refine not_or.mpr ⟨by simp, fun hend => ?_⟩
        exact hlast.no_slash (List.mem_of_getLast? hend)
      rw [join, if_neg hopen, hbefore]
      simp

/-- Names after a first one are read back one by one. -/
theorem splitOn_names (hnames : ∀ name ∈ names, slash ∉ name) {first : NodeName}
    (hfirst : slash ∉ first) :
    (first ++ names.flatMap (slash :: ·)).splitOn slash = first :: names := by
  induction names generalizing first with
  | nil => rw [List.flatMap_nil, List.append_nil, List.splitOn_eq_singleton hfirst]
  | cons name names ih =>
    obtain ⟨hname, hrest⟩ := List.forall_mem_cons.mp hnames
    have hcut : (first ++ slash :: (name ++ names.flatMap (slash :: ·))).splitOn slash =
        first.splitOn slash ++ (name ++ names.flatMap (slash :: ·)).splitOn slash :=
      List.splitOnP_append_cons _ _ (beq_self_eq_true slash)
    rw [List.flatMap_cons, List.cons_append, hcut, List.splitOn_eq_singleton hfirst, ih hrest hname]
    rfl

/-- Its pieces are the names, after an empty one for the root. -/
theorem pieces_ofNames (hnames : ∀ name ∈ names, IsName name) (hne : names ≠ []) :
    (ofNames names).pieces = [] :: names := by
  rw [pieces, bytes_ofNames hnames hne]
  exact splitOn_names (fun name hname => (hnames name hname).no_slash) (List.not_mem_nil)

/-- It has no null byte. -/
theorem null_notMem_ofNames (hnames : ∀ name ∈ names, IsName name) (hne : names ≠ []) :
    0 ∉ (ofNames names).bytes := by
  rw [bytes_ofNames hnames hne]
  intro hzero
  obtain ⟨name, hname, hmem⟩ := List.mem_flatMap.mp hzero
  rcases List.mem_cons.mp hmem with hslash | hmem
  · exact absurd hslash (by decide)
  · exact (hnames name hname).no_null hmem

end HostPath

namespace FileTree

variable {α : Type} {tree : FileTree α} {place : Place}

/-! ### Written files -/

/-- The root is a directory. -/
theorem ne_nil_of_no_directory (hplace : tree.isDirectoryAt place = false) : place ≠ [] := by
  rintro rfl
  contradiction

/-- A node is found where it was put, except that the root stays what it is. -/
theorem node?_put_self (tree : FileTree α) (hplace : place ≠ []) (node : FileNode α) :
    (tree.put place node).node? place = some node := by
  rw [node?, if_neg hplace, put, List.lookup_cons, beq_self_eq_true]

/-- Any other place has the node that it had. -/
theorem node?_put_of_ne (tree : FileTree α) {other : Place} (hne : other ≠ place)
    (node : FileNode α) : (tree.put place node).node? other = tree.node? other := by
  have hlookup : (tree.nodes.filter (·.1 != place)).lookup other = tree.nodes.lookup other := by
    induction tree.nodes with
    | nil => rfl
    | cons entry nodes ih =>
      obtain ⟨key, value⟩ := entry
      by_cases hkey : key = place
      · have hother : (other == key) = false := beq_eq_false_iff_ne.mpr (hkey ▸ hne)
        rw [List.filter_cons_of_neg (by simp [hkey]), ih, List.lookup_cons, hother]
      · rw [List.filter_cons_of_pos (by simp [hkey]), List.lookup_cons, List.lookup_cons, ih]
  rw [node?, node?, put, List.lookup_cons, beq_eq_false_iff_ne.mpr hne, hlookup]

/-- A file that goes to a place that is no directory leaves the directories as they are. -/
theorem isDirectoryAt_put_file (hplace : tree.isDirectoryAt place = false) (content : α)
    (other : Place) :
    (tree.put place (.file content)).isDirectoryAt other = tree.isDirectoryAt other := by
  by_cases hother : other = place
  · subst hother
    rw [isDirectoryAt, node?_put_self tree (ne_nil_of_no_directory hplace), hplace]
  · rw [isDirectoryAt, isDirectoryAt, node?_put_of_ne tree hother]

/-- So every path leads where it led. -/
theorem place?_put_file (hplace : tree.isDirectoryAt place = false) (content : α)
    (path : HostPath) : (tree.put place (.file content)).place? path = tree.place? path := by
  have hstep : (tree.put place (.file content)).step = tree.step := by
    funext here piece
    rw [step, step, isDirectoryAt_put_file hplace]
  rw [place?, place?, hstep]
  rfl

/-- The working directory keeps its path. -/
theorem workingPath?_put_file (hplace : tree.isDirectoryAt place = false) (content : α) :
    (tree.put place (.file content)).workingPath? = tree.workingPath? := by
  rw [workingPath?, workingPath?, isDirectoryAt_put_file hplace]
  rfl

/-- A path that leads elsewhere finds what it found. -/
theorem find?_put_file (hplace : tree.isDirectoryAt place = false) (content : α) {path : HostPath}
    (hpath : tree.place? path ≠ some place) :
    (tree.put place (.file content)).find? path = tree.find? path := by
  rw [find?, find?, place?_put_file hplace]
  cases hother : tree.place? path with
  | none => rfl
  | some other =>
    have hne : other ≠ place := fun h => hpath (h ▸ hother)
    exact node?_put_of_ne tree hne _

/-- A path that leads there finds the file. -/
theorem find?_put_file_self (hplace : tree.isDirectoryAt place = false) (content : α)
    {path : HostPath} (hpath : tree.place? path = some place) :
    (tree.put place (.file content)).find? path = some (.file content) := by
  rw [find?, place?_put_file hplace, hpath]
  exact node?_put_self tree (ne_nil_of_no_directory hplace) _

/-- A file that is written goes where its path leads, which is no directory. -/
theorem exists_of_write {written : FileTree α} {path : HostPath} {content : α}
    (hwrite : tree.write? path content = some written) :
    ∃ place, tree.place? path = some place ∧ tree.isDirectoryAt place = false ∧
      written = tree.put place (.file content) := by
  rw [write?] at hwrite
  cases hpath : tree.place? path with
  | none =>
    rw [hpath] at hwrite
    contradiction
  | some place =>
    rw [hpath] at hwrite
    cases hplace : tree.isDirectoryAt place with
    | true => simp [hplace] at hwrite
    | false =>
      simp only [hplace, Bool.false_eq_true, if_false, Option.some.injEq] at hwrite
      exact ⟨place, rfl, hplace, hwrite.symm⟩

/-- A file that has been written is read with what was written. -/
theorem read?_write {written : FileTree α} {path : HostPath} {content : α}
    (hwrite : tree.write? path content = some written) : written.read? path = some content := by
  obtain ⟨place, hpath, hplace, rfl⟩ := exists_of_write hwrite
  rw [read?, find?_put_file_self hplace content hpath]

/-- New content makes no path a file that was none, and none no file that was one. -/
theorem isFile_put_file {old : α} (hold : tree.node? place = some (.file old)) (new : α)
    (path : HostPath) : (tree.put place (.file new)).isFile path = tree.isFile path := by
  have hplace : tree.isDirectoryAt place = false := by rw [isDirectoryAt, hold]
  by_cases hpath : tree.place? path = some place
  · have hfind : tree.find? path = some (.file old) := by rw [find?, hpath]; exact hold
    rw [isFile, isFile, find?_put_file_self hplace new hpath, hfind]
  · rw [isFile, isFile, find?_put_file hplace new hpath]

/-- New content of a file is read at no path that leads elsewhere. -/
theorem read?_put_file {old : α} (hold : tree.node? place = some (.file old)) (new : α)
    {path : HostPath} (hpath : tree.place? path ≠ some place) :
    (tree.put place (.file new)).read? path = tree.read? path := by
  have hplace : tree.isDirectoryAt place = false := by rw [isDirectoryAt, hold]
  rw [read?, read?, find?_put_file hplace new hpath]

/-! ### The working directory -/

/-- The working directory and all directories above it are there, under names that paths can
spell. -/
structure Works (tree : FileTree α) : Prop where
  /-- The names that lead to the working directory are such names. -/
  names : ∀ name ∈ tree.workingPlace, HostPath.IsName name
  /-- Each of them leads to a directory. -/
  directories : ∀ place, place <+: tree.workingPlace → tree.isDirectoryAt place = true

/-- From a directory a name leads to the node of that name. -/
theorem step_name {name : NodeName} (hname : HostPath.IsName name)
    (hplace : tree.isDirectoryAt place = true) : tree.step place name = some (place ++ [name]) := by
  have hleads : ¬((!tree.isDirectoryAt place) = true ∨ nameLimit < name.length) := by
    rw [hplace]
    exact not_or.mpr ⟨Bool.false_ne_true, not_lt.mpr hname.short⟩
  rw [step, if_neg hleads, if_neg (not_or.mpr ⟨hname.filled, hname.not_here⟩),
    if_neg hname.not_above]

/-- Names lead down from a directory to the next. -/
theorem foldlM_step_names {names : List NodeName} (hnames : ∀ name ∈ names, HostPath.IsName name)
    (place : Place) (hplaces : ∀ before name after, names = before ++ name :: after →
      tree.isDirectoryAt (place ++ before) = true) :
    names.foldlM tree.step place = some (place ++ names) := by
  induction names generalizing place with
  | nil => rw [List.foldlM_nil, List.append_nil]; rfl
  | cons name names ih =>
    obtain ⟨hname, hrest⟩ := List.forall_mem_cons.mp hnames
    have hplace : tree.isDirectoryAt place = true := by
      simpa using hplaces [] name names rfl
    rw [List.foldlM_cons, step_name hname hplace]
    refine (ih hrest (place ++ [name]) fun before other after h => ?_).trans ?_
    · simpa using hplaces (name :: before) other after (by rw [h, List.cons_append])
    · rw [List.append_assoc, List.singleton_append]

/-- A path by names leads from the root to the node of these names, unless it is overlong. -/
theorem place?_ofNames {names : Place} (hnames : ∀ name ∈ names, HostPath.IsName name)
    (hne : names ≠ []) (hshort : (HostPath.ofNames names).bytes.length ≤ pathLimit)
    (hplaces : ∀ before name after, names = before ++ name :: after →
      tree.isDirectoryAt before = true) :
    tree.place? (.ofNames names) = some names := by
  obtain ⟨first, rest, rfl⟩ := List.exists_cons_of_ne_nil hne
  have hbytes := HostPath.bytes_ofNames hnames hne
  rw [List.flatMap_cons, List.cons_append] at hbytes
  have hplain : ¬((HostPath.ofNames (first :: rest)).bytes = [] ∨
      pathLimit < (HostPath.ofNames (first :: rest)).bytes.length ∨
      0 ∈ (HostPath.ofNames (first :: rest)).bytes) := by
    refine not_or.mpr ⟨?_, not_or.mpr ⟨not_lt.mpr hshort, ?_⟩⟩
    · rw [hbytes]
      exact List.cons_ne_nil _ _
    · exact HostPath.null_notMem_ofNames hnames hne
  have horigin : tree.origin (.ofNames (first :: rest)) = [] := by
    rw [origin, HostPath.isAbsolute, hbytes]
    rfl
  have hroot : tree.step [] [] = some [] := rfl
  rw [place?, if_neg hplain, HostPath.pieces_ofNames hnames hne, horigin, List.foldlM_cons, hroot]
  exact foldlM_step_names hnames [] hplaces

/-- A name below the path of the working directory leads to the node of that name in it, unless
the path is overlong. -/
theorem place?_join (hworks : tree.Works) {directory : HostPath}
    (hdirectory : tree.workingPath? = some directory) {name : NodeName}
    (hname : HostPath.IsName name) (hshort : (directory.join name).bytes.length ≤ pathLimit) :
    tree.place? (directory.join name) = some (tree.workingPlace ++ [name]) := by
  rw [workingPath?, if_pos (hworks.directories _ List.prefix_rfl), Option.some.injEq] at hdirectory
  have hjoin : directory.join name = .ofNames (tree.workingPlace ++ [name]) := by
    rw [HostPath.ofNames, List.foldl_concat, ← hdirectory]
    rfl
  rw [hjoin] at hshort ⊢
  refine place?_ofNames (fun other hother => ?_) (by simp) hshort fun before other after h => ?_
  · rcases List.mem_append.mp hother with hother | hother
    · exact hworks.names other hother
    · exact List.mem_singleton.mp hother ▸ hname
  · have hbefore : before <+: (tree.workingPlace ++ [name]).dropLast := by
      rw [h, List.dropLast_append_of_ne_nil (List.cons_ne_nil other after)]
      exact List.prefix_append _ _
    rw [List.dropLast_concat] at hbefore
    exact hworks.directories before hbefore

/-- A place that is made a directory is one, unless a file is there. -/
theorem isDirectoryAt_makeDirectory (hfile : ∀ content, tree.node? place ≠ some (.file content)) :
    (tree.makeDirectory place).isDirectoryAt place = true := by
  rw [makeDirectory]
  cases hnode : tree.node? place with
  | some node =>
    cases node with
    | file content => exact absurd hnode (hfile content)
    | directory => rw [if_pos (by simp), isDirectoryAt, hnode]
  | none =>
    have hplace : place ≠ [] := by
      rintro rfl
      contradiction
    rw [if_neg (by simp), isDirectoryAt, node?_put_self tree hplace]

/-- No other place is changed by that. -/
theorem node?_makeDirectory_of_ne {other : Place} (hne : other ≠ place) :
    (tree.makeDirectory place).node? other = tree.node? other := by
  rw [makeDirectory]
  split_ifs
  · rfl
  · exact node?_put_of_ne tree hne _

/-- Where there is no file, no directory is lost. -/
theorem isDirectoryAt_makeDirectory_of (hfile : ∀ content, tree.node? place ≠ some (.file content))
    {other : Place} (hother : tree.isDirectoryAt other = true) :
    (tree.makeDirectory place).isDirectoryAt other = true := by
  by_cases hne : other = place
  · rw [hne, isDirectoryAt_makeDirectory hfile]
  · rw [isDirectoryAt, node?_makeDirectory_of_ne hne]
    exact hother

/-- Where there are no files, names lead down from a directory through directories that are made
on the way, and no directory is lost. -/
theorem isDirectoryAt_putFrom {names : List NodeName}
    (hnames : ∀ name ∈ names, HostPath.IsName name) (place : Place)
    (hfiles : ∀ other content, tree.node? other ≠ some (.file content)) :
    (∀ other, tree.isDirectoryAt other = true →
      (putFrom .directory tree place names).isDirectoryAt other = true) ∧
    ∀ before, before <+: names →
      (putFrom .directory tree place names).isDirectoryAt (place ++ before) = true := by
  induction names generalizing tree place with
  | nil =>
    refine ⟨fun _ => isDirectoryAt_makeDirectory_of (hfiles place), fun before hbefore => ?_⟩
    rw [List.prefix_nil.mp hbefore, List.append_nil]
    exact isDirectoryAt_makeDirectory (hfiles place)
  | cons name names ih =>
    obtain ⟨hname, hrest⟩ := List.forall_mem_cons.mp hnames
    have hmade := isDirectoryAt_makeDirectory (hfiles place)
    have hnone : ∀ other content, (tree.makeDirectory place).node? other ≠ some (.file content) := by
      intro other content
      by_cases hne : other = place
      · intro hnode
        rw [hne] at hnode
        rw [isDirectoryAt, hnode] at hmade
        contradiction
      · rw [node?_makeDirectory_of_ne hne]
        exact hfiles other content
    have hstep : putFrom .directory tree place (name :: names) =
        putFrom .directory (tree.makeDirectory place) (place ++ [name]) names := by
      rw [putFrom]
      simp only [step_name hname hmade]
    obtain ⟨hkept, hbelow⟩ := ih hrest (place ++ [name]) hnone
    rw [hstep]
    refine ⟨fun other hother => hkept other (isDirectoryAt_makeDirectory_of (hfiles place) hother),
      fun before hbefore => ?_⟩
    cases before with
    | nil =>
      rw [List.append_nil]
      exact hkept place hmade
    | cons first before =>
      obtain ⟨rfl, hrest⟩ := List.cons_prefix_cons.mp hbefore
      have hnext := hbelow before hrest
      rw [List.append_assoc, List.singleton_append] at hnext
      exact hnext

/-- On a host that has nothing but a working directory, that directory works. -/
theorem works_inDirectory (hnames : ∀ name ∈ place, HostPath.IsName name) :
    (inDirectory place : FileTree α).Works := by
  have hfiles : ∀ (other : Place) (content : α),
      ({} : FileTree α).node? other ≠ some (.file content) := by
    intro other content
    rw [node?]
    split_ifs <;> simp
  exact ⟨hnames, (isDirectoryAt_putFrom hnames [] hfiles).2⟩

/-- It still works once a file has been written. -/
theorem Works.write (hworks : tree.Works) {written : FileTree α} {path : HostPath} {content : α}
    (hwrite : tree.write? path content = some written) : written.Works := by
  obtain ⟨place, -, hplace, rfl⟩ := exists_of_write hwrite
  refine ⟨hworks.names, fun other hother => ?_⟩
  rw [isDirectoryAt_put_file hplace]
  exact hworks.directories other hother

end FileTree

end ForeignMatrix
