import ForeignMatrix.Loading.Registry
import ForeignMatrix.Proofs.FileTree

/-!
# Requests to the shared registry

Requests by path and by base name are answered from one registry, while the
host's files change between them. The first success under a key answers every
later request with the key. One library never meets two different requests, so
the answers are right as long as no two different requests share a key. They can
share one: names and displayed paths are keys of one kind, and two paths that
encode no text may be displayed alike.
-/

namespace ForeignMatrix

/-! ### Keys -/

namespace LibraryRegistry

/-- Dropping the entries of one key keeps what is below the others. -/
theorem lookup_filter_ne {key other : String} (hk : other ≠ key) (registry : LibraryRegistry) :
    List.lookup other (registry.filter (·.1 != key)) = List.lookup other registry := by
  induction registry with
  | nil => rfl
  | cons entry rest ih =>
    obtain ⟨entryKey, library⟩ := entry
    rw [List.filter_cons, List.lookup_cons]
    cases ho : other == entryKey with
    | true =>
      have hne : (entryKey != key) = true := bne_iff_ne.mpr (beq_iff_eq.mp ho ▸ hk)
      rw [if_pos hne, List.lookup_cons, ho]
    | false =>
      split
      · rw [List.lookup_cons, ho]
        exact ih
      · exact ih

/-- Below the key of a new entry is its library, below any other key what was there. -/
theorem find?_insert (registry : LibraryRegistry) (key other : String) (library : LoadedLibrary) :
    (registry.insert key library).find? other =
      if other = key then some library else registry.find? other := by
  unfold insert find?
  by_cases hk : other = key
  · rw [if_pos hk, hk, List.lookup_cons_self]
  · rw [if_neg hk, List.lookup_cons, beq_false_of_ne hk]
    exact lookup_filter_ne hk registry

end LibraryRegistry

/-! ### Requests -/

/-- What a caller asks the shared registry for. -/
inductive LibraryRequest where
  /-- The library at a path. -/
  | byPath (path : HostPath)
  /-- The library with a base name. -/
  | byName (name : String)
  deriving DecidableEq

namespace LibraryRequest

/-- Key that the answer is kept under. -/
def key : LibraryRequest → String
  | .byPath path => path.shown
  | .byName name => name

/-- Loads what is asked for, without the registry. -/
def load (host : LibraryHost) (serial : Nat) : LibraryRequest → Except Fault LoadedLibrary
  | .byPath path => LoadedLibrary.load host serial path
  | .byName name => LoadedLibrary.loadByName host serial name

/-- Carries the request out. -/
def perform (host : LibraryHost) (shared : SharedRegistry) :
    LibraryRequest → Except Fault LoadedLibrary × SharedRegistry
  | .byPath path => shared.loadPath host path
  | .byName name => shared.loadName host name

/-- Both kinds of requests go through the registry in the same way. -/
theorem perform_eq (request : LibraryRequest) (host : LibraryHost) (shared : SharedRegistry) :
    request.perform host shared =
      shared.request request.key fun serial => request.load host serial := by
  cases request <;> rfl

/-- The library was loaded from where the request points: from the very path, or from one of the
two places that a base name stands for. -/
def MetBy (library : LoadedLibrary) : LibraryRequest → Prop
  | .byPath path => library.origin = path
  | .byName name =>
    library.origin = .ofText (LoadedLibrary.localPath name) ∨
      library.origin = .ofText (LoadedLibrary.fileName name)

/-- What is loaded meets the request. -/
theorem metBy_of_load {request : LibraryRequest} {host : LibraryHost} {serial : Nat}
    {library : LoadedLibrary} (hl : request.load host serial = .ok library) :
    request.MetBy library := by
  cases request with
  | byPath path =>
    simp only [load, LoadedLibrary.load] at hl
    split at hl
    · cases hl
      rfl
    · cases hl
  | byName name =>
    simp only [load, LoadedLibrary.loadByName] at hl
    split at hl
    · rename_i found _ hfound
      split at hfound
      · obtain ⟨exportsSymbol, -, rfl⟩ := Option.map_eq_some_iff.mp hfound
        cases hl
        exact .inl rfl
      · cases hfound
    · cases hl
      exact .inr rfl
    · cases hl

/-- A library that was loaded for a base name shows a longer path than the name. -/
theorem length_path_of_metBy {name : String} {library : LoadedLibrary}
    (hm : (LibraryRequest.byName name).MetBy library) : name.length < library.path.length := by
  rcases hm with ho | ho <;>
  · simp only [LoadedLibrary.path, ho, HostPath.shown_ofText, LoadedLibrary.localPath,
      LoadedLibrary.fileName, String.length_append]
    have hlib : "lib".length = 3 := rfl
    omega

/-- A library meets at most one request with a key. -/
theorem eq_of_metBy {first second : LibraryRequest} {library : LoadedLibrary}
    (hk : first.key = second.key) (h₁ : first.MetBy library) (h₂ : second.MetBy library) :
    first = second := by
  -- A library met by a path shows the key itself, one met by a name shows more than the key.
  cases first with
  | byPath path =>
    cases second with
    | byPath other =>
      rw [← show library.origin = path from h₁, ← show library.origin = other from h₂]
    | byName name =>
      have hlt := length_path_of_metBy h₂
      have hp : library.path = name := by
        rw [LoadedLibrary.path, show library.origin = path from h₁]
        exact hk
      rw [hp] at hlt
      exact absurd hlt (Nat.lt_irrefl _)
  | byName name =>
    cases second with
    | byPath path =>
      have hlt := length_path_of_metBy h₁
      have hp : library.path = name := by
        rw [LoadedLibrary.path, show library.origin = path from h₂]
        exact hk.symm
      rw [hp] at hlt
      exact absurd hlt (Nat.lt_irrefl _)
    | byName other => rw [show name = other from hk]

end LibraryRequest

/-! ### One step -/

/-- What an unlocked registry does on a request: it answers what it keeps, or it loads and keeps
a success. -/
theorem SharedRegistry.request_cases {shared : SharedRegistry} (hu : shared.poisoned = false)
    (key : String) (load : Nat → Except Fault LoadedLibrary) :
    (∃ library, shared.registry.find? key = some library ∧
      shared.request key load = (.ok library, shared)) ∨
    shared.registry.find? key = none ∧
      ((∃ fault, load shared.nextSerial = .error fault ∧
        shared.request key load = (.error fault, shared)) ∨
      ∃ library, load shared.nextSerial = .ok library ∧
        shared.request key load = (.ok library,
          { shared with
            registry := shared.registry.insert key library
            nextSerial := shared.nextSerial + 1 })) := by
  unfold SharedRegistry.request
  rw [if_neg (by rw [hu]; exact Bool.false_ne_true)]
  cases shared.registry.find? key with
  | some library => exact .inl ⟨library, rfl, rfl⟩
  | none =>
    refine .inr ⟨rfl, ?_⟩
    cases load shared.nextSerial with
    | error fault => exact .inl ⟨fault, rfl, rfl⟩
    | ok library => exact .inr ⟨library, rfl, rfl⟩

/-- The shared registry with the requests that it answered. -/
structure LibraryLog where
  /-- The registry as it is now. -/
  shared : SharedRegistry := {}
  /-- Requests that were answered by a library, each with it, from the first to the last. -/
  answered : List (LibraryRequest × LoadedLibrary) := []

namespace LibraryLog

/-- Carries out a request with what the host can load at that moment. -/
def step (log : LibraryLog) (asked : LibraryHost × LibraryRequest) : LibraryLog :=
  match asked.2.perform asked.1 log.shared with
  | (.ok library, shared) => ⟨shared, log.answered ++ [(asked.2, library)]⟩
  | (.error _, shared) => ⟨shared, log.answered⟩

/-- Carries out requests one after the other. -/
def run (log : LibraryLog) (asked : List (LibraryHost × LibraryRequest)) : LibraryLog :=
  asked.foldl step log

/-- First answered request with a key, with its library. -/
def first? (log : LibraryLog) (key : String) : Option (LibraryRequest × LoadedLibrary) :=
  log.answered.find? (·.1.key == key)

/-- The registry keeps the answer to the first request with each key, and every answer is one
that it keeps. -/
structure Sound (log : LibraryLog) : Prop where
  /-- No holder of the lock failed. -/
  unlocked : log.shared.poisoned = false
  /-- The first answer with a key is kept under it. -/
  kept : ∀ key, log.shared.registry.find? key = (log.first? key).map (·.2)
  /-- The first answer with a key is right. -/
  met : ∀ key answer, log.first? key = some answer → answer.1.MetBy answer.2
  /-- Every answer is kept under its key. -/
  same : ∀ answer ∈ log.answered, log.shared.registry.find? answer.1.key = some answer.2

variable {log : LibraryLog}

/-- The first answered request with a key was answered and has the key. -/
theorem first?_some {key : String} {answer : LibraryRequest × LoadedLibrary}
    (hf : log.first? key = some answer) : answer ∈ log.answered ∧ answer.1.key = key := by
  have hkey := List.find?_some hf
  exact ⟨List.mem_of_find?_eq_some hf, beq_iff_eq.mp hkey⟩

/-- Another answer is the first one with its key when there was none. -/
theorem first?_append (shared : SharedRegistry) (answer : LibraryRequest × LoadedLibrary)
    (key : String) :
    LibraryLog.first? ⟨shared, log.answered ++ [answer]⟩ key =
      (log.first? key).or (if answer.1.key = key then some answer else none) := by
  unfold first?
  rw [List.find?_append, List.find?_singleton]
  by_cases hk : answer.1.key = key
  · rw [if_pos hk, if_pos (beq_iff_eq.mpr hk)]
  · rw [if_neg hk, if_neg (fun h => hk (beq_iff_eq.mp h))]

/-- Nothing was answered before the first request. -/
theorem Sound.empty : Sound {} where
  unlocked := rfl
  kept _ := rfl
  met _ _ h := by cases h
  same _ h := by cases h

/-- An answer that the registry keeps leaves the log sound. -/
theorem Sound.reuse (hs : log.Sound) {request : LibraryRequest} {library : LoadedLibrary}
    (hf : log.shared.registry.find? request.key = some library) :
    Sound { log with answered := log.answered ++ [(request, library)] } := by
  have hfirst (key : String) : LibraryLog.first?
      { log with answered := log.answered ++ [(request, library)] } key = log.first? key := by
    rw [first?_append]
    by_cases hk : request.key = key
    · rw [hs.kept, hk] at hf
      obtain ⟨answer, ha, -⟩ := Option.map_eq_some_iff.mp hf
      rw [ha, Option.some_or]
    · rw [if_neg hk, Option.or_none]
  refine ⟨hs.unlocked, fun key => ?_, fun key answer ha => ?_, fun answer ha => ?_⟩
  · rw [hfirst]
    exact hs.kept key
  · rw [hfirst] at ha
    exact hs.met key answer ha
  · rcases List.mem_append.mp ha with ha | ha
    · exact hs.same answer ha
    · cases List.mem_singleton.mp ha
      exact hf

/-- An answer that was loaded, under a key that the registry did not keep, does so too. -/
theorem Sound.keep (hs : log.Sound) {request : LibraryRequest} {library : LoadedLibrary}
    (hf : log.shared.registry.find? request.key = none) (hm : request.MetBy library) :
    Sound ⟨{ log.shared with
        registry := log.shared.registry.insert request.key library
        nextSerial := log.shared.nextSerial + 1 },
      log.answered ++ [(request, library)]⟩ := by
  have hnone : log.first? request.key = none := Option.map_eq_none_iff.mp (hs.kept _ ▸ hf)
  refine ⟨hs.unlocked, fun key => ?_, fun key answer ha => ?_, fun answer ha => ?_⟩
  · rw [first?_append, LibraryRegistry.find?_insert]
    by_cases hk : request.key = key
    · rw [if_pos hk.symm, ← hk, hnone, if_pos rfl, Option.none_or]
      rfl
    · rw [if_neg (Ne.symm hk), if_neg hk, Option.or_none]
      exact hs.kept key
  · rw [first?_append] at ha
    rcases Option.or_eq_some_iff.mp ha with ha | ⟨-, ha⟩
    · exact hs.met key answer ha
    · split at ha
      · cases ha
        exact hm
      · cases ha
  · rw [LibraryRegistry.find?_insert]
    rcases List.mem_append.mp ha with ha | ha
    · rw [if_neg]
      · exact hs.same answer ha
      · intro hk
        have hsame := hs.same answer ha
        rw [hk, hf] at hsame
        cases hsame
    · cases List.mem_singleton.mp ha
      rw [if_pos rfl]

/-- So does every request. -/
theorem Sound.step (hs : log.Sound) (asked : LibraryHost × LibraryRequest) :
    (log.step asked).Sound := by
  obtain ⟨host, request⟩ := asked
  unfold LibraryLog.step
  dsimp only
  rw [request.perform_eq]
  rcases SharedRegistry.request_cases hs.unlocked request.key fun serial =>
    request.load host serial with ⟨library, hf, heq⟩ | ⟨hf, ⟨fault, -, heq⟩ | ⟨library, hl, heq⟩⟩
  · rw [heq]
    exact hs.reuse hf
  · rw [heq]
    exact hs
  · rw [heq]
    exact hs.keep hf (LibraryRequest.metBy_of_load hl)

/-! ### Runs -/

/-- So do all requests of a run. -/
theorem Sound.run (hs : log.Sound) (asked : List (LibraryHost × LibraryRequest)) :
    (log.run asked).Sound := by
  induction asked generalizing log with
  | nil => exact hs
  | cons first rest ih => exact ih (hs.step first)

/-- An answer is right exactly when the first answered request with the key was the same one. -/
theorem Sound.metBy_iff (hs : log.Sound) {answer : LibraryRequest × LoadedLibrary}
    (ha : answer ∈ log.answered) :
    answer.1.MetBy answer.2 ↔ (log.first? answer.1.key).map (·.1) = some answer.1 := by
  have hsame := hs.same answer ha
  rw [hs.kept] at hsame
  obtain ⟨first, hfirst, heq⟩ := Option.map_eq_some_iff.mp hsame
  have hkey := (first?_some hfirst).2
  have hmet : first.1.MetBy answer.2 := heq ▸ hs.met _ first hfirst
  rw [hfirst, Option.map_some, Option.some_inj]
  constructor
  · exact LibraryRequest.eq_of_metBy hkey hmet
  · intro h
    rw [← h]
    exact hmet

/-- Requests by path and by base name, carried out in any order from an empty registry while the
host's files change, are all answered rightly exactly when no two different requests among those
answered have the same key; each single answer is right exactly when the first request that was
answered under its key is the same one. -/
theorem answers_right_iff (asked : List (LibraryHost × LibraryRequest)) :
    let log := LibraryLog.run {} asked
    ((∀ answer ∈ log.answered, answer.1.MetBy answer.2) ↔
      ∀ one ∈ log.answered, ∀ other ∈ log.answered, one.1.key = other.1.key → one.1 = other.1) ∧
    ∀ answer ∈ log.answered,
      (answer.1.MetBy answer.2 ↔ (log.first? answer.1.key).map (·.1) = some answer.1) := by
  intro log
  have hs : log.Sound := Sound.empty.run asked
  refine ⟨⟨fun hall one h₁ other h₂ hk => ?_, fun hall answer ha => ?_⟩,
    fun answer ha => hs.metBy_iff ha⟩
  · have hfirst := (hs.metBy_iff h₁).mp (hall one h₁)
    rw [hk, (hs.metBy_iff h₂).mp (hall other h₂), Option.some_inj] at hfirst
    exact hfirst.symm
  · have hsame := hs.same answer ha
    rw [hs.kept] at hsame
    obtain ⟨first, hfirst, -⟩ := Option.map_eq_some_iff.mp hsame
    obtain ⟨hmem, hkey⟩ := first?_some hfirst
    rw [hs.metBy_iff ha, hfirst, Option.map_some, Option.some_inj]
    exact hall first hmem answer ha hkey

/-- A host where every path finds a file that loads. -/
def openHost : LibraryHost where
  isFile _ := true
  image? _ := some fun _ => true

/-- On such a host any two requests with one key are answered by the library of the first. -/
theorem run_openHost {first second : LibraryRequest} {library : LoadedLibrary}
    (hl : first.load openHost 0 = .ok library) (hk : second.key = first.key) :
    (LibraryLog.run {} [(openHost, first), (openHost, second)]).answered =
      [(first, library), (second, library)] := by
  have h₁ : LibraryLog.step {} (openHost, first) =
      ⟨{ registry := [(first.key, library)], nextSerial := 1 }, [(first, library)]⟩ := by
    simp only [LibraryLog.step, LibraryRequest.perform_eq, SharedRegistry.request,
      LibraryRegistry.find?, List.lookup_nil, hl, LibraryRegistry.insert, List.filter_nil]
    rfl
  rw [LibraryLog.run, List.foldl_cons, h₁, List.foldl_cons, List.foldl_nil]
  simp only [LibraryLog.step, LibraryRequest.perform_eq, SharedRegistry.request,
    LibraryRegistry.find?, hk, List.lookup_cons_self]
  rfl

/-- A path is answered by the library of the same base name, and a path that encodes no text by
the library at another such path. -/
theorem path_answered_by_other :
    let path : LibraryRequest := .byPath (.ofText "x/y")
    let broken : LibraryRequest := .byPath ⟨[0xfe]⟩
    (∃ library, library.origin = .ofText "./libx/y.so" ∧ ¬ path.MetBy library ∧
      (path, library) ∈
        (LibraryLog.run {} [(openHost, .byName "x/y"), (openHost, path)]).answered) ∧
    ∃ library, library.origin = ⟨[0xff]⟩ ∧ ¬ broken.MetBy library ∧
      (broken, library) ∈
        (LibraryLog.run {} [(openHost, .byPath ⟨[0xff]⟩), (openHost, broken)]).answered := by
  intro path broken
  refine ⟨⟨⟨0, .ofText "./libx/y.so", fun _ => true⟩, rfl, ?_, ?_⟩,
    ⟨⟨0, ⟨[0xff]⟩, fun _ => true⟩, rfl, ?_, ?_⟩⟩
  · intro h
    exact absurd (HostPath.ofText_injective h) (by decide)
  · have hl : (LibraryRequest.byName "x/y").load openHost 0 =
        .ok ⟨0, .ofText "./libx/y.so", fun _ => true⟩ := rfl
    have hk : path.key = (LibraryRequest.byName "x/y").key := HostPath.shown_ofText "x/y"
    rw [run_openHost hl hk]
    exact .tail _ (.head _)
  · intro h
    exact absurd (congrArg HostPath.bytes h) (by decide)
  · have hk : broken.key = (LibraryRequest.byPath ⟨[0xff]⟩).key := by
      simp only [broken, LibraryRequest.key, HostPath.shown, Text.Utf8.decodeLossy,
        Text.Utf8.pieces]
      rfl
    have hl : (LibraryRequest.byPath ⟨[0xff]⟩).load openHost 0 =
        .ok ⟨0, ⟨[0xff]⟩, fun _ => true⟩ := rfl
    rw [run_openHost hl hk]
    exact .tail _ (.head _)

end LibraryLog

end ForeignMatrix
