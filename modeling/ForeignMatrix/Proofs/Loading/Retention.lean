import ForeignMatrix.Loading.Binding
import ForeignMatrix.Proofs.Loading.Requests

/-!
# What the shared registry retains

Libraries and the binders over them are asked for in five ways, all by way of one registry, while
the host's files change as they like. A success is retained for good and answers every later
request with its key. A failure leaves no trace, so the next request with its key looks at the
host again.
-/

namespace ForeignMatrix

/-! ### Loading -/

namespace LibraryRequest

/-- What a host loads on a request. A base name stands for the file in the working directory only
if this file is there and loads. -/
inductive Loads (host : LibraryHost) (serial : Nat) : LibraryRequest → LoadedLibrary → Prop
  /-- From the path itself. -/
  | path {path : HostPath} {exports : String → Bool} (hi : host.image? path = some exports) :
      Loads host serial (.byPath path) ⟨serial, path, exports⟩
  /-- From the working directory. -/
  | nearby {name : String} {exports : String → Bool}
      (hf : host.isFile (.ofText (LoadedLibrary.localPath name)) = true)
      (hi : host.image? (.ofText (LoadedLibrary.localPath name)) = some exports) :
      Loads host serial (.byName name) ⟨serial, .ofText (LoadedLibrary.localPath name), exports⟩
  /-- From where the system finds the bare file name: the file in the working directory is not
  there, or is broken. -/
  | system {name : String} {exports : String → Bool}
      (hb : host.isFile (.ofText (LoadedLibrary.localPath name)) = false ∨
        host.image? (.ofText (LoadedLibrary.localPath name)) = none)
      (hi : host.image? (.ofText (LoadedLibrary.fileName name)) = some exports) :
      Loads host serial (.byName name) ⟨serial, .ofText (LoadedLibrary.fileName name), exports⟩

/-- Whether a host has something to load on a request: a copy at the path, or for a base name one
in the working directory or one that the system finds. -/
def Available (host : LibraryHost) : LibraryRequest → Prop
  | .byPath path => (host.image? path).isSome
  | .byName name =>
    (host.isFile (.ofText (LoadedLibrary.localPath name)) ∧
      (host.image? (.ofText (LoadedLibrary.localPath name))).isSome) ∨
    (host.image? (.ofText (LoadedLibrary.fileName name))).isSome

variable {host : LibraryHost} {request : LibraryRequest}

/-- A load gives what the host loads, or fails because the host has nothing. -/
theorem load_cases (host : LibraryHost) (serial : Nat) (request : LibraryRequest) :
    (request.Available host ∧
      ∃ library, request.load host serial = .ok library ∧ request.Loads host serial library) ∨
    ¬ request.Available host ∧ ∃ fault, request.load host serial = .error fault := by
  cases request with
  | byPath path =>
    simp only [load, LoadedLibrary.load, Available]
    cases hi : host.image? path with
    | none => exact .inr ⟨by simp, _, rfl⟩
    | some exports => exact .inl ⟨rfl, _, rfl, .path hi⟩
  | byName name =>
    simp only [load, LoadedLibrary.loadByName, Available]
    cases hf : host.isFile (.ofText (LoadedLibrary.localPath name)) with
    | true =>
      cases hi : host.image? (.ofText (LoadedLibrary.localPath name)) with
      | some exports => exact .inl ⟨by simp, _, rfl, .nearby hf hi⟩
      | none =>
        cases hs : host.image? (.ofText (LoadedLibrary.fileName name)) with
        | none => exact .inr ⟨by simp, _, rfl⟩
        | some exports => exact .inl ⟨by simp, _, rfl, .system (.inr hi) hs⟩
    | false =>
      cases hs : host.image? (.ofText (LoadedLibrary.fileName name)) with
      | none => exact .inr ⟨by simp, _, rfl⟩
      | some exports => exact .inl ⟨by simp, _, rfl, .system (.inl hf) hs⟩

/-- What is loaded gets the number that comes next. -/
theorem Loads.serial_eq {serial : Nat} {library : LoadedLibrary}
    (h : request.Loads host serial library) : library.serial = serial := by
  cases h <;> rfl

end LibraryRequest

/-! ### Libraries and binders -/

/-- What a caller asks for by way of the shared registry. -/
inductive LoadingRequest where
  /-- A library. -/
  | library (request : LibraryRequest)
  /-- A binder over a library. -/
  | binder (request : LibraryRequest)
  /-- The binder that settings describe. -/
  | configured (settings : Settings)

/-- What the caller is given. -/
inductive LoadingReply where
  /-- A library. -/
  | library (result : Except Fault LoadedLibrary)
  /-- A binder. -/
  | binder (result : Except Fault Binder)
  /-- A binder that settings describe. -/
  | configured (result : Except SettingsFault Binder)

namespace LoadingRequest

/-- Carries the request out. -/
def perform (host : LibraryHost) (shared : SharedRegistry) :
    LoadingRequest → LoadingReply × SharedRegistry
  | library request => (request.perform host shared).map .library id
  | binder (.byPath path) => (shared.bindPath host path).map .binder id
  | binder (.byName name) => (shared.bindName host name).map .binder id
  | configured settings => (shared.bindSettings host settings).map .configured id

/-- Library that is asked for, or over which the binder is. -/
def needed : LoadingRequest → LibraryRequest
  | library request => request
  | binder request => request
  | configured settings =>
    match settings.library.path with
    | some path => .byPath (.ofText path)
    | none => .byName settings.library.name

/-- Key that the library is kept under. -/
def key (request : LoadingRequest) : String := request.needed.key

/-- Reply with a library: the very library, or a binder over it. -/
def granted (loaded : LoadedLibrary) : LoadingRequest → LoadingReply
  | library _ => .library (.ok loaded)
  | binder _ => .binder (.ok { source := loaded.source })
  | configured settings =>
    .configured (.ok { source := loaded.source, defaults := settings.views })

/-- Reply without a library. -/
def refused (fault : Fault) : LoadingRequest → LoadingReply
  | library _ => .library (.error fault)
  | binder _ => .binder (.error fault)
  | configured settings =>
    match settings.library.path with
    | some path => .configured (.error (.badPath path fault))
    | none => .configured (.error (.badName settings.library.name fault))

/-- The reply hangs on what the registry answers to the request for the library. -/
theorem perform_eq (request : LoadingRequest) (host : LibraryHost) (shared : SharedRegistry) :
    request.perform host shared =
      match shared.request request.key fun serial => request.needed.load host serial with
      | (.ok loaded, after) => (request.granted loaded, after)
      | (.error fault, after) => (request.refused fault, after) := by
  rw [key, ← LibraryRequest.perform_eq]
  cases request with
  | library request =>
    simp only [perform, needed]
    rcases request.perform host shared with ⟨_ | _, _⟩ <;> rfl
  | binder request =>
    cases request with
    | byPath path =>
      simp only [perform, SharedRegistry.bindPath, needed, LibraryRequest.perform]
      rcases shared.loadPath host path with ⟨_ | _, _⟩ <;> rfl
    | byName name =>
      simp only [perform, SharedRegistry.bindName, needed, LibraryRequest.perform]
      rcases shared.loadName host name with ⟨_ | _, _⟩ <;> rfl
  | configured settings =>
    cases hp : settings.library.path with
    | some path =>
      simp only [perform, SharedRegistry.bindSettings, SharedRegistry.bindPath, needed, refused,
        LibraryRequest.perform, hp]
      rcases shared.loadPath host (.ofText path) with ⟨_ | _, _⟩ <;> rfl
    | none =>
      simp only [perform, SharedRegistry.bindSettings, SharedRegistry.bindName, needed, refused,
        LibraryRequest.perform, hp]
      rcases shared.loadName host settings.library.name with ⟨_ | _, _⟩ <;> rfl

end LoadingRequest

namespace SharedRegistry

/-- The registry after requests, each with what the host can load at its moment. -/
def run (shared : SharedRegistry) (asked : List (LibraryHost × LoadingRequest)) : SharedRegistry :=
  asked.foldl (fun shared asked => (asked.2.perform asked.1 shared).2) shared

/-! ### One request -/

/-- No holder of the lock failed, and every library is older than the next one. -/
structure Orderly (shared : SharedRegistry) : Prop where
  /-- No holder of the lock failed. -/
  unlocked : shared.poisoned = false
  /-- Numbers are given out in order. -/
  older {key : String} {library : LoadedLibrary} (hf : shared.registry.find? key = some library) :
    library.serial < shared.nextSerial

variable {shared : SharedRegistry}

/-- The registry with one more library. -/
def keep (shared : SharedRegistry) (key : String) (library : LoadedLibrary) : SharedRegistry :=
  { shared with
    registry := shared.registry.insert key library
    nextSerial := shared.nextSerial + 1 }

/-- What a request does: it is answered with a library that is there, or with one that is loaded
and kept, or it fails without a trace. -/
theorem Orderly.perform_cases (ho : shared.Orderly) (host : LibraryHost)
    (request : LoadingRequest) :
    (∃ library, shared.registry.find? request.key = some library ∧
      request.perform host shared = (request.granted library, shared)) ∨
    shared.registry.find? request.key = none ∧
      ((request.needed.Available host ∧
        ∃ library, request.needed.Loads host shared.nextSerial library ∧
          request.perform host shared =
            (request.granted library, shared.keep request.key library)) ∨
      ¬ request.needed.Available host ∧
        ∃ fault, request.perform host shared = (request.refused fault, shared)) := by
  rw [request.perform_eq]
  rcases shared.request_cases ho.unlocked request.key fun serial =>
      request.needed.load host serial with
    ⟨library, hf, heq⟩ | ⟨hf, ⟨fault, hl, heq⟩ | ⟨library, hl, heq⟩⟩
  · exact .inl ⟨library, hf, by rw [heq]⟩
  · refine .inr ⟨hf, ?_⟩
    rcases LibraryRequest.load_cases host shared.nextSerial request.needed with
      ⟨-, library, hload, -⟩ | ⟨hnone, -⟩
    · rw [hload] at hl
      cases hl
    · exact .inr ⟨hnone, fault, by rw [heq]⟩
  · refine .inr ⟨hf, ?_⟩
    rcases LibraryRequest.load_cases host shared.nextSerial request.needed with
      ⟨hsome, other, hload, hloads⟩ | ⟨-, fault, hload⟩
    · rw [hload] at hl
      cases hl
      exact .inl ⟨hsome, library, hloads, by rw [heq]; rfl⟩
    · rw [hload] at hl
      cases hl

/-- Below the key of the new library is this library, below any other key what was there. -/
theorem find?_keep (shared : SharedRegistry) (key other : String) (library : LoadedLibrary) :
    (shared.keep key library).registry.find? other =
      if other = key then some library else shared.registry.find? other :=
  LibraryRegistry.find?_insert shared.registry key other library

/-- A library with the next number leaves the registry orderly. -/
theorem Orderly.keep (ho : shared.Orderly) (key : String) {library : LoadedLibrary}
    (hs : library.serial = shared.nextSerial) : (shared.keep key library).Orderly where
  unlocked := ho.unlocked
  older {other found} hf := by
    rw [find?_keep] at hf
    change found.serial < shared.nextSerial + 1
    split_ifs at hf with hk
    · cases hf
      omega
    · have hlt := ho.older hf
      omega

/-- A request leaves the registry orderly and what it holds in place. -/
theorem Orderly.perform (ho : shared.Orderly) (host : LibraryHost) (request : LoadingRequest) :
    (request.perform host shared).2.Orderly ∧
      ∀ {key : String} {library : LoadedLibrary}, shared.registry.find? key = some library →
        (request.perform host shared).2.registry.find? key = some library := by
  rcases ho.perform_cases host request with
    ⟨library, -, heq⟩ | ⟨hf, ⟨-, library, hl, heq⟩ | ⟨-, fault, heq⟩⟩
  · rw [heq]
    exact ⟨ho, id⟩
  · rw [heq]
    refine ⟨ho.keep _ hl.serial_eq, fun {key found} hfound => ?_⟩
    rw [find?_keep, if_neg, hfound]
    rintro rfl
    rw [hf] at hfound
    cases hfound
  · rw [heq]
    exact ⟨ho, id⟩

/-! ### Runs -/

/-- So do all requests of a run. -/
theorem Orderly.run (ho : shared.Orderly) (asked : List (LibraryHost × LoadingRequest)) :
    (shared.run asked).Orderly ∧
      ∀ {key : String} {library : LoadedLibrary}, shared.registry.find? key = some library →
        (shared.run asked).registry.find? key = some library := by
  induction asked generalizing shared with
  | nil => exact ⟨ho, id⟩
  | cons first rest ih =>
    obtain ⟨hfirst, hkept⟩ := ho.perform first.1 first.2
    obtain ⟨hrest, hkept'⟩ := ih hfirst
    exact ⟨hrest, fun hf => hkept' (hkept hf)⟩

/-- A library that is there answers every request with its key, whatever the host can load. -/
theorem Orderly.perform_of_find? (ho : shared.Orderly) {request : LoadingRequest}
    {library : LoadedLibrary} (hf : shared.registry.find? request.key = some library)
    (host : LibraryHost) : request.perform host shared = (request.granted library, shared) := by
  rcases ho.perform_cases host request with ⟨found, hfound, heq⟩ | ⟨hnone, -⟩
  · rw [hf] at hfound
    cases hfound
    exact heq
  · rw [hf] at hnone
    cases hnone

/-- A library that is not there is loaded and kept if the host has one. -/
theorem Orderly.perform_of_available (ho : shared.Orderly) {request : LoadingRequest}
    (hnone : shared.registry.find? request.key = none) {host : LibraryHost}
    (hsome : request.needed.Available host) :
    ∃ library, request.needed.Loads host shared.nextSerial library ∧
      request.perform host shared =
        (request.granted library, shared.keep request.key library) := by
  rcases ho.perform_cases host request with ⟨library, hf, -⟩ | ⟨-, ⟨-, hloaded⟩ | ⟨hn, -⟩⟩
  · rw [hnone] at hf
    cases hf
  · exact hloaded
  · exact absurd hsome hn

/-- What a registry does with the requests that come next. -/
structure Retains (shared : SharedRegistry) : Prop where
  /-- What is there stays there, whatever is asked. -/
  kept (asked : List (LibraryHost × LoadingRequest)) (key : String) (library : LoadedLibrary) :
    shared.registry.find? key = some library →
      (shared.run asked).registry.find? key = some library
  /-- A request with a key that is there is answered with the library below it, on every host. -/
  reused (request : LoadingRequest) (library : LoadedLibrary) (host : LibraryHost) :
    shared.registry.find? request.key = some library →
      request.perform host shared = (request.granted library, shared)
  /-- With another key it is answered with a new library if the host has one to load. This library
  is entered below the key and nothing else changes; it answers all later requests with the key. -/
  added (request : LoadingRequest) (host : LibraryHost) :
    shared.registry.find? request.key = none → request.needed.Available host →
      ∃ library after, request.perform host shared = (request.granted library, after) ∧
        request.needed.Loads host shared.nextSerial library ∧
        (∀ key old, shared.registry.find? key = some old → old.serial < library.serial) ∧
        (∀ key, after.registry.find? key =
          if key = request.key then some library else shared.registry.find? key) ∧
        ∀ asked (later : LoadingRequest) host', later.key = request.key →
          later.perform host' (after.run asked) = (later.granted library, after.run asked)
  /-- If the host has none it fails, and nothing changes: the next request with the key is answered
  with a library as soon as the host has one. -/
  failed (request : LoadingRequest) (host : LibraryHost) :
    shared.registry.find? request.key = none → ¬ request.needed.Available host →
      ∃ fault, request.perform host shared = (request.refused fault, shared) ∧
        ∀ (next : LoadingRequest) host', next.key = request.key → next.needed.Available host' →
          ∃ library, (next.perform host' shared).1 = next.granted library

theorem Orderly.retains (ho : shared.Orderly) : shared.Retains where
  kept asked _ _ hf := (ho.run asked).2 hf
  reused _ _ host hf := ho.perform_of_find? hf host
  added request host hnone hsome := by
    obtain ⟨library, hl, heq⟩ := ho.perform_of_available hnone hsome
    refine ⟨library, _, heq, hl, fun key old hf => hl.serial_eq ▸ ho.older hf,
      fun key => find?_keep shared _ _ _, fun asked later host' hkey => ?_⟩
    have hfound : (shared.keep request.key library).registry.find? later.key = some library := by
      rw [find?_keep, if_pos hkey]
    obtain ⟨hafter, hkept⟩ := (ho.keep request.key hl.serial_eq).run asked
    exact hafter.perform_of_find? (hkept hfound) host'
  failed request host hnone hn := by
    rcases ho.perform_cases host request with
      ⟨library, hf, -⟩ | ⟨-, ⟨hsome, -⟩ | ⟨-, fault, heq⟩⟩
    · rw [hnone] at hf
      cases hf
    · exact absurd hsome hn
    · refine ⟨fault, heq, fun next host' hkey hsome => ?_⟩
      obtain ⟨library, -, hnext⟩ := ho.perform_of_available (hkey ▸ hnone) hsome
      exact ⟨library, congrArg Prod.fst hnext⟩

/-- After any requests the registry retains what it has and what it will get. -/
theorem retains_run (asked : List (LibraryHost × LoadingRequest)) : (run {} asked).Retains := by
  have hempty : Orderly {} := ⟨rfl, fun hf => by cases hf⟩
  exact (hempty.run asked).1.retains

end SharedRegistry

end ForeignMatrix
