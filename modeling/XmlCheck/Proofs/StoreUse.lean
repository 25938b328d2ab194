import XmlCheck.Pipeline
import XmlCheck.Proofs.Lookup

/-!
# One use of a store

A store changes in two ways only: an identifier is looked for, or the schema at a canonical place is
compiled. What is known is kept, and failure leaves no trace: both are equations on the store after
a use (`lookup_places_use`, `schemas_use`).
-/

namespace XmlCheck

open Schema

inductive StoreUse
  | find (identifier : Text)
  | compile (place : List Text)

theorem Pipeline.aid_eq_some {pipeline : Pipeline} {resolver : Resolver}
    (haid : pipeline.aid = some resolver) : resolver = pipeline.resolver := by
  unfold aid at haid
  split at haid
  · exact (Option.some.inj haid).symm
  · cases haid

namespace SchemaStore

section Use

variable (pipeline : Pipeline) (tree : FileTree) (here : List Text) (store : SchemaStore)

def use : StoreUse → SchemaStore
  | .find identifier => (store.resolve pipeline.resolver tree identifier).2
  | .compile place => (store.loadPlace pipeline.aid tree here place).2

/-- The identifiers among addresses, if there is a resolver to ask for them. -/
def identifiersIn (resolver : Option Resolver) (addresses : List Text) : List Text :=
  if resolver.isSome then addresses.filter isIdentifier else []

def compilation (place : List Text) : Loading :=
  loadFile (store.fetch pipeline.aid tree here) tree place

def asks : StoreUse → List Text
  | .find identifier => [identifier]
  | .compile place =>
    match store.schemas.lookup place with
    | some _ => []
    | none => identifiersIn pipeline.aid (store.compilation pipeline tree here place).asked

def finds (use : StoreUse) : List (Text × List Text) :=
  (store.asks pipeline tree here use).filterMap fun identifier =>
    (store.place? pipeline.resolver tree identifier).toOption.map (identifier, ·)

/-- The schema that a use compiles, with its place. -/
def compiles : StoreUse → List (List Text × XmlCheck.Schema)
  | .find _ => []
  | .compile place =>
    match store.schemas.lookup place, (store.compilation pipeline tree here place).result with
    | none, .ok schema => [(place, schema)]
    | _, _ => []

end Use

/-! ### One use -/

theorem schemas_rememberPlace (store : SchemaStore) (resolver : Resolver) (tree : FileTree)
    (identifier : Text) :
    (store.rememberPlace resolver tree identifier).schemas = store.schemas := by
  unfold rememberPlace
  split <;> rfl

theorem lookup_rememberPlace (store : SchemaStore) (resolver : Resolver) (tree : FileTree)
    (asked identifier : Text) :
    (store.rememberPlace resolver tree asked).places.lookup identifier =
      (store.places.lookup identifier).or
        (if identifier = asked then (resolver.locate tree identifier).toOption else none) := by
  unfold rememberPlace
  split
  · rename_i place hnone hlocate
    rw [lookup_cons_eq_ite]
    by_cases heq : identifier = asked
    · subst heq
      rw [if_pos rfl, if_pos rfl, hnone, hlocate]
      rfl
    · rw [if_neg heq, if_neg heq, Option.or_none]
  · rename_i hother
    by_cases heq : identifier = asked
    · subst heq
      rw [if_pos rfl]
      cases hlookup : store.places.lookup identifier with
      | some place => rfl
      | none =>
          cases hlocate : resolver.locate tree identifier with
          | error failure => rfl
          | ok place => exact absurd hlocate (hother place hlookup)
    · rw [if_neg heq, Option.or_none]

theorem schemas_rememberAll (resolver : Resolver) (tree : FileTree) (asked : List Text)
    (store : SchemaStore) :
    (asked.foldl (fun store a => store.rememberPlace resolver tree a) store).schemas =
      store.schemas := by
  induction asked generalizing store with
  | nil => rfl
  | cons first asked ih => rw [List.foldl_cons, ih, schemas_rememberPlace]

theorem lookup_rememberAll (resolver : Resolver) (tree : FileTree) (asked : List Text)
    (store : SchemaStore) (identifier : Text) :
    (asked.foldl (fun store a => store.rememberPlace resolver tree a) store).places.lookup
        identifier =
      (store.places.lookup identifier).or
        (if identifier ∈ asked then (resolver.locate tree identifier).toOption else none) := by
  induction asked generalizing store with
  | nil => simp
  | cons first asked ih =>
      -- all are asked on the same files, so it does not matter which one asks first
      rw [List.foldl_cons, ih, lookup_rememberPlace, Option.or_assoc]
      congr 1
      by_cases hfirst : identifier = first
      · subst hfirst
        by_cases hmem : identifier ∈ asked <;> simp [hmem]
      · simp [hfirst]

theorem schemas_rememberAsked (store : SchemaStore) (resolver : Option Resolver)
    (tree : FileTree) (addresses : List Text) :
    (store.rememberAsked resolver tree addresses).schemas = store.schemas := by
  unfold rememberAsked
  split
  · rfl
  · exact schemas_rememberAll _ tree _ store

theorem lookup_rememberAsked (store : SchemaStore) (pipeline : Pipeline) (tree : FileTree)
    (addresses : List Text) (identifier : Text) :
    (store.rememberAsked pipeline.aid tree addresses).places.lookup identifier =
      (store.places.lookup identifier).or
        (if identifier ∈ identifiersIn pipeline.aid addresses then
          (pipeline.resolver.locate tree identifier).toOption else none) := by
  cases haid : pipeline.aid with
  | none => simp [rememberAsked, identifiersIn]
  | some resolver =>
      rw [Pipeline.aid_eq_some haid]
      exact lookup_rememberAll pipeline.resolver tree (addresses.filter isIdentifier) store
        identifier

theorem loadPlace_of_lookup {store : SchemaStore} {place : List Text} {schema : XmlCheck.Schema}
    (hlookup : store.schemas.lookup place = some schema) (resolver : Option Resolver)
    (tree : FileTree) (here : List Text) :
    store.loadPlace resolver tree here place = (.ok schema, store) := by
  simp only [loadPlace, hlookup]

theorem loadPlace_fst_of_lookup_eq_none {store : SchemaStore} {place : List Text}
    (hlookup : store.schemas.lookup place = none) (pipeline : Pipeline) (tree : FileTree)
    (here : List Text) :
    (store.loadPlace pipeline.aid tree here place).1 =
      (store.compilation pipeline tree here place).result.mapError
        fun cause => ⟨place, shownPlace pipeline.aid place, cause⟩ := by
  simp only [loadPlace, hlookup, compilation]
  cases (loadFile (store.fetch pipeline.aid tree here) tree place).result <;> rfl

theorem places_loadPlace_of_lookup_eq_none {store : SchemaStore} {place : List Text}
    (hlookup : store.schemas.lookup place = none) (pipeline : Pipeline) (tree : FileTree)
    (here : List Text) :
    (store.loadPlace pipeline.aid tree here place).2.places =
      (store.rememberAsked pipeline.aid tree
        (store.compilation pipeline tree here place).asked).places := by
  simp only [loadPlace, hlookup, compilation]
  cases (loadFile (store.fetch pipeline.aid tree here) tree place).result <;> rfl

theorem asks_of_lookup {store : SchemaStore} {place : List Text} {schema : XmlCheck.Schema}
    (hlookup : store.schemas.lookup place = some schema) (pipeline : Pipeline) (tree : FileTree)
    (here : List Text) :
    store.asks pipeline tree here (.compile place) = [] := by
  simp only [asks, hlookup]

theorem asks_of_lookup_eq_none {store : SchemaStore} {place : List Text}
    (hlookup : store.schemas.lookup place = none) (pipeline : Pipeline) (tree : FileTree)
    (here : List Text) :
    store.asks pipeline tree here (.compile place) =
      identifiersIn pipeline.aid (store.compilation pipeline tree here place).asked := by
  simp only [asks, hlookup]

/-- What a store knows of identifiers after a use: what it knew, and what the resolver says to those
that the use asks for. -/
theorem lookup_places_use (pipeline : Pipeline) (tree : FileTree) (here : List Text)
    (store : SchemaStore) (use : StoreUse) (identifier : Text) :
    (store.use pipeline tree here use).places.lookup identifier =
      (store.places.lookup identifier).or
        (if identifier ∈ store.asks pipeline tree here use then
          (pipeline.resolver.locate tree identifier).toOption else none) := by
  cases use with
  | find asked =>
      simp only [asks, List.mem_singleton]
      exact lookup_rememberPlace store pipeline.resolver tree asked identifier
  | compile place =>
      rw [SchemaStore.use]
      cases hlookup : store.schemas.lookup place with
      | some schema =>
          rw [loadPlace_of_lookup hlookup, asks_of_lookup hlookup, if_neg List.not_mem_nil,
            Option.or_none]
      | none =>
          rw [places_loadPlace_of_lookup_eq_none hlookup, asks_of_lookup_eq_none hlookup]
          exact lookup_rememberAsked store pipeline tree _ identifier

/-- The schemas that a store knows after a use: what it knew, and what the use compiles. -/
theorem schemas_use (pipeline : Pipeline) (tree : FileTree) (here : List Text)
    (store : SchemaStore) (use : StoreUse) :
    (store.use pipeline tree here use).schemas =
      store.compiles pipeline tree here use ++ store.schemas := by
  cases use with
  | find asked => exact schemas_rememberPlace store pipeline.resolver tree asked
  | compile place =>
      simp only [SchemaStore.use, compiles, loadPlace, compilation]
      cases hlookup : store.schemas.lookup place with
      | some schema => rfl
      | none =>
          cases (loadFile (store.fetch pipeline.aid tree here) tree place).result with
          | error cause => exact schemas_rememberAsked store pipeline.aid tree _
          | ok schema => exact congrArg _ (schemas_rememberAsked store pipeline.aid tree _)

theorem place?_of_lookup {store : SchemaStore} {identifier : Text} {place : List Text}
    (hlookup : store.places.lookup identifier = some place) (resolver : Resolver)
    (tree : FileTree) : store.place? resolver tree identifier = .ok place := by
  simp only [place?, hlookup]

theorem place?_of_lookup_eq_none {store : SchemaStore} {identifier : Text}
    (hlookup : store.places.lookup identifier = none) (resolver : Resolver) (tree : FileTree) :
    store.place? resolver tree identifier = resolver.locate tree identifier := by
  simp only [place?, hlookup]

/-- A search that fails leaves no trace. -/
theorem snd_resolve_of_error {store : SchemaStore} {resolver : Resolver} {tree : FileTree}
    {identifier : Text} {failure : ResolveFailure}
    (hresolve : (store.resolve resolver tree identifier).1 = .error failure) :
    (store.resolve resolver tree identifier).2 = store := by
  have hplace : store.place? resolver tree identifier = .error failure := hresolve
  cases hlookup : store.places.lookup identifier with
  | some place =>
      rw [place?_of_lookup hlookup] at hplace
      cases hplace
  | none =>
      rw [place?_of_lookup_eq_none hlookup] at hplace
      simp only [resolve, rememberPlace, hlookup, hplace]

theorem mem_finds {pipeline : Pipeline} {tree : FileTree} {here : List Text} {store : SchemaStore}
    {use : StoreUse} {identifier : Text} {place : List Text} :
    (identifier, place) ∈ store.finds pipeline tree here use ↔
      identifier ∈ store.asks pipeline tree here use ∧
        store.place? pipeline.resolver tree identifier = .ok place := by
  unfold finds
  rw [List.mem_filterMap]
  constructor
  · rintro ⟨asked, hasked, hmap⟩
    cases hplace : store.place? pipeline.resolver tree asked with
    | error failure => simp [hplace, Except.toOption] at hmap
    | ok found =>
        simp only [hplace, Except.toOption, Option.map_some, Option.some.injEq,
          Prod.mk.injEq] at hmap
        obtain ⟨rfl, rfl⟩ := hmap
        exact ⟨hasked, hplace⟩
  · rintro ⟨hasked, hplace⟩
    exact ⟨identifier, hasked, by simp [hplace, Except.toOption]⟩

theorem lookup_use_of_lookup {store : SchemaStore} {identifier : Text} {place : List Text}
    (hlookup : store.places.lookup identifier = some place) (pipeline : Pipeline)
    (tree : FileTree) (here : List Text) (use : StoreUse) :
    (store.use pipeline tree here use).places.lookup identifier = some place := by
  rw [lookup_places_use, hlookup, Option.some_or]

theorem lookup_use_of_mem_finds {pipeline : Pipeline} {tree : FileTree} {here : List Text}
    {store : SchemaStore} {use : StoreUse} {identifier : Text} {place : List Text}
    (hfound : (identifier, place) ∈ store.finds pipeline tree here use) :
    (store.use pipeline tree here use).places.lookup identifier = some place := by
  obtain ⟨hasked, hplace⟩ := mem_finds.mp hfound
  cases hlookup : store.places.lookup identifier with
  | some known =>
      rw [place?_of_lookup hlookup] at hplace
      cases hplace
      exact lookup_use_of_lookup hlookup pipeline tree here use
  | none =>
      rw [place?_of_lookup_eq_none hlookup] at hplace
      rw [lookup_places_use, hlookup, if_pos hasked, hplace]
      rfl

theorem lookup_resolve_of_ok {pipeline : Pipeline} {tree : FileTree} {store : SchemaStore}
    {identifier : Text} {place : List Text}
    (hresolve : (store.resolve pipeline.resolver tree identifier).1 = .ok place) :
    (store.resolve pipeline.resolver tree identifier).2.places.lookup identifier =
      some place := by
  have hfound : (identifier, place) ∈ store.finds pipeline tree [] (.find identifier) :=
    mem_finds.mpr ⟨List.mem_singleton_self identifier, hresolve⟩
  exact lookup_use_of_mem_finds hfound

/-- What is known of an identifier after a use was known before, or the resolver has just said it.
-/
theorem known_or_located {store : SchemaStore} {use : StoreUse} {pipeline : Pipeline}
    {tree : FileTree} {here : List Text} {identifier : Text} {place : List Text}
    (hlookup : (store.use pipeline tree here use).places.lookup identifier = some place) :
    store.places.lookup identifier = some place ∨
      store.places.lookup identifier = none ∧ identifier ∈ store.asks pipeline tree here use ∧
        pipeline.resolver.locate tree identifier = .ok place := by
  rw [lookup_places_use, Option.or_eq_some_iff] at hlookup
  rcases hlookup with hknown | ⟨hunknown, hanswer⟩
  · exact .inl hknown
  · split at hanswer
    · rename_i hasked
      cases hlocate : pipeline.resolver.locate tree identifier with
      | error failure =>
          rw [hlocate] at hanswer
          cases hanswer
      | ok found =>
          rw [hlocate] at hanswer
          cases hanswer
          exact .inr ⟨hunknown, hasked, rfl⟩
    · cases hanswer

theorem mem_finds_of_lookup_use {pipeline : Pipeline} {tree : FileTree} {here : List Text}
    {store : SchemaStore} {use : StoreUse} {identifier : Text} {place : List Text}
    (hlookup : (store.use pipeline tree here use).places.lookup identifier = some place) :
    store.places.lookup identifier = some place ∨
      (identifier, place) ∈ store.finds pipeline tree here use := by
  rcases known_or_located hlookup with hknown | ⟨hunknown, hasked, hlocate⟩
  · exact .inl hknown
  · refine .inr (mem_finds.mpr ⟨hasked, ?_⟩)
    rw [place?_of_lookup_eq_none hunknown, hlocate]

theorem mem_compiles {pipeline : Pipeline} {tree : FileTree} {here : List Text}
    {store : SchemaStore} {use : StoreUse} {place : List Text} {schema : XmlCheck.Schema} :
    (place, schema) ∈ store.compiles pipeline tree here use ↔
      use = .compile place ∧ store.schemas.lookup place = none ∧
        (store.compilation pipeline tree here place).result = .ok schema := by
  cases use with
  | find identifier => simp [compiles]
  | compile own =>
      rw [StoreUse.compile.injEq]
      cases hlookup : store.schemas.lookup own with
      | some known =>
          simp only [compiles, hlookup, List.not_mem_nil, false_iff]
          rintro ⟨rfl, hunknown, _⟩
          rw [hlookup] at hunknown
          cases hunknown
      | none =>
          cases hresult : (store.compilation pipeline tree here own).result with
          | error cause =>
              simp only [compiles, hlookup, hresult, List.not_mem_nil, false_iff]
              rintro ⟨rfl, _, hcompiled⟩
              rw [hresult] at hcompiled
              cases hcompiled
          | ok compiled =>
              simp only [compiles, hlookup, hresult, List.mem_singleton, Prod.mk.injEq]
              constructor
              · rintro ⟨rfl, rfl⟩
                exact ⟨rfl, hlookup, hresult⟩
              · rintro ⟨rfl, _, hcompiled⟩
                rw [hresult] at hcompiled
                cases hcompiled
                exact ⟨rfl, rfl⟩

/-- A use compiles nothing, or one schema that the store does not know yet. -/
theorem compiles_cases (pipeline : Pipeline) (tree : FileTree) (here : List Text)
    (store : SchemaStore) (use : StoreUse) :
    store.compiles pipeline tree here use = [] ∨
      ∃ place schema, store.compiles pipeline tree here use = [(place, schema)] ∧
        store.schemas.lookup place = none := by
  cases use with
  | find identifier => exact .inl rfl
  | compile place =>
      cases hlookup : store.schemas.lookup place with
      | some schema => exact .inl (by simp only [compiles, hlookup])
      | none =>
          cases hresult : (store.compilation pipeline tree here place).result with
          | error cause => exact .inl (by simp only [compiles, hlookup, hresult])
          | ok schema =>
              exact .inr ⟨place, schema, by simp only [compiles, hlookup, hresult], hlookup⟩

theorem lookup_schemas_use (pipeline : Pipeline) (tree : FileTree) (here : List Text)
    (store : SchemaStore) (use : StoreUse) (place : List Text) :
    (store.use pipeline tree here use).schemas.lookup place =
      (store.schemas.lookup place).or ((store.compiles pipeline tree here use).lookup place) := by
  rw [schemas_use]
  rcases compiles_cases pipeline tree here store use with hnone | ⟨new, schema, hone, hunknown⟩
  · rw [hnone, List.lookup_nil, Option.or_none, List.nil_append]
  · rw [hone, List.singleton_append, lookup_cons_eq_ite, lookup_cons_eq_ite]
    by_cases heq : place = new
    · simp [heq, hunknown]
    · simp [heq]

theorem nodup_schemas_use {store : SchemaStore} (hnodup : (store.schemas.map Prod.fst).Nodup)
    (pipeline : Pipeline) (tree : FileTree) (here : List Text) (use : StoreUse) :
    ((store.use pipeline tree here use).schemas.map Prod.fst).Nodup := by
  rw [schemas_use]
  rcases compiles_cases pipeline tree here store use with hnone |
    ⟨place, schema, hone, hunknown⟩
  · rwa [hnone, List.nil_append]
  · rw [hone, List.singleton_append, List.map_cons, List.nodup_cons]
    refine ⟨fun hmem => ?_, hnodup⟩
    obtain ⟨known, hknown, heq⟩ := List.mem_map.mp hmem
    have hdiffers := List.lookup_eq_none_iff.mp hunknown known hknown
    simp [heq] at hdiffers

/-! ### Loading -/

/-- What loading the schema at a path can give, and the store that it leaves. -/
inductive Loads (pipeline : Pipeline) (tree : FileTree) (store : SchemaStore)
    (here : List Text) (path : FilePath) :
    Except LoadFailure XmlCheck.Schema → SchemaStore → Prop
  | unreadable {cause : FileError} (canonical : tree.canonical here path = .error cause) :
    Loads pipeline tree store here path (.error (.unreadable cause)) store
  | remembered {place : List Text} {schema : XmlCheck.Schema}
    (canonical : tree.canonical here path = .ok place)
    (known : store.schemas.lookup place = some schema) :
    Loads pipeline tree store here path (.ok schema) store
  | compiled {place : List Text} {schema : XmlCheck.Schema}
    (canonical : tree.canonical here path = .ok place)
    (unknown : store.schemas.lookup place = none)
    (result : (store.compilation pipeline tree here place).result = .ok schema) :
    Loads pipeline tree store here path (.ok schema) (store.use pipeline tree here (.compile place))
  | failed {place : List Text} {cause : LoadCause}
    (canonical : tree.canonical here path = .ok place)
    (unknown : store.schemas.lookup place = none)
    (result : (store.compilation pipeline tree here place).result = .error cause) :
    Loads pipeline tree store here path
      (.error (.schema ⟨place, shownPlace pipeline.aid place, cause⟩))
      (store.use pipeline tree here (.compile place))

theorem loads_load (pipeline : Pipeline) (tree : FileTree) (store : SchemaStore)
    (here : List Text) (path : FilePath) :
    Loads pipeline tree store here path (store.load pipeline.aid tree here path).1
      (store.load pipeline.aid tree here path).2 := by
  unfold load
  cases hcanonical : tree.canonical here path with
  | error cause => exact .unreadable hcanonical
  | ok place =>
      dsimp only
      cases hlookup : store.schemas.lookup place with
      | some schema =>
          rw [loadPlace_of_lookup hlookup]
          exact .remembered hcanonical hlookup
      | none =>
          rw [loadPlace_fst_of_lookup_eq_none hlookup]
          cases hresult : (store.compilation pipeline tree here place).result with
          | error cause => exact .failed hcanonical hlookup hresult
          | ok schema => exact .compiled hcanonical hlookup hresult

section Loading

variable {pipeline : Pipeline} {tree : FileTree} {store after : SchemaStore} {here : List Text}
  {path : FilePath} {result : Except LoadFailure XmlCheck.Schema}

theorem Loads.schemas_eq (hloads : Loads pipeline tree store here path result after)
    {failure : LoadFailure} (hfailure : result = .error failure) :
    after.schemas = store.schemas := by
  cases hloads with
  | unreadable => rfl
  | remembered => rfl
  | compiled => cases hfailure
  | failed _ hunknown hresult =>
      rw [schemas_use, compiles, hunknown, hresult]
      rfl

theorem Loads.lookup_eq (hloads : Loads pipeline tree store here path result after)
    {schema : XmlCheck.Schema} (hschema : result = .ok schema) :
    ∃ place, tree.canonical here path = .ok place ∧
      after.schemas.lookup place = some schema := by
  cases hloads with
  | unreadable => cases hschema
  | failed => cases hschema
  | remembered hcanonical hknown =>
      cases hschema
      exact ⟨_, hcanonical, hknown⟩
  | compiled hcanonical hunknown hresult =>
      cases hschema
      refine ⟨_, hcanonical, ?_⟩
      rw [schemas_use, compiles, hunknown, hresult]
      exact List.lookup_cons_self

/-- A schema that cannot be loaded is not remembered. -/
theorem schemas_load_of_error {failure : LoadFailure}
    (hload : (store.load pipeline.aid tree here path).1 = .error failure) :
    (store.load pipeline.aid tree here path).2.schemas = store.schemas :=
  (loads_load pipeline tree store here path).schemas_eq hload

/-- A schema that is loaded is remembered by the canonical place of its path. -/
theorem lookup_load_of_ok {schema : XmlCheck.Schema}
    (hload : (store.load pipeline.aid tree here path).1 = .ok schema) :
    ∃ place, tree.canonical here path = .ok place ∧
      (store.load pipeline.aid tree here path).2.schemas.lookup place = some schema :=
  (loads_load pipeline tree store here path).lookup_eq hload

end Loading

end SchemaStore

end XmlCheck
