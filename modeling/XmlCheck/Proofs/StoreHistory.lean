import XmlCheck.Proofs.StoreUse

/-!
# What a store has been asked for

A history is a list of uses of a store, each on the files and in the directory of its moment. What
is found once is kept, and so is what is compiled once: at the end of a history a store knows exactly
what was found and compiled during it, and no place is compiled twice. All of it follows by induction
from what one use does.
-/

namespace XmlCheck

/-- Uses of a store, each with the files and the working directory as they were. -/
abbrev History := List (FileTree × List Text × StoreUse)

namespace SchemaStore

section History

variable (pipeline : Pipeline)

def after (store : SchemaStore) : History → SchemaStore
  | [] => store
  | (tree, here, use) :: rest => after (store.use pipeline tree here use) rest

def allFinds (store : SchemaStore) : History → List (Text × List Text)
  | [] => []
  | (tree, here, use) :: rest =>
    store.finds pipeline tree here use ++ allFinds (store.use pipeline tree here use) rest

def allCompiles (store : SchemaStore) : History → List (List Text × XmlCheck.Schema)
  | [] => []
  | (tree, here, use) :: rest =>
    store.compiles pipeline tree here use ++ allCompiles (store.use pipeline tree here use) rest

theorem after_append (store : SchemaStore) (first second : History) :
    store.after pipeline (first ++ second) =
      (store.after pipeline first).after pipeline second := by
  induction first generalizing store with
  | nil => rfl
  | cons moment first ih => exact ih _

variable {pipeline}

theorem lookup_places_after {store : SchemaStore} {identifier : Text} {place : List Text}
    (hlookup : store.places.lookup identifier = some place) (history : History) :
    (store.after pipeline history).places.lookup identifier = some place := by
  induction history generalizing store with
  | nil => exact hlookup
  | cons moment rest ih =>
      obtain ⟨tree, here, use⟩ := moment
      exact ih (lookup_use_of_lookup hlookup pipeline tree here use)

/-- What is found at any moment of a history is what the store knows at its end. -/
theorem lookup_of_mem_allFinds {store : SchemaStore} {history : History} {identifier : Text}
    {place : List Text} (hfound : (identifier, place) ∈ store.allFinds pipeline history) :
    (store.after pipeline history).places.lookup identifier = some place := by
  induction history generalizing store with
  | nil => cases hfound
  | cons moment rest ih =>
      rcases List.mem_append.mp hfound with hnow | hlater
      · exact lookup_places_after (lookup_use_of_mem_finds hnow) rest
      · exact ih hlater

theorem mem_allFinds_of_lookup {store : SchemaStore} {history : History} {identifier : Text}
    {place : List Text}
    (hlookup : (store.after pipeline history).places.lookup identifier = some place) :
    store.places.lookup identifier = some place ∨
      (identifier, place) ∈ store.allFinds pipeline history := by
  induction history generalizing store with
  | nil => exact .inl hlookup
  | cons moment rest ih =>
      rcases ih hlookup with hnow | hlater
      · rcases mem_finds_of_lookup_use hnow with hknown | hfound
        · exact .inl hknown
        · exact .inr (List.mem_append_left _ hfound)
      · exact .inr (List.mem_append_right _ hlater)

theorem lookup_schemas_after {store : SchemaStore} {place : List Text}
    {schema : XmlCheck.Schema} (hlookup : store.schemas.lookup place = some schema)
    (history : History) :
    (store.after pipeline history).schemas.lookup place = some schema := by
  induction history generalizing store with
  | nil => exact hlookup
  | cons moment rest ih =>
      refine ih ?_
      rw [lookup_schemas_use, hlookup, Option.some_or]

/-- A store knows the schemas that were compiled, the last one first. -/
theorem schemas_after (store : SchemaStore) (history : History) :
    (store.after pipeline history).schemas =
      (store.allCompiles pipeline history).reverse ++ store.schemas := by
  induction history generalizing store with
  | nil => rfl
  | cons moment rest ih =>
      obtain ⟨tree, here, use⟩ := moment
      have hreverse : (store.compiles pipeline tree here use).reverse =
          store.compiles pipeline tree here use := by
        rcases compiles_cases pipeline tree here store use with hnone | ⟨_, _, hone, _⟩
        · rw [hnone, List.reverse_nil]
        · rw [hone, List.reverse_singleton]
      rw [after, ih, schemas_use, allCompiles, List.reverse_append, hreverse, List.append_assoc]

theorem nodup_schemas_after {store : SchemaStore}
    (hnodup : (store.schemas.map Prod.fst).Nodup) (history : History) :
    ((store.after pipeline history).schemas.map Prod.fst).Nodup := by
  induction history generalizing store with
  | nil => exact hnodup
  | cons moment rest ih =>
      obtain ⟨tree, here, use⟩ := moment
      exact ih (nodup_schemas_use hnodup pipeline tree here use)

variable (pipeline) in
theorem nodup_known (history : History) :
    ((({} : SchemaStore).after pipeline history).schemas.map Prod.fst).Nodup := by
  have hempty : (({} : SchemaStore).schemas.map Prod.fst).Nodup := List.nodup_nil
  exact nodup_schemas_after hempty history

/-- No two compilations of one history are of the same place. -/
theorem nodup_allCompiles (history : History) :
    ((({} : SchemaStore).allCompiles pipeline history).map Prod.fst).Nodup := by
  have hnodup := nodup_known pipeline history
  rw [schemas_after, List.append_nil, List.map_reverse, List.nodup_reverse] at hnodup
  exact hnodup

/-- What a store knows of schemas after a history is what was compiled during it. -/
theorem lookup_schemas_iff (history : History) (place : List Text) (schema : XmlCheck.Schema) :
    (({} : SchemaStore).after pipeline history).schemas.lookup place = some schema ↔
      (place, schema) ∈ ({} : SchemaStore).allCompiles pipeline history := by
  have hnodup := nodup_known pipeline history
  rw [lookup_eq_some_iff_mem hnodup, schemas_after, List.append_nil, List.mem_reverse]

/-- What a store knows of identifiers after a history is what was found during it. -/
theorem lookup_places_iff (history : History) (identifier : Text) (place : List Text) :
    (({} : SchemaStore).after pipeline history).places.lookup identifier = some place ↔
      (identifier, place) ∈ ({} : SchemaStore).allFinds pipeline history := by
  refine ⟨fun hlookup => ?_, lookup_of_mem_allFinds⟩
  rcases mem_allFinds_of_lookup hlookup with hknown | hfound
  · cases hknown
  · exact hfound

variable (pipeline) in
/-- The stores that uses make of an empty one, each use on the files and in the directory of its
moment. -/
inductive Grown : SchemaStore → Prop
  | empty : Grown {}
  | use {store : SchemaStore} (grown : Grown store) (tree : FileTree) (here : List Text)
    (use : StoreUse) : Grown (store.use pipeline tree here use)

theorem Grown.after {store : SchemaStore} (hgrown : Grown pipeline store) (history : History) :
    Grown pipeline (store.after pipeline history) := by
  induction history generalizing store with
  | nil => exact hgrown
  | cons moment rest ih =>
      obtain ⟨tree, here, use⟩ := moment
      exact ih (hgrown.use tree here use)

/-- What is remembered of an identifier is what the resolver said at some moment. -/
theorem Grown.exists_locate {store : SchemaStore} (hgrown : Grown pipeline store)
    {identifier : Text} {place : List Text}
    (hlookup : store.places.lookup identifier = some place) :
    ∃ tree, pipeline.resolver.locate tree identifier = .ok place := by
  induction hgrown with
  | empty => cases hlookup
  | use _ tree _ _ ih =>
      rcases known_or_located hlookup with hknown | ⟨_, _, hlocate⟩
      · exact ih hknown
      · exact ⟨tree, hlocate⟩

/-- What a store that has grown says of an identifier, the resolver said at some moment. -/
theorem Grown.exists_locate_of_resolve {store : SchemaStore} (hgrown : Grown pipeline store)
    {tree : FileTree} {identifier : Text} {place : List Text}
    (hresolve : (store.resolve pipeline.resolver tree identifier).1 = .ok place) :
    ∃ other, pipeline.resolver.locate other identifier = .ok place :=
  (hgrown.use tree [] (.find identifier)).exists_locate (lookup_resolve_of_ok hresolve)

end History

end SchemaStore

end XmlCheck
