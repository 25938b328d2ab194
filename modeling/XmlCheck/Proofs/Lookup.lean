import Mathlib.Data.List.Nodup

/-!
# Looking keys up in lists of entries

The first entry with a key is the one that counts. In a list without repeated keys every entry
counts.
-/

namespace XmlCheck

theorem lookup_cons_eq_ite {α β : Type} [BEq α] [LawfulBEq α] [DecidableEq α] (key other : α)
    (value : β) (entries : List (α × β)) :
    ((other, value) :: entries).lookup key =
      if key = other then some value else entries.lookup key := by
  by_cases hkey : key = other
  · simp [hkey]
  · rw [List.lookup_cons, if_neg hkey, beq_eq_false_iff_ne.mpr hkey]

theorem lookup_filter_key {α β : Type} [BEq α] [LawfulBEq α] [DecidableEq α]
    (entries : List (α × β)) (keep : α → Bool) (key : α) :
    (entries.filter fun e => keep e.1).lookup key =
      if keep key then entries.lookup key else none := by
  induction entries with
  | nil => simp
  | cons entry entries ih =>
      obtain ⟨other, value⟩ := entry
      rw [lookup_cons_eq_ite, List.filter_cons]
      by_cases hkey : key = other
      · rw [if_pos hkey, ← hkey]
        by_cases hkeep : keep key = true
        · rw [if_pos hkeep, if_pos hkeep, lookup_cons_eq_ite, if_pos rfl]
        · rw [if_neg hkeep, if_neg hkeep, ih, if_neg hkeep]
      · rw [if_neg hkey]
        by_cases hkeep : keep other = true
        · rw [if_pos hkeep, lookup_cons_eq_ite, if_neg hkey, ih]
        · rw [if_neg hkeep, ih]

theorem lookup_filter_ne {α β : Type} [BEq α] [LawfulBEq α] [DecidableEq α]
    (entries : List (α × β)) (parts place : α) :
    (entries.filter fun e => e.1 != parts).lookup place =
      if place = parts then none else entries.lookup place := by
  rw [lookup_filter_key entries (· != parts) place]
  by_cases hplace : place = parts
  · simp [hplace]
  · simp [hplace]

theorem lookup_map_append {α β : Type} [BEq α] [LawfulBEq α] [DecidableEq α] (keys : List α)
    (value : β) (entries : List (α × β)) (key : α) :
    (keys.map (fun key => (key, value)) ++ entries).lookup key =
      if key ∈ keys then some value else entries.lookup key := by
  induction keys with
  | nil => rw [if_neg List.not_mem_nil]; rfl
  | cons other keys ih =>
      rw [List.map_cons, List.cons_append, lookup_cons_eq_ite, ih]
      by_cases hkey : key = other
      · rw [if_pos hkey, if_pos (List.mem_cons.mpr (.inl hkey))]
      · simp only [List.mem_cons, hkey, if_false, false_or]

theorem mem_of_lookup {α β : Type} [BEq α] [LawfulBEq α] {entries : List (α × β)} {key : α}
    {value : β} (hlookup : entries.lookup key = some value) : (key, value) ∈ entries := by
  obtain ⟨before, rest, hentries, _⟩ := List.lookup_eq_some_iff.mp hlookup
  rw [hentries]
  exact List.mem_append_right before (List.mem_cons_self ..)

theorem lookup_eq_some_iff_mem {α β : Type} [BEq α] [LawfulBEq α] {entries : List (α × β)}
    (hnodup : (entries.map Prod.fst).Nodup) {key : α} {value : β} :
    entries.lookup key = some value ↔ (key, value) ∈ entries := by
  refine ⟨mem_of_lookup, fun hmem => ?_⟩
  induction entries with
  | nil => cases hmem
  | cons entry entries ih =>
      rw [List.map_cons, List.nodup_cons] at hnodup
      rcases List.mem_cons.mp hmem with rfl | hlater
      · exact List.lookup_cons_self
      · have hkey : key ≠ entry.1 := by
          rintro rfl
          exact hnodup.1 (List.mem_map.mpr ⟨_, hlater, rfl⟩)
        rw [List.lookup_cons, beq_eq_false_iff_ne.mpr hkey]
        exact ih hnodup.2 hlater

end XmlCheck
