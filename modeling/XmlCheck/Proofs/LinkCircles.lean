import Mathlib.Data.List.Chain
import Mathlib.Data.List.Perm.Subperm
import Mathlib.Logic.Relation
import XmlCheck.Proofs.CanonicalPlace

/-!
# Links that lead in a circle

To follow a link is to walk along its target, and that walk may meet other links. Links lead in a
circle where one of them is met again on the way to its own target. A walk that breaks off has met
more links, each on the way to the target of the one before, than the tree has entries; so without a
circle every walk ends (`exists_canonicalFrom`), and a tree has no circle exactly if each of its links
leads somewhere (`circleFree_iff`).
-/

namespace XmlCheck

namespace FileTree

/-- A walk from a place meets a link: the names before it lead on, however many links they follow,
and the next name is that of the link. -/
inductive Meets (tree : FileTree) (place : List Text) : (names link : List Text) → Prop
  | next {depth : Nat} {before rest middle : List Text} {name target : Text}
    (leads : tree.canonicalFrom depth place before = some middle) (descends : name ≠ ['.', '.'])
    (entry_eq : tree.entry? (middle ++ [name]) = some (.link target)) :
    Meets tree place (before ++ name :: rest) (middle ++ [name])

/-- The walk along the target of a link, from the directory that has the link. -/
def walkToTarget (tree : FileTree) (depth : Nat) (link : List Text) (target : Text) :
    Option (List Text) :=
  tree.canonicalFrom depth (startOf link.dropLast (.ofText target)) (FilePath.ofText target).parts

/-- A link is met on the way to the target of another one. -/
inductive LeadsThrough (tree : FileTree) (link other : List Text) : Prop
  | target {target : Text} (entry_eq : tree.entry? link = some (.link target))
    (meets : tree.Meets (startOf link.dropLast (.ofText target)) (FilePath.ofText target).parts
      other)

/-- No link is met on the way to its own target, be it behind other links. -/
def CircleFree (tree : FileTree) : Prop :=
  ∀ link, ¬ Relation.TransGen tree.LeadsThrough link link

variable {tree : FileTree} {depth : Nat} {place names rest middle link : List Text}
  {name target : Text}

theorem Meets.exists_target (hmeets : tree.Meets place names link) :
    ∃ target, tree.entry? link = some (.link target) := by
  cases hmeets with
  | next _ _ hentry => exact ⟨_, hentry⟩

theorem Meets.cons (hstep : tree.Step depth place name middle)
    (hmeets : tree.Meets middle rest link) : tree.Meets place (name :: rest) link := by
  cases hmeets with
  | @next deeper before after found last target hleads hname hentry =>
      -- both walks are taken at the greater of the two depths
      have hfirst : tree.canonicalFrom depth place [name] = some middle :=
        canonicalFrom_cons_eq_some.mpr ⟨middle, hstep, rfl⟩
      have hwalk : tree.canonicalFrom (max depth deeper) place (name :: before) = some found := by
        rw [← List.singleton_append, canonicalFrom_append,
          canonicalFrom_of_le (Nat.le_max_left depth deeper) hfirst, Option.bind_some]
        exact canonicalFrom_of_le (Nat.le_max_right depth deeper) hleads
      exact .next hwalk hname hentry

/-! ### Walks that break off -/

/-- A walk breaks off at a link that cannot be followed. -/
theorem exists_meets_of_eq_none (hnone : tree.canonicalFrom depth place names = none) :
    ∃ link target, tree.Meets place names link ∧ tree.entry? link = some (.link target) ∧
      ∀ lower, depth = lower + 1 → tree.walkToTarget lower link target = none := by
  induction names generalizing place with
  | nil => cases hnone
  | cons name rest ih =>
      cases hfollow : tree.follow depth place name with
      | some middle =>
          have hrest : tree.canonicalFrom depth middle rest = none := by
            unfold canonicalFrom at hnone ⊢
            rw [List.foldlM_cons, hfollow] at hnone
            exact hnone
          obtain ⟨link, target, hmeets, hbroken⟩ := ih hrest
          exact ⟨link, target, hmeets.cons (follow_eq_some_iff.mp hfollow), hbroken⟩
      | none =>
          unfold follow at hfollow
          split at hfollow
          · cases hfollow
          rename_i hname
          split at hfollow
          · rename_i target hentry
            have hstart : tree.canonicalFrom depth place [] = some place := rfl
            refine ⟨place ++ [name], target, .next hstart hname hentry, hentry, ?_⟩
            rintro lower rfl
            rw [walkToTarget, List.dropLast_concat]
            exact hfollow
          · cases hfollow

/-- A walk that breaks off has met as many links as it may follow and one more, each of them on the
way to the target of the one before. -/
theorem exists_chain_of_eq_none (hnone : tree.canonicalFrom depth place names = none) :
    ∃ link links, tree.Meets place names link ∧ (link :: links).IsChain tree.LeadsThrough ∧
      (∀ other ∈ link :: links, ∃ target, tree.entry? other = some (.link target)) ∧
      links.length = depth := by
  induction depth generalizing place names with
  | zero =>
      obtain ⟨link, target, hmeets, hentry, -⟩ := exists_meets_of_eq_none hnone
      exact ⟨link, [], hmeets, .singleton link, List.forall_mem_singleton.mpr ⟨target, hentry⟩, rfl⟩
  | succ depth ih =>
      obtain ⟨link, target, hmeets, hentry, hbroken⟩ := exists_meets_of_eq_none hnone
      obtain ⟨next, links, hnext, hchain, hlinks, hlength⟩ := ih (hbroken depth rfl)
      refine ⟨link, next :: links, hmeets, .cons_cons (.target hentry hnext) hchain,
        List.forall_mem_cons.mpr ⟨⟨target, hentry⟩, hlinks⟩, ?_⟩
      rw [List.length_cons, hlength]

/-- Without a circle no link comes twice in a chain. -/
theorem CircleFree.length_le (hfree : tree.CircleFree) {links : List (List Text)}
    (hchain : links.IsChain tree.LeadsThrough)
    (hlinks : ∀ link ∈ links, ∃ target, tree.entry? link = some (.link target)) :
    links.length ≤ tree.entries.length := by
  have hpairwise : links.Pairwise (Relation.TransGen tree.LeadsThrough) :=
    (hchain.imp fun _ _ => .single).pairwise
  have hnodup : links.Nodup := by
    refine hpairwise.imp ?_
    rintro link _ hleads rfl
    exact hfree link hleads
  have hsubset : links ⊆ tree.entries.map Prod.fst := by
    intro link hlink
    obtain ⟨target, hentry⟩ := hlinks link hlink
    exact List.mem_map.mpr ⟨_, mem_entries_of_link hentry, rfl⟩
  simpa using (hnodup.subperm hsubset).length_le

theorem CircleFree.exists_canonicalFrom (hfree : tree.CircleFree) (place names : List Text) :
    ∃ found, tree.canonicalFrom tree.linkDepth place names = some found := by
  cases hwalk : tree.canonicalFrom tree.linkDepth place names with
  | some found => exact ⟨found, rfl⟩
  | none =>
      obtain ⟨link, links, -, hchain, hlinks, hlength⟩ := exists_chain_of_eq_none hwalk
      have hbound := hfree.length_le hchain hlinks
      rw [List.length_cons, hlength] at hbound
      unfold linkDepth at hbound
      omega

/-- Without a circle every path has a canonical place, unless no file can have one of its names. -/
theorem CircleFree.exists_canonical (hfree : tree.CircleFree) (here : List Text) {path : FilePath}
    (hnull : ∀ name ∈ path.parts, '\x00' ∉ name) :
    ∃ place, tree.canonical here path = .ok place := by
  obtain ⟨place, hwalk⟩ := hfree.exists_canonicalFrom (startOf here path) path.parts
  exact ⟨place, canonical_eq_ok_iff.mpr ⟨hnull, hwalk⟩⟩

/-! ### Walks that end -/

theorem canonicalFrom_unique {deeper : Nat} {other : List Text}
    (hfirst : tree.canonicalFrom depth place names = some middle)
    (hsecond : tree.canonicalFrom deeper place names = some other) : middle = other := by
  have hboth := canonicalFrom_of_le (Nat.le_max_left depth deeper) hfirst
  rw [canonicalFrom_of_le (Nat.le_max_right depth deeper) hsecond] at hboth
  exact (Option.some.inj hboth).symm

/-- The links that a walk meets are followed to their ends, at a lower depth. -/
theorem Meets.exists_walkToTarget {found : List Text} (hmeets : tree.Meets place names link)
    (hentry : tree.entry? link = some (.link target))
    (hwalk : tree.canonicalFrom depth place names = some found) :
    ∃ lower < depth, ∃ arrived, tree.walkToTarget lower link target = some arrived := by
  cases hmeets with
  | @next other before rest middle name _ hleads hname _ =>
      rw [canonicalFrom_append] at hwalk
      obtain ⟨reached, hreached, hlater⟩ := Option.bind_eq_some_iff.mp hwalk
      obtain rfl := canonicalFrom_unique hreached hleads
      obtain ⟨arrived, hstep, -⟩ := canonicalFrom_cons_eq_some.mp hlater
      cases hstep with
      | up => exact absurd rfl hname
      | down _ hstays => exact absurd hentry (hstays target)
      | @link lower _ _ _ same _ hsame htarget =>
          cases hsame.symm.trans hentry
          refine ⟨lower, Nat.lt_succ_self lower, arrived, ?_⟩
          rw [walkToTarget, List.dropLast_concat]
          exact htarget

/-- A link that can be followed to its end is on no circle. -/
theorem not_transGen_of_walkToTarget {found : List Text}
    (hentry : tree.entry? link = some (.link target))
    (hwalk : tree.walkToTarget depth link target = some found) :
    ¬ Relation.TransGen tree.LeadsThrough link link := by
  induction depth using Nat.strongRecOn generalizing link target found with
  | ind depth ih =>
      intro hcircle
      -- the next link on the circle is on it as well, and its walk needs less
      obtain ⟨next, hleads, hback⟩ := Relation.TransGen.head'_iff.mp hcircle
      obtain ⟨hsame, hmeets⟩ := hleads
      cases hsame.symm.trans hentry
      obtain ⟨other, hnext⟩ := hmeets.exists_target
      obtain ⟨lower, hlower, arrived, harrived⟩ := hmeets.exists_walkToTarget hnext hwalk
      exact ih lower hlower hnext harrived (.tail' hback (.target hentry hmeets))

theorem circleFree_iff : tree.CircleFree ↔
    ∀ link target, tree.entry? link = some (.link target) →
      ∃ found, tree.walkToTarget tree.linkDepth link target = some found := by
  constructor
  · exact fun hfree _ _ _ => hfree.exists_canonicalFrom _ _
  · intro hleads link hcircle
    obtain ⟨next, ⟨hentry, -⟩, -⟩ := Relation.TransGen.head'_iff.mp hcircle
    obtain ⟨found, hwalk⟩ := hleads link _ hentry
    exact not_transGen_of_walkToTarget hentry hwalk hcircle

end FileTree

end XmlCheck
