import XmlCheck.Schema.Loading

/-!
# The documents that a schema asks for

The reading of a schema finds other documents by a function of their addresses. Of that function it
sees nothing but what it says of the addresses that are asked for: another one that says the same of
those gives the same schema or the same failure, and is asked for the same addresses.
-/

namespace XmlCheck.Schema

/-- What steps give after some addresses have been asked for, with all that have been asked for
then. -/
def Asking.after {α : Type} (step : Asking α) (asked : List Text) (components : Components) :
    (Except SchemaFault α × List Text) × Components :=
  (step.run.run asked).run components

theorem Asking.after_bind {α β : Type} (step : Asking α) (next : α → Asking β)
    (asked : List Text) (components : Components) :
    (step >>= next).after asked components =
      match step.after asked components with
      | ((.ok value, asked), components) => (next value).after asked components
      | ((.error fault, asked), components) => ((.error fault, asked), components) := by
  simp only [Asking.after, ExceptT.run_bind, StateT.run_bind]
  rcases (step.run.run asked).run components with ⟨⟨_ | value, asked⟩, components⟩
  · rfl
  · rfl

/-- Steps go on like other ones as long as a condition holds of all addresses that are asked for. -/
structure Follows (agree : Text → Prop) {α : Type} (step like : Asking α) : Prop where
  kept : ∀ asked components, ∀ address ∈ asked, address ∈ (step.after asked components).1.2
  same : ∀ asked components, (∀ address ∈ (step.after asked components).1.2, agree address) →
    step.after asked components = like.after asked components

namespace Follows

variable {α β : Type} {agree : Text → Prop}

theorem lift (step : Read α) : Follows agree (liftM step) (liftM step) where
  kept _ _ _ hmem := hmem
  same _ _ _ := rfl

theorem pure (value : α) : Follows agree (Pure.pure value) (Pure.pure value) where
  kept _ _ _ hmem := hmem
  same _ _ _ := rfl

theorem bind {step like : Asking α} {next others : α → Asking β} (hstep : Follows agree step like)
    (hnext : ∀ value, Follows agree (next value) (others value)) :
    Follows agree (step >>= next) (like >>= others) := by
  constructor
  · intro asked components address hmem
    have hkept := hstep.kept asked components address hmem
    rw [Asking.after_bind]
    generalize step.after asked components = first at hkept
    rcases first with ⟨⟨_ | value, asked⟩, components⟩
    · exact hkept
    · exact (hnext value).kept asked components address hkept
  · intro asked components hagree
    -- what the first steps have asked for is not forgotten by the next ones
    have hfirst : ∀ address ∈ (step.after asked components).1.2, agree address := by
      intro address hmem
      refine hagree address ?_
      rw [Asking.after_bind]
      generalize step.after asked components = first at hmem
      rcases first with ⟨⟨_ | value, asked⟩, components⟩
      · exact hmem
      · exact (hnext value).kept asked components address hmem
    rw [Asking.after_bind] at hagree ⊢
    rw [Asking.after_bind, ← hstep.same asked components hfirst]
    generalize step.after asked components = first at hagree
    rcases first with ⟨⟨_ | value, asked⟩, components⟩
    · rfl
    · exact (hnext value).same asked components hagree

end Follows

section Reading

variable {fetch other : Text → Option FetchedDocument}

theorem follows_askFor (address : Text) :
    Follows (fun address => fetch address = other address) (askFor fetch address)
      (askFor other address) where
  kept _ _ _ hmem := List.mem_append_left _ hmem
  same asked components hagree := by
    have haddress : fetch address = other address :=
      hagree address (List.mem_append_right asked (List.mem_singleton_self address))
    change ((Except.ok (fetch address), _), _) = ((Except.ok (other address), _), _)
    rw [haddress]

/-- Reading goes on alike with functions that say the same of the addresses asked for. -/
structure ReadsAlike (fetch other : Text → Option FetchedDocument) (bound : Nat) : Prop where
  parts : ∀ ctx isOpening schema parts, Follows (fun address => fetch address = other address)
    (readParts fetch bound ctx isOpening schema parts)
    (readParts other bound ctx isOpening schema parts)
  included : ∀ ctx n, Follows (fun address => fetch address = other address)
    (readIncluded fetch bound ctx n) (readIncluded other bound ctx n)
  imported : ∀ ctx n space, Follows (fun address => fetch address = other address)
    (readImported fetch bound ctx n space) (readImported other bound ctx n space)

theorem readsAlike (fetch other : Text → Option FetchedDocument) (bound : Nat) :
    ReadsAlike fetch other bound := by
  induction bound with
  | zero =>
      constructor
      · intro ctx isOpening schema parts
        simp only [readParts]
        exact .lift _
      · intro ctx n
        simp only [readIncluded]
        exact .lift _
      · intro ctx n space
        simp only [readImported]
        exact .lift _
  | succ bound ih =>
      constructor
      · intro ctx isOpening schema parts
        cases parts with
        | nil =>
            simp only [readParts]
            exact .pure _
        | cons part rest =>
            cases part with
            | stray =>
                simp only [readParts]
                exact .lift _
            | node n =>
                simp only [readParts]
                split
                · exact .bind (ih.included ctx n) fun _ => ih.parts _ _ _ _
                · split
                  · exact .bind (ih.imported ctx n _) fun _ => ih.parts _ _ _ _
                  · exact .bind (.lift _) fun _ => ih.parts _ _ _ _
      · intro ctx n
        simp only [readIncluded]
        refine .bind (.lift _) fun address? => ?_
        cases address? with
        | none => exact .pure _
        | some address =>
            refine .bind (follows_askFor address) fun document? => ?_
            cases document? with
            | none => exact .lift _
            | some document =>
                refine .bind (.lift _) fun opened? => ?_
                cases opened? with
                | none => exact .lift _
                | some opened => exact .bind (.lift _) fun _ => ih.parts _ _ _ _
      · intro ctx n space
        simp only [readImported]
        refine .bind (.lift _) fun address? => ?_
        cases address? with
        | none => exact .pure _
        | some address =>
            refine .bind (follows_askFor address) fun document? => ?_
            cases document? with
            | none => exact .pure _
            | some document =>
                refine .bind (.lift _) fun opened? => ?_
                cases opened? with
                | none => exact .pure _
                | some opened =>
                    refine .bind (.lift _) fun inner? => ?_
                    cases inner? with
                    | none => exact .pure _
                    | some inner => exact ih.parts _ _ _ _

theorem follows_readComponents (place shown : Text) (root : Xml.Element) :
    Follows (fun address => fetch address = other address)
      (readComponents fetch place shown root) (readComponents other place shown root) :=
  .bind (.lift _) fun _ => (readsAlike fetch other readBound).parts _ _ _ _

theorem ofRoot_eq {place : List Text} {root : Xml.Element}
    (hagree : ∀ address ∈ (ofRoot fetch place root).asked, fetch address = other address) :
    ofRoot fetch place root = ofRoot other place root := by
  have hsame := (follows_readComponents (FilePath.ofParts place).toText
    (FilePath.ofParts place).toText root).same [] {} hagree
  unfold Asking.after at hsame
  unfold ofRoot
  dsimp only
  rw [hsame]

/-- A schema file is loaded alike with functions that say the same of the addresses that it asks
for. -/
theorem loadFile_eq {tree : FileTree} {place : List Text}
    (hagree : ∀ address ∈ (loadFile fetch tree place).asked, fetch address = other address) :
    loadFile fetch tree place = loadFile other tree place := by
  unfold loadFile at hagree ⊢
  split
  · rfl
  · rename_i octets hread
    rw [hread] at hagree
    dsimp only at hagree ⊢
    split
    · rfl
    · rename_i root hfindings hroot
      rw [hfindings, hroot] at hagree
      exact ofRoot_eq hagree
    · rfl

end Reading

end XmlCheck.Schema
