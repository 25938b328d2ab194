import XmlCheck.Proofs.IdentifierGrammar
import XmlCheck.Proofs.PathText
import XmlCheck.Proofs.RootContainment
import XmlCheck.Proofs.TreeAnswers

/-!
# The file that an identifier stands for

By the tables of a resolver an identifier stands for names below a registered directory
(`Resolver.Addresses`). It is resolved exactly if the canonical place of these names is a file, and
then to this place. Any other identifier is refused under the name by which it was asked for, unless
the file system has no answer for the place (`Resolver.Unanswered`): links on the way to it lead in a
circle, or it is too long.
-/

namespace XmlCheck

/-! ### Names without a null character -/

theorem Text.mem_of_mem_trim {c : Char} {text : Text} (hc : c ∈ trim text) : c ∈ text := by
  have hend := List.mem_reverse.mp hc
  have hinner := List.mem_reverse.mp ((List.dropWhile_sublist isBlank).subset hend)
  exact (List.dropWhile_sublist isBlank).subset hinner

theorem SchemaUrn.Written.mem_of_mem_path {urn : SchemaUrn} {text : Text} {c : Char}
    (hwritten : urn.Written text) (hc : c ∈ urn.path) : c ∈ text := by
  cases hwritten with
  | component => simp_all [spelled, SchemaUrn.path]
  | module => simp_all [spelled, SchemaUrn.path]

def ResolveFailure.about (identifier : Text) : ResolveFailure → ResolveFailure
  | .unresolved error => .unresolved { error with identifier }
  | .unreadable cause => .unreadable cause

namespace Resolver

/-- An identifier is written for something that the tables register with a directory, and its path
goes down from there. -/
structure Addresses (tree : FileTree) (root : List Text) (components modules : List (Text × Text))
    (identifier : Text) (urn : SchemaUrn) (base : List Text) : Prop where
  written : urn.Written (Text.trim identifier)
  registered : ∃ value, urn.registered? components modules = some value ∧
    tree.canonical root (.ofText value) = .ok base
  relative : (FilePath.ofText urn.path).isAbsolute = false
  downwards : ['.', '.'] ∉ (FilePath.ofText urn.path).parts

/-- Why the file system has no answer for names below a directory. -/
inductive Unanswered (tree : FileTree) (base parts : List Text) : FileError → Prop
  | circle (notPlaced : tree.canonical [] (.ofParts (base ++ parts)) =
      .error (tree.circle [] (.ofParts (base ++ parts)))) :
    Unanswered tree base parts (tree.circle [] (.ofParts (base ++ parts)))
  | tooLong {place : List Text}
    (placed : tree.canonical [] (.ofParts (base ++ parts)) = .ok place)
    (long : FileTree.TooLong (.ofParts place)) :
    Unanswered tree base parts (.nameTooLong (.ofParts place))
  | nullByte {name : Text} (mem_base : name ∈ base) (null_mem : '\x00' ∈ name) :
    Unanswered tree base parts .nullByte

section Tables

variable {tree : FileTree} {here : List Text} {path : FilePath}
  {components modules : List (Text × Text)} {resolver : Resolver} {identifier : Text}

theorem lookup_of_forall₂ {root : List Text} {table : List (Text × Text)}
    {places : List (Text × List Text)} (hplaces : List.Forall₂ (StandsFor tree root) table places)
    {key value : Text} {place : List Text} (hlookup : table.lookup key = some value)
    (hcanonical : tree.canonical root (.ofText value) = .ok place) :
    places.lookup key = some place := by
  induction hplaces with
  | nil => cases hlookup
  | @cons entry found table places hentry _ ih =>
      obtain ⟨name, text⟩ := entry
      obtain ⟨other, standing⟩ := found
      obtain ⟨rfl, hstands⟩ := hentry
      rw [lookup_cons_eq_ite] at hlookup ⊢
      split at hlookup
      · rename_i hkey
        cases hlookup
        rw [if_pos hkey]
        exact congrArg some (Except.ok.inj (hstands.symm.trans hcanonical))
      · rename_i hkey
        rw [if_neg hkey]
        exact ih hlookup

/-- A resolver has for an identifier the canonical place of the registered path. -/
theorem base?_eq_ok_iff (htables : ofTables tree here path components modules = .ok resolver)
    {urn : SchemaUrn} {base : List Text} :
    resolver.base? urn = .ok base ↔ ∃ value, urn.registered? components modules = some value ∧
      tree.canonical resolver.root (.ofText value) = .ok base := by
  refine ⟨registered_of_base? htables, ?_⟩
  rintro ⟨value, hvalue, hcanonical⟩
  obtain ⟨hcomponents, hmodules⟩ := forall₂_ofTables htables
  cases urn with
  | component vendor name rest =>
      simp only [base?, lookup_of_forall₂ hcomponents hvalue hcanonical]
  | module name rest =>
      simp only [base?, lookup_of_forall₂ hmodules hvalue hcanonical]

theorem target_eq_ok_iff (htables : ofTables tree here path components modules = .ok resolver)
    {base parts : List Text} :
    resolver.target identifier = .ok (base, parts) ↔
      ∃ urn, Addresses tree resolver.root components modules identifier urn base ∧
        parts = (FilePath.ofText urn.path).parts := by
  unfold target
  constructor
  · intro htarget
    split at htarget
    · cases htarget
    rename_i urn hurn
    split at htarget
    · cases htarget
    rename_i found hbase
    dsimp only at htarget
    split at htarget
    · cases htarget
    rename_i hinside
    cases htarget
    rw [Bool.or_eq_true, not_or, Bool.not_eq_true, List.contains_iff_mem] at hinside
    exact ⟨urn, ⟨SchemaUrn.ofText_eq_ok_iff.mp hurn, (base?_eq_ok_iff htables).mp hbase,
      hinside.1, hinside.2⟩, rfl⟩
  · rintro ⟨urn, haddresses, rfl⟩
    have hinside : ¬ ((FilePath.ofText urn.path).isAbsolute ||
        (FilePath.ofText urn.path).parts.contains ['.', '.']) = true := by
      rw [Bool.or_eq_true, not_or, Bool.not_eq_true, List.contains_iff_mem]
      exact ⟨haddresses.relative, haddresses.downwards⟩
    simp only [SchemaUrn.ofText_eq_ok_iff.mpr haddresses.written,
      (base?_eq_ok_iff htables).mpr haddresses.registered, if_neg hinside]

theorem Addresses.null_not_mem {root base : List Text} {urn : SchemaUrn}
    (haddresses : Addresses tree root components modules identifier urn base)
    (hnull : '\x00' ∉ identifier) : ∀ name ∈ (FilePath.ofText urn.path).parts, '\x00' ∉ name := by
  intro name hmem hname
  have hpath : '\x00' ∈ urn.path := FilePath.mem_of_mem_partsOf hmem hname
  exact hnull (Text.mem_of_mem_trim (haddresses.written.mem_of_mem_path hpath))

end Tables

section Answers

variable {tree : FileTree} {resolver : Resolver} {identifier : Text}

theorem locate_eq_ok_iff {place : List Text} :
    resolver.locate tree identifier = .ok place ↔
      ∃ base parts, resolver.target identifier = .ok (base, parts) ∧
        tree.canonical [] (.ofParts (base ++ parts)) = .ok place ∧
        tree.isFile [] (.ofParts place) = .ok true := by
  refine ⟨locate_eq_ok, ?_⟩
  rintro ⟨base, parts, htarget, hcanonical, hfile⟩
  simp only [locate, htarget, hcanonical, hfile]

/-- What is not resolved is refused, unless the file system has no answer. -/
theorem refused_or_of_locate {failure : ResolveFailure}
    (hlocate : resolver.locate tree identifier = .error failure) :
    (∃ cause, failure = .unresolved ⟨identifier, cause⟩) ∨
      ∃ base parts cause, failure = .unreadable cause ∧
        resolver.target identifier = .ok (base, parts) ∧
        (tree.canonical [] (.ofParts (base ++ parts)) = .error cause ∨
          ∃ place, tree.canonical [] (.ofParts (base ++ parts)) = .ok place ∧
            tree.isFile [] (.ofParts place) = .error cause) := by
  unfold locate at hlocate
  dsimp only at hlocate
  split at hlocate
  · cases hlocate
    exact .inl ⟨_, rfl⟩
  rename_i base parts htarget
  split at hlocate
  · rename_i cause hcanonical
    cases hlocate
    exact .inr ⟨base, parts, cause, rfl, htarget, .inl hcanonical⟩
  rename_i place hcanonical
  split at hlocate
  · rename_i cause hfile
    cases hlocate
    exact .inr ⟨base, parts, cause, rfl, htarget, .inr ⟨place, hcanonical, hfile⟩⟩
  · cases hlocate
  · cases hlocate
    exact .inl ⟨_, rfl⟩

theorem unanswered_of_error {base parts : List Text} {cause : FileError}
    (hparts : ∀ name ∈ parts, '\x00' ∉ name)
    (herror : tree.canonical [] (.ofParts (base ++ parts)) = .error cause ∨
      ∃ place, tree.canonical [] (.ofParts (base ++ parts)) = .ok place ∧
        tree.isFile [] (.ofParts place) = .error cause) :
    Unanswered tree base parts cause := by
  rcases herror with hcanonical | ⟨place, hcanonical, hfile⟩
  · rcases FileTree.canonical_eq_error hcanonical with ⟨rfl, name, hmem, hname⟩ | rfl
    · rcases List.mem_append.mp hmem with hbase | hpart
      · exact .nullByte hbase hname
      · exact absurd hname (hparts name hpart)
    · exact .circle hcanonical
  · have hsettled := FileTree.settled_of_canonical hcanonical tree.settled_nil
    obtain ⟨rfl, hlong⟩ := FileTree.tooLong_of_ask hsettled hfile
    exact .tooLong hcanonical hlong

theorem target_of_recased {other : Text} (hrecased : SchemaUrn.Recased identifier other) :
    resolver.target other = resolver.target identifier := by
  unfold target
  rw [hrecased.ofText_eq]

theorem locate_of_recased {other : Text} (hrecased : SchemaUrn.Recased identifier other) :
    resolver.locate tree other =
      (resolver.locate tree identifier).mapError (ResolveFailure.about other) := by
  unfold locate
  rw [target_of_recased hrecased]
  dsimp only
  split
  · rfl
  split
  · rfl
  split <;> rfl

end Answers

/-- An identifier that has not been resolved before is resolved to the canonical place of what it
stands for by the tables, exactly if that is a file. If not it is refused as it was given, unless
the file system has no answer for what it stands for. The letter case of vendor and component makes
no difference. -/
theorem resolve_addressed {tree : FileTree} {here : List Text} {path : FilePath}
    {components modules : List (Text × Text)} {resolver : Resolver}
    (htables : ofTables tree here path components modules = .ok resolver) {identifier : Text}
    (hnull : '\x00' ∉ identifier) :
    (∀ place, (({} : SchemaStore).resolve resolver tree identifier).1 = .ok place ↔
      ∃ urn base, Addresses tree resolver.root components modules identifier urn base ∧
        tree.canonical [] (.ofParts (base ++ (FilePath.ofText urn.path).parts)) = .ok place ∧
        tree.isFile [] (.ofParts place) = .ok true) ∧
    (∀ failure, (({} : SchemaStore).resolve resolver tree identifier).1 = .error failure →
      (∃ cause, failure = .unresolved ⟨identifier, cause⟩) ∨
        ∃ urn base cause, failure = .unreadable cause ∧
          Addresses tree resolver.root components modules identifier urn base ∧
          Unanswered tree base (FilePath.ofText urn.path).parts cause) ∧
    ∀ other, SchemaUrn.Recased identifier other →
      (({} : SchemaStore).resolve resolver tree other).1 =
        (({} : SchemaStore).resolve resolver tree identifier).1.mapError (.about other) := by
  have hresolve : ∀ text, (({} : SchemaStore).resolve resolver tree text).1 =
      resolver.locate tree text := fun _ => rfl
  simp only [hresolve]
  refine ⟨fun place => ?_, fun failure hfailure => ?_, fun other => locate_of_recased⟩
  · rw [locate_eq_ok_iff]
    constructor
    · rintro ⟨base, parts, htarget, hcanonical, hfile⟩
      obtain ⟨urn, haddresses, rfl⟩ := (target_eq_ok_iff htables).mp htarget
      exact ⟨urn, base, haddresses, hcanonical, hfile⟩
    · rintro ⟨urn, base, haddresses, hcanonical, hfile⟩
      exact ⟨base, _, (target_eq_ok_iff htables).mpr ⟨urn, haddresses, rfl⟩, hcanonical, hfile⟩
  · rcases refused_or_of_locate hfailure with hrefused | ⟨base, parts, cause, hcause, htarget, herror⟩
    · exact .inl hrefused
    · obtain ⟨urn, haddresses, rfl⟩ := (target_eq_ok_iff htables).mp htarget
      exact .inr ⟨urn, base, cause, hcause, haddresses,
        unanswered_of_error (haddresses.null_not_mem hnull) herror⟩

/-- A component in other letters, and its path through a link. -/
theorem resolve_addressed_recased :
    ofTables (linked "y") [] (.ofParts []) [("a:b", "lib")] [] = .ok ofLib ∧
      '\x00' ∉ (" urn:A:b:x\n" : Text) ∧
      (∃ urn base, Addresses (linked "y") [] [("a:b", "lib")] [] " urn:A:b:x\n" urn base ∧
        (linked "y").canonical [] (.ofParts (base ++ (FilePath.ofText urn.path).parts)) =
          .ok ["lib", "y"] ∧
        (linked "y").isFile [] (.ofParts ["lib", "y"]) = .ok true) ∧
      (({} : SchemaStore).resolve ofLib (linked "y") "urn:a:B:x").1 = .ok ["lib", "y"] := by
  have htables : ofTables (linked "y") [] (.ofParts []) [("a:b", "lib")] [] = .ok ofLib := by
    decide +kernel
  have hnull : '\x00' ∉ (" urn:A:b:x\n" : Text) := by decide
  have hresolve : (({} : SchemaStore).resolve ofLib (linked "y") " urn:A:b:x\n").1 =
      .ok ["lib", "y"] := by decide +kernel
  have hvendor : SchemaUrn.IsName "A" := (SchemaUrn.isName_iff _).mp (by decide)
  have hpart : SchemaUrn.IsName "b" := (SchemaUrn.isName_iff _).mp (by decide)
  have hvendors : SchemaUrn.SameLetters "A" "a" := rfl
  have hparts : SchemaUrn.SameLetters "b" "B" := rfl
  have hfirst : Text.trim (" urn:A:b:x\n" : Text) = SchemaUrn.spelled "A" "b" "x" := by
    decide +kernel
  have hsecond : Text.trim ("urn:a:B:x" : Text) = SchemaUrn.spelled "a" "B" "x" := by
    decide +kernel
  have hrecased : SchemaUrn.Recased " urn:A:b:x\n" "urn:a:B:x" :=
    .spelled hvendor hpart hvendors hparts hfirst hsecond
  obtain ⟨hfound, -, hsame⟩ := resolve_addressed htables hnull
  refine ⟨htables, hnull, (hfound _).mp hresolve, ?_⟩
  rw [hsame _ hrecased, hresolve]
  rfl

/-- The identifier of a file whose name no file can have. -/
def endless : Text := ("urn:a:b:" : Text) ++ Text.repeated 256 'x'

/-- The identifier is not refused: the question whether the file exists has no answer. -/
theorem endless_not_refused :
    ofTables (linked "y") [] (.ofParts []) [("a:b", "lib")] [] = .ok ofLib ∧ '\x00' ∉ endless ∧
      (({} : SchemaStore).resolve ofLib (linked "y") endless).1 = .error (.unreadable
        (.nameTooLong (.ofParts ["lib", Text.repeated 256 'x']))) := by
  decide +kernel

end Resolver

end XmlCheck
