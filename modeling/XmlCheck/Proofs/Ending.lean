import XmlCheck.Proofs.NamedPlace
import XmlCheck.Proofs.RunHistory

/-!
# How a run ends

A run that gives an outcome for a content ends in exactly one of five ways: the content is
malformed, it declares no schema, its schema is not found or cannot be loaded, or it is held against
its schema. The way that it ends settles every field of the outcome, the stages that were run and
what has become of the store (`ends_of_run`). That a schema is shown with a path that is not empty
needs to know where places come from: they are canonical, and following links keeps names from being
empty.
-/

namespace XmlCheck

open Schema

/-! ### Diagnostics -/

theorem Message.dropLineEnds_append (text : Text) {tail : Text} {last : Char}
    (htail : tail.getLast? = some last) (hlast : isLineEnd last = false) :
    dropLineEnds (text ++ tail) = text ++ tail := by
  obtain ⟨before, rfl⟩ := List.getLast?_eq_some_iff.mp htail
  unfold dropLineEnds Text.dropWhileEnd
  rw [← List.append_assoc, List.reverse_append, List.reverse_singleton, List.singleton_append,
    List.dropWhile_cons_of_neg (by simp [hlast]), List.reverse_cons, List.reverse_reverse]

theorem severity_of_checkForm {content : List UInt8} {file : Text} {diagnostic : Diagnostic}
    (hmem : diagnostic ∈ (checkForm content file).diagnostics) : diagnostic.severity = .error := by
  obtain ⟨_, _, rfl⟩ := exists_eq_reported_of_checkFormBy hmem
  rfl

theorem severity_of_diagnostics {schema : XmlCheck.Schema} {document : Xml.Document}
    {file : Text} {diagnostics : List Diagnostic}
    (hvalidate : schema.diagnostics document file = .ok diagnostics) :
    ∀ diagnostic ∈ diagnostics, diagnostic.severity = .error := by
  unfold Schema.diagnostics at hvalidate
  cases hviolations : schema.violations document with
  | error cause =>
      rw [hviolations] at hvalidate
      cases hvalidate
  | ok violations =>
      rw [hviolations] at hvalidate
      cases hvalidate
      intro diagnostic hmem
      obtain ⟨violation, _, rfl⟩ := List.mem_map.mp hmem
      rfl

/-- The outcome is the one error that says that a document could not be processed, and why. -/
structure Outcome.SaysWhy (outcome : Outcome) (request : Request) (reason : Text) : Prop where
  diagnostics : outcome.diagnostics = [⟨request.displayName, 0,
    Message.dropLineEnds (("Could not process " : Text) ++ request.source ++ ". Error: " ++ reason),
    .error⟩]
  isValid : outcome.isValid = false
  counted : outcome.counted = true

namespace Pipeline

/-- How a run ends that gives an outcome for a content. -/
inductive Ending
  | malformed
  | undeclared
  | unresolved
  | unloadable
  | checked
  deriving DecidableEq, Repr

def Ending.stages (content : List UInt8) : Ending → List Stage
  | malformed => [.scan, .form]
  | undeclared => [.scan, .form, .root]
  | unresolved => stagesToIdentifier content ++ [.resolve]
  | unloadable => stagesToIdentifier content ++ [.resolve, .refer, .load]
  | checked => stagesToIdentifier content ++ [.resolve, .refer, .load, .validate]

section Ends

variable (pipeline : Pipeline) (tree : FileTree) (here : List Text) (store : SchemaStore)
  (request : Request) (content : List UInt8)

/-- What holds of the outcome and of the store at each ending: a rule has first what the stages
gave, then each field of the outcome, then what the store has kept. -/
inductive Ends (outcome : Outcome) (after : SchemaStore) : Ending → Prop
  | malformed {first : Diagnostic} {more : List Diagnostic}
    (form : checkForm content request.displayName = .broken first more)
    (diagnostics : outcome.diagnostics = first :: more)
    (errors : ∀ diagnostic ∈ outcome.diagnostics, diagnostic.severity = .error)
    (isValid : outcome.isValid = false)
    (counted : outcome.counted = true)
    (schema : outcome.schema = none)
    (kept : after = store) : Ends outcome after .malformed
  | undeclared {document : Xml.Document}
    (form : checkForm content request.displayName = .document document)
    (scan : Declaration.scanOctets? content = none)
    (root : document.declaredSchema? = none)
    (diagnostics : outcome.diagnostics = [⟨request.displayName, 0,
      ("XML file \"" : Text) ++ request.displayName ++ "\" does not have a schema defined",
      .warning⟩])
    (isValid : outcome.isValid = true ↔ pipeline.policy ≠ .invalid)
    (counted : outcome.counted = true ↔ pipeline.policy ≠ .skip)
    (schema : outcome.schema = none)
    (kept : after = store) : Ends outcome after .undeclared
  | unresolved {document : Xml.Document} {identifier : Text} {error : ResolutionError}
    (declares : Declares tree here request content document identifier)
    (resolve : (store.resolve pipeline.resolver tree identifier).1 = .error (.unresolved error))
    (reason : outcome.SaysWhy request error.message)
    (schema : outcome.schema = some { identifier, resolved := none, displayPath := [] })
    (kept : after = store) : Ends outcome after .unresolved
  | unloadable {document : Xml.Document} {identifier : Text} {place : List Text} {shown : Text}
    {error : SchemaLoadError}
    (declares : Declares tree here request content document identifier)
    (resolve : (store.resolve pipeline.resolver tree identifier).1 = .ok place)
    (display : pipeline.resolver.displayPath tree [] (.ofParts place) = .ok shown)
    (load : ((afterResolve pipeline tree store identifier).load pipeline.aid tree here
      (.ofParts place)).1 = .error (.schema error))
    (reason : outcome.SaysWhy request error.message)
    (schema : outcome.schema =
      some { identifier, resolved := some (.ofParts place), displayPath := shown })
    (shown_ne : shown ≠ [])
    (found : after.places.lookup identifier = some place)
    (kept : after.schemas = store.schemas) : Ends outcome after .unloadable
  | checked {document : Xml.Document} {identifier : Text} {place : List Text} {shown : Text}
    {loaded : XmlCheck.Schema} {own : List Text}
    (declares : Declares tree here request content document identifier)
    (resolve : (store.resolve pipeline.resolver tree identifier).1 = .ok place)
    (display : pipeline.resolver.displayPath tree [] (.ofParts place) = .ok shown)
    (load : ((afterResolve pipeline tree store identifier).load pipeline.aid tree here
      (.ofParts place)).1 = .ok loaded)
    (diagnostics : loaded.diagnostics document request.displayName = .ok outcome.diagnostics)
    (errors : ∀ diagnostic ∈ outcome.diagnostics, diagnostic.severity = .error)
    (isValid : outcome.isValid = true ↔ outcome.diagnostics = [])
    (counted : outcome.counted = true)
    (schema : outcome.schema =
      some { identifier, resolved := some (.ofParts place), displayPath := shown })
    (shown_ne : shown ≠ [])
    (found : after.places.lookup identifier = some place)
    (canonical : tree.canonical [] (.ofParts place) = .ok own)
    (compiled : after.schemas.lookup own = some loaded) : Ends outcome after .checked

def endingOf : Ending :=
  match checkForm content request.displayName with
  | .broken _ _ => .malformed
  | .document document =>
    match identifier? content document with
    | none => .undeclared
    | some identifier =>
      match (store.resolve pipeline.resolver tree identifier).1 with
      | .error _ => .unresolved
      | .ok place =>
        match ((afterResolve pipeline tree store identifier).load pipeline.aid tree here
          (.ofParts place)).1 with
        | .error _ => .unloadable
        | .ok _ => .checked

end Ends

section Endings

variable {pipeline : Pipeline} {tree : FileTree} {here : List Text} {store : SchemaStore}
  {request : Request} {content : List UInt8}

/-- No two endings hold of one run. -/
theorem Ends.eq_endingOf {outcome : Outcome} {after : SchemaStore} {ending : Ending}
    (hends : Ends pipeline tree here store request content outcome after ending) :
    ending = endingOf pipeline tree here store request content := by
  cases hends with
  | malformed hform => simp only [endingOf, hform]
  | undeclared hform hscan hroot =>
      simp only [endingOf, hform, identifier?, hscan, hroot, Option.or_none]
  | unresolved hdeclares hresolve =>
      simp only [endingOf, hdeclares.form, hdeclares.found, hresolve]
  | unloadable hdeclares hresolve _ hload =>
      simp only [endingOf, hdeclares.form, hdeclares.found, hresolve, hload]
  | checked hdeclares hresolve _ hload =>
      simp only [endingOf, hdeclares.form, hdeclares.found, hresolve, hload]

theorem hasNames_of_resolve {identifier : Text} {place : List Text}
    (hnamed : pipeline.resolver.Named) (hgrown : SchemaStore.Grown pipeline store)
    (hresolve : (store.resolve pipeline.resolver tree identifier).1 = .ok place) :
    HasNames place := by
  obtain ⟨_, hlocate⟩ := hgrown.exists_locate_of_resolve hresolve
  exact hnamed.locate hlocate

/-- A place with names is shown with a path that is not empty. -/
theorem display_of_reference {identifier : Text} {place : List Text}
    {reference : SchemaReference} (hnames : HasNames place)
    (hrefer : pipeline.reference tree identifier place = .ok reference) :
    ∃ shown, pipeline.resolver.displayPath tree [] (.ofParts place) = .ok shown ∧
      shown ≠ [] ∧ reference = ⟨identifier, some (.ofParts place), shown⟩ := by
  obtain ⟨found, hcanonical, hreference⟩ := reference_eq_ok.mp hrefer
  have hfound : HasNames found := FileTree.hasNames_of_canonical hcanonical hasNames_nil hnames
  exact ⟨_, Resolver.displayPath_eq_ok hcanonical, pipeline.resolver.shownPlace_ne_nil hfound,
    hreference⟩

theorem RunsAgainst.ends {document : Xml.Document} {identifier : Text} {place : List Text}
    {reference : SchemaReference} {result : Except RunFailure Outcome} {after : SchemaStore}
    {stages : List Stage} {outcome : Outcome}
    (hruns : RunsAgainst pipeline tree here (afterResolve pipeline tree store identifier)
      request document reference place result after stages) (hresult : result = .ok outcome)
    (hdeclares : Declares tree here request content document identifier)
    (hresolve : (store.resolve pipeline.resolver tree identifier).1 = .ok place)
    (hnames : HasNames place)
    (hrefer : pipeline.reference tree identifier place = .ok reference) :
    ∃ ending, Ends pipeline tree here store request content outcome after ending ∧
      stagesToIdentifier content ++ .resolve :: .refer :: stages = ending.stages content := by
  obtain ⟨shown, hdisplay, hshown, rfl⟩ := display_of_reference hnames hrefer
  have hfound := lookup_afterLoad here hresolve
  cases hruns with
  | unreadable => cases hresult
  | unchecked => cases hresult
  | unloadable hload =>
      cases hresult
      have hkept := (SchemaStore.schemas_load_of_error hload).trans
        (schemas_afterResolve pipeline tree store identifier)
      exact ⟨.unloadable, .unloadable hdeclares hresolve hdisplay hload ⟨rfl, rfl, rfl⟩ rfl hshown
        hfound hkept, rfl⟩
  | checked hload hvalidate =>
      cases hresult
      obtain ⟨own, hcanonical, hcompiled⟩ := SchemaStore.lookup_load_of_ok hload
      exact ⟨.checked, .checked hdeclares hresolve hdisplay hload hvalidate
        (severity_of_diagnostics hvalidate) List.isEmpty_iff rfl rfl hshown hfound hcanonical
        hcompiled, rfl⟩

theorem Runs.ends {result : Except RunFailure Outcome} {after : SchemaStore}
    {stages : List Stage} {outcome : Outcome}
    (hruns : Runs pipeline tree here store request result after stages)
    (hresult : result = .ok outcome) (hnamed : pipeline.resolver.Named)
    (hgrown : SchemaStore.Grown pipeline store) (hcontent : request.load tree here = .ok content) :
    ∃ ending, Ends pipeline tree here store request content outcome after ending ∧
      stages = ending.stages content := by
  cases hruns with
  | contentless hload => cases hresult
  | malformed hload hform =>
      cases hresult
      obtain rfl : content = _ := Except.ok.inj (hcontent.symm.trans hload)
      refine ⟨.malformed, .malformed hform rfl (fun diagnostic hmem => ?_) rfl rfl rfl rfl, rfl⟩
      have hreported : diagnostic ∈ (checkForm content request.displayName).diagnostics := by
        rw [hform]
        exact hmem
      exact severity_of_checkForm hreported
  | undeclared hload hform hfound =>
      cases hresult
      obtain rfl : content = _ := Except.ok.inj (hcontent.symm.trans hload)
      obtain ⟨hscan, hroot⟩ := Option.or_eq_none_iff.mp hfound
      have hlast : ("\" does not have a schema defined" : Text).getLast? = some 'd' := by decide
      have hmessage := Message.dropLineEnds_append
        (("XML file \"" : Text) ++ request.displayName) hlast (by decide)
      refine ⟨.undeclared, .undeclared hform hscan hroot ?_ decide_eq_true_iff decide_eq_true_iff
        rfl rfl, rfl⟩
      rw [← hmessage]
      rfl
  | declared hdeclares hrest =>
      obtain rfl : content = _ := Except.ok.inj (hcontent.symm.trans hdeclares.load)
      cases hrest with
      | unreadable => cases hresult
      | unreferred => cases hresult
      | unresolved hresolve =>
          cases hresult
          exact ⟨.unresolved, .unresolved hdeclares hresolve ⟨rfl, rfl, rfl⟩ rfl
            (SchemaStore.snd_resolve_of_error hresolve), rfl⟩
      | against hresolve hrefer hagainst =>
          have hnames := hasNames_of_resolve hnamed hgrown hresolve
          exact hagainst.ends hresult hdeclares hresolve hnames hrefer

/-- A run that gives an outcome for a content ends in exactly one way, whatever the store was asked
for before; the ending says what each field of the outcome is, which stages were run and what the
store has kept. -/
theorem ends_of_run (hmade : pipeline.resolver.Made) (hgrown : SchemaStore.Grown pipeline store)
    {outcome : Outcome} (hcontent : request.load tree here = .ok content)
    (hrun : (pipeline.run tree here store request).1 = .ok outcome) :
    outcome.file = request.displayName ∧
      ∃ ending,
        Ends pipeline tree here store request content outcome
          (pipeline.run tree here store request).2 ending ∧
        (pipeline.stages tree here).noted.run pipeline.policy request content (store, []) =
          (.ok outcome, (pipeline.run tree here store request).2, ending.stages content) ∧
        ∀ other,
          Ends pipeline tree here store request content outcome
            (pipeline.run tree here store request).2 other →
          other = ending := by
  obtain ⟨ending, hends, hstages⟩ :=
    (runs_run store request).ends hrun hmade.named hgrown hcontent
  refine ⟨file_of_run hrun, ending, hends, ?_, fun other hother => ?_⟩
  · rw [noted_run hcontent, hrun, hstages]
  · rw [hother.eq_endingOf, hends.eq_endingOf]

/-- An element without attributes declares no schema; one that does is held against it, here with a
store that has compiled the schema before. -/
theorem ends_undeclared_and_checked :
    let pipeline : Pipeline := { resolver := ⟨[], [("v:c", ["s"])], []⟩ }
    let tree := FileTree.write {} [] (.ofParts ["s", "a.xsd"]) (Utf8.encode
      (("<x:schema xmlns:x='http://www.w3.org/2001/XMLSchema'>" : Text) ++
        "<x:element name='a'/></x:schema>"))
    let bare : Request := { displayName := "d", content := some [60, 97, 47, 62] }
    let content := Utf8.encode
      (("<b xmlns:xsi='http://www.w3.org/2001/XMLSchema-instance' " : Text) ++
        "xsi:noNamespaceSchemaLocation='urn:v:c:a.xsd'/>")
    let request : Request := { displayName := "e", content := some content }
    let later := ({} : SchemaStore).use pipeline tree [] (.compile ["s", "a.xsd"])
    Ends pipeline tree [] {} bare [60, 97, 47, 62] (.withoutSchema .valid "d") {} .undeclared ∧
      ∃ outcome, (pipeline.run tree [] later request).1 = .ok outcome ∧
        Ends pipeline tree [] later request content outcome (pipeline.run tree [] later request).2
          .checked := by
  intro pipeline tree bare content request later
  have hmade : pipeline.resolver.Made :=
    ⟨{}, [], .ofParts [], [("v:c", "s")], [], hasNames_nil, hasNames_nil, by decide +kernel⟩
  refine ⟨?_, ?_⟩
  · have hrun : (pipeline.run tree [] {} bare).1 = .ok (.withoutSchema .valid "d") := rfl
    obtain ⟨_, ending, hends, _⟩ := ends_of_run hmade .empty rfl hrun
    have hending : ending = .undeclared := hends.eq_endingOf.trans rfl
    rw [hending] at hends
    exact hends
  · have hok : (pipeline.run tree [] later request).1.isOk = true := by decide +kernel
    cases hrun : (pipeline.run tree [] later request).1 with
    | error failure =>
        rw [hrun] at hok
        cases hok
    | ok outcome =>
        have hgrown : SchemaStore.Grown pipeline later :=
          .use .empty tree [] (.compile ["s", "a.xsd"])
        obtain ⟨_, ending, hends, _⟩ := ends_of_run hmade hgrown rfl hrun
        have hending : endingOf pipeline tree [] later request content = .checked := by
          decide +kernel
        rw [hends.eq_endingOf, hending] at hends
        exact ⟨outcome, rfl, hends⟩

end Endings

end Pipeline

end XmlCheck
