import XmlCheck.Proofs.AskedDocuments
import XmlCheck.Proofs.DisplayNames
import XmlCheck.Proofs.RootContainment
import XmlCheck.Proofs.Stages
import XmlCheck.Settings

/-!
# The working directory

A path from the top leads to the same place from everywhere, and all that settings, resolvers and
stores keep are such paths. So where the settings file is named by one, neither the settings nor
what comes of them see the working directory, even if it changes on the way. One thing does: a
schema may ask for a document by an address that is no path from the top, such as an identifier that
leads to no file. Such an address is read from where the program stands (`SchemaStore.Strays`).
-/

namespace XmlCheck

/-! ### Paths from the top -/

namespace FileTree

variable {tree : FileTree} {path : FilePath}

theorem find_of_isAbsolute (habsolute : path.isAbsolute = true) (here other : List Text) :
    tree.find here path = tree.find other path := by
  unfold find startOf
  rw [if_pos habsolute, if_pos habsolute]

theorem read_of_isAbsolute (habsolute : path.isAbsolute = true) (here other : List Text) :
    tree.read here path = tree.read other path := by
  unfold read
  rw [find_of_isAbsolute habsolute here other]

theorem isFile_of_isAbsolute (habsolute : path.isAbsolute = true) (here other : List Text) :
    tree.isFile here path = tree.isFile other path := by
  unfold isFile ask
  rw [find_of_isAbsolute habsolute here other]

end FileTree

theorem FilePath.isAbsolute_ofParts (place : List Text) :
    (FilePath.ofParts place).isAbsolute = true := rfl

/-! ### Settings -/

namespace Settings

/-- The settings file is named by a path from the top: by the caller, or by the environment. -/
inductive FromTop (around : Surroundings) : Option FilePath → Prop
  | asked {path : FilePath} (absolute : path.isAbsolute = true) : FromTop around (some path)
  | named {value : Text} (given : around.valueOf? fileVariable = some value)
    (absolute : (FilePath.ofText value).isAbsolute = true) : FromTop around none

variable {around : Surroundings} {asked : Option FilePath}

theorem FromTop.file? (hfile : FromTop around asked) :
    ∃ path, path.isAbsolute = true ∧
      ∀ there, Settings.file? { around with here := there } asked = .ok (some path) := by
  cases hfile with
  | @asked path habsolute => exact ⟨path, habsolute, fun _ => rfl⟩
  | @named value hvalue habsolute =>
      refine ⟨.ofText value, habsolute, fun there => ?_⟩
      have hthere : { around with here := there }.valueOf? fileVariable = some value := hvalue
      have hfilled : value.isEmpty = false := by
        cases value with
        | nil => cases habsolute
        | cons first rest => rfl
      unfold Settings.file?
      rw [hthere]
      dsimp only
      rw [hfilled]
      rfl

theorem FromTop.load_eq (hfile : FromTop around asked) (there : List Text) :
    load { around with here := there } asked = load around asked := by
  obtain ⟨path, habsolute, hpath⟩ := hfile.file?
  have hread : readOptions { around with here := there } path = readOptions around path := by
    unfold readOptions
    rw [FileTree.read_of_isAbsolute habsolute there around.here]
  have hplace : around.files.canonical there path = around.files.canonical around.here path :=
    FileTree.canonical_of_isAbsolute habsolute there around.here
  have hhere : Settings.file? around asked = .ok (some path) := hpath around.here
  unfold load
  rw [hpath there, hhere]
  simp only [bind, Except.bind, hread, hplace]
  rfl

end Settings

/-! ### Resolvers -/

namespace Resolver

/-- The search for the file of an identifier, with each path used in a directory. -/
def locateFrom (resolver : Resolver) (tree : FileTree) (here : List Text) (identifier : Text) :
    Except ResolveFailure (List Text) :=
  match resolver.target identifier with
  | .error cause => .error (.unresolved ⟨identifier, cause⟩)
  | .ok (base, parts) =>
    match tree.canonical here ((FilePath.ofParts base).join ⟨.here, parts⟩) with
    | .error e => .error (.unreadable e)
    | .ok place =>
      match tree.isFile here (.ofParts place) with
      | .error e => .error (.unreadable e)
      | .ok true => .ok place
      | .ok false => .error (.unresolved ⟨identifier, .noSuchFile (resolver.shownPlace place)⟩)

theorem locateFrom_eq (resolver : Resolver) (tree : FileTree) (here : List Text)
    (identifier : Text) :
    resolver.locateFrom tree here identifier = resolver.locate tree identifier := by
  unfold locateFrom locate
  cases resolver.target identifier with
  | error cause => rfl
  | ok target =>
      obtain ⟨base, parts⟩ := target
      have hjoin : (FilePath.ofParts base).join ⟨.here, parts⟩ = .ofParts (base ++ parts) := rfl
      simp only [hjoin]
      rw [FileTree.canonical_of_isAbsolute (FilePath.isAbsolute_ofParts _) here []]
      cases tree.canonical [] (.ofParts (base ++ parts)) with
      | error cause => rfl
      | ok place =>
          have hfile : tree.isFile here (.ofParts place) = tree.isFile [] (.ofParts place) :=
            FileTree.isFile_of_isAbsolute (FilePath.isAbsolute_ofParts place) here []
          rcases hanswer : tree.isFile [] (.ofParts place) with _ | _ | _ <;>
            simp only [hfile, hanswer]

/-- An entry of a table with a directory that its path leads to, joined to the path of the root and
used in a directory. -/
def Registered (tree : FileTree) (here : List Text) (root : FilePath) (entry : Text × Text)
    (found : Text × List Text) : Prop :=
  found.1 = entry.1 ∧ tree.canonical here (root.join (.ofText entry.2)) = .ok found.2

theorem placesOf_eq_ok_iff_registered {tree : FileTree} {here settled : List Text}
    {root : FilePath} (hroot : tree.canonical here root = .ok settled) {table : List (Text × Text)}
    {places : List (Text × List Text)} :
    placesOf tree settled table = .ok places ↔
      List.Forall₂ (Registered tree here root) table places := by
  have hentry (entry : Text × Text) (found : Text × List Text) :
      StandsFor tree settled entry found ↔ Registered tree here root entry found :=
    and_congr_right fun _ => (FileTree.canonical_join_eq_ok_iff hroot).symm
  rw [placesOf_eq_ok_iff]
  exact ⟨fun h => h.imp fun entry found => (hentry entry found).mp,
    fun h => h.imp fun entry found => (hentry entry found).mpr⟩

/-- A resolver as it is built in a directory: its root is where the path of the root leads, and the
directories are those of the tables, of which the last entries come first. -/
structure BuiltIn (tree : FileTree) (here : List Text) (root : FilePath)
    (components modules : List (Text × Text)) (resolver : Resolver) : Prop where
  settles : tree.canonical here root = .ok resolver.root
  components : ∃ places, List.Forall₂ (Registered tree here root) components places ∧
    resolver.components = (places.map fun c => (Text.lower c.1, c.2)).reverse
  modules : ∃ places, List.Forall₂ (Registered tree here root) modules places ∧
    resolver.modules = places.reverse

theorem ofTables_eq_ok_iff {tree : FileTree} {here : List Text} {root : FilePath}
    {components modules : List (Text × Text)} {resolver : Resolver} :
    ofTables tree here root components modules = .ok resolver ↔
      BuiltIn tree here root components modules resolver := by
  constructor
  · intro hbuilt
    unfold ofTables at hbuilt
    split at hbuilt
    · cases hbuilt
    · rename_i settled hroot
      split at hbuilt
      · cases hbuilt
      · cases hbuilt
      · rename_i places others hcomponents hmodules
        cases hbuilt
        exact ⟨hroot, ⟨places, (placesOf_eq_ok_iff_registered hroot).mp hcomponents, rfl⟩,
          ⟨others, (placesOf_eq_ok_iff_registered hroot).mp hmodules, rfl⟩⟩
  · rintro ⟨hroot, ⟨places, hcomponents, hplaces⟩, ⟨others, hmodules, hothers⟩⟩
    unfold ofTables
    rw [hroot]
    dsimp only
    rw [(placesOf_eq_ok_iff_registered hroot).mpr hcomponents,
      (placesOf_eq_ok_iff_registered hroot).mpr hmodules]
    dsimp only
    rw [← hplaces, ← hothers]

/-- Where the path of the root starts at the top, the resolver is the same wherever it is built. -/
theorem ofTables_of_isAbsolute {root : FilePath} (habsolute : root.isAbsolute = true)
    (tree : FileTree) (here there : List Text) (components modules : List (Text × Text)) :
    ofTables tree here root components modules = ofTables tree there root components modules := by
  unfold ofTables
  rw [FileTree.canonical_of_isAbsolute habsolute here there]

theorem displayPath_ofParts (resolver : Resolver) (tree : FileTree) (here there place : List Text) :
    resolver.displayPath tree here (.ofParts place) =
      resolver.displayPath tree there (.ofParts place) := by
  unfold displayPath
  rw [FileTree.canonical_of_isAbsolute (FilePath.isAbsolute_ofParts place) here there]

end Resolver

/-! ### Documents that schemas ask for -/

namespace Schema

/-- Whether an address is read from where the program stands. -/
def startsHere (address : Text) : Bool :=
  !(FilePath.ofText ((Text.after? fileScheme address).getD address)).isAbsolute

variable {tree : FileTree} {address : Text}

theorem fetchFile_of_startsHere (haddress : startsHere address = false) (here there : List Text) :
    fetchFile tree here address = fetchFile tree there address := by
  have habsolute :
      (FilePath.ofText ((Text.after? fileScheme address).getD address)).isAbsolute = true := by
    simpa [startsHere] using haddress
  unfold fetchFile
  dsimp only
  rw [FileTree.read_of_isAbsolute habsolute here there]

theorem startsHere_toText (place : List Text) :
    startsHere (FilePath.ofParts place).toText = false := by
  have hscheme : Text.after? fileScheme (FilePath.ofParts place).toText = none := rfl
  have hanchor : ∀ names : Text, FilePath.anchorOf ('/' :: names) ≠ .here := by
    intro names
    unfold FilePath.anchorOf
    split <;> simp_all
  have habsolute : (FilePath.ofText (FilePath.ofParts place).toText).isAbsolute = true :=
    bne_iff_ne.mpr (hanchor _)
  unfold startsHere
  rw [hscheme, Option.getD_none, habsolute]
  rfl

end Schema

namespace SchemaStore

open Schema

/-- A schema asks for a document at an address that is read from where the program stands, and two
directories have different things there. -/
structure Strays (pipeline : Pipeline) (tree : FileTree) (here there : List Text)
    (store : SchemaStore) (place : List Text) (address : Text) : Prop where
  unknown : store.schemas.lookup place = none
  asked : address ∈ (store.compilation pipeline tree here place).asked
  relative : startsHere address = true
  unserved : ∀ resolver, pipeline.aid = some resolver → isIdentifier address = true →
    ∃ error, store.place? resolver tree address = .error (.unresolved error)
  differs : fetchFile tree here address ≠ fetchFile tree there address

section Loading

variable {pipeline : Pipeline} {tree : FileTree} {here there place : List Text}
  {store : SchemaStore}

/-- An address that gives different documents in two directories is no path from the top, and no
identifier for which there is a file. -/
theorem unserved_of_fetch_ne {resolver : Option Resolver} {address : Text}
    (hne : store.fetch resolver tree here address ≠ store.fetch resolver tree there address) :
    startsHere address = true ∧
      (∀ server, resolver = some server → isIdentifier address = true →
        ∃ error, store.place? server tree address = .error (.unresolved error)) ∧
      fetchFile tree here address ≠ fetchFile tree there address := by
  have hdiffers : (∀ server, resolver = some server → isIdentifier address = true →
      ∃ error, store.place? server tree address = .error (.unresolved error)) ∧
        fetchFile tree here address ≠ fetchFile tree there address := by
    unfold fetch at hne
    split at hne
    · rename_i server hidentifier
      split at hne
      · rename_i place hplace
        exact absurd (fetchFile_of_startsHere (startsHere_toText place) here there) hne
      · rename_i error hplace
        refine ⟨fun other hother _ => ⟨error, ?_⟩, hne⟩
        cases hother
        exact hplace
      · exact absurd rfl hne
    · rename_i hother
      exact ⟨fun server hserver hidentifier => absurd hidentifier (hother server hserver), hne⟩
  refine ⟨?_, hdiffers⟩
  by_contra hstarts
  exact hdiffers.2 (fetchFile_of_startsHere (Bool.not_eq_true _ ▸ hstarts) here there)

variable (pipeline tree here there store place) in
theorem loadPlace_eq_or_strays :
    store.loadPlace pipeline.aid tree here place = store.loadPlace pipeline.aid tree there place ∨
      ∃ address, Strays pipeline tree here there store place address := by
  cases hknown : store.schemas.lookup place with
  | some schema =>
      left
      unfold loadPlace
      rw [hknown]
  | none =>
      by_cases hagree : ∀ address ∈ (store.compilation pipeline tree here place).asked,
        store.fetch pipeline.aid tree here address = store.fetch pipeline.aid tree there address
      · left
        unfold loadPlace
        rw [hknown]
        dsimp only
        rw [loadFile_eq hagree]
      · right
        push Not at hagree
        obtain ⟨address, hasked, hne⟩ := hagree
        obtain ⟨hrelative, hunserved, hdiffers⟩ := unserved_of_fetch_ne hne
        exact ⟨address, hknown, hasked, hrelative, hunserved, hdiffers⟩

end Loading

end SchemaStore

/-! ### Runs -/

namespace Pipeline

open SchemaStore

/-- A request leads to a schema that strays: its document declares an identifier, there is a file
for it, and the schema in this file strays. -/
inductive Strays (pipeline : Pipeline) (tree : FileTree) (here there : List Text)
    (store : SchemaStore) (request : Request) : Prop
  | schema {content : List UInt8} {document : Xml.Document} {identifier address : Text}
    {place own : List Text} (declares : Declares tree here request content document identifier)
    (found : store.place? pipeline.resolver tree identifier = .ok place)
    (settles : tree.canonical [] (.ofParts place) = .ok own)
    (strays : SchemaStore.Strays pipeline tree here there
      (afterResolve pipeline tree store identifier) own address) :
    Strays pipeline tree here there store request

section Runs

variable {pipeline : Pipeline} {tree : FileTree} {here there : List Text} {store : SchemaStore}
  {request : Request} {content : List UInt8}

variable (pipeline tree here there store) in
theorem load_eq_or_strays (place : List Text) :
    store.load pipeline.aid tree here (.ofParts place) =
        store.load pipeline.aid tree there (.ofParts place) ∨
      ∃ own address, tree.canonical [] (.ofParts place) = .ok own ∧
        SchemaStore.Strays pipeline tree here there store own address := by
  have hplace (used : List Text) :
      tree.canonical used (.ofParts place) = tree.canonical [] (.ofParts place) :=
    FileTree.canonical_of_isAbsolute (FilePath.isAbsolute_ofParts place) used []
  unfold SchemaStore.load
  rw [hplace here, hplace there]
  cases tree.canonical [] (.ofParts place) with
  | error cause => exact .inl rfl
  | ok own =>
      dsimp only
      rcases loadPlace_eq_or_strays pipeline tree here there own store with hsame | hstrays
      · left
        rw [hsame]
      · obtain ⟨address, hstrays⟩ := hstrays
        exact .inr ⟨own, address, rfl, hstrays⟩

theorem checkAgainst_of_load_eq {place : List Text}
    (hsame : store.load pipeline.aid tree here (.ofParts place) =
      store.load pipeline.aid tree there (.ofParts place))
    (document : Xml.Document) (reference : SchemaReference) :
    pipeline.checkAgainst tree here store request document reference place =
      pipeline.checkAgainst tree there store request document reference place := by
  unfold checkAgainst
  rw [hsame]

theorem checkDeclared_eq_or_strays {document : Xml.Document} {identifier : Text}
    (hdeclares : Declares tree here request content document identifier) :
    pipeline.checkDeclared tree here store request document identifier =
        pipeline.checkDeclared tree there store request document identifier ∨
      Strays pipeline tree here there store request := by
  unfold checkDeclared SchemaStore.resolve
  cases hplace : store.place? pipeline.resolver tree identifier with
  | error failure => cases failure <;> exact .inl rfl
  | ok place =>
      dsimp only
      cases pipeline.reference tree identifier place with
      | error cause => exact .inl rfl
      | ok reference =>
          rcases load_eq_or_strays pipeline tree here there
            (afterResolve pipeline tree store identifier) place with hsame | hstrays
          · exact .inl (checkAgainst_of_load_eq hsame document reference)
          · obtain ⟨own, address, hown, hstrays⟩ := hstrays
            exact .inr (.schema hdeclares hplace hown hstrays)

variable (pipeline tree here there store) in
/-- A run of a document in memory is the same in two directories, unless its schema strays. -/
theorem run_eq_or_strays (hcontent : request.content = some content) :
    pipeline.run tree here store request = pipeline.run tree there store request ∨
      Strays pipeline tree here there store request := by
  have hload (used : List Text) : request.load tree used = .ok content := by
    unfold Request.load
    rw [hcontent]
  unfold run checkContent
  rw [hload here, hload there]
  dsimp only
  cases hform : checkForm content request.displayName with
  | broken first more => exact .inl rfl
  | document document =>
      dsimp only
      cases hidentifier : identifier? content document with
      | none => exact .inl rfl
      | some identifier => exact checkDeclared_eq_or_strays ⟨hload here, hform, hidentifier⟩

end Runs

/-- A request at one moment, with two directories in which it may be made. -/
structure Turn where
  files : FileTree
  here : List Text
  there : List Text
  request : Request

def turnResults (pipeline : Pipeline) (directory : Turn → List Text) :
    SchemaStore → List Turn → List (Except RunFailure Outcome) × SchemaStore
  | store, [] => ([], store)
  | store, turn :: turns =>
    let (result, store) := pipeline.run turn.files (directory turn) store turn.request
    let (results, store) := turnResults pipeline directory store turns
    (result :: results, store)

/-- Requests that are made one after the other have the same results in either of their directories
up to the first one whose schema strays. -/
theorem turnResults_eq_or_strays (pipeline : Pipeline) {turns : List Turn}
    (hcontent : ∀ turn ∈ turns, turn.request.content.isSome) (store : SchemaStore) :
    pipeline.turnResults Turn.here store turns = pipeline.turnResults Turn.there store turns ∨
      ∃ before turn after, turns = before ++ turn :: after ∧
        pipeline.turnResults Turn.here store before = pipeline.turnResults Turn.there store before ∧
        Strays pipeline turn.files turn.here turn.there
          (pipeline.turnResults Turn.here store before).2 turn.request := by
  induction turns generalizing store with
  | nil => exact .inl rfl
  | cons turn turns ih =>
      obtain ⟨content, hmemory⟩ := Option.isSome_iff_exists.mp (hcontent turn List.mem_cons_self)
      rcases run_eq_or_strays pipeline turn.files turn.here turn.there store hmemory
        with hsame | hstrays
      · have hlater := ih (fun other hother => hcontent other (List.mem_cons_of_mem turn hother))
          (pipeline.run turn.files turn.here store turn.request).2
        rcases hlater with hrest | ⟨before, last, after, hsplit, hbefore, hstrays⟩
        · left
          unfold turnResults
          rw [← hsame]
          dsimp only
          rw [hrest]
        · right
          refine ⟨turn :: before, last, after, by rw [hsplit, List.cons_append], ?_, hstrays⟩
          unfold turnResults
          rw [← hsame]
          dsimp only
          rw [hbefore]
      · exact .inr ⟨[], turn, turns, rfl, rfl, hstrays⟩

end Pipeline

/-! ### The main statement -/

namespace Settings

open Pipeline

/-- With a settings file that is named by a path from the top, the settings are the same from every
directory. Whatever the settings are, the resolver is the one that is built from them in any
directory, and files are found and shown alike from everywhere. Requests in memory have the same
results wherever they are made, up to the first one whose schema asks for a document by an address
that is neither a path from the top nor an identifier with a file, and gets another one there. -/
theorem working_directory_unseen {around : Surroundings} {asked : Option FilePath}
    (hfile : FromTop around asked) :
    (∀ there, load { around with here := there } asked = load around asked) ∧
    ∀ settings : Settings,
      (∀ built resolver, settings.resolver around.files = .ok resolver ↔
        Resolver.BuiltIn around.files built (.ofParts settings.root) settings.components
          settings.modules resolver) ∧
      ∀ pipeline, settings.pipeline around.files = .ok pipeline →
        (∀ tree used identifier, pipeline.resolver.locateFrom tree used identifier =
          pipeline.resolver.locate tree identifier) ∧
        (∀ tree used other place, pipeline.resolver.displayPath tree used (.ofParts place) =
          pipeline.resolver.displayPath tree other (.ofParts place)) ∧
        ∀ store turns, (∀ turn ∈ turns, turn.request.content.isSome) →
          pipeline.turnResults Turn.here store turns = pipeline.turnResults Turn.there store turns ∨
            ∃ before turn after, turns = before ++ turn :: after ∧
              pipeline.turnResults Turn.here store before =
                pipeline.turnResults Turn.there store before ∧
              Strays pipeline turn.files turn.here turn.there
                (pipeline.turnResults Turn.here store before).2 turn.request := by
  refine ⟨hfile.load_eq, fun settings => ⟨fun built resolver => ?_, fun pipeline _ => ⟨?_, ?_, ?_⟩⟩⟩
  · rw [← Resolver.ofTables_eq_ok_iff, Resolver.ofTables_of_isAbsolute
      (FilePath.isAbsolute_ofParts settings.root) around.files built []]
    rfl
  · exact pipeline.resolver.locateFrom_eq
  · exact pipeline.resolver.displayPath_ofParts
  · exact fun store turns hcontent => turnResults_eq_or_strays pipeline hcontent store

/-- A settings file, a schema that asks for another one at an address, and a directory with a file
that has an identifier for its name. -/
def asking (address : Text) : Surroundings :=
  let empty : Text := "<xs:schema xmlns:xs=\"http://www.w3.org/2001/XMLSchema\"/>"
  let schema : Text := ("<xs:schema xmlns:xs=\"http://www.w3.org/2001/XMLSchema\">" : Text) ++
    "<xs:include schemaLocation=\"" ++ address ++ "\"/><xs:element name=\"r\"/></xs:schema>"
  { files := { entries := [
      (["s.yaml"], .file (Utf8.encode "components:\n  a:b: lib\n")),
      (["lib"], .directory), (["lib", "x.xsd"], .file (Utf8.encode schema)),
      (["lib", "y.xsd"], .file (Utf8.encode empty)),
      (["w"], .directory), (["w", "urn:c:d:y.xsd"], .file (Utf8.encode empty))] } }

def askingSettings : Settings :=
  { root := [], components := [("a:b", "lib")] }

def askingPipeline : Pipeline :=
  { resolver := ⟨[], [("a:b", ["lib"])], []⟩ }

def askingContent : List UInt8 :=
  Utf8.encode (("<s xmlns:xsi=\"http://www.w3.org/2001/XMLSchema-instance\" " : Text) ++
    "xsi:noNamespaceSchemaLocation=\"urn:a:b:x.xsd\"/>")

def askingRequest : Request :=
  { displayName := "e.xml", content := some askingContent }

/-- An address from the top does not lead astray. -/
theorem not_strays_of_include :
    ¬ Strays askingPipeline (asking "y.xsd").files ["w"] [] {} askingRequest := by
  intro hleads
  cases hleads with
  | @schema content document identifier address place own hdeclares hfound hsettles hstrays =>
  obtain rfl : content = askingContent := (Except.ok.inj hdeclares.load).symm
  have hscan : Declaration.scanOctets? askingContent = some ("urn:a:b:x.xsd" : Text) := by
    decide +kernel
  have hidentifier : identifier? askingContent document = some ("urn:a:b:x.xsd" : Text) := by
    rw [identifier?, hscan, Option.some_or]
  cases hdeclares.found.symm.trans hidentifier
  have hplace : ({} : SchemaStore).place? askingPipeline.resolver (asking "y.xsd").files
      "urn:a:b:x.xsd" = .ok ["lib", "x.xsd"] := by decide +kernel
  cases hfound.symm.trans hplace
  have hown : (asking "y.xsd").files.canonical [] (.ofParts ["lib", "x.xsd"]) =
      .ok ["lib", "x.xsd"] := by decide +kernel
  cases hsettles.symm.trans hown
  have hasked : (SchemaStore.compilation askingPipeline (asking "y.xsd").files ["w"]
      (afterResolve askingPipeline (asking "y.xsd").files {} "urn:a:b:x.xsd")
      ["lib", "x.xsd"]).asked = ["/lib/y.xsd"] := by decide +kernel
  have haddress := hstrays.asked
  rw [hasked] at haddress
  cases List.mem_singleton.mp haddress
  exact absurd hstrays.relative (by decide)

/-- A schema that includes another one by its name does so from every directory. -/
theorem working_directory_unseen_with_include :
    let around := asking "y.xsd"
    let asked := some (FilePath.ofText "/s.yaml")
    let turn : Turn := ⟨around.files, ["w"], [], askingRequest⟩
    FromTop around asked ∧ load { around with here := ["w"] } asked = .ok askingSettings ∧
      askingSettings.pipeline around.files = .ok askingPipeline ∧
      (∀ other ∈ [turn], other.request.content.isSome) ∧
      askingPipeline.turnResults Turn.here {} [turn] =
        askingPipeline.turnResults Turn.there {} [turn] := by
  intro around asked turn
  have hfile : FromTop around asked := .asked (by decide)
  have hload : load around asked = .ok askingSettings := by decide +kernel
  have hpipeline : askingSettings.pipeline around.files = .ok askingPipeline := by decide +kernel
  have hcontent : ∀ other ∈ [turn], other.request.content.isSome :=
    List.forall_mem_singleton.mpr rfl
  obtain ⟨hsame, huse⟩ := working_directory_unseen hfile
  obtain ⟨-, -, hresults⟩ := (huse askingSettings).2 askingPipeline hpipeline
  refine ⟨hfile, (hsame ["w"]).trans hload, hpipeline, hcontent, ?_⟩
  rcases hresults {} [turn] hcontent with heq | ⟨before, last, after, hsplit, -, hstrays⟩
  · exact heq
  · cases before with
    | nil =>
        cases hsplit
        exact absurd hstrays not_strays_of_include
    | cons first before => simp at hsplit

/-- An identifier that leads to no file is taken for a file of the directory where the program
stands: there the schema is had, and elsewhere it is not. -/
theorem working_directory_seen :
    let around := asking "urn:c:d:y.xsd"
    let asked := some (FilePath.ofText "/s.yaml")
    let messages (here : List Text) :=
      (askingPipeline.run around.files here {} askingRequest).1.map fun outcome =>
        outcome.diagnostics.map (·.message)
    FromTop around asked ∧ load around asked = .ok askingSettings ∧
      askingSettings.pipeline around.files = .ok askingPipeline ∧
      messages ["w"] = .ok [("Line 1: Element 's': No matching global declaration available for " :
        Text) ++ "the validation root."] ∧
      messages [] = .ok [("Could not process e.xml. Error: Cannot load schema lib/x.xsd: invalid " :
        Text) ++ "schema: Element '\x7bhttp://www.w3.org/2001/XMLSchema\x7dinclude': Failed to " ++
        "load the document 'urn:c:d:y.xsd' for inclusion., line 1"] :=
  ⟨.asked (by decide), by decide +kernel, by decide +kernel, by decide +kernel, by decide +kernel⟩

end Settings

end XmlCheck
