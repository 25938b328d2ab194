import XmlCheck.Proofs.QuotedLocations
import XmlCheck.SchemaStore

/-!
# Locations in the texts of load errors

A failure to load a schema is told with the path of the schema from the project root. The library's
words for the failure quote locations; the schema's own ones, as a path and as an address, are put
into that form, and every other one is left as it is. A file that cannot be read is told of without
any location in full. A schema that is not well-formed is told of by its name, and what the message
takes over from it is not changed. A schema that is not valid may be blamed for a document that it
asks for, and then the location of that document is told in full (`Located.shows_message_iff`).
-/

namespace XmlCheck

namespace Schema

open FilePath (IsMark)

namespace SchemaLoadError

variable (e : SchemaLoadError)

def ownPath : Text :=
  (FilePath.ofParts e.place).toText

def ownAddress : Text :=
  (FilePath.ofParts e.place).toAddress

/-- The details of a failure, taken apart. -/
def telling : Telling :=
  match e.cause with
  | .unreadable (.isDirectory path) =>
    ⟨"Error reading file ",
      [⟨'\'', e.ownPath, (": " : Text) ++ (FileError.isDirectory path).words⟩]⟩
  | .unreadable cause =>
    ⟨"Error reading file ", [⟨'\'', e.ownPath, ": failed to load "⟩,
      ⟨'"', e.ownPath, (": " : Text) ++ cause.words⟩]⟩
  | .malformed _ => .plain e.details
  | .invalid fault => fault.telling

theorem text_telling : e.telling.text = e.details := by
  obtain ⟨place, shown, cause⟩ := e
  cases cause with
  | malformed finding => exact Telling.text_nil _
  | invalid fault => exact fault.text_telling
  | unreadable cause =>
      cases cause <;>
        simp [telling, details, ownPath, unreadableWords, Telling.text, Facet.marked]

theorem marked_telling : e.telling.Marked := by
  obtain ⟨place, shown, cause⟩ := e
  cases cause with
  | malformed finding => exact Telling.marked_plain _
  | invalid fault => exact fault.marked_telling
  | unreadable cause =>
      intro quote hquote
      cases cause <;> simp [telling] at hquote <;> rcases hquote with rfl | rfl <;>
        simp [IsMark]

theorem scrubbed_eq (text : Text) : e.scrubbed text =
    Text.replaceAll e.ownPath e.shown (Text.replaceAll e.ownPath e.shown
      (Text.replaceAll e.ownAddress e.shown text)) :=
  rfl

/-- The details as they are told: the schema's own locations are put into their shown form, each
piece for itself if the schema's path has no marks. -/
theorem scrubbed_details (hplace : ∀ name ∈ e.place, ∀ c ∈ name, ¬ IsMark c) :
    e.scrubbed e.details = (e.telling.map e.scrubbed).text := by
  have haddress : ∀ c ∈ e.ownAddress, ¬ IsMark c := fun _ =>
    FilePath.not_isMark_of_mem_toAddress
  have hpath : ∀ c ∈ e.ownPath, ¬ IsMark c := fun _ => FilePath.not_isMark_of_mem_toText hplace
  rw [← text_telling, scrubbed_eq, Telling.replaceAll_text haddress e.marked_telling,
    Telling.replaceAll_text hpath (e.marked_telling.map _), Telling.map_map,
    Telling.replaceAll_text hpath (e.marked_telling.map _), Telling.map_map]
  rfl

def heading : Text :=
  ("Cannot load schema " : Text) ++ e.shown ++ ": " ++ e.kind

theorem message_eq : e.message = e.heading ++ e.scrubbed e.details :=
  rfl

/-- What is told besides locations: the words before the details, and those of the details. -/
def toldWords : List Text :=
  (e.heading ++ e.scrubbed e.telling.opening) ::
    e.telling.quotes.map fun quote => e.scrubbed quote.words

/-- A failure shows a root in full exactly where its words do, or a location that it quotes. -/
theorem shows_message_iff {root : List Text} (hroot : ∀ name ∈ root, ∀ c ∈ name, ¬ IsMark c)
    (hplace : ∀ name ∈ e.place, ∀ c ∈ name, ¬ IsMark c) :
    Shows root e.message ↔ (∃ words ∈ e.toldWords, Shows root words) ∨
      ∃ location ∈ e.telling.locations, Shows root (e.scrubbed location) := by
  let told : Telling :=
    { (e.telling.map e.scrubbed) with opening := e.heading ++ e.scrubbed e.telling.opening }
  have hmessage : e.message = told.text := by
    calc
      e.message = e.heading ++ (e.telling.map e.scrubbed).text := by
        rw [message_eq, e.scrubbed_details hplace]
      _ = told.text := (List.append_assoc _ _ _).symm
  have hmarked : told.Marked := e.marked_telling.map e.scrubbed
  have hwords : told.words = e.toldWords := by
    simp [told, Telling.words, toldWords, Telling.map]
  have hlocations : told.locations = e.telling.locations.map e.scrubbed := by
    simp [told, Telling.locations, Telling.map]
  rw [hmessage, Telling.shows_text_iff hroot hmarked, hwords, hlocations]
  simp only [List.mem_map, exists_exists_and_eq_and]

/-! ### The locations of one schema -/

/-- The failure of a schema below a root: it is shown by the path from the root, the schema's own
locations take that form, and others stay as they are. -/
structure Located (root below : List Text) : Prop where
  place : e.place = root ++ below
  shown : e.shown = Text.join ['/'] below

variable {e} {root below : List Text}

theorem Located.ownPath_eq (he : e.Located root below) (hroot : root ≠ []) (hbelow : below ≠ []) :
    e.ownPath = (FilePath.ofParts root).toText ++ '/' :: e.shown := by
  rw [ownPath, he.place, he.shown, FilePath.toText_ofParts_append hroot hbelow, List.append_assoc]
  rfl

theorem Located.length_shown_lt (he : e.Located root below) (hroot : root ≠ [])
    (hbelow : below ≠ []) : e.shown.length < e.ownPath.length := by
  rw [he.ownPath_eq hroot hbelow, List.length_append, List.length_cons]
  omega

theorem Located.scrubbed_ownPath (he : e.Located root below) (hroot : root ≠ [])
    (hbelow : below ≠ []) : e.scrubbed e.ownPath = e.shown := by
  have hshort : e.ownPath.length < e.ownAddress.length := FilePath.length_toText_lt_toAddress _
  have hne : e.ownPath ≠ [] := List.cons_ne_nil _ _
  rw [scrubbed_eq, Text.replaceAll_of_length_lt hshort, Text.replaceAll_self hne,
    Text.replaceAll_of_length_lt (he.length_shown_lt hroot hbelow)]

theorem Located.scrubbed_ownAddress (he : e.Located root below) (hroot : root ≠ [])
    (hbelow : below ≠ []) : e.scrubbed e.ownAddress = e.shown := by
  have hne : e.ownAddress ≠ [] := List.cons_ne_nil _ _
  have hshown := he.length_shown_lt hroot hbelow
  rw [scrubbed_eq, Text.replaceAll_self hne, Text.replaceAll_of_length_lt hshown,
    Text.replaceAll_of_length_lt hshown]

/-- A location that the schema's own ones are no part of is told in full. -/
theorem scrubbed_of_not_infix {location : Text} (haddress : ¬ e.ownAddress <:+: location)
    (hpath : ¬ e.ownPath <:+: location) : e.scrubbed location = location := by
  rw [scrubbed_eq, Text.replaceAll_of_not_infix haddress, Text.replaceAll_of_not_infix hpath,
    Text.replaceAll_of_not_infix hpath]

theorem eq_ownPath_of_mem_locations (hvalid : ∀ fault, e.cause ≠ .invalid fault) {location : Text}
    (hlocation : location ∈ e.telling.locations) : location = e.ownPath := by
  obtain ⟨place, shown, cause⟩ := e
  cases cause with
  | malformed finding => cases hlocation
  | invalid fault => exact absurd rfl (hvalid fault)
  | unreadable cause =>
      cases cause <;> simp [telling, Telling.locations] at hlocation <;> exact hlocation

theorem not_mem_words_slash (cause : FileError) : '/' ∉ cause.words := by
  have hnone : cause.words.contains '/' = false := by cases cause <;> rfl
  exact fun h => Bool.false_ne_true (hnone.symm.trans (List.contains_iff_mem.mpr h))

theorem not_mem_words_of_unreadable {cause : FileError} (hcause : e.cause = .unreadable cause) :
    ∀ words ∈ e.telling.words, '/' ∉ words := by
  obtain ⟨place, shown, _⟩ := e
  obtain rfl := hcause
  have hopening : '/' ∉ ("Error reading file " : Text) := by decide
  have hload : '/' ∉ (": failed to load " : Text) := by decide
  have hend : '/' ∉ (": " : Text) ++ cause.words := fun h =>
    (List.mem_append.mp h).elim (by decide) (not_mem_words_slash cause)
  intro words hmem
  cases cause with
  | isDirectory path =>
      rcases List.mem_pair.mp hmem with rfl | rfl
      · exact hopening
      · exact hend
  | _ =>
      rcases List.mem_cons.mp hmem with rfl | hmem
      · exact hopening
      rcases List.mem_pair.mp hmem with rfl | rfl
      · exact hload
      · exact hend

/-- The shown path in the place of the schema's own one puts no other copy of it together. -/
theorem Located.not_ownPath_infix_relocated (he : e.Located root below) (hroot : root ≠ [])
    (hbelow : below ≠ []) {cause : FileError} (hcause : e.cause = .unreadable cause) :
    ¬ e.ownPath <:+: (e.telling.relocate e.shown).text := by
  rw [he.ownPath_eq hroot hbelow]
  obtain ⟨place, shown, _⟩ := e
  obtain rfl := hcause
  have hopening : SlashFree (("Error reading file " : Text) ++ ['\'']) :=
    .append (.words (by decide)) (.cons (by decide) .nil)
  have hbetween : SlashFree ('\'' :: ((": failed to load " : Text) ++ ['"'])) :=
    .cons (by decide) (.append (.words (by decide)) (.cons (by decide) .nil))
  have hclosing (mark : Char) (hmark : '/' ≠ mark) :
      SlashFree (mark :: ((": " : Text) ++ cause.words)) :=
    .cons hmark (.append (.words (by decide)) (not_mem_words_slash cause))
  cases cause with
  | isDirectory path =>
      have hnone := Text.not_infix_copy (FilePath.ofParts root).toText shown hopening
        (hclosing '\'' (by decide))
      simpa [telling, Telling.relocate, Telling.text] using hnone
  | _ =>
      have hnone := Text.not_infix_copies (FilePath.ofParts root).toText shown hopening hbetween
        (List.cons_ne_nil _ _) (hclosing '"' (by decide))
      simpa [telling, Telling.relocate, Telling.text] using hnone

/-- A file that cannot be read is told of without a location in full, whatever its names are. -/
theorem Located.message_of_unreadable (he : e.Located root below) (hroot : root ≠ [])
    (hbelow : below ≠ []) {cause : FileError} (hcause : e.cause = .unreadable cause) :
    e.message = e.heading ++ (("Error reading file " : Text) ++ Facet.marked e.shown ++ ": " ++
      unreadableWords e.shown cause) := by
  have hvalid : ∀ fault, e.cause ≠ .invalid fault := by
    intro fault hfault
    rw [hcause] at hfault
    cases hfault
  have hwords := not_mem_words_of_unreadable hcause
  have hlocations : ∀ location ∈ e.telling.locations, location = e.ownPath := fun _ =>
    eq_ownPath_of_mem_locations hvalid
  have hshort : e.ownPath.length < e.ownAddress.length := FilePath.length_toText_lt_toAddress _
  have hslash : '/' ∈ e.ownAddress := by
    change '/' ∈ ("file://" : Text) ++ _
    exact List.mem_append_left _ (by decide)
  -- no address stands in the details: none of their pieces is long enough or else has a slash
  have haddress : Text.replaceAll e.ownAddress e.shown e.details = e.details := by
    have hmarks : ∀ c ∈ e.ownAddress, ¬ IsMark c := fun _ => FilePath.not_isMark_of_mem_toAddress
    rw [← e.text_telling, Telling.replaceAll_text hmarks e.marked_telling]
    congr 1
    refine Telling.map_eq_self (fun words hmem => ?_) fun location hmem => ?_
    · exact Text.replaceAll_of_not_infix fun h => hwords words hmem (h.subset hslash)
    · rw [hlocations location hmem]
      exact Text.replaceAll_of_length_lt hshort
  have hpath : Text.replaceAll e.ownPath e.shown e.details = (e.telling.relocate e.shown).text := by
    rw [← e.text_telling]
    exact Telling.replaceAll_text_of_not_mem (by unfold IsMark; decide) e.marked_telling hwords
      hlocations
  have hagain := he.not_ownPath_infix_relocated hroot hbelow hcause
  rw [message_eq, scrubbed_eq, haddress, hpath, Text.replaceAll_of_not_infix hagain]
  congr 1
  obtain ⟨place, shown, _⟩ := e
  obtain rfl := hcause
  cases cause <;>
    simp [telling, Telling.relocate, unreadableWords, Telling.text, Facet.marked]

theorem Located.shows_message_iff (he : e.Located root below)
    (hmarks : ∀ name ∈ root ++ below, ∀ c ∈ name, ¬ IsMark c) :
    Shows root e.message ↔ (∃ words ∈ e.toldWords, Shows root words) ∨
      ∃ location ∈ e.telling.locations, Shows root (e.scrubbed location) := by
  have hroot : ∀ name ∈ root, ∀ c ∈ name, ¬ IsMark c := fun name hname =>
    hmarks name (List.mem_append_left below hname)
  refine e.shows_message_iff hroot ?_
  rw [he.place]
  exact hmarks

/-! ### Words that show nothing -/

variable (e) in
/-- What a failure is told with besides marked texts and the library's words. -/
def bare : List Text :=
  match e.cause with
  | .unreadable _ => []
  | .malformed finding => (FilePath.ofParts e.place).name :: finding.problem.taken
  | .invalid fault => fault.bare

variable (e root below) in
/-- A failure that is told without a slash besides the shown path and what stands between marks, of
a place whose names have no mark, and no colon as there is behind the shown path. -/
structure Separated : Prop where
  names : ∀ name ∈ root ++ below, ∀ c ∈ name, ¬ IsMark c ∧ c ≠ ':'
  shown : ¬ Shows root e.shown
  bare : ∀ text ∈ e.bare, SlashFree text

theorem sparse_telling (hbare : ∀ text ∈ e.bare, SlashFree text) : e.telling.Sparse 1 := by
  obtain ⟨place, shown, cause⟩ := e
  cases cause with
  | unreadable cause => exact fun words hmem =>
      SlashFree.count_le (not_mem_words_of_unreadable rfl words hmem) 1
  | invalid fault => exact SchemaFault.sparse_telling hbare
  | malformed finding =>
      have hname : SlashFree (FilePath.ofParts place).name := hbare _ List.mem_cons_self
      have hmessage : SlashFree finding.problem.message :=
        Xml.Problem.slashFree_message fun text hmem => hbare text (List.mem_cons_of_mem _ hmem)
      have hline := SlashFree.ofNat finding.line
      have hplace : SlashFree (finding.problem.message ++ (", line " : Text) ++
          Text.ofNat finding.line ++ (", column " : Text) ++ Text.ofNat finding.column) :=
        (((hmessage.append (.words (by decide))).append hline).append (.words (by decide))).append
          (.ofNat finding.column)
      have hdetails : SlashFree (finding.problem.message ++ (", line " : Text) ++
          Text.ofNat finding.line ++ (", column " : Text) ++ Text.ofNat finding.column ++
            (" (" : Text) ++ (FilePath.ofParts place).name ++ (", line " : Text) ++
              Text.ofNat finding.line ++ (")" : Text)) :=
        ((((hplace.append (.words (by decide))).append hname).append (.words (by decide))).append
          hline).append (.words (by decide))
      exact sparse_plain_of_slashFree hdetails 1

theorem Located.scrubbed_of_count (he : e.Located root below) (hroot : root ≠ [])
    (hbelow : below ≠ []) {words : Text} (hfew : words.count '/' ≤ 1) :
    e.scrubbed words = words := by
  have hnone : ¬ Shows root words := not_shows_of_count hfew
  have hwithin := mt (shows_of_within hroot hbelow) hnone
  rw [← he.place] at hwithin
  exact scrubbed_of_not_infix (fun h => hwithin (.inr h)) fun h => hwithin (.inl h)

/-- Behind the colon after the shown path nothing has enough slashes. -/
theorem not_shows_heading_append (hroot : ∀ name ∈ root, ':' ∉ name) (hshown : ¬ Shows root e.shown)
    {opening : Text} (hfew : opening.count '/' ≤ 1) : ¬ Shows root (e.heading ++ opening) := by
  have hkind : SlashFree e.kind := by
    unfold kind
    split
    · exact .nil
    · exact .words (by decide)
    · exact .words (by decide)
  have htail : (e.kind ++ opening).count '/' ≤ 1 := by
    have hzero := hkind.count_le 0
    rw [List.count_append]
    omega
  have htext : e.heading ++ opening =
      ("Cannot load schema " : Text) ++ e.shown ++ ':' :: ' ' :: (e.kind ++ opening) := by
    change ("Cannot load schema " : Text) ++ e.shown ++ (": " : Text) ++ e.kind ++ opening = _
    simp
  rw [htext]
  rintro (hpath | haddress)
  · have hcolon : ':' ∉ (FilePath.ofParts root).toText ++ ['/'] := by
      intro hmem
      rcases List.mem_append.mp hmem with hmem | hmem
      · rcases FilePath.mem_toText hmem with hslash | ⟨name, hname, hwithin⟩
        · exact absurd hslash (by decide)
        · exact hroot name hname hwithin
      · exact absurd hmem (by decide)
    rcases (Text.infix_append_cons_iff hcolon _ _).mp hpath with hfront | hback
    · exact hshown (.inl (Text.infix_of_append_infix (by decide) hfront))
    · have hblank : (' ' :: (e.kind ++ opening)).count '/' ≤ 1 :=
        (List.count_cons_of_ne (by decide)).trans_le htail
      exact not_shows_of_count hblank (.inl hback)
  · have hblank : ' ' ∉ (FilePath.ofParts root).toAddress ++ ['/'] := by
      intro hmem
      rcases List.mem_append.mp hmem with hmem | hmem
      · exact FilePath.not_isCoded_of_mem_toAddress hmem (.inr rfl)
      · exact absurd hmem (by decide)
    have hcut : (FilePath.ofParts root).toAddress ++ ['/'] <:+:
        (("Cannot load schema " : Text) ++ e.shown ++ [':']) ++ ' ' :: (e.kind ++ opening) := by
      rwa [List.append_assoc _ [':']]
    rcases (Text.infix_append_cons_iff hblank _ _).mp hcut with hfront | hback
    · have hafter : '/' ∉ ([':'] : Text) := by decide
      have hbefore := Text.infix_of_infix_append hafter hfront
      exact hshown (.inr (Text.infix_of_append_infix (by decide) hbefore))
    · exact not_shows_of_count htail (.inr hback)

/-- The words of such a failure show nothing. -/
theorem Located.not_shows_toldWords (he : e.Located root below) (hroot : root ≠ [])
    (hbelow : below ≠ []) (hseparated : e.Separated root below) {words : Text}
    (hmem : words ∈ e.toldWords) : ¬ Shows root words := by
  have hsparse := sparse_telling hseparated.bare
  rcases List.mem_cons.mp hmem with rfl | hmem
  · have hopening := hsparse e.telling.opening List.mem_cons_self
    rw [he.scrubbed_of_count hroot hbelow hopening]
    refine not_shows_heading_append (fun name hname hcolon => ?_) hseparated.shown hopening
    exact (hseparated.names name (List.mem_append_left below hname) ':' hcolon).2 rfl
  · obtain ⟨quote, hquote, rfl⟩ := List.mem_map.mp hmem
    have hfew := hsparse quote.words (List.mem_cons_of_mem _ (List.mem_map_of_mem hquote))
    rw [he.scrubbed_of_count hroot hbelow hfew]
    exact not_shows_of_count hfew

/-! ### What is told -/

variable (e) in
/-- A text without the path and the address of anything below a root. -/
def Hides (root : List Text) : Prop :=
  ∀ other : List Text, other ≠ [] →
    ¬ ((FilePath.ofParts (root ++ other)).toText <:+: e.message ∨
      (FilePath.ofParts (root ++ other)).toAddress <:+: e.message)

theorem hides_of_not_shows (hroot : root ≠ []) (hnone : ¬ Shows root e.message) : e.Hides root :=
  fun _ hother hwithin => hnone (shows_of_within hroot hother hwithin)

/-- What the text of a failure says of places below a project root. A file that cannot be read is
told of without any location in full, and so is one that is not well-formed, if what is taken over
from it has no slash. Of a schema that is not valid one is told in full exactly where a name, a
value or a location between marks shows one; the schema's own ones never do. -/
structure ToldFrom (e : SchemaLoadError) (root below : List Text) : Prop where
  located : e.Located root below
  heading : e.message = ("Cannot load schema " : Text) ++ Text.join ['/'] below ++ ": " ++ e.kind ++
    e.scrubbed e.details
  own : e.scrubbed e.ownPath = e.shown ∧ e.scrubbed e.ownAddress = e.shown
  other : ∀ location, ¬ e.ownAddress <:+: location → ¬ e.ownPath <:+: location →
    e.scrubbed location = location
  unreadable : ∀ cause, e.cause = .unreadable cause → e.message = e.heading ++
    (("Error reading file " : Text) ++ Facet.marked e.shown ++ ": " ++
      unreadableWords e.shown cause)
  shows : (∀ name ∈ root ++ below, ∀ c ∈ name, ¬ IsMark c) →
    (Shows root e.message ↔ (∃ words ∈ e.toldWords, Shows root words) ∨
      ∃ location ∈ e.telling.locations, Shows root (e.scrubbed location))
  separated : e.Separated root below →
    (Shows root e.message ↔ ∃ location ∈ e.telling.locations, Shows root (e.scrubbed location))
  valid : e.Separated root below → (∀ fault, e.cause ≠ .invalid fault) → e.Hides root
  invalid : e.Separated root below →
    (∀ location ∈ e.telling.locations, ¬ Shows root (e.scrubbed location)) → e.Hides root

theorem Located.separated_iff (he : e.Located root below) (hroot : root ≠ []) (hbelow : below ≠ [])
    (hseparated : e.Separated root below) :
    Shows root e.message ↔
      ∃ location ∈ e.telling.locations, Shows root (e.scrubbed location) := by
  have hmarks : ∀ name ∈ root ++ below, ∀ c ∈ name, ¬ IsMark c := fun name hname c hc =>
    (hseparated.names name hname c hc).1
  rw [he.shows_message_iff hmarks]
  exact or_iff_right fun ⟨_, hmem, hshows⟩ =>
    he.not_shows_toldWords hroot hbelow hseparated hmem hshows

theorem toldFrom_of_located (he : e.Located root below) (hroot : root ≠ []) (hbelow : below ≠ []) :
    e.ToldFrom root below where
  located := he
  heading := by rw [← he.shown]; rfl
  own := ⟨he.scrubbed_ownPath hroot hbelow, he.scrubbed_ownAddress hroot hbelow⟩
  other _ haddress hpath := scrubbed_of_not_infix haddress hpath
  unreadable _ hcause := he.message_of_unreadable hroot hbelow hcause
  shows hmarks := he.shows_message_iff hmarks
  separated hseparated := he.separated_iff hroot hbelow hseparated
  valid hseparated hvalid := by
    refine hides_of_not_shows hroot fun hshows => ?_
    obtain ⟨location, hmem, hlocation⟩ := (he.separated_iff hroot hbelow hseparated).mp hshows
    rw [eq_ownPath_of_mem_locations hvalid hmem, he.scrubbed_ownPath hroot hbelow] at hlocation
    exact hseparated.shown hlocation
  invalid hseparated hlocations := by
    refine hides_of_not_shows hroot fun hshows => ?_
    obtain ⟨location, hmem, hlocation⟩ := (he.separated_iff hroot hbelow hseparated).mp hshows
    exact hlocations location hmem hlocation

end SchemaLoadError

end Schema

namespace SchemaStore

open Schema

variable {resolver : Resolver} {tree : FileTree} {store : SchemaStore} {here below : List Text}
  {path : FilePath} {e : SchemaLoadError}

theorem load_of_canonical {place : List Text} (hcanonical : tree.canonical here path = .ok place)
    (store : SchemaStore) (resolver : Option Resolver) :
    (store.load resolver tree here path).1 =
      (store.loadPlace resolver tree here place).1.mapError .schema := by
  simp only [load, hcanonical]

theorem located_of_load
    (hcanonical : tree.canonical here path = .ok (resolver.root ++ below)) (hbelow : below ≠ [])
    (hload : (store.load (some resolver) tree here path).1 = .error (.schema e)) :
    e.Located resolver.root below := by
  have hshown : resolver.shownPlace (resolver.root ++ below) = Text.join ['/'] below := by
    rw [Resolver.shownPlace, FilePath.below?, Text.after?_append]
    change (if below.isEmpty then ['.'] else Text.join ['/'] below) = _
    rw [if_neg (mt List.isEmpty_iff.mp hbelow)]
  simp only [load, hcanonical, loadPlace] at hload
  split at hload
  · cases hload
  · split at hload
    · cases hload
    · cases hload
      exact ⟨rfl, hshown⟩

/-- A failure to load a schema below the root of the resolver is told with the schema's path from
there. A place below the root can be told in full only of a schema that is not valid, as a text
between marks, unless what the failure takes over without marks has a slash in it. -/
theorem toldFrom_of_load (hroot : resolver.root ≠ []) (hbelow : below ≠ [])
    (hcanonical : tree.canonical here path = .ok (resolver.root ++ below))
    (hload : (store.load (some resolver) tree here path).1 = .error (.schema e)) :
    e.ToldFrom resolver.root below :=
  SchemaLoadError.toldFrom_of_located (located_of_load hcanonical hbelow hload) hroot hbelow

def bareResolver : Resolver := ⟨["r"], [], []⟩

/-- A schema file that breaks off, and one that is included under another target namespace. -/
def brokenSchemas : FileTree :=
  let opening (space : Text) : Text := ("<xs:schema targetNamespace='" : Text) ++ space ++
    "' xmlns:xs='http://www.w3.org/2001/XMLSchema'>"
  ⟨[(["r"], .directory), (["r", "cut.xsd"], .file (Utf8.encode ("<a" : Text))),
    (["r", "y.xsd"], .file (Utf8.encode
      (opening "v" ++ "<xs:include schemaLocation='x.xsd'/></xs:schema>"))),
    (["r", "x.xsd"], .file (Utf8.encode
      (opening "u" ++ "<xs:import namespace='v' schemaLocation='y.xsd'/></xs:schema>")))]⟩

def failureOf? : Except SchemaLoadError XmlCheck.Schema → Option SchemaLoadError
  | .error e => some e
  | .ok _ => none

theorem load_of_failureOf? {place : List Text}
    (hcanonical : brokenSchemas.canonical [] (.ofParts place) = .ok place)
    (hfailure : failureOf? (loadPlace {} (some bareResolver) brokenSchemas [] place).1 = some e) :
    (load {} (some bareResolver) brokenSchemas [] (.ofParts place)).1 = .error (.schema e) := by
  rw [load_of_canonical hcanonical]
  generalize (loadPlace {} (some bareResolver) brokenSchemas [] place).1 = result at hfailure ⊢
  cases result with
  | ok schema => cases hfailure
  | error failure =>
      obtain rfl := Option.some.inj hfailure
      rfl

theorem toldFrom_of_brokenSchemas :
    let missing : SchemaLoadError :=
      ⟨["r", "no.xsd"], "no.xsd", .unreadable (.notFound (.ofParts ["r", "no.xsd"]))⟩
    let cut : SchemaLoadError :=
      ⟨["r", "cut.xsd"], "cut.xsd", .malformed ⟨.startTagOpen "a" 1, 1, 3⟩⟩
    let differs : SchemaLoadError := ⟨["r", "x.xsd"], "x.xsd", .invalid
      ⟨.node ⟨some schemaSpace, "include"⟩, .spaceDiffers "u" "/r/x.xsd" "v", some 1⟩⟩
    missing.ToldFrom ["r"] ["no.xsd"] ∧ missing.message =
        ("Cannot load schema no.xsd: Error reading file 'no.xsd': " : Text) ++
          ("failed to load \"no.xsd\": No such file or directory" : Text) ∧
      cut.ToldFrom ["r"] ["cut.xsd"] ∧ cut.Hides ["r"] ∧
      differs.ToldFrom ["r"] ["x.xsd"] ∧ differs.Hides ["r"] ∧ differs.message =
        ("Cannot load schema x.xsd: invalid schema: " : Text) ++
          ("Element '\x7bhttp://www.w3.org/2001/XMLSchema\x7dinclude': " : Text) ++
          ("The target namespace 'u' of the included/redefined schema 'x.xsd' " : Text) ++
          ("differs from 'v' of the including/redefining schema., line 1" : Text) := by
  intro missing cut differs
  have hmissing : missing.ToldFrom ["r"] ["no.xsd"] := by
    have hload : (load {} (some bareResolver) brokenSchemas [] (.ofParts ["r", "no.xsd"])).1 =
        .error (.schema missing) := load_of_failureOf? rfl (by decide +kernel)
    exact toldFrom_of_load (by decide) (by decide) rfl hload
  have hcut : cut.ToldFrom ["r"] ["cut.xsd"] := by
    have hload : (load {} (some bareResolver) brokenSchemas [] (.ofParts ["r", "cut.xsd"])).1 =
        .error (.schema cut) := load_of_failureOf? rfl (by decide +kernel)
    exact toldFrom_of_load (by decide) (by decide) rfl hload
  have hdiffers : differs.ToldFrom ["r"] ["x.xsd"] := by
    have hload : (load {} (some bareResolver) brokenSchemas [] (.ofParts ["r", "x.xsd"])).1 =
        .error (.schema differs) := load_of_failureOf? rfl (by decide +kernel)
    exact toldFrom_of_load (by decide) (by decide) rfl hload
  have hcutSeparated : cut.Separated ["r"] ["cut.xsd"] :=
    ⟨by simp [FilePath.IsMark], by unfold Shows; decide +kernel,
      by unfold SlashFree; decide +kernel⟩
  have hdiffersSeparated : differs.Separated ["r"] ["x.xsd"] :=
    ⟨by simp [FilePath.IsMark], by unfold Shows; decide +kernel,
      by unfold SlashFree; decide +kernel⟩
  have hlocations : ∀ location ∈ differs.telling.locations,
      ¬ Shows ["r"] (differs.scrubbed location) := by
    unfold Shows
    decide +kernel
  exact ⟨hmissing, by decide +kernel, hcut, hcut.valid hcutSeparated (fun _ h => by cases h),
    hdiffers, hdiffers.invalid hdiffersSeparated hlocations, by decide +kernel⟩

def brokenInclude : FileTree :=
  ⟨[(["r"], .directory), (["r", "lib"], .directory),
    (["r", "lib", "x.xsd"], .file (Utf8.encode
      (("<xs:schema xmlns:xs=\"http://www.w3.org/2001/XMLSchema\">" : Text) ++
        "<xs:include schemaLocation=\"missing.xsd\"/></xs:schema>")))]⟩

def messageOf : Except SchemaLoadError XmlCheck.Schema → Text
  | .error e => e.message
  | .ok _ => []

/-- The failure of a schema that includes a missing one tells the full path of the missing one. -/
theorem not_forall_load_hides_root :
    ¬ ∀ (resolver : Resolver) (tree : FileTree) (store : SchemaStore) (here below : List Text)
        (path : FilePath) (e : SchemaLoadError), resolver.root ≠ [] → below ≠ [] →
      tree.canonical here path = .ok (resolver.root ++ below) →
      (store.load (some resolver) tree here path).1 = .error (.schema e) →
      ∀ other : List Text, other ≠ [] →
        ¬ ((FilePath.ofParts (resolver.root ++ other)).toText <:+: e.message ∨
          (FilePath.ofParts (resolver.root ++ other)).toAddress <:+: e.message) := by
  let place : List Text := ["r", "lib", "x.xsd"]
  have hmessage : messageOf (loadPlace {} (some bareResolver) brokenInclude [] place).1 =
      ("Cannot load schema lib/x.xsd: invalid schema: " : Text) ++
        ("Element '\x7bhttp://www.w3.org/2001/XMLSchema\x7dinclude': " : Text) ++
        ("Failed to load the document '/r/lib/missing.xsd' for inclusion., line 1" : Text) := by
    decide +kernel
  have hfound : ("/r/lib/missing.xsd" : Text) <:+:
      messageOf (loadPlace {} (some bareResolver) brokenInclude [] place).1 := by
    rw [hmessage]
    decide +kernel
  intro hhides
  cases hload : (loadPlace {} (some bareResolver) brokenInclude [] place).1 with
  | ok schema =>
      rw [hload] at hfound
      cases List.infix_nil.mp hfound
  | error e =>
      have hcanonical : brokenInclude.canonical [] (.ofParts place) = .ok place := rfl
      have herror : (load {} (some bareResolver) brokenInclude [] (.ofParts place)).1 =
          .error (.schema e) := by
        rw [load_of_canonical hcanonical, hload]
        rfl
      rw [hload] at hfound
      exact hhides bareResolver brokenInclude {} [] ["lib", "x.xsd"] _ e (by decide) (by decide)
        hcanonical herror ["lib", "missing.xsd"] (by decide) (.inl hfound)

end SchemaStore

end XmlCheck
