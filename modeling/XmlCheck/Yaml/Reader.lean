import XmlCheck.Yaml.Value

/-!
Libraries that read settings texts. What is done with the data of a settings file does not depend on
how its text is read, only on the data being plain: escapes for halves of surrogate pairs, which no
name can have, are not in order.
-/

namespace XmlCheck.Yaml

structure Reader where
  read : Text → Except YamlError Datum
  plain : ∀ text datum, read text = .ok datum → datum.isPlain = true

/-! ### The reader of this library -/

theorem arePlain_iff (items : List Datum) :
    Datum.arePlain items = true ↔ ∀ item ∈ items, item.isPlain = true := by
  induction items with
  | nil => simp [Datum.arePlain]
  | cons item items ih => simp [Datum.arePlain, ih]

def EntriesPlain (entries : List (Datum × Datum)) : Prop :=
  ∀ entry ∈ entries, entry.1.isPlain = true ∧ entry.2.isPlain = true

theorem entriesPlain_nil : EntriesPlain [] :=
  List.forall_mem_nil _

theorem entriesPlain_iff (entries : List (Datum × Datum)) :
    Datum.entriesPlain entries = true ↔ EntriesPlain entries := by
  induction entries with
  | nil => simp [Datum.entriesPlain, EntriesPlain]
  | cons entry entries ih =>
      obtain ⟨key, value⟩ := entry
      simp [Datum.entriesPlain, EntriesPlain, ih, and_assoc]

theorem isPlain_list_iff (items : List Datum) :
    (Datum.list items).isPlain = true ↔ ∀ item ∈ items, item.isPlain = true := by
  rw [Datum.isPlain, arePlain_iff]

theorem isPlain_mapping_iff (entries : List (Datum × Datum)) :
    (Datum.mapping entries).isPlain = true ↔ EntriesPlain entries := by
  rw [Datum.isPlain, entriesPlain_iff]

theorem bind_eq_ok {ε α β : Type} {first : Except ε α} {next : α → Except ε β} {b : β} :
    (first >>= next) = .ok b ↔ ∃ a, first = .ok a ∧ next a = .ok b := by
  cases first <;> simp [bind, Except.bind]

theorem map_eq_ok {ε α β : Type} {f : α → β} {result : Except ε α} {b : β} :
    result.map f = .ok b ↔ ∃ a, result = .ok a ∧ f a = b := by
  cases result <;> simp [Except.map]

theorem mapError_eq_ok {ε δ α : Type} {f : ε → δ} {result : Except ε α} {a : α} :
    result.mapError f = .ok a ↔ result = .ok a := by
  cases result with
  | ok b => constructor <;> intro h <;> cases h <;> rfl
  | error fault => constructor <;> intro h <;> cases h

theorem isPlain_of_integer {text : Text} {datum : Datum} (h : Number.integer text = .ok datum) :
    datum.isPlain = true := by
  unfold Number.integer at h
  split at h <;> first
    | cases h
    | obtain ⟨n, -, rfl⟩ := map_eq_ok.mp h; rfl

theorem isPlain_scaled (isNegative : Bool) (digits : Nat) (exponent : Int) :
    (Number.scaled isNegative digits exponent).isPlain = true := by
  unfold Number.scaled
  dsimp only
  split
  · rfl
  · split <;> rfl

theorem isPlain_of_unsignedDecimal? {isNegative : Bool} {text : Text} {datum : Datum}
    (h : Number.unsignedDecimal? isNegative text = some datum) : datum.isPlain = true := by
  obtain ⟨exponent, -, hvalue⟩ := Option.bind_eq_some_iff.mp h
  simp only [Option.ite_none_left_eq_some, Option.some.injEq] at hvalue
  rw [← hvalue.2]
  exact isPlain_scaled _ _ _

theorem isPlain_of_signedDecimal? {isNegative : Bool} {text : Text} {datum : Datum}
    (h : Number.signedDecimal? isNegative text = some datum) : datum.isPlain = true := by
  unfold Number.signedDecimal? at h
  dsimp only at h
  split at h
  · cases h
    rfl
  · split at h
    · cases h
      rfl
    · exact isPlain_of_unsignedDecimal? h

theorem isPlain_of_decimal {text : Text} {datum : Datum} (h : Number.decimal text = .ok datum) :
    datum.isPlain = true := by
  unfold Number.decimal at h
  dsimp only at h
  split at h
  · cases h
  · split at h
    · cases h
      rfl
    · split at h
      · cases h
        rfl
      · split at h
        · rename_i found hfound
          cases h
          exact isPlain_of_signedDecimal? hfound
        · cases h

theorem isPlain_of_scalarDatum {tag : Tag} {text : Text} {datum : Datum}
    (h : scalarDatum tag text = .ok datum) : datum.isPlain = true := by
  cases tag with
  | null | text =>
      cases h
      rfl
  | flag =>
      have hflag := mapError_eq_ok.mp h
      unfold Number.flag at hflag
      split at hflag <;> cases hflag
      rfl
  | integer => exact isPlain_of_integer (mapError_eq_ok.mp h)
  | decimal => exact isPlain_of_decimal (mapError_eq_ok.mp h)
  | moment =>
      simp only [scalarDatum] at h
      split at h
      · have hmoment := mapError_eq_ok.mp h
        unfold Number.moment at hmoment
        split at hmoment <;> cases hmoment
        rfl
      · cases h
  | octets =>
      simp only [scalarDatum, octetsDatum] at h
      split at h <;> cases h
      rfl
  | sequence | mapping | orderedMapping | pairs | set | merge | value | other name => cases h

theorem entriesPlain_of_putEntry {isJoined : Bool} {key value : Datum}
    {entries more : List (Datum × Datum)} (hentries : EntriesPlain entries)
    (hkey : key.isPlain = true) (hvalue : value.isPlain = true)
    (h : putEntry isJoined key value entries = .ok more) : EntriesPlain more := by
  unfold putEntry at h
  split at h
  · split at h
    · cases h
      intro entry hentry
      obtain ⟨old, hold, rfl⟩ := List.mem_map.mp hentry
      split
      · exact ⟨(hentries old hold).1, hvalue⟩
      · exact hentries old hold
    · cases h
  · cases h
    intro entry hentry
    rcases List.mem_append.mp hentry with hentry | hentry
    · exact hentries entry hentry
    · rw [List.mem_singleton.mp hentry]
      exact ⟨hkey, hvalue⟩

theorem eq_of_asKey {key other : Datum} (h : asKey key = .ok other) : other = key := by
  unfold asKey at h
  split at h
  · cases h
  · split at h <;> cases h
    rfl
  · cases h
    rfl

theorem entriesPlain_of_putAll {isJoined : Bool} {entries more all : List (Datum × Datum)}
    (hentries : EntriesPlain entries) (hmore : EntriesPlain more)
    (h : putAll isJoined entries more = .ok all) : EntriesPlain all := by
  induction more generalizing entries with
  | nil =>
      cases h
      exact hentries
  | cons entry more ih =>
      obtain ⟨hentry, hmore⟩ := List.forall_mem_cons.mp hmore
      obtain ⟨key, hkey, hput⟩ := bind_eq_ok.mp h
      obtain ⟨put, hput, hrest⟩ := bind_eq_ok.mp hput
      rw [eq_of_asKey hkey] at hput
      exact ih (entriesPlain_of_putEntry hentries hentry.1 hentry.2 hput) hmore hrest

theorem entriesPlain_of_pairsOf {values : List Datum} {pairs : List (Datum × Datum)}
    (hvalues : ∀ value ∈ values, value.isPlain = true) (h : pairsOf values = .ok pairs) :
    EntriesPlain pairs := by
  induction values generalizing pairs with
  | nil =>
      cases h
      exact entriesPlain_nil
  | cons value values ih =>
      obtain ⟨hvalue, hrest⟩ := List.forall_mem_cons.mp hvalues
      unfold pairsOf at h
      split at h
      · cases ‹value :: values = []›
      · rename_i entry rest heq
        cases heq
        obtain ⟨more, hmore, rfl⟩ := map_eq_ok.mp h
        have hentry := (isPlain_mapping_iff _).mp hvalue entry List.mem_cons_self
        exact List.forall_mem_cons.mpr ⟨hentry, ih hrest hmore⟩
      · cases h

theorem isPlain_of_sequenceDatum {tag : Tag} {values : List Datum} {datum : Datum}
    (hvalues : ∀ value ∈ values, value.isPlain = true)
    (h : sequenceDatum tag values = .ok datum) : datum.isPlain = true := by
  unfold sequenceDatum at h
  split at h
  · cases h
    exact (isPlain_list_iff values).mpr hvalues
  · obtain ⟨pairs, hpairs, rfl⟩ := map_eq_ok.mp h
    have hplain := entriesPlain_of_pairsOf hvalues hpairs
    refine (isPlain_list_iff _).mpr fun item hitem => ?_
    obtain ⟨pair, hpair, rfl⟩ := List.mem_map.mp hitem
    refine (isPlain_list_iff _).mpr ?_
    simpa using hplain pair hpair
  · obtain ⟨pairs, hpairs, hput⟩ := bind_eq_ok.mp h
    obtain ⟨entries, hentries, hdatum⟩ := bind_eq_ok.mp hput
    cases hdatum
    exact (isPlain_mapping_iff _).mpr
      (entriesPlain_of_putAll entriesPlain_nil (entriesPlain_of_pairsOf hvalues hpairs) hentries)
  · cases h
  · cases h

theorem isPlain_of_mappingDatum {tag : Tag} {entries : List (Datum × Datum)} {datum : Datum}
    (hentries : EntriesPlain entries) (h : mappingDatum tag entries = .ok datum) :
    datum.isPlain = true := by
  unfold mappingDatum at h
  split at h
  · cases h
    exact (isPlain_mapping_iff entries).mpr hentries
  · cases h
    refine (isPlain_list_iff _).mpr fun item hitem => ?_
    obtain ⟨entry, hentry, rfl⟩ := List.mem_map.mp hitem
    exact (hentries entry hentry).1
  · cases h
  · cases h

mutual

theorem isPlain_of_datumOf : ∀ {node : Node} {datum : Datum}, datumOf node = .ok datum →
    datum.isPlain = true
  | .scalar _ _, _, h => isPlain_of_scalarDatum h
  | .sequence _ _, _, h => by
    obtain ⟨values, hvalues, hdatum⟩ := bind_eq_ok.mp h
    exact isPlain_of_sequenceDatum (arePlain_of_dataOf hvalues) hdatum
  | .mapping _ _ _, _, h => by
    obtain ⟨entries, hentries, hput⟩ := bind_eq_ok.mp h
    obtain ⟨all, hall, hdatum⟩ := bind_eq_ok.mp hput
    exact isPlain_of_mappingDatum
      (entriesPlain_of_putAll entriesPlain_nil (entriesPlain_of_entriesOf hentries) hall) hdatum
  | .enclosing, _, h => by
    cases h
    rfl

theorem arePlain_of_dataOf : ∀ {nodes : List Node} {data : List Datum}, dataOf nodes = .ok data →
    ∀ datum ∈ data, datum.isPlain = true
  | [], _, h => by
    cases h
    exact List.forall_mem_nil _
  | _ :: _, _, h => by
    obtain ⟨first, hfirst, hrest⟩ := bind_eq_ok.mp h
    obtain ⟨more, hmore, hdata⟩ := bind_eq_ok.mp hrest
    cases hdata
    exact List.forall_mem_cons.mpr ⟨isPlain_of_datumOf hfirst, arePlain_of_dataOf hmore⟩

theorem entriesPlain_of_entriesOf : ∀ {nodes : List (Node × Node)}
    {entries : List (Datum × Datum)}, entriesOf nodes = .ok entries → EntriesPlain entries
  | [], _, h => by
    cases h
    exact entriesPlain_nil
  | (_, _) :: _, _, h => by
    obtain ⟨key, hkey, hvalues⟩ := bind_eq_ok.mp h
    obtain ⟨value, hvalue, hrest⟩ := bind_eq_ok.mp hvalues
    obtain ⟨more, hmore, hentries⟩ := bind_eq_ok.mp hrest
    cases hentries
    exact List.forall_mem_cons.mpr
      ⟨⟨isPlain_of_datumOf hkey, isPlain_of_datumOf hvalue⟩, entriesPlain_of_entriesOf hmore⟩

end

theorem isPlain_of_read {text : Text} {datum : Datum} (h : read text = .ok datum) :
    datum.isPlain = true := by
  obtain ⟨node?, -, hnode⟩ := bind_eq_ok.mp h
  cases node? with
  | none =>
      cases hnode
      rfl
  | some node =>
      obtain ⟨joined, -, hdatum⟩ := bind_eq_ok.mp hnode
      exact isPlain_of_datumOf hdatum

def Reader.usual : Reader where
  read := Yaml.read
  plain _ _ := isPlain_of_read

end XmlCheck.Yaml
