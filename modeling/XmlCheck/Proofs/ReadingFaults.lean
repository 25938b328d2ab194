import XmlCheck.Settings

/-!
# What a failed reading tells

A reading that fails has at least one fault to tell of, and each of its faults was found by one of
the readings that it is put together from. So what the faults of the parts have in common, every
fault of the whole has too. For settings this gives the complete list of what can be wrong with the
values of the options.
-/

namespace XmlCheck

namespace Reading

variable {α β γ : Type}

/-- If the reading fails, it tells of faults, and all of them have a property. -/
def Tells (property : Fault → Prop) (reading : Reading α) : Prop :=
  ∀ faults, reading = .error faults → faults ≠ [] ∧ ∀ fault ∈ faults, property fault

section Tells

variable {property other : Fault → Prop}

theorem tells_ok (value : α) : Tells property (.ok value) :=
  fun _ heq => nomatch heq

theorem tells_fault {kind : FaultKind} (hproperty : property ⟨[], kind⟩) :
    Tells property (fault kind : Reading α) := by
  intro faults heq
  cases heq
  exact ⟨List.cons_ne_nil _ _, List.forall_mem_singleton.mpr hproperty⟩

theorem Tells.mono {reading : Reading α} (htells : Tells property reading)
    (himp : ∀ fault, property fault → other fault) : Tells other reading :=
  fun faults heq => ⟨(htells faults heq).1, fun fault hmem =>
    himp fault ((htells faults heq).2 fault hmem)⟩

theorem Tells.under {reading : Reading α} (htells : Tells property reading) (key : Text)
    (hbelow : ∀ fault, property fault → other { fault with place := key :: fault.place }) :
    Tells other (under key reading) := by
  cases reading with
  | ok value => exact tells_ok value
  | error faults =>
      obtain ⟨hne, hall⟩ := htells faults rfl
      intro moved heq
      cases heq
      refine ⟨fun hnil => hne (List.map_eq_nil_iff.mp hnil), List.forall_mem_map.mpr ?_⟩
      exact fun fault hmem => hbelow fault (hall fault hmem)

theorem Tells.combine {first : Reading α} {second : Reading β} (hfirst : Tells property first)
    (hsecond : Tells property second) (f : α → β → γ) :
    Tells property (combine f first second) := by
  intro faults heq
  cases first with
  | ok a =>
      cases second with
      | ok b => cases heq
      | error more =>
          cases heq
          exact hsecond _ rfl
  | error found =>
      cases second with
      | ok b =>
          cases heq
          exact hfirst _ rfl
      | error more =>
          cases heq
          obtain ⟨hne, hall⟩ := hfirst found rfl
          refine ⟨fun hnil => hne (List.append_eq_nil_iff.mp hnil).1, ?_⟩
          exact List.forall_mem_append.mpr ⟨hall, (hsecond more rfl).2⟩

theorem Tells.eachFrom {read : Datum → Reading α} (htells : ∀ item, Tells property (read item))
    (hbelow : ∀ index fault, property fault →
      other { fault with place := Text.ofNat index :: fault.place })
    (index : Nat) (items : List Datum) : Tells other (eachFrom read index items) := by
  induction items generalizing index with
  | nil => exact tells_ok []
  | cons item rest ih =>
      exact ((htells item).under (Text.ofNat index) (hbelow index)).combine (ih (index + 1)) _

theorem Tells.optional {read : Datum → Reading α} (htells : ∀ datum, Tells property (read datum))
    {name : Text} (hbelow : ∀ fault, property fault →
      other { fault with place := name :: fault.place })
    (absent : α) (entries : List (Datum × Datum)) :
    Tells other (optional name absent read entries) := by
  unfold Reading.optional
  cases Datum.field? name entries with
  | none => exact tells_ok absent
  | some value => exact (htells value).under name hbelow

end Tells

end Reading

/-- What can be wrong with a datum that has to be a text. -/
inductive TextFlaw : FaultKind → Prop
  | notText : TextFlaw .notText
  | notUnicode : TextFlaw .notUnicode

theorem Datum.tells_toText (datum : Datum) :
    Reading.Tells (fun fault => fault.place = [] ∧ TextFlaw fault.kind) datum.toText := by
  cases datum with
  | text value => exact Reading.tells_ok value
  | loose codes => exact Reading.tells_fault ⟨rfl, .notUnicode⟩
  | octets value =>
      unfold Datum.toText
      dsimp only
      cases Utf8.decode value with
      | ok decoded => exact Reading.tells_ok decoded
      | error failure => exact Reading.tells_fault ⟨rfl, .notUnicode⟩
  | _ => exact Reading.tells_fault ⟨rfl, .notText⟩

theorem Datum.tells_toChoice {α : Type} (choice? : Text → Option α) (datum : Datum) :
    Reading.Tells (· = ⟨[], .unknownChoice⟩) (datum.toChoice choice?) := by
  unfold Datum.toChoice
  cases datum.toText with
  | error faults => exact Reading.tells_fault rfl
  | ok value =>
      dsimp only
      cases choice? value with
      | some choice => exact Reading.tells_ok choice
      | none => exact Reading.tells_fault rfl

namespace Settings

/-- What can be wrong with a table: it is no mapping, or a key or a value is no text. -/
inductive TableFault : Fault → Prop
  | table : TableFault ⟨[], .notMapping⟩
  | key (key : Datum) {kind : FaultKind} (flaw : TextFlaw kind) :
      TableFault ⟨[key.keyText, "[key]"], kind⟩
  | value (key : Datum) {kind : FaultKind} (flaw : TextFlaw kind) :
      TableFault ⟨[key.keyText], kind⟩

/-- What can be wrong with the options, each with the place where it is found. -/
inductive OptionFault : Fault → Prop
  | components {fault : Fault} (inTable : TableFault fault) :
      OptionFault { fault with place := componentsField :: fault.place }
  | modules {fault : Fault} (inTable : TableFault fault) :
      OptionFault { fault with place := modulesField :: fault.place }
  | exclusion (index : Nat) {kind : FaultKind} (flaw : TextFlaw kind) :
      OptionFault ⟨[exclusionsField, Text.ofNat index], kind⟩
  | policy : OptionFault ⟨[policyField], .unknownChoice⟩

theorem tells_entry (key value : Datum) : Reading.Tells TableFault (entry key value) := by
  have hkey : Reading.Tells (fun f => TableFault { f with place := key.keyText :: f.place })
      (Reading.under "[key]" key.toText) :=
    key.tells_toText.under _ fun fault hfault => by
      rw [hfault.1]
      exact .key key hfault.2
  have hvalue : Reading.Tells (fun f => TableFault { f with place := key.keyText :: f.place })
      value.toText :=
    value.tells_toText.mono fun fault hfault => by
      rw [hfault.1]
      exact .value key hfault.2
  exact (hkey.combine hvalue Prod.mk).under key.keyText fun _ hfault => hfault

theorem tells_toTable (datum : Datum) : Reading.Tells TableFault (toTable datum) := by
  cases datum with
  | mapping entries =>
      unfold toTable
      dsimp only
      induction entries with
      | nil => exact Reading.tells_ok []
      | cons e entries ih => exact (tells_entry e.1 e.2).combine ih _
  | _ => exact Reading.tells_fault .table

theorem tells_policyOf (around : Surroundings) (options : List (Datum × Datum)) :
    Reading.Tells OptionFault (policyOf around options) := by
  unfold policyOf
  cases policyDatum? around options with
  | none => exact Reading.tells_ok _
  | some datum =>
      exact (datum.tells_toChoice _).under policyField fun _ hfault => hfault ▸ .policy

theorem tells_eachFrom_toText (items : List Datum) :
    Reading.Tells (fun fault => ∃ index kind, TextFlaw kind ∧ fault = ⟨[Text.ofNat index], kind⟩)
      (Reading.eachFrom Datum.toText 0 items) := by
  refine .eachFrom Datum.tells_toText (fun index fault hfault => ?_) 0 items
  exact ⟨index, fault.kind, hfault.2, by rw [hfault.1]⟩

/-- Options that are not accepted have faults to tell of, each of them one that options can have. -/
theorem tells_ofOptions (around : Surroundings) (root : List Text) (exclusions : List Datum)
    (options : List (Datum × Datum)) :
    Reading.Tells OptionFault (ofOptions around root exclusions options) := by
  have hcomponents : Reading.Tells OptionFault
      (Reading.optional componentsField [] toTable options) :=
    .optional tells_toTable (fun _ => .components) [] options
  have hmodules : Reading.Tells OptionFault (Reading.optional modulesField [] toTable options) :=
    .optional tells_toTable (fun _ => .modules) [] options
  have hexclusions : Reading.Tells OptionFault
      (Reading.under exclusionsField (Reading.eachFrom Datum.toText 0 exclusions)) := by
    refine (tells_eachFrom_toText exclusions).under exclusionsField ?_
    rintro _ ⟨index, kind, hflaw, rfl⟩
    exact .exclusion index hflaw
  unfold ofOptions Reading.andField Reading.record
  exact ((((Reading.tells_ok _).combine hcomponents _).combine hmodules _).combine
    hexclusions _).combine (tells_policyOf around options) _

end Settings

end XmlCheck
