/-
# Reachable registries

The registries that a program can come to have are the reachable dictionaries with their indexes
(`reachable_iff`).  Whatever was loaded and merged, in whatever order, their indexes are in step
with their tables, so that they answer what a search through the tables answers.
-/
import Radius.Proofs.Dictionary.Builtin
import Radius.Proofs.Registry.Loading

namespace Radius

open Text

namespace Registry

variable {r r' other : Registry}

/-- The registries that loading and merging can make. -/
inductive Reachable : Registry → Prop
  | empty : Reachable empty
  | builtin : Reachable builtin
  | parse {text : String} {r : Registry} : parse text = .ok r → Reachable r
  | load {text : String} {r r' : Registry} : Reachable r → r.load text = .ok r' → Reachable r'
  | loadFile {read : String → Except FileFailure String} {path : String} {r r' : Registry} :
      Reachable r → r.loadFile read path = .ok r' → Reachable r'
  | merge {r other : Registry} : Reachable r → Reachable other → Reachable (r.merge other)

lemma load_of_loadFile {read : String → Except FileFailure String} {path : String}
    (h : r.loadFile read path = .ok r') :
    ∃ text, read path = .ok text ∧ r.load text = .ok r' := by
  rw [loadFile] at h
  cases hread : read path with
  | error failure => simp [hread] at h
  | ok text =>
      simp only [hread] at h
      exact ⟨text, rfl, Outcome.mapError_eq_ok_iff.1 h⟩

/-! ### The indexes stay in step -/

/-- Files make the same registry as dictionary, or have the same fault. -/
lemma loadAll_cases (hr : r.Coherent) (files : List (String × String)) :
    (∃ e, r.loadAll files = .error e ∧ r.dictionary.loadAll files = .error e) ∨
      ∃ r', r.loadAll files = .ok r' ∧ r'.Coherent ∧
        r.dictionary.loadAll files = .ok r'.dictionary := by
  induction files generalizing r with
  | nil => exact .inr ⟨r, rfl, hr, rfl⟩
  | cons file rest ih =>
      rw [loadAll, Dictionary.loadAll, List.foldlM_cons, List.foldlM_cons]
      rcases load_cases hr file.2 with ⟨e, h, h'⟩ | ⟨t, h, ht, h'⟩
      · simp only [h, h']
        exact .inl ⟨_, rfl, rfl⟩
      · simp only [h, h']
        exact ih ht

/-- The built-in registry loads, and is the built-in dictionary with its indexes. -/
theorem loadBuiltin_eq_ok :
    loadBuiltin = .ok builtin ∧ builtin.Coherent ∧ builtin.dictionary = Dictionary.builtin := by
  rcases loadAll_cases coherent_empty Builtin.files with ⟨e, -, h⟩ | ⟨r, h, hr, h'⟩
  · cases Dictionary.loadBuiltin_eq_ok.1.symm.trans h
  · have hload : loadBuiltin = .ok r := h
    have hbuiltin : builtin = r := by rw [builtin, hload]; rfl
    rw [hbuiltin]
    exact ⟨hload, hr, (Dictionary.builtin_eq_of_loadBuiltin h').symm⟩

lemma coherent_builtin : builtin.Coherent := loadBuiltin_eq_ok.2.1

lemma dictionary_builtin : builtin.dictionary = Dictionary.builtin := loadBuiltin_eq_ok.2.2

theorem Reachable.coherent (h : Reachable r) : r.Coherent := by
  induction h with
  | empty => exact coherent_empty
  | builtin => exact coherent_builtin
  | parse hparse => exact coherent_empty.load hparse
  | load _ hload ih => exact ih.load hload
  | loadFile _ hload ih =>
      obtain ⟨text, -, hload⟩ := load_of_loadFile hload
      exact ih.load hload
  | merge _ _ ih ihother => exact ih.merge ihother

/-! ### Registries and dictionaries -/

lemma dictionary_load_of_load (hr : r.Coherent) {text : String} (h : r.load text = .ok r') :
    r.dictionary.load text = .ok r'.dictionary := by
  rw [← dictionary_load hr, h]
  rfl

lemma Reachable.dictionary (h : Reachable r) : r.dictionary.Reachable := by
  induction h with
  | empty => exact .empty
  | builtin => exact dictionary_builtin ▸ .builtin
  | parse hparse => exact .parse (dictionary_load_of_load coherent_empty hparse)
  | load hr hload ih => exact .load ih (dictionary_load_of_load hr.coherent hload)
  | loadFile hr hload ih =>
      obtain ⟨text, -, hload⟩ := load_of_loadFile hload
      exact .load ih (dictionary_load_of_load hr.coherent hload)
  | merge hr hother ih ihother =>
      rw [dictionary_merge hr.coherent hother.coherent]
      exact .merge ih ihother

lemma exists_load (hr : r.Coherent) {text : String} {d : Dictionary}
    (h : r.dictionary.load text = .ok d) : ∃ r', r.load text = .ok r' ∧ r'.dictionary = d := by
  rcases load_cases hr text with ⟨e, -, he⟩ | ⟨r', hload, -, hok⟩
  · simp [h] at he
  · rw [h] at hok
    exact ⟨r', hload, (Except.ok.inj hok).symm⟩

/-- The reachable dictionaries are the reachable registries without their indexes. -/
theorem reachable_iff {d : Dictionary} : d.Reachable ↔ ∃ r, Reachable r ∧ r.dictionary = d := by
  constructor
  · intro h
    induction h with
    | empty => exact ⟨_, .empty, rfl⟩
    | builtin => exact ⟨_, .builtin, dictionary_builtin⟩
    | parse hparse =>
        obtain ⟨r, hload, hr⟩ := exists_load coherent_empty hparse
        exact ⟨r, .parse hload, hr⟩
    | load _ hload ih =>
        obtain ⟨r, hr, rfl⟩ := ih
        obtain ⟨r', hload', hr'⟩ := exists_load hr.coherent hload
        exact ⟨r', .load hr hload', hr'⟩
    | loadFile _ hload ih =>
        obtain ⟨r, hr, rfl⟩ := ih
        obtain ⟨text, -, hload⟩ := Dictionary.load_of_loadFile hload
        obtain ⟨r', hload', hr'⟩ := exists_load hr.coherent hload
        exact ⟨r', .load hr hload', hr'⟩
    | merge _ _ ih ihother =>
        obtain ⟨r, hr, rfl⟩ := ih
        obtain ⟨other, hother, rfl⟩ := ihother
        exact ⟨_, .merge hr hother, dictionary_merge hr.coherent hother.coherent⟩
  · rintro ⟨r, hr, rfl⟩
    exact hr.dictionary

lemma resolve_dictionary (hr : r.Coherent) (text : String) :
    (r.resolve text).map Table.vendor = r.dictionary.resolve text := by
  rw [resolve, Dictionary.resolve, hr.vendorNamed?_dictionary]
  cases r.vendorNamed? text with
  | some t => rfl
  | none =>
      cases word? text.toList with
      | none => rfl
      | some id =>
          simp only [Option.map_none, Option.bind_some, hr.vendor?_dictionary]
          cases r.vendor? id <;> rfl

end Registry

/-! ### Answers -/

/-- A table that answers what a search through its definitions answers. -/
structure Table.Agrees (t : Table) : Prop where
  attribute?_eq : ∀ name, t.attribute? name =
    t.attributes.toList.find? fun d => sameName d.name name
  attributeOf?_eq : ∀ code, t.attributeOf? code = t.attributes.toList.find? fun d => d.code == code
  names_nodup : (t.attributes.toList.map fun d => fold d.name).Nodup
  codes_nodup : (t.attributes.toList.map (·.code)).Nodup
  /-- No position that the index of names holds is out of range. -/
  byName_lt : ∀ (key : String) (i : Nat), t.byName[key]? = some i → i < t.attributes.size
  /-- No position that the index of codes holds is out of range. -/
  byCode_lt : ∀ (code : UInt8) (i : Nat), t.byCode[code]? = some i → i < t.attributes.size
  code_ne_zero : ∀ d ∈ t.attributes, d.code ≠ 0
  valueNames_nodup : ∀ d ∈ t.attributes, (d.values.map fun v => fold v.name).Nodup
  integer_of_values : ∀ d ∈ t.attributes, d.values ≠ [] → d.kind = .integer

/-- A registry that answers what a search through its tables answers. -/
structure Registry.Agrees (r : Registry) : Prop where
  /-- Every table stands under the number of its vendor. -/
  id_eq : ∀ (id : UInt32) (t : Table), r.vendors[id]? = some t → t.id = id
  vendor?_eq : ∀ id, r.vendor? id = r.tables.find? fun t => t.id == id
  vendorNamed?_eq : ∀ name, r.vendorNamed? name = r.tables.find? fun t => sameName t.name name
  resolve_eq : ∀ text, (r.resolve text).map Table.vendor = r.dictionary.resolve text
  ids_ascending : (r.tables.map (·.id)).Pairwise (· < ·)
  names_nodup : (r.tables.map fun t => fold t.name).Nodup
  /-- Every number that the index of names holds is that of a vendor with the name. -/
  names_found : ∀ (key : String) (id : UInt32), r.names[key]? = some id →
    ∃ t, r.vendors[id]? = some t ∧ nameKey t.name = key
  tables : ∀ t ∈ r.tables, t.Agrees

lemma Table.Coherent.agrees {t : Table} (ht : t.Coherent) : t.Agrees where
  attribute?_eq := attribute?_vendor ht
  attributeOf?_eq := attributeOf?_vendor ht
  names_nodup := ht.wellFormed.names_nodup
  codes_nodup := ht.byCode.nodup
  byName_lt := fun _ _ h => ht.byName.lt_size h
  byCode_lt := fun _ _ h => ht.byCode.lt_size h
  code_ne_zero := fun d hd => (ht.definitions d hd).code_ne_zero
  valueNames_nodup := fun d hd => (ht.definitions d hd).valueNames_nodup
  integer_of_values := fun d hd => (ht.definitions d hd).integer_of_values

namespace Registry

lemma Coherent.agrees {r : Registry} (hr : r.Coherent) : r.Agrees where
  id_eq := fun _ _ h => hr.id_eq h
  vendor?_eq := hr.vendor?_eq_find?
  vendorNamed?_eq := hr.vendorNamed?_eq_find?
  resolve_eq := resolve_dictionary hr
  ids_ascending := hr.ids_ascending
  names_nodup := hr.names_nodup
  names_found := fun key id h => (hr.names_iff key id).1 h
  tables := fun _ ht => (hr.coherent_of_mem ht).agrees

/-- **Indexes answer like a search.**  In every registry that loading and merging can make, vendors
stand under their own numbers, and the vendor that a name or a number finds is the one that a search
through all vendors finds; within a vendor the definition that a name or a code finds is the one
that a search through its definitions finds, by a position that is in range.  Names are distinct
whatever their letter case, codes are distinct and not 0, and only integers have named values.  And
the registry without its indexes is a dictionary that the same loading and merging can make. -/
theorem Reachable.agrees_with_search {r : Registry} (h : Reachable r) :
    r.Agrees ∧ r.dictionary.Reachable :=
  ⟨h.coherent.agrees, h.dictionary⟩

/-- One vendor takes the place of two, of which one has its name and the other its number. -/
theorem agrees_with_search_crossed :
    ∃ r t, Reachable r ∧ r.tables = [t] ∧
      t.vendor = ⟨"alpha", 2, [⟨"Level", 7, "integer", [], []⟩]⟩ ∧
      r.vendorNamed? "ALPHA" = some t ∧ r.vendorNamed? "Beta" = none ∧ r.vendor? 1 = none ∧
      t.attribute? "LEVEL" = some ⟨"Level", 7, "integer", [], []⟩ := by
  have hbelow : Dictionary.load empty.dictionary "VENDOR Alpha 1\nVENDOR Beta 2" =
      .ok ⟨[⟨"Alpha", 1, []⟩, ⟨"Beta", 2, []⟩]⟩ := rfl
  have habove : Dictionary.load empty.dictionary
      "VENDOR alpha 2\nATTRIBUTE Level 7 integer ALPHA" =
      .ok ⟨[⟨"alpha", 2, [⟨"Level", 7, "integer", [], []⟩]⟩]⟩ := rfl
  obtain ⟨below, hparseBelow, hdictionaryBelow⟩ := exists_load coherent_empty hbelow
  obtain ⟨above, hparseAbove, hdictionaryAbove⟩ := exists_load coherent_empty habove
  have hr : Reachable (below.merge above) := .merge (.parse hparseBelow) (.parse hparseAbove)
  obtain ⟨hagrees, -⟩ := Reachable.agrees_with_search hr
  have hdictionary : (below.merge above).dictionary =
      ⟨[⟨"alpha", 2, [⟨"Level", 7, "integer", [], []⟩]⟩]⟩ := by
    rw [dictionary_merge (coherent_empty.load hparseBelow) (coherent_empty.load hparseAbove),
      hdictionaryBelow, hdictionaryAbove]
    rfl
  obtain ⟨t, htables, hvendor⟩ :=
    List.map_eq_singleton_iff.1 (congrArg Dictionary.vendors hdictionary)
  have hname : t.name = "alpha" := congrArg Vendor.name hvendor
  have hid : t.id = 2 := congrArg Vendor.id hvendor
  have hattributes : t.attributes.toList = [⟨"Level", 7, "integer", [], []⟩] :=
    congrArg Vendor.attributes hvendor
  refine ⟨_, t, hr, htables, hvendor, ?_, ?_, ?_, ?_⟩
  · rw [hagrees.vendorNamed?_eq, htables, List.find?_singleton, hname, if_pos (by decide)]
  · rw [hagrees.vendorNamed?_eq, htables, List.find?_singleton, hname, if_neg (by decide)]
  · rw [hagrees.vendor?_eq, htables, List.find?_singleton, hid, if_neg (by decide)]
  · rw [(hagrees.tables t (by rw [htables]; exact List.mem_singleton.2 rfl)).attribute?_eq,
      hattributes]
    rfl

end Registry

end Radius
