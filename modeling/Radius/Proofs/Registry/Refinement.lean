/-
# Registries as dictionaries

A registry without its indexes is a dictionary (`Registry.dictionary`), and what a change makes of a
coherent registry is, without the indexes, what the same change makes of the dictionary.  As a
dictionary is known by its vendors, it is enough to know which tables there are after the change.
-/
import Radius.Proofs.Dictionary.Membership
import Radius.Proofs.Registry.Coherent

namespace Radius.Registry

open Text

variable {r other : Registry} {t u : Table} {id : UInt32}

/-! ### Tables after a change -/

lemma mem_tables_add (hid : r.vendors[t.id]? = none) :
    u ∈ (r.add t).tables ↔ u = t ∨ u ∈ r.tables := by
  rw [mem_tables, mem_tables]
  simp only [getElem?_vendors_add]
  constructor
  · rintro ⟨id, hu⟩
    split_ifs at hu
    · exact Or.inl (Option.some.inj hu).symm
    · exact Or.inr ⟨id, hu⟩
  · rintro (rfl | ⟨id, hu⟩)
    · exact ⟨u.id, if_pos rfl⟩
    · refine ⟨id, ?_⟩
      rw [if_neg]
      · exact hu
      · rintro rfl
        simp [hid] at hu

lemma mem_tables_put (hr : r.Coherent) :
    u ∈ (r.put t).tables ↔
      u = t ∨ u ∈ r.tables ∧ u.id ≠ t.id ∧ fold u.name ≠ fold t.name := by
  rw [put, mem_tables_add (hr.getElem?_vendors_dropped t.name t.id),
    (hr.dropNamed t.name).mem_tables_dropNumbered, hr.mem_tables_dropNamed]
  tauto

lemma mem_tables_update (hr : r.Coherent) (id : UInt32) :
    u ∈ (r.update id t).tables ↔ u = t ∨ u ∈ r.tables ∧ u.id ≠ id := by
  rw [mem_tables]
  simp only [getElem?_vendors_update]
  constructor
  · rintro ⟨i, hu⟩
    split_ifs at hu with h
    · exact Or.inl (Option.some.inj hu).symm
    · exact Or.inr ⟨mem_tables.2 ⟨i, hu⟩, fun hid => h (hid.symm.trans (hr.id_eq hu))⟩
  · rintro (rfl | ⟨hu, hid⟩)
    · exact ⟨id, if_pos rfl⟩
    · exact ⟨u.id, by rw [if_neg (Ne.symm hid)]; exact hr.mem_tables_iff.1 hu⟩

/-! ### The dictionary after a change -/

lemma dictionary_put (hr : r.Coherent) (ht : t.Coherent) :
    (r.put t).dictionary = r.dictionary.put t.vendor := by
  refine Dictionary.eq_of_mem_iff (hr.put ht).wellFormed (hr.wellFormed.put ht.wellFormed) ?_
  intro v
  rw [Dictionary.mem_vendors_put, mem_vendors_dictionary, mem_vendors_dictionary]
  simp only [mem_tables_put hr]
  constructor
  · rintro ⟨u, rfl | ⟨hu, hid, hname⟩, rfl⟩
    · exact Or.inl rfl
    · exact Or.inr ⟨⟨u, hu, rfl⟩, hid, hname⟩
  · rintro (rfl | ⟨⟨u, hu, rfl⟩, hid, hname⟩)
    · exact ⟨t, Or.inl rfl, rfl⟩
    · exact ⟨u, Or.inr ⟨hu, hid, hname⟩, rfl⟩

lemma dictionary_foldl_put (hr : r.Coherent) {ts : List Table} (hts : ∀ t ∈ ts, t.Coherent) :
    (ts.foldl put r).dictionary = (ts.map Table.vendor).foldl Dictionary.put r.dictionary := by
  induction ts generalizing r with
  | nil => rfl
  | cons t rest ih =>
      obtain ⟨ht, hrest⟩ := List.forall_mem_cons.1 hts
      rw [List.foldl_cons, ih (hr.put ht) hrest, dictionary_put hr ht, List.map_cons,
        List.foldl_cons]

/-- Merging registries is merging the dictionaries. -/
lemma dictionary_merge (hr : r.Coherent) (hother : other.Coherent) :
    (r.merge other).dictionary = r.dictionary.merge other.dictionary :=
  dictionary_foldl_put hr fun _ => hother.coherent_of_mem

/-- Changing a table in its place is changing the vendor in its place. -/
lemma dictionary_update (hr : r.Coherent) (ht : r.vendors[id]? = some t) (hu : u.Coherent)
    (hid : u.id = t.id) (hname : u.name = t.name) :
    (r.update id u).dictionary = r.dictionary.update u.vendor := by
  have hmem : t.vendor ∈ r.dictionary.vendors :=
    mem_vendors_dictionary.2 ⟨t, mem_tables.2 ⟨id, ht⟩, rfl⟩
  have hkey : u.vendor.id ∈ r.dictionary.vendors.map (·.id) :=
    List.mem_map.2 ⟨t.vendor, hmem, hid.symm⟩
  have hidu : u.id = id := hid.trans (hr.id_eq ht)
  refine Dictionary.eq_of_mem_iff (hr.update ht hu hid hname).wellFormed
    (hr.wellFormed.update hu.wellFormed hmem hid hname) ?_
  intro v
  rw [Dictionary.mem_vendors_update hkey, mem_vendors_dictionary, mem_vendors_dictionary]
  simp only [mem_tables_update hr]
  constructor
  · rintro ⟨w, rfl | ⟨hw, hne⟩, rfl⟩
    · exact Or.inl rfl
    · exact Or.inr ⟨⟨w, hw, rfl⟩, fun h => hne (h.trans hidu)⟩
  · rintro (rfl | ⟨⟨w, hw, rfl⟩, hne⟩)
    · exact ⟨u, Or.inl rfl, rfl⟩
    · exact ⟨w, Or.inr ⟨hw, fun h => hne (h.trans hidu.symm)⟩, rfl⟩

lemma dictionary_add (hr : r.Coherent) (ht : t.Coherent) (hname : r.vendorNamed? t.name = none)
    (hid : r.vendor? t.id = none) :
    (r.add t).dictionary = ⟨Dictionary.place t.vendor r.dictionary.vendors⟩ := by
  have hnewid : t.vendor.id ∉ r.dictionary.vendors.map (·.id) := by
    rw [← Dictionary.vendor?_eq_none_iff, hr.vendor?_dictionary]
    exact Option.map_eq_none_iff.2 hid
  have hnewname : fold t.vendor.name ∉ r.dictionary.vendors.map fun v => fold v.name := by
    rw [← Dictionary.vendorNamed?_eq_none_iff, hr.vendorNamed?_dictionary]
    exact Option.map_eq_none_iff.2 hname
  refine Dictionary.eq_of_mem_iff (hr.add_of_not_found ht hname hid).wellFormed
    (.place hr.wellFormed ht.wellFormed hnewid hnewname) ?_
  intro v
  rw [Dictionary.mem_place, mem_vendors_dictionary, mem_vendors_dictionary]
  simp only [mem_tables_add hid]
  constructor
  · rintro ⟨u, rfl | hu, rfl⟩
    · exact Or.inl rfl
    · exact Or.inr ⟨u, hu, rfl⟩
  · rintro (rfl | ⟨u, hu, rfl⟩)
    · exact ⟨t, Or.inl rfl, rfl⟩
    · exact ⟨u, Or.inr hu, rfl⟩

/-- A vendor is declared or refused as in a dictionary. -/
lemma dictionary_declare? (hr : r.Coherent) (name : String) (id : UInt32) :
    (r.declare? name id).map dictionary = r.dictionary.declare? name id := by
  rw [declare?, hr.getElem?_names, Dictionary.declare?, hr.vendorNamed?_dictionary,
    hr.vendor?_dictionary]
  cases hname : r.vendorNamed? name with
  | none =>
      cases hid : r.vendor? id with
      | none => exact congrArg some (dictionary_add hr (Table.coherent_nil name id) hname hid)
      | some u => rfl
  | some t =>
      cases r.vendor? id with
      | none => rfl
      | some u =>
          have hsame : nameKey u.name = nameKey name ↔ sameName u.vendor.name name = true :=
            nameKey_inj.trans sameName_iff.symm
          show Option.map dictionary (if t.id = id ∧ nameKey u.name = nameKey name then _ else _) =
            if t.id = id ∧ sameName u.vendor.name name = true then _ else _
          simp only [hsame]
          split_ifs <;> rfl

end Radius.Registry
