/-
# Registries with indexes

In a coherent registry every table stands under its own number, and the index of names holds the
number of the one vendor with a name and nothing else.  Adding, changing, declaring and dropping
vendors keep a registry so; the two drops that make room for a vendor leave neither its name nor its
number behind, whichever vendors had them.
-/
import Radius.Proofs.Registry.Table

namespace Radius.Registry

open Text

/-- A registry whose indexes are in step with its tables. -/
structure Coherent (r : Registry) : Prop where
  /-- A table stands under the number of its vendor. -/
  id_eq : ∀ {id : UInt32} {t : Table}, r.vendors[id]? = some t → t.id = id
  names_iff : ∀ key id, r.names[key]? = some id ↔
    ∃ t, r.vendors[id]? = some t ∧ nameKey t.name = key
  table : ∀ {id : UInt32} {t : Table}, r.vendors[id]? = some t → t.Coherent

variable {r r' other : Registry} {t u : Table} {v : Vendor} {id : UInt32} {name : String}

lemma mem_tables : t ∈ r.tables ↔ ∃ id : UInt32, r.vendors[id]? = some t := by
  rw [tables, List.mem_map]
  constructor
  · rintro ⟨⟨id, t⟩, ht, rfl⟩
    exact ⟨id, Std.TreeMap.mem_toList_iff_getElem?_eq_some.1 ht⟩
  · rintro ⟨id, ht⟩
    exact ⟨(id, t), Std.TreeMap.mem_toList_iff_getElem?_eq_some.2 ht, rfl⟩

lemma mem_vendors_dictionary : v ∈ r.dictionary.vendors ↔ ∃ t ∈ r.tables, t.vendor = v :=
  List.mem_map

lemma getElem?_vendors_add (t : Table) (id : UInt32) :
    (r.add t).vendors[id]? = if t.id = id then some t else r.vendors[id]? := by
  rw [add, Std.TreeMap.getElem?_insert]
  simp only [Std.compare_eq_iff_eq]

lemma getElem?_names_add (t : Table) (key : String) :
    (r.add t).names[key]? = if nameKey t.name = key then some t.id else r.names[key]? := by
  rw [add, Std.HashMap.getElem?_insert]
  simp only [beq_iff_eq]

lemma getElem?_vendors_erase (id : UInt32) (name : String) (i : UInt32) :
    (r.erase id name).vendors[i]? = if id = i then none else r.vendors[i]? := by
  rw [erase, Std.TreeMap.getElem?_erase]
  simp only [Std.compare_eq_iff_eq]

lemma getElem?_names_erase (id : UInt32) (name key : String) :
    (r.erase id name).names[key]? = if nameKey name = key then none else r.names[key]? := by
  rw [erase, Std.HashMap.getElem?_erase]
  simp only [beq_iff_eq]

lemma getElem?_vendors_update (id : UInt32) (t : Table) (i : UInt32) :
    (r.update id t).vendors[i]? = if id = i then some t else r.vendors[i]? := by
  rw [update, Std.TreeMap.getElem?_insert]
  simp only [Std.compare_eq_iff_eq]

/-- A changed table stands where one stood, so all numbers stay. -/
lemma exists_vendor?_update {i : UInt32} (h : ∃ u, r.vendor? i = some u) :
    ∃ u, (r.update id t).vendor? i = some u := by
  obtain ⟨u, hu⟩ := h
  rw [vendor?, getElem?_vendors_update]
  split_ifs
  · exact ⟨t, rfl⟩
  · exact ⟨u, hu⟩

lemma exists_vendor?_of_declare? {i : UInt32} (h : r.declare? name id = some r')
    (hi : ∃ u, r.vendor? i = some u) : ∃ u, r'.vendor? i = some u := by
  rw [declare?] at h
  split at h
  · obtain rfl := Option.some.inj h
    obtain ⟨u, hu⟩ := hi
    rw [vendor?, getElem?_vendors_add]
    split_ifs
    · exact ⟨_, rfl⟩
    · exact ⟨u, hu⟩
  · split_ifs at h
    exact Option.some.inj h ▸ hi
  · simp at h

lemma coherent_empty : empty.Coherent where
  id_eq := by simp [empty]
  names_iff := by simp [empty]
  table := by simp [empty]

namespace Coherent

/-! ### What is found -/

lemma mem_tables_iff (hr : r.Coherent) : t ∈ r.tables ↔ r.vendors[t.id]? = some t := by
  rw [mem_tables]
  constructor
  · rintro ⟨id, ht⟩
    rwa [hr.id_eq ht]
  · intro ht
    exact ⟨t.id, ht⟩

lemma coherent_of_mem (hr : r.Coherent) (ht : t ∈ r.tables) : t.Coherent :=
  hr.table (hr.mem_tables_iff.1 ht)

/-- Two vendors never have one name. -/
lemma eq_of_fold_name_eq (hr : r.Coherent) (ht : t ∈ r.tables) (hu : u ∈ r.tables)
    (h : fold t.name = fold u.name) : t = u := by
  have htnames := (hr.names_iff (nameKey u.name) t.id).2
    ⟨t, hr.mem_tables_iff.1 ht, nameKey_inj.2 h⟩
  have hunames := (hr.names_iff (nameKey u.name) u.id).2 ⟨u, hr.mem_tables_iff.1 hu, rfl⟩
  have hid : t.id = u.id := Option.some.inj (htnames.symm.trans hunames)
  have htvendors := hr.mem_tables_iff.1 ht
  rw [hid, hr.mem_tables_iff.1 hu] at htvendors
  exact (Option.some.inj htvendors).symm

lemma vendor?_eq_some_iff (hr : r.Coherent) :
    r.vendor? id = some t ↔ t ∈ r.tables ∧ t.id = id := by
  rw [vendor?, hr.mem_tables_iff]
  constructor
  · intro ht
    obtain rfl := hr.id_eq ht
    exact ⟨ht, rfl⟩
  · rintro ⟨ht, rfl⟩
    exact ht

lemma vendorNamed?_eq_some_iff (hr : r.Coherent) :
    r.vendorNamed? name = some t ↔ t ∈ r.tables ∧ fold t.name = fold name := by
  rw [vendorNamed?, Option.bind_eq_some_iff]
  constructor
  · rintro ⟨id, hid, ht⟩
    obtain ⟨u, hu, hname⟩ := (hr.names_iff _ id).1 hid
    obtain rfl := Option.some.inj (hu.symm.trans ht)
    exact ⟨mem_tables.2 ⟨id, hu⟩, nameKey_inj.1 hname⟩
  · rintro ⟨ht, hname⟩
    rw [hr.mem_tables_iff] at ht
    exact ⟨t.id, (hr.names_iff _ _).2 ⟨t, ht, nameKey_inj.2 hname⟩, ht⟩

/-- Names lead to the numbers of the vendors that have them. -/
lemma getElem?_names (hr : r.Coherent) (name : String) :
    r.names[nameKey name]? = (r.vendorNamed? name).map (·.id) := by
  apply Option.ext
  intro id
  rw [hr.names_iff, Option.map_eq_some_iff]
  constructor
  · rintro ⟨t, ht, hname⟩
    exact ⟨t, hr.vendorNamed?_eq_some_iff.2 ⟨mem_tables.2 ⟨id, ht⟩, nameKey_inj.1 hname⟩,
      hr.id_eq ht⟩
  · rintro ⟨t, ht, rfl⟩
    obtain ⟨hmem, hname⟩ := hr.vendorNamed?_eq_some_iff.1 ht
    exact ⟨t, hr.mem_tables_iff.1 hmem, nameKey_inj.2 hname⟩

/-- The tables stand in the order of their numbers. -/
lemma ids_ascending (hr : r.Coherent) : (r.tables.map (·.id)).Pairwise (· < ·) := by
  have hkeys : r.vendors.toList.Pairwise fun a b => compare a.1 b.1 = .lt :=
    Std.TreeMap.ordered_keys_toList
  rw [tables, List.pairwise_map, List.pairwise_map]
  refine hkeys.imp_of_mem ?_
  intro a b ha hb hlt
  rw [hr.id_eq (Std.TreeMap.mem_toList_iff_getElem?_eq_some.1 ha),
    hr.id_eq (Std.TreeMap.mem_toList_iff_getElem?_eq_some.1 hb)]
  exact Std.compare_eq_lt.1 hlt

lemma ids_nodup (hr : r.Coherent) : (r.tables.map (·.id)).Nodup :=
  hr.ids_ascending.imp fun h => UInt32.ne_of_lt h

lemma names_nodup (hr : r.Coherent) : (r.tables.map fun t => fold t.name).Nodup :=
  List.Nodup.map_on (fun _ ht _ hu h => hr.eq_of_fold_name_eq ht hu h) hr.ids_nodup.of_map

/-- Without its indexes a coherent registry is a well-formed dictionary. -/
lemma wellFormed (hr : r.Coherent) : r.dictionary.WellFormed where
  ids_ascending := by
    rw [dictionary, List.map_map]
    exact hr.ids_ascending
  names_nodup := by
    rw [dictionary, List.map_map]
    exact hr.names_nodup
  vendors := by
    intro v hv
    obtain ⟨t, ht, rfl⟩ := mem_vendors_dictionary.1 hv
    exact (hr.coherent_of_mem ht).wellFormed

/-- A vendor is found by its number as by a search. -/
lemma vendor?_eq_find? (hr : r.Coherent) (id : UInt32) :
    r.vendor? id = r.tables.find? fun t => t.id == id := by
  apply Option.ext
  intro t
  rw [hr.vendor?_eq_some_iff, find?_eq_some_iff_of_nodup (fun _ => beq_iff_eq) hr.ids_nodup]

/-- A vendor is found by its name through the index as by a search. -/
lemma vendorNamed?_eq_find? (hr : r.Coherent) (name : String) :
    r.vendorNamed? name = r.tables.find? fun t => sameName t.name name := by
  apply Option.ext
  intro t
  rw [hr.vendorNamed?_eq_some_iff,
    find?_eq_some_iff_of_nodup (fun _ => sameName_iff) hr.names_nodup]

lemma vendor?_dictionary (hr : r.Coherent) (id : UInt32) :
    r.dictionary.vendor? id = (r.vendor? id).map Table.vendor := by
  rw [hr.vendor?_eq_find?, dictionary, Dictionary.vendor?, List.find?_map]
  rfl

lemma vendorNamed?_dictionary (hr : r.Coherent) (name : String) :
    r.dictionary.vendorNamed? name = (r.vendorNamed? name).map Table.vendor := by
  rw [hr.vendorNamed?_eq_find?, dictionary, Dictionary.vendorNamed?, List.find?_map]
  rfl

/-! ### What changes keep -/

lemma add (hr : r.Coherent) (ht : t.Coherent) (hid : r.vendors[t.id]? = none)
    (hname : r.names[nameKey t.name]? = none) : (r.add t).Coherent where
  id_eq := by
    intro id u hu
    rw [getElem?_vendors_add] at hu
    split_ifs at hu with h
    · obtain rfl := Option.some.inj hu
      exact h
    · exact hr.id_eq hu
  names_iff := by
    intro key id
    rw [getElem?_names_add, getElem?_vendors_add]
    split_ifs with hkey h h
    · -- the new name leads to the new vendor
      simp [hkey, h]
    · rw [Option.some.injEq, iff_false_left h]
      rintro ⟨u, hu, rfl⟩
      rw [hkey, (hr.names_iff _ id).2 ⟨u, hu, rfl⟩] at hname
      simp at hname
    · subst h
      rw [hr.names_iff, hid]
      simp [hkey]
    · exact hr.names_iff key id
  table := by
    intro id u hu
    rw [getElem?_vendors_add] at hu
    split_ifs at hu with h
    · exact Option.some.inj hu ▸ ht
    · exact hr.table hu

lemma erase (hr : r.Coherent) (ht : r.vendors[id]? = some t)
    (hname : nameKey t.name = nameKey name) : (r.erase id name).Coherent where
  id_eq := by
    intro i u hu
    rw [getElem?_vendors_erase] at hu
    split_ifs at hu
    exact hr.id_eq hu
  names_iff := by
    intro key i
    rw [getElem?_names_erase, getElem?_vendors_erase]
    split_ifs with hkey h h
    · simp
    · -- only the vendor that was dropped had the name
      simp only [false_iff, not_exists, not_and]
      intro u hu hukey
      have hfirst := (hr.names_iff key id).2 ⟨t, ht, hname.trans hkey⟩
      have hsecond := (hr.names_iff key i).2 ⟨u, hu, hukey⟩
      exact h (Option.some.inj (hfirst.symm.trans hsecond))
    · subst h
      rw [hr.names_iff, ht]
      simp [hname, hkey]
    · exact hr.names_iff key i
  table := by
    intro i u hu
    rw [getElem?_vendors_erase] at hu
    split_ifs at hu
    exact hr.table hu

lemma update (hr : r.Coherent) (ht : r.vendors[id]? = some t) (hu : u.Coherent)
    (hid : u.id = t.id) (hname : u.name = t.name) : (r.update id u).Coherent where
  id_eq := by
    intro i w hw
    rw [getElem?_vendors_update] at hw
    split_ifs at hw with h
    · obtain rfl := Option.some.inj hw
      rw [hid, hr.id_eq ht, h]
    · exact hr.id_eq hw
  names_iff := by
    intro key i
    rw [getElem?_vendors_update, Registry.update, hr.names_iff]
    split_ifs with h
    · subst h
      simp [ht, hname]
    · rfl
  table := by
    intro i w hw
    rw [getElem?_vendors_update] at hw
    split_ifs at hw with h
    · exact Option.some.inj hw ▸ hu
    · exact hr.table hw

lemma dropNamed (hr : r.Coherent) (name : String) : (r.dropNamed name).Coherent := by
  rw [Registry.dropNamed]
  cases hid : r.names[nameKey name]? with
  | none => exact hr
  | some id =>
      obtain ⟨t, ht, hname⟩ := (hr.names_iff _ id).1 hid
      exact hr.erase ht hname

lemma dropNumbered (hr : r.Coherent) (id : UInt32) : (r.dropNumbered id).Coherent := by
  rw [Registry.dropNumbered]
  cases ht : r.vendor? id with
  | none => exact hr
  | some t => exact hr.erase ht rfl

/-- Only the vendor with the name is dropped. -/
lemma mem_tables_dropNamed (hr : r.Coherent) :
    u ∈ (r.dropNamed name).tables ↔ u ∈ r.tables ∧ fold u.name ≠ fold name := by
  rw [(hr.dropNamed name).mem_tables_iff, hr.mem_tables_iff, Registry.dropNamed]
  cases hid : r.names[nameKey name]? with
  | none =>
      refine (and_iff_left_of_imp ?_).symm
      intro hu hname
      rw [(hr.names_iff _ u.id).2 ⟨u, hu, nameKey_inj.2 hname⟩] at hid
      simp at hid
  | some id =>
      obtain ⟨t, ht, hname⟩ := (hr.names_iff _ id).1 hid
      simp only [getElem?_vendors_erase]
      split_ifs with h
      · subst h
        simp only [false_iff, not_and, not_not]
        intro hu
        rw [ht] at hu
        obtain rfl := Option.some.inj hu
        exact nameKey_inj.1 hname
      · refine (and_iff_left_of_imp ?_).symm
        intro hu hsame
        rw [(hr.names_iff _ u.id).2 ⟨u, hu, nameKey_inj.2 hsame⟩] at hid
        exact h (Option.some.inj hid).symm

/-- Only the vendor with the number is dropped. -/
lemma mem_tables_dropNumbered (hr : r.Coherent) :
    u ∈ (r.dropNumbered id).tables ↔ u ∈ r.tables ∧ u.id ≠ id := by
  rw [(hr.dropNumbered id).mem_tables_iff, hr.mem_tables_iff, Registry.dropNumbered]
  cases ht : r.vendor? id with
  | none =>
      refine (and_iff_left_of_imp ?_).symm
      rintro hu rfl
      rw [vendor?, hu] at ht
      simp at ht
  | some t =>
      simp only [getElem?_vendors_erase]
      split_ifs with h
      · simp [h]
      · exact (and_iff_left (Ne.symm h)).symm

/-- Where a name and a number are dropped, the number is free. -/
lemma getElem?_vendors_dropped (hr : r.Coherent) (name : String) (id : UInt32) :
    ((r.dropNamed name).dropNumbered id).vendors[id]? = none := by
  rw [Option.eq_none_iff_forall_ne_some]
  intro u hu
  have hmem := mem_tables.2 ⟨id, hu⟩
  exact ((hr.dropNamed name).mem_tables_dropNumbered.1 hmem).2
    (((hr.dropNamed name).dropNumbered id).id_eq hu)

/-- Where a name and a number are dropped, the name is free. -/
lemma getElem?_names_dropped (hr : r.Coherent) (name : String) (id : UInt32) :
    ((r.dropNamed name).dropNumbered id).names[nameKey name]? = none := by
  rw [Option.eq_none_iff_forall_ne_some]
  intro i hi
  obtain ⟨u, hu, hname⟩ := (((hr.dropNamed name).dropNumbered id).names_iff _ i).1 hi
  have hmem := mem_tables.2 ⟨i, hu⟩
  rw [(hr.dropNamed name).mem_tables_dropNumbered, hr.mem_tables_dropNamed] at hmem
  exact hmem.1.2 (nameKey_inj.1 hname)

/-- A table can be added once what had its name or its number is dropped. -/
lemma put (hr : r.Coherent) (ht : t.Coherent) : (r.put t).Coherent :=
  ((hr.dropNamed t.name).dropNumbered t.id).add ht (hr.getElem?_vendors_dropped t.name t.id)
    (hr.getElem?_names_dropped t.name t.id)

lemma merge (hr : r.Coherent) (hother : other.Coherent) : (r.merge other).Coherent :=
  List.foldlRecOn other.tables Registry.put hr fun _ hr _ ht => hr.put (hother.coherent_of_mem ht)

lemma add_of_not_found (hr : r.Coherent) (ht : t.Coherent)
    (hname : r.vendorNamed? t.name = none) (hid : r.vendor? t.id = none) : (r.add t).Coherent :=
  hr.add ht hid (by rw [hr.getElem?_names, hname, Option.map_none])

lemma declare? (hr : r.Coherent) {name : String} {id : UInt32}
    (h : r.declare? name id = some r') : r'.Coherent := by
  rw [Registry.declare?, hr.getElem?_names] at h
  cases hname : r.vendorNamed? name with
  | none =>
      cases hid : r.vendor? id with
      | none =>
          simp only [hname, hid, Option.map_none, Option.some.injEq] at h
          exact h ▸ hr.add_of_not_found (Table.coherent_nil name id) hname hid
      | some u => simp [hname, hid] at h
  | some t =>
      cases hid : r.vendor? id with
      | none => simp [hname, hid] at h
      | some u =>
          simp only [hname, hid, Option.map_some] at h
          split_ifs at h
          exact Option.some.inj h ▸ hr

end Coherent

end Radius.Registry
