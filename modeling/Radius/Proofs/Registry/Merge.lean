/-
# Merged registries

Merging puts the tables of the upper registry into the lower one, one after the other.  A table that
is put drops up to two others, one that has its name and one that has its number.  As no two tables
of the upper registry have one name or one number, none of them drops another: what is left in the
end are the tables of the upper registry and those of the lower one that share neither a name nor a
number with them (`mem_tables_merge`), whatever the order in which they were put.
-/
import Radius.Proofs.Registry.Reachable
import Radius.Proofs.Validation

namespace Radius.Registry

open Text

/-- Whether a registry has a table with the number or the name of the given one.  Merged on top, it
takes its place. -/
def Replaces (other : Registry) (t : Table) : Prop :=
  ∃ u ∈ other.tables, t.id = u.id ∨ sameName t.name u.name = true

/-- Registries with the same tables, which are found under the same numbers and names. -/
structure Equivalent (r r' : Registry) : Prop where
  tables_eq : r.tables = r'.tables
  vendor?_eq : ∀ id, r.vendor? id = r'.vendor? id
  vendorNamed?_eq : ∀ name, r.vendorNamed? name = r'.vendorNamed? name

variable {r r' other : Registry} {t u : Table} {ts : List Table}

lemma not_replaces_iff :
    ¬ other.Replaces t ↔ ∀ u ∈ other.tables, t.id ≠ u.id ∧ fold t.name ≠ fold u.name := by
  simp only [Replaces, sameName_iff, not_exists, not_and, not_or, ne_eq]

/-- What a coherent registry answers is known by its tables. -/
lemma Coherent.equivalent (hr : r.Coherent) (hr' : r'.Coherent)
    (h : ∀ t, t ∈ r.tables ↔ t ∈ r'.tables) : r.Equivalent r' := by
  have htables : r.tables = r'.tables :=
    eq_of_mem_iff_of_ascending hr.ids_ascending hr'.ids_ascending h
  refine ⟨htables, ?_, ?_⟩
  · intro id
    rw [hr.vendor?_eq_find?, hr'.vendor?_eq_find?, htables]
  · intro name
    rw [hr.vendorNamed?_eq_find?, hr'.vendorNamed?_eq_find?, htables]

/-! ### Putting the tables of a registry -/

lemma Coherent.foldl_put (hr : r.Coherent) (hts : ∀ t ∈ ts, t.Coherent) :
    (ts.foldl Registry.put r).Coherent :=
  List.foldlRecOn ts Registry.put hr fun _ hr t ht => hr.put (hts t ht)

/-- Of tables with distinct numbers and names all are there in the end. -/
lemma mem_tables_foldl_put (hr : r.Coherent) (hts : ∀ t ∈ ts, t.Coherent)
    (hids : (ts.map (·.id)).Nodup) (hnames : (ts.map fun t => fold t.name).Nodup) :
    u ∈ (ts.foldl put r).tables ↔
      u ∈ ts ∨ u ∈ r.tables ∧ ∀ t ∈ ts, u.id ≠ t.id ∧ fold u.name ≠ fold t.name := by
  have hids' : ts.Pairwise fun t u => t.id ≠ u.id := List.pairwise_map.1 hids
  have hnames' : ts.Pairwise fun t u => fold t.name ≠ fold u.name := List.pairwise_map.1 hnames
  exact mem_foldl_iff Coherent (fun u (r : Registry) => u ∈ r.tables)
    (fun _ hr t ht => hr.put (hts t ht)) (fun _ hr _ _ _ => mem_tables_put hr)
    (hids'.and hnames') hr

/-- The tables of a registry can be put in any order. -/
lemma mem_tables_foldl_put_of_perm (hr : r.Coherent) (hother : other.Coherent)
    (hts : ts.Perm other.tables) :
    u ∈ (ts.foldl put r).tables ↔ u ∈ other.tables ∨ u ∈ r.tables ∧ ¬ other.Replaces u := by
  have hcoherent : ∀ t ∈ ts, t.Coherent := fun t ht => hother.coherent_of_mem (hts.mem_iff.1 ht)
  have hids : (ts.map (·.id)).Nodup := (hts.map _).nodup_iff.2 hother.ids_nodup
  have hnames : (ts.map fun t => fold t.name).Nodup := (hts.map _).nodup_iff.2 hother.names_nodup
  rw [mem_tables_foldl_put hr hcoherent hids hnames, not_replaces_iff]
  simp only [hts.mem_iff]

lemma mem_tables_merge (hr : r.Coherent) (hother : other.Coherent) :
    u ∈ (r.merge other).tables ↔ u ∈ other.tables ∨ u ∈ r.tables ∧ ¬ other.Replaces u :=
  mem_tables_foldl_put_of_perm hr hother (.refl _)

lemma foldl_put_equivalent_merge (hr : r.Coherent) (hother : other.Coherent)
    (hts : ts.Perm other.tables) : (ts.foldl put r).Equivalent (r.merge other) := by
  have hcoherent : ∀ t ∈ ts, t.Coherent := fun t ht => hother.coherent_of_mem (hts.mem_iff.1 ht)
  refine (hr.foldl_put hcoherent).equivalent (hr.merge hother) fun u => ?_
  rw [mem_tables_foldl_put_of_perm hr hother hts, mem_tables_merge hr hother]

/-- A registry takes the place of its own tables only. -/
lemma merge_merge_equivalent (hr : r.Coherent) (hother : other.Coherent) :
    ((r.merge other).merge other).Equivalent (r.merge other) := by
  have hmerge : (r.merge other).Coherent := hr.merge hother
  refine (hmerge.merge hother).equivalent hmerge fun u => ?_
  rw [mem_tables_merge hmerge hother, mem_tables_merge hr hother]
  tauto

/-! ### What stays as it was -/

/-- A number is looked up as before, if no table above has the number and none takes the place of
the table below that has it. -/
lemma vendor?_merge_eq (hr : r.Coherent) (hother : other.Coherent) {id : UInt32}
    (habove : other.vendor? id = none) (hkept : ∀ t, r.vendor? id = some t → ¬ other.Replaces t) :
    (r.merge other).vendor? id = r.vendor? id := by
  apply Option.ext
  intro t
  rw [(hr.merge hother).vendor?_eq_some_iff, mem_tables_merge hr hother, hr.vendor?_eq_some_iff]
  constructor
  · rintro ⟨ht | ⟨ht, -⟩, hid⟩
    · rw [hother.vendor?_eq_some_iff.2 ⟨ht, hid⟩] at habove
      simp at habove
    · exact ⟨ht, hid⟩
  · rintro ⟨ht, hid⟩
    exact ⟨Or.inr ⟨ht, hkept t (hr.vendor?_eq_some_iff.2 ⟨ht, hid⟩)⟩, hid⟩

lemma vendor?_dictionary_merge_eq (hr : r.Coherent) (hother : other.Coherent) {id : UInt32}
    (habove : other.vendor? id = none) (hkept : ∀ t, r.vendor? id = some t → ¬ other.Replaces t) :
    (r.merge other).dictionary.vendor? id = r.dictionary.vendor? id := by
  rw [(hr.merge hother).vendor?_dictionary, hr.vendor?_dictionary,
    vendor?_merge_eq hr hother habove hkept]

/-! ### Merging as a whole -/

/-- **Merging layers one registry over another.**  After merging there are all tables of the upper
registry and those tables of the lower one that it does not replace, unchanged, once each; and a
number or a name finds the one table among them that has it.  So the tables of the upper registry
can be put in any order, and merging again changes nothing.  And vendor attributes of vendors that
are not replaced, or that neither registry knows, are described and validated as before. -/
theorem Reachable.merge_layers {r other : Registry} (hr : r.Reachable) (hother : other.Reachable) :
    (∀ t, t ∈ (r.merge other).tables ↔ t ∈ other.tables ∨ t ∈ r.tables ∧ ¬ other.Replaces t) ∧
      ((r.merge other).tables.map (·.id)).Pairwise (· < ·) ∧
      (∀ id t, (r.merge other).vendor? id = some t ↔
        t ∈ (r.merge other).tables ∧ t.id = id) ∧
      (∀ name t, (r.merge other).vendorNamed? name = some t ↔
        t ∈ (r.merge other).tables ∧ sameName t.name name = true) ∧
      (∀ ts : List Table, ts.Perm other.tables → (ts.foldl put r).Equivalent (r.merge other)) ∧
      ((r.merge other).merge other).Equivalent (r.merge other) ∧
      ∀ a : VendorSpecific, other.vendor? a.vendor = none →
        (∀ t, r.vendor? a.vendor = some t → ¬ other.Replaces t) →
          (r.merge other).dictionary.describe a = r.dictionary.describe a ∧
            ∀ mode, (r.merge other).dictionary.violation? mode a =
              r.dictionary.violation? mode a := by
  have hmerge : (r.merge other).Coherent := hr.coherent.merge hother.coherent
  refine ⟨fun t => mem_tables_merge hr.coherent hother.coherent, hmerge.ids_ascending,
    fun id t => hmerge.vendor?_eq_some_iff, ?_, ?_, ?_, ?_⟩
  · intro name t
    rw [hmerge.vendorNamed?_eq_some_iff, sameName_iff]
  · intro ts hts
    exact foldl_put_equivalent_merge hr.coherent hother.coherent hts
  · exact merge_merge_equivalent hr.coherent hother.coherent
  · intro a habove hkept
    have hvendor := vendor?_dictionary_merge_eq hr.coherent hother.coherent habove hkept
    exact ⟨Dictionary.describe_congr hvendor, Dictionary.violation?_congr hvendor⟩

/-- A vendor that replaces two others, of which one has its name and the other its number, beside
one that stays. -/
theorem merge_layers_crossed :
    ∃ r other t, Reachable r ∧ Reachable other ∧
      r.dictionary.vendors = [⟨"Alpha", 1, []⟩, ⟨"Beta", 2, []⟩, ⟨"Gamma", 3, []⟩] ∧
      t.vendor = ⟨"alpha", 2, []⟩ ∧ (r.merge other).vendorNamed? "ALPHA" = some t ∧
      (r.merge other).vendor? 1 = none ∧
      ((r.merge other).merge other).Equivalent (r.merge other) ∧
      (r.merge other).dictionary.describe ⟨3, 1, [7], by decide, by decide⟩ =
        .ok ⟨3, some "Gamma", 1, none, none, .octets [7], none⟩ := by
  have hbelow : Dictionary.load empty.dictionary "VENDOR Alpha 1\nVENDOR Beta 2\nVENDOR Gamma 3" =
      .ok ⟨[⟨"Alpha", 1, []⟩, ⟨"Beta", 2, []⟩, ⟨"Gamma", 3, []⟩]⟩ := rfl
  have habove : Dictionary.load empty.dictionary "VENDOR alpha 2" = .ok ⟨[⟨"alpha", 2, []⟩]⟩ := rfl
  obtain ⟨r, hparse, hr⟩ := exists_load coherent_empty hbelow
  obtain ⟨other, hparse', hother⟩ := exists_load coherent_empty habove
  obtain ⟨hmem, -, hids, hnames, -, hagain, hsame⟩ :=
    Reachable.merge_layers (.parse hparse) (.parse hparse')
  obtain ⟨t, htables, hvendor⟩ := List.map_eq_singleton_iff.1 (congrArg Dictionary.vendors hother)
  have hname : t.name = "alpha" := congrArg Vendor.name hvendor
  have hid : t.id = 2 := congrArg Vendor.id hvendor
  -- the tables below by their numbers
  have hlower : ∀ u ∈ r.tables, u.vendor = ⟨"Alpha", 1, []⟩ ∨ u.vendor = ⟨"Beta", 2, []⟩ ∨
      u.vendor = ⟨"Gamma", 3, []⟩ := by
    intro u hu
    have hmem : u.vendor ∈ r.dictionary.vendors := List.mem_map_of_mem hu
    simpa [hr] using hmem
  have hreplaces : ∀ u, other.Replaces u ↔ u.id = 2 ∨ sameName u.name "alpha" = true := by
    intro u
    simp only [Replaces, htables, List.mem_singleton, exists_eq_left, hid, hname]
  refine ⟨r, other, t, .parse hparse, .parse hparse', congrArg Dictionary.vendors hr, hvendor,
    ?_, ?_, hagain, ?_⟩
  · rw [hnames, hname]
    exact ⟨(hmem t).2 (.inl (by simp [htables])), by decide⟩
  · rw [Option.eq_none_iff_forall_ne_some]
    intro u hu
    obtain ⟨hu, huid⟩ := (hids 1 u).1 hu
    rcases (hmem u).1 hu with hu | ⟨hu, hkept⟩
    · rw [htables, List.mem_singleton] at hu
      exact absurd (hid.symm.trans (hu ▸ huid)) (by decide)
    · rw [hreplaces] at hkept
      rcases hlower u hu with h | h | h
      · exact hkept (.inr (by rw [show u.name = "Alpha" from congrArg Vendor.name h]; decide))
      · exact hkept (.inl (congrArg Vendor.id h))
      · exact absurd (huid.symm.trans (congrArg Vendor.id h)) (by decide)
  · have habove : other.vendor? 3 = none := by
      rw [Option.eq_none_iff_forall_ne_some]
      intro u hu
      obtain ⟨hu, huid⟩ := (Reachable.parse hparse').coherent.vendor?_eq_some_iff.1 hu
      rw [htables, List.mem_singleton] at hu
      exact absurd (hid.symm.trans (hu ▸ huid)) (by decide)
    have hkept : ∀ u, r.vendor? 3 = some u → ¬ other.Replaces u := by
      intro u hu
      obtain ⟨hu, huid⟩ := (Reachable.parse hparse).coherent.vendor?_eq_some_iff.1 hu
      rw [hreplaces, huid]
      rcases hlower u hu with h | h | h
      · exact absurd (huid.symm.trans (congrArg Vendor.id h)) (by decide)
      · exact absurd (huid.symm.trans (congrArg Vendor.id h)) (by decide)
      · rw [show u.name = "Gamma" from congrArg Vendor.name h]
        decide
    rw [(hsame ⟨3, 1, [7], by decide, by decide⟩ habove hkept).1, hr]
    rfl

end Radius.Registry
