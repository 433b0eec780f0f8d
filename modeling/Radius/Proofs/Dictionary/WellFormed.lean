/-
# Well-formed dictionaries

In a dictionary numbers and names are keys: vendors differ in their numbers and, whatever the letter
case, in their names; the definitions of a vendor differ in their codes and names; the named values
of a definition differ in their names.  Where keys are distinct, the search for a key finds the one
entry that has it.
-/
import Mathlib.Data.List.Nodup
import Radius.Dictionary

namespace Radius

open Text

/-! ### Keys -/

section Keys

variable {α κ : Type} {p : α → Bool} {key : α → κ} {k : κ} {l : List α} {a : α}

/-- Among entries with distinct keys the search for a key finds the one entry that has it. -/
lemma find?_eq_some_iff_of_nodup (hp : ∀ a, p a = true ↔ key a = k) (hl : (l.map key).Nodup) :
    l.find? p = some a ↔ a ∈ l ∧ key a = k := by
  constructor
  · intro h
    exact ⟨List.mem_of_find?_eq_some h, (hp a).1 (List.find?_some h)⟩
  · rintro ⟨hmem, hkey⟩
    obtain ⟨b, hb⟩ : ∃ b, l.find? p = some b := by
      rw [← Option.isSome_iff_exists, List.find?_isSome]
      exact ⟨a, hmem, (hp a).2 hkey⟩
    have hbkey : key b = k := (hp b).1 (List.find?_some hb)
    have hba : b = a :=
      List.inj_on_of_nodup_map hl (List.mem_of_find?_eq_some hb) hmem (hbkey.trans hkey.symm)
    rw [hb, hba]

lemma find?_eq_none_iff_of_key (hp : ∀ a, p a = true ↔ key a = k) :
    l.find? p = none ↔ k ∉ l.map key := by
  rw [List.find?_eq_none, List.mem_map]
  constructor
  · rintro h ⟨a, ha, hkey⟩
    exact h a ha ((hp a).2 hkey)
  · intro h a ha hpa
    exact h ⟨a, ha, (hp a).1 hpa⟩

end Keys

/-! ### Definitions and vendors -/

/-- A definition as a dictionary holds it. -/
structure Definition.WellFormed (d : Definition) : Prop where
  code_ne_zero : d.code ≠ 0
  /-- No two values have names that differ in letter case only. -/
  valueNames_nodup : (d.values.map fun v => fold v.name).Nodup
  /-- Only integers have named values. -/
  integer_of_values : d.values ≠ [] → d.kind = .integer

/-- A vendor as a dictionary holds it. -/
structure Vendor.WellFormed (v : Vendor) : Prop where
  /-- No two definitions have names that differ in letter case only. -/
  names_nodup : (v.attributes.map fun d => fold d.name).Nodup
  codes_nodup : (v.attributes.map (·.code)).Nodup
  definitions : ∀ d ∈ v.attributes, d.WellFormed

namespace Vendor

variable {v : Vendor} {d : Definition}

lemma attribute?_eq_some_iff (hv : v.WellFormed) {name : String} :
    v.attribute? name = some d ↔ d ∈ v.attributes ∧ fold d.name = fold name :=
  find?_eq_some_iff_of_nodup (fun _ => sameName_iff) hv.names_nodup

lemma attributeOf?_eq_some_iff (hv : v.WellFormed) {code : UInt8} :
    v.attributeOf? code = some d ↔ d ∈ v.attributes ∧ d.code = code :=
  find?_eq_some_iff_of_nodup (fun _ => beq_iff_eq) hv.codes_nodup

lemma attribute?_eq_none_iff {name : String} :
    v.attribute? name = none ↔ fold name ∉ v.attributes.map fun d => fold d.name :=
  find?_eq_none_iff_of_key fun _ => sameName_iff

lemma attributeOf?_eq_none_iff {code : UInt8} :
    v.attributeOf? code = none ↔ code ∉ v.attributes.map (·.code) :=
  find?_eq_none_iff_of_key fun _ => beq_iff_eq

end Vendor

/-! ### Dictionaries -/

/-- A dictionary in which numbers and names are keys. -/
structure Dictionary.WellFormed (d : Dictionary) : Prop where
  ids_ascending : (d.vendors.map (·.id)).Pairwise (· < ·)
  /-- No two vendors have names that differ in letter case only. -/
  names_nodup : (d.vendors.map fun v => fold v.name).Nodup
  vendors : ∀ v ∈ d.vendors, v.WellFormed

namespace Dictionary

variable {d : Dictionary} {v : Vendor}

lemma WellFormed.ids_nodup (hd : d.WellFormed) : (d.vendors.map (·.id)).Nodup :=
  hd.ids_ascending.imp fun h => UInt32.ne_of_lt h

lemma vendor?_eq_some_iff (hd : d.WellFormed) {id : UInt32} :
    d.vendor? id = some v ↔ v ∈ d.vendors ∧ v.id = id :=
  find?_eq_some_iff_of_nodup (fun _ => beq_iff_eq) hd.ids_nodup

lemma vendorNamed?_eq_some_iff (hd : d.WellFormed) {name : String} :
    d.vendorNamed? name = some v ↔ v ∈ d.vendors ∧ fold v.name = fold name :=
  find?_eq_some_iff_of_nodup (fun _ => sameName_iff) hd.names_nodup

lemma vendor?_eq_none_iff {id : UInt32} : d.vendor? id = none ↔ id ∉ d.vendors.map (·.id) :=
  find?_eq_none_iff_of_key fun _ => beq_iff_eq

lemma vendorNamed?_eq_none_iff {name : String} :
    d.vendorNamed? name = none ↔ fold name ∉ d.vendors.map fun v => fold v.name :=
  find?_eq_none_iff_of_key fun _ => sameName_iff

lemma wellFormed_empty : empty.WellFormed where
  ids_ascending := .nil
  names_nodup := .nil
  vendors := by simp [empty]

end Dictionary

end Radius
