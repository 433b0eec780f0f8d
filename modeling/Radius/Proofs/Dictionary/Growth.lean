/-
# Loading only adds

A text takes nothing away from the dictionary that it is loaded into.  Every vendor stays, under its
number and its name, and keeps the definitions it has in their order; new ones come after them, and
what changes in one that is there is its values (`Vendor.Grows`).
-/
import Radius.Proofs.Dictionary.Loading
import Radius.Proofs.Dictionary.Membership

namespace Radius

open Text

/-- A definition without its named values. -/
def Definition.header (d : Definition) : Definition :=
  { d with values := [] }

/-- A vendor with the same number and name, with the same definitions first, whose values may be
others. -/
structure Vendor.Grows (v v' : Vendor) : Prop where
  id_eq : v'.id = v.id
  name_eq : v'.name = v.name
  headers_prefix : v.attributes.map (·.header) <+: v'.attributes.map (·.header)

namespace Vendor

variable {v v' v'' : Vendor} {d e : Definition}

lemma Grows.refl (v : Vendor) : v.Grows v :=
  ⟨rfl, rfl, List.prefix_rfl⟩

lemma Grows.trans (h : v.Grows v') (h' : v'.Grows v'') : v.Grows v'' :=
  ⟨h'.id_eq.trans h.id_eq, h'.name_eq.trans h.name_eq, h.headers_prefix.trans h'.headers_prefix⟩

lemma Grows.length_le (h : v.Grows v') : v.attributes.length ≤ v'.attributes.length := by
  simpa using h.headers_prefix.length_le

lemma Grows.codes_subset (h : v.Grows v') :
    v.attributes.map (·.code) ⊆ v'.attributes.map (·.code) := by
  have hcodes := (h.headers_prefix.map (·.code)).subset
  simpa [List.map_map, Function.comp_def, Definition.header] using hcodes

lemma grows_insert (h : v.insert d = .ok v') : v.Grows v' := by
  obtain ⟨-, -, rfl⟩ := insert_eq_ok_iff.1 h
  refine ⟨rfl, rfl, ?_⟩
  rw [List.map_append]
  exact List.prefix_append _ _

lemma headers_replace (h : v.attribute? d.name = some e) (hheader : d.header = e.header) :
    (v.replace d).attributes.map (·.header) = v.attributes.map (·.header) := by
  obtain ⟨before, after, hold, hnew⟩ := attributes_replace h
  rw [hold, hnew, List.map_append, List.map_append, List.map_cons, List.map_cons, hheader]

/-- A value that is named changes no header. -/
lemma headers_declareValue {owner name : String} {number : Int32} (hv : v.WellFormed)
    (h : v.attribute? owner = some d) :
    (v.replace (d.declareValue name number)).attributes.map (·.header) =
      v.attributes.map (·.header) := by
  have hd : d ∈ v.attributes := ((attribute?_eq_some_iff hv).1 h).1
  have hfound : v.attribute? d.name = some d := (attribute?_eq_some_iff hv).2 ⟨hd, rfl⟩
  exact headers_replace (d := d.declareValue name number) hfound rfl

lemma grows_declareValue {owner name : String} {number : Int32} (hv : v.WellFormed)
    (h : v.attribute? owner = some d) : v.Grows (v.replace (d.declareValue name number)) :=
  ⟨rfl, rfl, headers_declareValue hv h ▸ List.prefix_rfl⟩

end Vendor

/-- A vendor that grows is updated in place. -/
lemma Dictionary.exists_grows_update {d : Dictionary} {v v' w : Vendor} (hd : d.WellFormed)
    (hv : v ∈ d.vendors) (hgrows : v.Grows v') (hw : w ∈ d.vendors) :
    ∃ w' ∈ (d.update v').vendors, w.Grows w' := by
  have hid : v'.id ∈ d.vendors.map (·.id) := hgrows.id_eq ▸ List.mem_map_of_mem hv
  by_cases hwv : w.id = v'.id
  · -- numbers are distinct, so it is the vendor itself
    obtain rfl : w = v :=
      List.inj_on_of_nodup_map hd.ids_nodup hw hv (hwv.trans hgrows.id_eq)
    exact ⟨v', (mem_vendors_update hid).2 (.inl rfl), hgrows⟩
  · exact ⟨w, (mem_vendors_update hid).2 (.inr ⟨hw, hwv⟩), .refl w⟩

namespace Loader

variable {s s' : Loader} {v : Vendor}

lemma Accepts.exists_grows {line : Nat} {directive : Directive} (h : Accepts s line directive s')
    (hs : s.dictionary.WellFormed) (hv : v ∈ s.dictionary.vendors) :
    ∃ v' ∈ s'.dictionary.vendors, v.Grows v' := by
  cases h with
  | declareVendor hid hformat hdeclare =>
      rcases (Dictionary.declare?_eq_some_iff hs).1 hdeclare with ⟨-, -, rfl⟩ | ⟨-, rfl⟩
      · exact ⟨v, Dictionary.mem_place.2 (.inr hv), .refl v⟩
      · exact ⟨v, hv, .refl v⟩
  | beginBlock hclosed hvendor => exact ⟨v, hv, .refl v⟩
  | endBlock hopen hname => exact ⟨v, hv, .refl v⟩
  | declareAttribute htarget hnumber hcode hinsert =>
      exact Dictionary.exists_grows_update hs (mem_vendors_of_target htarget)
        (Vendor.grows_insert hinsert) hv
  | declareValue hnumber hvendor howner hkind =>
      have hw := mem_vendors_of_valueVendor? hvendor
      exact Dictionary.exists_grows_update hs hw
        (Vendor.grows_declareValue (hs.vendors _ hw) howner) hv
  | unsupported => exact ⟨v, hv, .refl v⟩

/-- Every vendor is there after a text as it was before, except for what the text has added. -/
theorem exists_grows_of_run {lines : List SourceLine} (h : s.run lines = .ok s')
    (hs : s.dictionary.WellFormed) (hv : v ∈ s.dictionary.vendors) :
    ∃ v' ∈ s'.dictionary.vendors, v.Grows v' := by
  refine (run_induction (P := fun t => t.dictionary.WellFormed ∧
    ∃ v' ∈ t.dictionary.vendors, v.Grows v') ?_ h ⟨hs, v, hv, .refl v⟩).2
  rintro t line directive t' haccepts ⟨ht, v', hv', hgrows⟩
  obtain ⟨v'', hv'', hgrows'⟩ := haccepts.exists_grows ht hv'
  exact ⟨haccepts.wellFormed ht, v'', hv'', hgrows.trans hgrows'⟩

end Loader

end Radius
