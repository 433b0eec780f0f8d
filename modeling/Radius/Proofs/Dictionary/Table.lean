/-
# Changes of a dictionary

The operations that change a dictionary keep it well-formed: naming a value, adding a definition,
putting a definition in the place of another, and placing, replacing and merging vendors.  For each
operation it is said what becomes of the keys; that keys stay distinct follows from it.
-/
import Mathlib.Data.List.Pairwise
import Mathlib.Tactic.SplitIfs
import Radius.Proofs.Dictionary.WellFormed

namespace Radius

open Text

/-! ### Named values -/

namespace NamedValue

/-- Only a name that is new is added, and it is added at the end. -/
lemma map_name_declare (name : String) (number : Int32) (values : List NamedValue) :
    (declare name number values).map (·.name) =
      if (values.map (·.name)).any (sameName name) then values.map (·.name)
      else values.map (·.name) ++ [name] := by
  induction values with
  | nil => rfl
  | cons v rest ih =>
      rw [declare, List.map_cons, List.any_cons, sameName_comm name]
      cases hname : sameName v.name name with
      | true => rfl
      | false =>
          rw [if_neg Bool.false_ne_true, List.map_cons, ih, Bool.false_or]
          split_ifs <;> rfl

lemma names_declare (name : String) (number : Int32) (values : List NamedValue) :
    (declare name number values).map (fun v => fold v.name) =
      if fold name ∈ values.map (fun v => fold v.name) then values.map fun v => fold v.name
      else values.map (fun v => fold v.name) ++ [fold name] := by
  have hfold : ∀ values : List NamedValue,
      values.map (fun v => fold v.name) = (values.map (·.name)).map fold := by simp
  have hnew : (values.map (·.name)).any (sameName name) = true ↔
      fold name ∈ (values.map (·.name)).map fold := by
    simp [sameName_iff, eq_comm (a := fold name)]
  rw [hfold, hfold, map_name_declare]
  simp only [hnew, apply_ite (List.map fold), List.map_append, List.map_singleton]

/-- The name that is declared is looked up to its number, any other as before. -/
lemma find?_declare (name other : String) (number : Int32) (values : List NamedValue) :
    ((declare name number values).find? fun v => sameName v.name other).map (·.number) =
      if sameName name other then some number
      else (values.find? fun v => sameName v.name other).map (·.number) := by
  induction values with
  | nil => cases hother : sameName name other <;> simp [declare, hother]
  | cons v rest ih =>
      rw [declare]
      by_cases hname : fold v.name = fold name
      · have hsame : sameName v.name other = sameName name other := by
          simp only [sameName, hname]
        rw [if_pos (sameName_iff.2 hname), List.find?_cons, List.find?_cons, hsame]
        cases sameName name other <;> rfl
      · rw [if_neg fun h => hname (sameName_iff.1 h), List.find?_cons, List.find?_cons]
        cases hv : sameName v.name other with
        | false => exact ih
        | true =>
            -- the first value has the other name, so it is not the one that is declared
            have hother : ¬ sameName name other = true := fun h =>
              hname ((sameName_iff.1 hv).trans (sameName_iff.1 h).symm)
            rw [if_neg hother]

end NamedValue

lemma Definition.WellFormed.declareValue {d : Definition} (hd : d.WellFormed)
    (hkind : d.kind = .integer) (name : String) (number : Int32) :
    (d.declareValue name number).WellFormed where
  code_ne_zero := hd.code_ne_zero
  valueNames_nodup := by
    show ((NamedValue.declare name number d.values).map fun v => fold v.name).Nodup
    rw [NamedValue.names_declare]
    split_ifs with hmem
    · exact hd.valueNames_nodup
    · rw [← List.concat_eq_append]
      exact hd.valueNames_nodup.concat hmem
  integer_of_values := fun _ => hkind

/-! ### Tables of definitions -/

namespace Vendor

variable {v v' : Vendor} {d e : Definition}

/-- A definition is added at the end, if its name and its code are both new. -/
lemma insert_eq_ok_iff :
    v.insert d = .ok v' ↔
      fold d.name ∉ v.attributes.map (fun e => fold e.name) ∧
      d.code ∉ v.attributes.map (·.code) ∧
      v' = { v with attributes := v.attributes ++ [d] } := by
  have htaken : (v.attribute? d.name).isSome ∨ (v.attributeOf? d.code).isSome ↔
      ¬ (fold d.name ∉ v.attributes.map (fun e => fold e.name) ∧
        d.code ∉ v.attributes.map (·.code)) := by
    rw [← attribute?_eq_none_iff, ← attributeOf?_eq_none_iff, Decidable.not_and_iff_or_not,
      Option.isSome_iff_ne_none, Option.isSome_iff_ne_none]
  rw [insert]
  constructor
  · intro h
    split_ifs at h with hfree
    rw [htaken, Decidable.not_not] at hfree
    exact ⟨hfree.1, hfree.2, (Except.ok.inj h).symm⟩
  · rintro ⟨hname, hcode, rfl⟩
    rw [if_neg fun h => htaken.1 h ⟨hname, hcode⟩]

lemma WellFormed.insert (hv : v.WellFormed) (hd : d.WellFormed) (h : v.insert d = .ok v') :
    v'.WellFormed := by
  obtain ⟨hname, hcode, rfl⟩ := insert_eq_ok_iff.1 h
  constructor
  · show ((v.attributes ++ [d]).map fun e => fold e.name).Nodup
    rw [List.map_append, List.map_singleton, ← List.concat_eq_append]
    exact hv.names_nodup.concat hname
  · show ((v.attributes ++ [d]).map (·.code)).Nodup
    rw [List.map_append, List.map_singleton, ← List.concat_eq_append]
    exact hv.codes_nodup.concat hcode
  · intro e he
    rcases List.mem_append.1 he with he | he
    · exact hv.definitions e he
    · obtain rfl := List.mem_singleton.1 he
      exact hd

lemma go_eq_of_find? {l : List Definition}
    (h : l.find? (fun f => sameName f.name d.name) = some e) :
    ∃ before after, l = before ++ e :: after ∧ replace.go d l = before ++ d :: after := by
  induction l with
  | nil => simp at h
  | cons f rest ih =>
      rw [replace.go]
      cases hname : sameName f.name d.name with
      | true =>
          simp only [List.find?_cons, hname] at h
          obtain rfl := Option.some.inj h
          exact ⟨[], rest, rfl, rfl⟩
      | false =>
          simp only [List.find?_cons, hname] at h
          obtain ⟨before, after, hrest, hgo⟩ := ih h
          refine ⟨f :: before, after, by rw [hrest, List.cons_append], ?_⟩
          rw [if_neg Bool.false_ne_true, hgo, List.cons_append]

/-- The new definition stands where the old one stood, and nothing else moves. -/
lemma attributes_replace (h : v.attribute? d.name = some e) :
    ∃ before after, v.attributes = before ++ e :: after ∧
      (v.replace d).attributes = before ++ d :: after :=
  go_eq_of_find? h

/-- In a table in which a value is named the definition of the value's attribute is another one. -/
lemma mem_attributes_declareValue {f : Definition} {name : String} {number : Int32}
    (hv : v.WellFormed) (he : e ∈ v.attributes) :
    f ∈ (v.replace (e.declareValue name number)).attributes ↔
      f = e.declareValue name number ∨ (f ∈ v.attributes ∧ f.code ≠ e.code) := by
  have hfound : v.attribute? e.name = some e := (attribute?_eq_some_iff hv).2 ⟨he, rfl⟩
  obtain ⟨first, last, hold, hnew⟩ := attributes_replace (d := e.declareValue name number) hfound
  -- codes are distinct, so those around the definition are others
  have hcodes := hv.codes_nodup
  rw [hold, List.map_append, List.map_cons, List.nodup_middle, List.nodup_cons, ← List.map_append,
    List.mem_map] at hcodes
  have hother : ∀ g ∈ first ++ last, g.code ≠ e.code := fun g hg hcode =>
    hcodes.1 ⟨g, hg, hcode⟩
  rw [hnew, hold]
  simp only [List.mem_append, List.mem_cons] at hother ⊢
  constructor
  · rintro (hf | rfl | hf)
    · exact .inr ⟨.inl hf, hother f (.inl hf)⟩
    · exact .inl rfl
    · exact .inr ⟨.inr (.inr hf), hother f (.inr hf)⟩
  · rintro (rfl | ⟨hf | rfl | hf, hcode⟩)
    · exact .inr (.inl rfl)
    · exact .inl hf
    · exact absurd rfl hcode
    · exact .inr (.inr hf)

lemma WellFormed.replace (hv : v.WellFormed) (hd : d.WellFormed)
    (h : v.attribute? d.name = some e) (hcode : d.code = e.code) : (v.replace d).WellFormed := by
  have hname : fold e.name = fold d.name := ((attribute?_eq_some_iff hv).1 h).2
  obtain ⟨before, after, hold, hnew⟩ := attributes_replace h
  -- the keys of the old table and of the new one are the same lists
  constructor
  · have hkeys := hv.names_nodup
    rw [hold, List.map_append, List.map_cons, hname] at hkeys
    rw [hnew, List.map_append, List.map_cons]
    exact hkeys
  · have hkeys := hv.codes_nodup
    rw [hold, List.map_append, List.map_cons, ← hcode] at hkeys
    rw [hnew, List.map_append, List.map_cons]
    exact hkeys
  · intro f hf
    rw [hnew, List.mem_append, List.mem_cons] at hf
    rcases hf with hf | rfl | hf
    · exact hv.definitions f (by simp [hold, hf])
    · exact hd
    · exact hv.definitions f (by simp [hold, hf])

end Vendor

/-! ### Registries of vendors -/

namespace Dictionary

variable {d d' other : Dictionary} {v w : Vendor} {l : List Vendor}

lemma place_perm (v : Vendor) (l : List Vendor) : (place v l).Perm (v :: l) := by
  induction l with
  | nil => exact .refl _
  | cons w rest ih =>
      rw [place]
      split_ifs with hlt
      · exact .refl _
      · exact (ih.cons w).trans (.swap v w rest)

lemma mem_place : w ∈ place v l ↔ w = v ∨ w ∈ l := by
  rw [(place_perm v l).mem_iff, List.mem_cons]

lemma ids_place_ascending (hl : (l.map (·.id)).Pairwise (· < ·)) (hv : v.id ∉ l.map (·.id)) :
    ((place v l).map (·.id)).Pairwise (· < ·) := by
  rw [List.pairwise_map] at hl ⊢
  induction l with
  | nil => exact List.pairwise_singleton _ _
  | cons w rest ih =>
      obtain ⟨hw, hrest⟩ := List.pairwise_cons.1 hl
      rw [List.map_cons, List.mem_cons, not_or] at hv
      rw [place]
      split_ifs with hlt
      · refine List.pairwise_cons.2 ⟨?_, hl⟩
        intro u hu
        rcases List.mem_cons.1 hu with rfl | hu
        · exact hlt
        · exact UInt32.lt_trans hlt (hw u hu)
      · refine List.pairwise_cons.2 ⟨?_, ih hrest hv.2⟩
        intro u hu
        rcases mem_place.1 hu with rfl | hu
        · have hne : w.id.toNat ≠ u.id.toNat := fun h => hv.1 (UInt32.toNat_inj.1 h).symm
          rw [UInt32.lt_iff_toNat_lt] at hlt ⊢
          omega
        · exact hw u hu

lemma WellFormed.place (hd : WellFormed ⟨l⟩) (hv : v.WellFormed) (hid : v.id ∉ l.map (·.id))
    (hname : fold v.name ∉ l.map fun w => fold w.name) : WellFormed ⟨place v l⟩ where
  ids_ascending := ids_place_ascending hd.ids_ascending hid
  names_nodup := by
    rw [((place_perm v l).map _).nodup_iff, List.map_cons, List.nodup_cons]
    exact ⟨hname, hd.names_nodup⟩
  vendors := by
    intro w hw
    rcases mem_place.1 hw with rfl | hw
    · exact hv
    · exact hd.vendors w hw

lemma WellFormed.filter (hd : WellFormed ⟨l⟩) (p : Vendor → Bool) : WellFormed ⟨l.filter p⟩ where
  ids_ascending := hd.ids_ascending.sublist (List.filter_sublist.map _)
  names_nodup := hd.names_nodup.sublist (List.filter_sublist.map _)
  vendors := fun v hv => hd.vendors v (List.mem_of_mem_filter hv)

lemma WellFormed.put (hd : d.WellFormed) (hv : v.WellFormed) : (d.put v).WellFormed := by
  -- whatever could clash with the vendor is gone
  have hfree : ∀ w ∈ d.vendors.filter fun w => !(w.id == v.id || sameName w.name v.name),
      w.id ≠ v.id ∧ fold w.name ≠ fold v.name := by
    intro w hw
    simpa [sameName] using (List.mem_filter.1 hw).2
  refine (hd.filter _).place hv ?_ ?_
  · rw [List.mem_map]
    rintro ⟨w, hw, hid⟩
    exact (hfree w hw).1 hid
  · rw [List.mem_map]
    rintro ⟨w, hw, hname⟩
    exact (hfree w hw).2 hname

lemma WellFormed.merge (hd : d.WellFormed) (hother : other.WellFormed) :
    (d.merge other).WellFormed :=
  List.foldlRecOn other.vendors Dictionary.put hd fun _ hd v hv => hd.put (hother.vendors v hv)

/-- A vendor is declared anew, with no attributes, if its name and number are both new, and again if
it is there. -/
lemma declare?_eq_some_iff (hd : d.WellFormed) {name : String} {id : UInt32} :
    d.declare? name id = some d' ↔
      (fold name ∉ d.vendors.map (fun v => fold v.name) ∧ id ∉ d.vendors.map (·.id) ∧
        d' = ⟨place { name, id } d.vendors⟩) ∨
      (∃ v ∈ d.vendors, v.id = id ∧ fold v.name = fold name) ∧ d' = d := by
  rw [← vendorNamed?_eq_none_iff, ← vendor?_eq_none_iff]
  -- since keys are distinct, both searches find the vendor that has the number and the name
  have hthere : (∃ v ∈ d.vendors, v.id = id ∧ fold v.name = fold name) ↔
      ∃ v w, d.vendorNamed? name = some v ∧ d.vendor? id = some w ∧ v.id = id ∧
        sameName w.name name = true := by
    constructor
    · rintro ⟨v, hv, hid, hname⟩
      exact ⟨v, v, (vendorNamed?_eq_some_iff hd).2 ⟨hv, hname⟩,
        (vendor?_eq_some_iff hd).2 ⟨hv, hid⟩, hid, sameName_iff.2 hname⟩
    · rintro ⟨v, w, hv, hw, hid, hname⟩
      obtain ⟨hw, hwid⟩ := (vendor?_eq_some_iff hd).1 hw
      exact ⟨w, hw, hwid, sameName_iff.1 hname⟩
  rw [hthere, declare?]
  cases d.vendorNamed? name with
  | none => cases d.vendor? id <;> simp [eq_comm (a := d')]
  | some v =>
      cases d.vendor? id with
      | none => simp
      | some w =>
          show (if v.id = id ∧ sameName w.name name = true then some d else none) = some d' ↔ _
          split_ifs with hsame <;> simp [hsame, eq_comm (a := d')]

lemma wellFormed_vendor_nil (name : String) (id : UInt32) : Vendor.WellFormed { name, id } where
  names_nodup := .nil
  codes_nodup := .nil
  definitions := by simp

lemma WellFormed.declare? (hd : d.WellFormed) {name : String} {id : UInt32}
    (h : d.declare? name id = some d') : d'.WellFormed := by
  rcases (declare?_eq_some_iff hd).1 h with ⟨hname, hid, rfl⟩ | ⟨-, rfl⟩
  · exact WellFormed.place hd (wellFormed_vendor_nil name id) hid hname
  · exact hd

/-- A table that takes the place of another with the same keys leaves the keys as they are. -/
lemma WellFormed.update (hd : d.WellFormed) (hv : v.WellFormed) (hw : w ∈ d.vendors)
    (hid : v.id = w.id) (hname : v.name = w.name) : (d.update v).WellFormed := by
  have hsame : ∀ u ∈ d.vendors, u.id = v.id → u = w := fun u hu huid =>
    List.inj_on_of_nodup_map hd.ids_nodup hu hw (huid.trans hid)
  have hids : (d.update v).vendors.map (·.id) = d.vendors.map (·.id) := by
    rw [Dictionary.update, List.map_map]
    refine List.map_congr_left fun u _ => ?_
    by_cases hu : u.id = v.id <;> simp [hu]
  have hnames : (d.update v).vendors.map (fun u => fold u.name) =
      d.vendors.map fun u => fold u.name := by
    rw [Dictionary.update, List.map_map]
    refine List.map_congr_left fun u hmem => ?_
    by_cases hu : u.id = v.id
    · rw [Function.comp_apply, if_pos hu, hname, hsame u hmem hu]
    · rw [Function.comp_apply, if_neg hu]
  refine ⟨hids ▸ hd.ids_ascending, hnames ▸ hd.names_nodup, ?_⟩
  intro u hu
  obtain ⟨u, hmem, rfl⟩ := List.mem_map.1 hu
  split_ifs
  · exact hv
  · exact hd.vendors u hmem

end Dictionary

end Radius
