/-
# The vendor attributes of a packet

The vendor attributes of a packet are those of its attributes, one after the other (`held_eq`);
attributes that cannot be read add none.  So what a packet holds falls apart where its list of
attributes does (`held_extended`), and searching it finds the vendor attribute that comes first
(`findVendor?_eq_some_iff`).
-/
import Radius.Packet
import Radius.Proofs.Wire.Wrapping

namespace Radius

open VendorSpecific (allOfAttribute)

/-- Whether a vendor attribute has the given numbers. -/
def VendorSpecific.Numbered (vendor : UInt32) (subType : UInt8) (v : VendorSpecific) : Prop :=
  v.vendor = vendor ∧ v.subType = subType

instance (vendor : UInt32) (subType : UInt8) :
    DecidablePred (VendorSpecific.Numbered vendor subType) :=
  fun v => inferInstanceAs (Decidable (v.vendor = vendor ∧ v.subType = subType))

/-! ### What an attribute holds -/

namespace Attribute

variable {a : Attribute} {v : VendorSpecific} {vs : List VendorSpecific}

/-- The vendor attributes that an attribute holds. One that cannot be read holds none. -/
def held (a : Attribute) : List VendorSpecific :=
  (allOfAttribute a).toOption.getD []

lemma held_of_ok (h : allOfAttribute a = .ok vs) : a.held = vs := by
  rw [held, h]
  rfl

lemma held_of_error {e : AttributeError} (h : allOfAttribute a = .error e) : a.held = [] := by
  rw [held, h]
  rfl

lemma held_of_toAttribute (h : v.toAttribute = .ok a) : a.held = [v] :=
  held_of_ok (VendorSpecific.allOfAttribute_eq_singleton_iff.2 h)

lemma held_of_type_ne (h : a.type ≠ 26) : a.held = [] := by
  cases hread : allOfAttribute a with
  | error e => exact held_of_error hread
  | ok vs => exact absurd (VendorSpecific.type_of_allOfAttribute hread) h

end Attribute

/-- The first vendor attribute with the given numbers that attributes hold. -/
inductive FirstHeld (vendor : UInt32) (subType : UInt8) : List Attribute → VendorSpecific → Prop
  /-- It is in the first attribute, and none before it there has the numbers. -/
  | here {a : Attribute} {rest : List Attribute} {found : VendorSpecific}
      {earlier later : List VendorSpecific}
      (hread : allOfAttribute a = .ok (earlier ++ found :: later))
      (hfound : found.Numbered vendor subType)
      (hearlier : ∀ v ∈ earlier, ¬ v.Numbered vendor subType) :
      FirstHeld vendor subType (a :: rest) found
  /-- None in the first attribute has the numbers. -/
  | without {a : Attribute} {rest : List Attribute} {found : VendorSpecific}
      {vs : List VendorSpecific} (hread : allOfAttribute a = .ok vs)
      (hnone : ∀ v ∈ vs, ¬ v.Numbered vendor subType)
      (hrest : FirstHeld vendor subType rest found) : FirstHeld vendor subType (a :: rest) found
  /-- The first attribute cannot be read. -/
  | unreadable {a : Attribute} {rest : List Attribute} {found : VendorSpecific}
      {e : AttributeError} (hread : allOfAttribute a = .error e)
      (hrest : FirstHeld vendor subType rest found) : FirstHeld vendor subType (a :: rest) found

/-! ### What a packet holds -/

namespace Packet

variable {p : Packet} {as : List Attribute} {vendor : UInt32} {subType : UInt8}
  {found : VendorSpecific}

/-- The vendor attributes that a packet holds, however they are packed. -/
def held (p : Packet) : List VendorSpecific :=
  p.vendorAttributes.flatMap fun read => read.toOption.getD []

/-- The packet with attributes after its own. -/
def extended (p : Packet) (as : List Attribute) : Packet :=
  { p with attributes := p.attributes ++ as }

lemma vendorAttributes_extended (p : Packet) (as : List Attribute) :
    (p.extended as).vendorAttributes =
      p.vendorAttributes ++ (as.filter (·.type == 26)).map allOfAttribute := by
  simp only [vendorAttributes, findAll, extended, List.filter_append, List.map_append]
  rfl

lemma held_eq (p : Packet) : p.held = p.attributes.flatMap Attribute.held := by
  have hskip : ∀ as : List Attribute,
      (as.filter (·.type == 26)).flatMap Attribute.held = as.flatMap Attribute.held := by
    intro as
    induction as with
    | nil => rfl
    | cons a rest ih =>
        by_cases htype : a.type = 26
        · rw [List.filter_cons_of_pos (by simpa using htype), List.flatMap_cons, ih,
            List.flatMap_cons]
        · rw [List.filter_cons_of_neg (by simpa using htype), ih, List.flatMap_cons,
            Attribute.held_of_type_ne htype, List.nil_append]
  rw [held, vendorAttributes, List.flatMap_map]
  exact hskip p.attributes

lemma held_extended (p : Packet) (as : List Attribute) :
    (p.extended as).held = p.held ++ as.flatMap Attribute.held := by
  rw [held_eq, held_eq, extended, List.flatMap_append]

/-! ### Searching -/

lemma findVendor?_eq_find? (p : Packet) (vendor : UInt32) (subType : UInt8) :
    p.findVendor? vendor subType = p.held.find? (·.Numbered vendor subType) := by
  have htest : (fun v : VendorSpecific => v.vendor == vendor && v.subType == subType) =
      fun v => decide (v.Numbered vendor subType) := by
    funext v
    rw [Bool.eq_iff_iff, decide_eq_true_iff, Bool.and_eq_true, beq_iff_eq, beq_iff_eq]
    rfl
  rw [findVendor?, htest, held]

/-- What is found behind a packet is found in the packet, or else behind it. -/
lemma findVendor?_extended (p : Packet) (as : List Attribute) (vendor : UInt32) (subType : UInt8) :
    (p.extended as).findVendor? vendor subType =
      (p.findVendor? vendor subType).or
        ((as.flatMap Attribute.held).find? (·.Numbered vendor subType)) := by
  rw [findVendor?_eq_find?, held_extended, List.find?_append, ← findVendor?_eq_find?]

lemma find?_held_eq_some_iff :
    (as.flatMap Attribute.held).find? (·.Numbered vendor subType) = some found ↔
      FirstHeld vendor subType as found := by
  constructor
  · intro h
    induction as with
    | nil => simp at h
    | cons a rest ih =>
        rw [List.flatMap_cons, List.find?_append] at h
        cases hread : allOfAttribute a with
        | error e =>
            rw [Attribute.held_of_error hread, List.find?_nil, Option.none_or] at h
            exact .unreadable hread (ih h)
        | ok vs =>
            rw [Attribute.held_of_ok hread] at h
            cases hfind : vs.find? (·.Numbered vendor subType) with
            | none =>
                rw [hfind, Option.none_or] at h
                exact .without hread (by simpa using hfind) (ih h)
            | some first =>
                rw [hfind, Option.some_or, Option.some.injEq] at h
                obtain ⟨hfound, earlier, later, rfl, hearlier⟩ :=
                  List.find?_eq_some_iff_append.1 hfind
                subst h
                exact .here hread (of_decide_eq_true hfound) (by simpa using hearlier)
  · intro h
    induction h with
    | @here a rest found earlier later hread hfound hearlier =>
        have hfind : (earlier ++ found :: later).find? (·.Numbered vendor subType) = some found :=
          List.find?_eq_some_iff_append.2
            ⟨decide_eq_true hfound, earlier, later, rfl, by simpa using hearlier⟩
        rw [List.flatMap_cons, List.find?_append, Attribute.held_of_ok hread, hfind,
          Option.some_or]
    | @without a rest found vs hread hnone _ ih =>
        have hfind : vs.find? (·.Numbered vendor subType) = none := by simpa using hnone
        rw [List.flatMap_cons, List.find?_append, Attribute.held_of_ok hread, hfind,
          Option.none_or, ih]
    | unreadable hread _ ih =>
        rw [List.flatMap_cons, List.find?_append, Attribute.held_of_error hread, List.find?_nil,
          Option.none_or, ih]

/-- What is found is the first of all vendor attributes that can be read. -/
lemma findVendor?_eq_some_iff :
    p.findVendor? vendor subType = some found ↔ FirstHeld vendor subType p.attributes found := by
  rw [findVendor?_eq_find?, held_eq, find?_held_eq_some_iff]

lemma findVendor?_eq_none_iff :
    p.findVendor? vendor subType = none ↔
      ∀ a ∈ p.attributes, ∀ vs, allOfAttribute a = .ok vs →
        ∀ v ∈ vs, ¬ v.Numbered vendor subType := by
  simp only [findVendor?_eq_find?, held_eq, List.find?_eq_none, List.mem_flatMap,
    decide_eq_true_eq]
  constructor
  · intro h a ha vs hread v hv
    exact h v ⟨a, ha, by rwa [Attribute.held_of_ok hread]⟩
  · rintro h v ⟨a, ha, hv⟩
    cases hread : allOfAttribute a with
    | error e => simp [Attribute.held_of_error hread] at hv
    | ok vs =>
        rw [Attribute.held_of_ok hread] at hv
        exact h a ha vs hread v hv

/-- Searching goes by what the attributes hold. -/
lemma findVendor?_congr {q : Packet} (h : p.held = q.held) (vendor : UInt32) (subType : UInt8) :
    p.findVendor? vendor subType = q.findVendor? vendor subType := by
  rw [findVendor?_eq_find?, findVendor?_eq_find?, h]

end Packet

end Radius
