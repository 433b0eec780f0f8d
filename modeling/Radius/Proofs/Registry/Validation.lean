/-
# Describing and validating through the indexes

A reachable registry describes and validates vendor attributes as the dictionary does without the
indexes (`describe_dictionary`, `violation?_dictionary`), as every table stands under the number of
its vendor.  Whatever keeps an attribute from being described is the violation that both modes find;
what else the strict mode finds is what its description lacks (`Described.Lacks`).
-/
import Radius.Proofs.Registry.Reachable
import Radius.Proofs.Validation
import Radius.Registry.Validation

namespace Radius

/-- What the strict mode misses in the description of an attribute.  A value without a name is
missed only where the attribute is `enumerated`, that is, has values with names. -/
inductive Described.Lacks (described : Described) (enumerated : Prop) : Violation → Prop
  | vendor (hvendor : described.vendorName = none) :
      Lacks described enumerated (.unknownVendor described.vendorId)
  | attribute {vendor : String} (hvendor : described.vendorName = some vendor)
      (hname : described.name = none) :
      Lacks described enumerated (.unknownAttribute vendor described.subType)
  | valueName {name : String} {number : Int32} (hname : described.name = some name)
      (hvalue : described.value = .integer number) (hlisted : described.valueName = none)
      (henumerated : enumerated) :
      Lacks described enumerated (.unlistedValue name number)

/-! ### Dictionaries -/

namespace Dictionary

variable {d : Dictionary} {a : VendorSpecific} {described : Described} {violation : Violation}

/-- The definition of a vendor attribute, if its vendor and its code are known. -/
def definition? (d : Dictionary) (a : VendorSpecific) : Option Definition :=
  (d.vendor? a.vendor).bind (·.attributeOf? a.subType)

lemma definition?_eq_some_iff {definition : Definition} :
    d.definition? a = some definition ↔
      ∃ v, d.vendor? a.vendor = some v ∧ v.attributeOf? a.subType = some definition :=
  Option.bind_eq_some_iff

/-- The lenient mode finds exactly what stands in the way of a description. -/
lemma violation?_lenient_iff_describe :
    d.violation? .lenient a = some violation ↔
      ∃ definition e, d.definition? a = some definition ∧
        d.describe a = .error (.badAttribute e) ∧ violation = .invalidValue definition.name e := by
  simp only [violation?_lenient_eq_some_iff, describe_eq_error_iff, definition?_eq_some_iff]
  constructor
  · rintro ⟨v, definition, e, hvendor, hknown, hread, rfl⟩
    exact ⟨definition, e, ⟨v, hvendor, hknown⟩,
      ⟨v, definition, e, hvendor, hknown, hread, rfl⟩, rfl⟩
  · rintro ⟨definition, e, ⟨v, hvendor, hknown⟩,
      ⟨v', definition', e', hvendor', hknown', hread, he⟩, rfl⟩
    -- both say of which vendor and which definition they speak
    obtain rfl := Option.some.inj (hvendor.symm.trans hvendor')
    obtain rfl := Option.some.inj (hknown.symm.trans hknown')
    obtain rfl := DictionaryError.badAttribute.inj he
    exact ⟨v, definition, e, hvendor, hknown, hread, rfl⟩

lemma exists_violation?_lenient {error : DictionaryError} (h : d.describe a = .error error) :
    ∃ violation, d.violation? .lenient a = some violation :=
  Option.ne_none_iff_exists'.1 (violation?_ne_none_of_describe h .lenient)

/-- Of a described attribute the strict mode finds what the description lacks. -/
lemma violation?_strict_iff_lacks (h : d.describe a = .ok described) :
    d.violation? .strict a = some violation ↔
      described.Lacks (∃ definition, d.definition? a = some definition ∧ definition.values ≠ [])
        violation := by
  rw [describe] at h
  rw [violation?, definition?]
  cases hvendor : d.vendor? a.vendor with
  | none =>
      simp only [hvendor] at h ⊢
      obtain rfl := Except.ok.inj h
      constructor
      · intro hviolation
        obtain rfl := Option.some.inj hviolation
        exact .vendor rfl
      · rintro (_ | ⟨hname, -⟩ | ⟨hname, -⟩)
        · rfl
        · simp [Described.unknown] at hname
        · simp [Described.unknown] at hname
  | some v =>
      have hid : v.id = a.vendor := by
        simpa using List.find?_some hvendor
      simp only [hvendor, Vendor.describe, hid, ne_eq, not_true, if_false] at h ⊢
      cases hknown : v.attributeOf? a.subType with
      | none =>
          simp only [hknown] at h ⊢
          obtain rfl := Except.ok.inj h
          constructor
          · intro hviolation
            obtain rfl := Option.some.inj hviolation
            exact .attribute rfl rfl
          · rintro (hname | ⟨hname, -⟩ | ⟨hname, -⟩)
            · simp at hname
            · obtain rfl := Option.some.inj hname
              rfl
            · simp [Described.unknown] at hname
      | some definition =>
          simp only [hknown] at h ⊢
          cases hread : definition.decodeValue a.value with
          | error e => simp [hread] at h
          | ok read =>
              obtain ⟨tag, value⟩ := read
              simp only [hread] at h
              obtain rfl := Except.ok.inj h
              rw [Definition.violation?_strict_eq_some_iff hread]
              constructor
              · rintro ⟨number, rfl, hlisted, hvalues, rfl⟩
                exact .valueName rfl rfl hlisted ⟨definition, hknown, hvalues⟩
              · rintro (hname | ⟨-, hname⟩ |
                  ⟨hname, hvalue, hlisted, definition', hknown', hvalues⟩)
                · simp at hname
                · simp at hname
                · obtain rfl := Option.some.inj hname
                  obtain rfl := Option.some.inj (hknown.symm.trans hknown')
                  subst hvalue
                  exact ⟨_, rfl, hlisted, hvalues, rfl⟩

end Dictionary

/-! ### Registries -/

namespace Registry

variable {r : Registry} {a : VendorSpecific}

/-- The definition of a vendor attribute, if its vendor and its code are known. -/
def definition? (r : Registry) (a : VendorSpecific) : Option Definition :=
  (r.vendor? a.vendor).bind (·.attributeOf? a.subType)

lemma definition?_dictionary (hr : r.Coherent) (a : VendorSpecific) :
    r.dictionary.definition? a = r.definition? a := by
  rw [Dictionary.definition?, definition?, hr.vendor?_dictionary]
  cases hvendor : r.vendor? a.vendor with
  | none => rfl
  | some t =>
      have ht : t.Coherent := hr.coherent_of_mem (hr.vendor?_eq_some_iff.1 hvendor).1
      exact (Table.attributeOf?_vendor ht a.subType).symm

lemma describe_dictionary (hr : r.Coherent) (a : VendorSpecific) :
    r.dictionary.describe a = r.describe a := by
  rw [Dictionary.describe, describe, hr.vendor?_dictionary]
  cases hvendor : r.vendor? a.vendor with
  | none => rfl
  | some t =>
      have ht : t.Coherent := hr.coherent_of_mem (hr.vendor?_eq_some_iff.1 hvendor).1
      have hfound : t.vendor.attributeOf? a.subType = t.attributeOf? a.subType :=
        (Table.attributeOf?_vendor ht a.subType).symm
      simp only [Option.map_some, Vendor.describe, Table.describe, hfound]
      rfl

lemma violation?_dictionary (hr : r.Coherent) (mode : Mode) (a : VendorSpecific) :
    r.dictionary.violation? mode a = r.violation? mode a := by
  unfold Dictionary.violation? violation?
  rw [hr.vendor?_dictionary]
  cases hvendor : r.vendor? a.vendor with
  | none => rfl
  | some t =>
      have ht : t.Coherent := hr.coherent_of_mem (hr.vendor?_eq_some_iff.1 hvendor).1
      have hfound : t.vendor.attributeOf? a.subType = t.attributeOf? a.subType :=
        (Table.attributeOf?_vendor ht a.subType).symm
      simp only [Option.map_some, hfound]
      rfl

/-- **Describing and validating agree.**  In a registry that loading and merging can make, the
lenient mode finds fault with a vendor attribute exactly where the attribute has no description: the
attribute is known, and the violation and the refusal to describe it carry the one error of its
value.  What the lenient mode finds, the strict mode finds.  And where there is a description, the
strict mode finds what the description lacks: the name of the vendor, the name of the attribute, or
the name of a number where the attribute has named values. -/
theorem Reachable.validation_agrees_with_description {r : Registry} (h : Reachable r)
    (a : VendorSpecific) :
    (∀ violation, r.violation? .lenient a = some violation ↔
      ∃ definition e, r.definition? a = some definition ∧
        r.describe a = .error (.badAttribute e) ∧ violation = .invalidValue definition.name e) ∧
      (∀ error, r.describe a = .error error →
        ∃ violation, r.violation? .lenient a = some violation) ∧
      (∀ violation, r.violation? .lenient a = some violation →
        r.violation? .strict a = some violation) ∧
      ∀ described, r.describe a = .ok described → ∀ violation,
        r.violation? .strict a = some violation ↔
          described.Lacks (∃ definition, r.definition? a = some definition ∧ definition.values ≠ [])
            violation := by
  rw [← definition?_dictionary h.coherent, ← describe_dictionary h.coherent]
  simp only [← violation?_dictionary h.coherent]
  refine ⟨?_, ?_, ?_, ?_⟩
  · intro violation
    exact Dictionary.violation?_lenient_iff_describe
  · intro error herror
    exact Dictionary.exists_violation?_lenient herror
  · intro violation hlenient
    exact Dictionary.violation?_of_lenient hlenient .strict
  · intro described hdescribe violation
    exact Dictionary.violation?_strict_iff_lacks hdescribe

/-- A number without a name behind a tag, and a value that is too short for a number. -/
theorem validation_agrees_with_description_unlisted :
    ∃ r, Reachable r ∧
      r.describe ⟨5, 2, [3, 0, 0, 2], by decide, by decide⟩ =
        .ok ⟨5, some "Tunnels", 2, some "Weight", some 3, .integer 2, none⟩ ∧
      r.violation? .strict ⟨5, 2, [3, 0, 0, 2], by decide, by decide⟩ =
        some (.unlistedValue "Weight" 2) ∧
      r.describe ⟨5, 2, [0, 0, 2], by decide, by decide⟩ =
        .error (.badAttribute (.malformed (.integerLength 3))) ∧
      r.violation? .strict ⟨5, 2, [0, 0, 2], by decide, by decide⟩ =
        some (.invalidValue "Weight" (.malformed (.integerLength 3))) := by
  have htunnels : Dictionary.load empty.dictionary
      "VENDOR Tunnels 5\nATTRIBUTE Weight 2 integer Tunnels has_tag\nVALUE Weight Low 1" =
      .ok ⟨[⟨"Tunnels", 5, [⟨"Weight", 2, "integer", ["has_tag"], [⟨"Low", 1⟩]⟩]⟩]⟩ := rfl
  obtain ⟨r, hparse, hr⟩ := exists_load coherent_empty htunnels
  have hreachable : Reachable r := .parse hparse
  have hdefinition : ∀ a : VendorSpecific, a.vendor = 5 → a.subType = 2 →
      r.definition? a = some ⟨"Weight", 2, "integer", ["has_tag"], [⟨"Low", 1⟩]⟩ := by
    intro a hvendor hcode
    rw [← definition?_dictionary hreachable.coherent, hr, Dictionary.definition?, hvendor, hcode]
    rfl
  have hnumber : r.describe ⟨5, 2, [3, 0, 0, 2], by decide, by decide⟩ =
      .ok ⟨5, some "Tunnels", 2, some "Weight", some 3, .integer 2, none⟩ := by
    rw [← describe_dictionary hreachable.coherent, hr]
    rfl
  have hshort : r.describe ⟨5, 2, [0, 0, 2], by decide, by decide⟩ =
      .error (.badAttribute (.malformed (.integerLength 3))) := by
    rw [← describe_dictionary hreachable.coherent, hr]
    rfl
  obtain ⟨-, -, -, hstrict⟩ :=
    Reachable.validation_agrees_with_description hreachable
      ⟨5, 2, [3, 0, 0, 2], by decide, by decide⟩
  obtain ⟨hlenient, -, hboth, -⟩ :=
    Reachable.validation_agrees_with_description hreachable
      ⟨5, 2, [0, 0, 2], by decide, by decide⟩
  refine ⟨r, hreachable, hnumber, ?_, hshort, ?_⟩
  · exact (hstrict _ hnumber _).2
      (.valueName rfl rfl rfl ⟨_, hdefinition _ rfl rfl, List.cons_ne_nil _ _⟩)
  · exact hboth _ ((hlenient _).2 ⟨_, _, hdefinition _ rfl rfl, hshort, rfl⟩)

end Registry

end Radius
