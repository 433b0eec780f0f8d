/-
# Building and describing

What a vendor's table builds out of a name, a tag and a value, the dictionary describes by the same
name, tag and value; and what it describes as an attribute it knows can be built again.  Two corners
are left out.  Text or octets that are written without a tag and start with an octet that is one are
read as tagged (`Definition.Ambiguous`); and a number whose first octet is above the tags is read
with a tag that cannot be written (`Definition.Overtagged`).
-/
import Mathlib.Data.List.TakeWhile
import Radius.Proofs.Dictionary.Reachable
import Radius.Proofs.Dictionary.TaggedValue
import Radius.Proofs.Wire.VendorFrame
import Radius.Validation

namespace Radius

open Text Outcome

/-! ### Names with tags -/

/-- How an operator refers to an attribute: by its name, or by its name and a tag in digits after
the last colon. -/
inductive Names (spec : String) : String → Option UInt8 → Prop
  | plain (hcolon : ':' ∉ spec.toList) : Names spec spec none
  | tagged {name : String} {digits : List Char} {tag : UInt8}
      (hspec : spec.toList = name.toList ++ ':' :: digits) (hcolon : ':' ∉ digits)
      (htag : octet? digits = some tag) : Names spec name (some tag)

lemma names_of_splitTag {spec name : String} {tag : Option UInt8}
    (h : splitTag spec = .ok (name, tag)) : Names spec name tag := by
  unfold splitTag at h
  have hsplit := List.takeWhile_append_dropWhile (p := (· != ':')) (l := spec.toList.reverse)
  cases hrest : spec.toList.reverse.dropWhile (· != ':') with
  | nil =>
      simp only [hrest] at h
      obtain ⟨rfl, rfl⟩ := Prod.mk.inj (Except.ok.inj h)
      refine .plain fun hcolon => ?_
      have hnone := List.dropWhile_eq_nil_iff.1 hrest ':' (List.mem_reverse.2 hcolon)
      simp at hnone
  | cons c rest =>
      simp only [hrest] at h
      have hc : c = ':' := by
        have hhead := List.head?_dropWhile_not (· != ':') spec.toList.reverse
        simpa [hrest] using hhead
      cases htag : octet? (spec.toList.reverse.takeWhile (· != ':')).reverse with
      | none => simp [htag] at h
      | some t =>
          simp only [htag] at h
          obtain ⟨rfl, rfl⟩ := Prod.mk.inj (Except.ok.inj h)
          rw [hrest, hc] at hsplit
          -- the characters were searched from the last one on
          refine .tagged ?_ ?_ htag
          · have hspec := congrArg List.reverse hsplit
            simpa using hspec.symm
          · intro hcolon
            have hdigit := List.mem_takeWhile_imp (List.mem_reverse.1 hcolon)
            simp at hdigit

lemma splitTag_of_names {spec name : String} {tag : Option UInt8} (h : Names spec name tag) :
    splitTag spec = .ok (name, tag) := by
  unfold splitTag
  cases h with
  | plain hcolon =>
      have hrest : spec.toList.reverse.dropWhile (· != ':') = [] := by
        rw [List.dropWhile_eq_nil_iff]
        intro c hc
        have hne : c ≠ ':' := fun h => hcolon (h ▸ List.mem_reverse.1 hc)
        simpa using hne
      simp only [hrest]
  | @tagged name digits tag hspec hcolon htag =>
      have hreverse : spec.toList.reverse = digits.reverse ++ ':' :: name.toList.reverse := by
        simp [hspec]
      have hdigits : ∀ c ∈ digits.reverse, (c != ':') = true := by
        intro c hc
        have hne : c ≠ ':' := fun h => hcolon (h ▸ List.mem_reverse.1 hc)
        simpa using hne
      simp only [hreverse, List.dropWhile_append_of_pos hdigits,
        List.takeWhile_append_of_pos hdigits]
      simp [htag]

lemma splitTag_eq_ok_iff {spec name : String} {tag : Option UInt8} :
    splitTag spec = .ok (name, tag) ↔ Names spec name tag :=
  ⟨names_of_splitTag, splitTag_of_names⟩

/-! ### Descriptions -/

/-- The description of an attribute with the given definition, tag and value. -/
def Described.ofDefinition (v : Vendor) (definition : Definition) (tag : Option UInt8)
    (value : Value) : Described where
  vendorId := v.id
  vendorName := some v.name
  subType := definition.code
  name := some definition.name
  tag := tag
  value := value
  valueName := value.integer?.bind definition.nameOf?

namespace Dictionary

variable {d : Dictionary} {v : Vendor} {definition : Definition} {a : VendorSpecific}
  {described : Described}

/-- An attribute that the dictionary knows is described by its definition. -/
lemma describe_of_mem (hd : d.WellFormed) (hv : v ∈ d.vendors)
    (hdefinition : definition ∈ v.attributes) (hvendor : v.id = a.vendor)
    (hcode : definition.code = a.subType) {tag : Option UInt8} {value : Value}
    (hread : definition.decodeValue a.value = .ok (tag, value)) :
    d.describe a = .ok (.ofDefinition v definition tag value) := by
  have hfound := (vendor?_eq_some_iff hd).2 ⟨hv, hvendor⟩
  have hknown := (Vendor.attributeOf?_eq_some_iff (hd.vendors v hv)).2 ⟨hdefinition, hcode⟩
  simp only [describe, Vendor.describe, hfound, hknown, hread, hvendor, ne_eq, not_true, if_false,
    Described.ofDefinition, hcode]

/-- A description with a name comes from the definition of the attribute's number in the table of
the attribute's vendor. -/
lemma eq_ofDefinition_of_describe (hd : d.WellFormed) (h : d.describe a = .ok described)
    (hname : described.name ≠ none) :
    ∃ v ∈ d.vendors, v.id = a.vendor ∧ ∃ definition ∈ v.attributes, definition.code = a.subType ∧
      definition.decodeValue a.value = .ok (described.tag, described.value) ∧
      described = .ofDefinition v definition described.tag described.value := by
  rw [describe] at h
  cases hfound : d.vendor? a.vendor with
  | none =>
      simp only [hfound] at h
      obtain rfl := Except.ok.inj h
      exact absurd rfl hname
  | some v =>
      simp only [hfound] at h
      obtain ⟨hv, hvendor⟩ := (vendor?_eq_some_iff hd).1 hfound
      rw [Vendor.describe, if_neg (not_not_intro hvendor.symm)] at h
      cases hknown : v.attributeOf? a.subType with
      | none =>
          simp only [hknown] at h
          obtain rfl := Except.ok.inj h
          exact absurd rfl hname
      | some definition =>
          simp only [hknown] at h
          obtain ⟨hdefinition, hcode⟩ :=
            (Vendor.attributeOf?_eq_some_iff (hd.vendors v hv)).1 hknown
          cases hread : definition.decodeValue a.value with
          | error e => simp [hread] at h
          | ok read =>
              simp only [hread] at h
              obtain rfl := Except.ok.inj h
              refine ⟨v, hv, hvendor, definition, hdefinition, hcode, hread, ?_⟩
              simp only [Described.ofDefinition, hcode]

/-- The lenient mode finds fault with no value that can be read. -/
lemma violation?_lenient_eq_none (hd : d.WellFormed) (hv : v ∈ d.vendors)
    (hdefinition : definition ∈ v.attributes) (hvendor : v.id = a.vendor)
    (hcode : definition.code = a.subType) {read : Option UInt8 × Value}
    (hread : definition.decodeValue a.value = .ok read) : d.violation? .lenient a = none := by
  have hfound := (vendor?_eq_some_iff hd).2 ⟨hv, hvendor⟩
  have hknown := (Vendor.attributeOf?_eq_some_iff (hd.vendors v hv)).2 ⟨hdefinition, hcode⟩
  simp only [violation?, Definition.violation?, hfound, hknown, hread]

end Dictionary

/-! ### Building -/

namespace Vendor

variable {v : Vendor} {definition : Definition} {value : Value} {a : VendorSpecific}

lemma require_eq_ok_iff (hv : v.WellFormed) {name : String} :
    v.require name = .ok definition ↔
      definition ∈ v.attributes ∧ fold definition.name = fold name := by
  rw [← attribute?_eq_some_iff hv, require]
  cases v.attribute? name <;> simp

lemma frame_eq_ok_iff {tag : Option UInt8} :
    v.frame definition tag value = .ok a ↔
      a.vendor = v.id ∧ a.subType = definition.code ∧
        definition.encodeValue tag value = .ok a.value := by
  rw [frame, bind_eq_ok_iff]
  constructor
  · rintro ⟨wire, hwire, hnew⟩
    obtain ⟨hvendor, hcode, rfl⟩ := VendorSpecific.new_eq_ok_iff.1 (mapError_eq_ok_iff.1 hnew)
    exact ⟨hvendor, hcode, hwire⟩
  · rintro ⟨hvendor, hcode, hwire⟩
    exact ⟨a.value, hwire,
      mapError_eq_ok_iff.2 (VendorSpecific.new_eq_ok_iff.2 ⟨hvendor, hcode, rfl⟩)⟩

/-- A vendor attribute is built by the definition of the name, out of the octets that the definition
writes for the tag and the value. -/
lemma build_eq_ok_iff (hv : v.WellFormed) {spec : String} :
    v.build spec value = .ok a ↔
      ∃ name tag, Names spec name tag ∧
        ∃ definition ∈ v.attributes, fold definition.name = fold name ∧
          a.vendor = v.id ∧ a.subType = definition.code ∧
          definition.encodeValue tag value = .ok a.value := by
  rw [build, bind_eq_ok_iff]
  constructor
  · rintro ⟨⟨name, tag⟩, hspec, h⟩
    obtain ⟨definition, hdefinition, h⟩ := bind_eq_ok_iff.1 h
    obtain ⟨hmem, hname⟩ := (require_eq_ok_iff hv).1 hdefinition
    exact ⟨name, tag, splitTag_eq_ok_iff.1 hspec, definition, hmem, hname, frame_eq_ok_iff.1 h⟩
  · rintro ⟨name, tag, hspec, definition, hmem, hname, h⟩
    refine ⟨(name, tag), splitTag_eq_ok_iff.2 hspec, bind_eq_ok_iff.2 ⟨definition, ?_, ?_⟩⟩
    · exact (require_eq_ok_iff hv).2 ⟨hmem, hname⟩
    · exact frame_eq_ok_iff.2 h

/-- A vendor attribute is built out of text as it is built out of the value that the text stands
for. -/
lemma buildFromText_eq_ok_iff (hv : v.WellFormed) {spec text : String} :
    v.buildFromText spec text = .ok a ↔
      ∃ name tag, Names spec name tag ∧
        ∃ definition ∈ v.attributes, fold definition.name = fold name ∧
          ∃ value, readValue definition text = .ok value ∧ a.vendor = v.id ∧
            a.subType = definition.code ∧ definition.encodeValue tag value = .ok a.value := by
  rw [buildFromText, bind_eq_ok_iff]
  constructor
  · rintro ⟨⟨name, tag⟩, hspec, h⟩
    obtain ⟨definition, hdefinition, h⟩ := bind_eq_ok_iff.1 h
    obtain ⟨value, hvalue, h⟩ := bind_eq_ok_iff.1 h
    obtain ⟨hmem, hname⟩ := (require_eq_ok_iff hv).1 hdefinition
    exact ⟨name, tag, splitTag_eq_ok_iff.1 hspec, definition, hmem, hname, value,
      mapError_eq_ok_iff.1 hvalue, frame_eq_ok_iff.1 h⟩
  · rintro ⟨name, tag, hspec, definition, hmem, hname, value, hvalue, h⟩
    refine ⟨(name, tag), splitTag_eq_ok_iff.2 hspec, bind_eq_ok_iff.2 ⟨definition, ?_, ?_⟩⟩
    · exact (require_eq_ok_iff hv).2 ⟨hmem, hname⟩
    · exact bind_eq_ok_iff.2 ⟨value, mapError_eq_ok_iff.2 hvalue, frame_eq_ok_iff.2 h⟩

end Vendor

/-! ### There and back -/

namespace Dictionary

/-- **What is built is described as it was built.**  A vendor attribute that a vendor of a reachable
dictionary builds is read back from its frame, is valid in the lenient mode, and is described by the
vendor, the code and the declared name; its tag and its value are those given, unless no tag was
given and text or octets start with an octet that is one: then this octet is the tag and the rest
the value. -/
theorem describe_of_build {d : Dictionary} (hd : d.Reachable) {v : Vendor} (hv : v ∈ d.vendors)
    {spec : String} {value : Value} {a : VendorSpecific} {wire : Octets}
    (hbuild : v.build spec value = .ok a) (hencode : a.encode = .ok wire) :
    VendorSpecific.decode wire = .ok a ∧ d.violation? .lenient a = none ∧
      ∃ name tag, Names spec name tag ∧
        ∃ definition ∈ v.attributes, fold definition.name = fold name ∧
          ∃ tag' value', d.describe a = .ok (.ofDefinition v definition tag' value') ∧
            (¬ definition.Ambiguous tag value → tag' = tag ∧ value' = value) ∧
            (definition.Ambiguous tag value → ∃ first, tag' = some first ∧
              value'.kind = value.kind ∧ value.encode = first :: value'.encode) := by
  have hwf := hd.wellFormed
  -- the definition that was found by its name is the one that is found by the code
  obtain ⟨name, tag, hspec, definition, hdefinition, hname, hvendor, hcode, hwrite⟩ :=
    (Vendor.build_eq_ok_iff (hwf.vendors v hv)).1 hbuild
  obtain ⟨tag', value', hread, hsame, hambiguous⟩ :=
    Definition.exists_decodeValue_of_encodeValue hwrite
  refine ⟨?_, ?_, name, tag, hspec, definition, hdefinition, hname, tag', value', ?_, hsame,
    hambiguous⟩
  · exact VendorSpecific.decode_eq_ok_iff.2 (VendorSpecific.encode_eq_ok_iff.1 hencode)
  · exact violation?_lenient_eq_none hwf hv hdefinition hvendor.symm hcode.symm hread
  · exact describe_of_mem hwf hv hdefinition hvendor.symm hcode.symm hread

/-- A dictionary with a text and a number that take tags. -/
def tunnels : Dictionary :=
  ⟨[⟨"Tunnels", 5, [⟨"Endpoint", 1, "string", ["has_tag"], []⟩,
    ⟨"Weight", 2, "integer", ["has_tag"], []⟩]⟩]⟩

lemma reachable_tunnels : Reachable tunnels := by
  have hvendor : parse "VENDOR Tunnels 5" = .ok ⟨[⟨"Tunnels", 5, []⟩]⟩ := rfl
  have hattributes : load ⟨[⟨"Tunnels", 5, []⟩]⟩
      "ATTRIBUTE Endpoint 1 string Tunnels has_tag\nATTRIBUTE Weight 2 integer Tunnels has_tag" =
        .ok tunnels := rfl
  exact .load (.parse hvendor) hattributes

/-- Text that starts with the octet 1, given without a tag. -/
theorem describe_of_build_leading_tag :
    ∃ described,
      tunnels.describe ⟨5, 1, [1, 0x78], by decide, by decide⟩ = .ok described ∧
        described.name = some "Endpoint" ∧ described.tag = some 1 ∧
        described.value.encode = [0x78] := by
  have hsplit : splitTag "endpoint" = .ok ("endpoint", none) := rfl
  obtain ⟨-, -, name, tag, hspec, definition, hdefinition, hname, tag', value', h, -, hambiguous⟩ :=
    describe_of_build reachable_tunnels (List.mem_singleton.2 rfl)
      (show Vendor.build _ "endpoint" (.text "\x01x") = .ok _ from rfl)
      (show VendorSpecific.encode _ = .ok [26, 10, 0, 0, 0, 5, 1, 4, 1, 0x78] from rfl)
  rw [splitTag_eq_ok_iff.2 hspec] at hsplit
  obtain ⟨rfl, rfl⟩ := Prod.mk.inj (Except.ok.inj hsplit)
  have hendpoint : definition = ⟨"Endpoint", 1, "string", ["has_tag"], []⟩ := by
    rcases List.mem_pair.1 hdefinition with rfl | rfl
    · rfl
    · exact absurd hname (by decide)
  subst hendpoint
  obtain ⟨first, rfl, -, hvalue⟩ :=
    hambiguous ⟨rfl, Or.inl rfl, rfl, 1, [0x78], rfl, by decide, by decide⟩
  obtain ⟨rfl, hrest⟩ := List.cons.inj (show (1 :: [0x78] : Octets) = _ from hvalue)
  exact ⟨_, h, rfl, rfl, hrest.symm⟩

/-- **What is described can be built again, unless its tag is none.**  Where a reachable dictionary
describes a vendor attribute that it knows, the definition writes the tag and the value of the
description to the octets that were described, and the tag is one of 1 to 31.  The one exception are
tagged numbers whose first octet is above 31: this octet is described as the tag, and the definition
refuses to write it. -/
theorem encodeValue_of_describe {d : Dictionary} (hd : d.Reachable) {a : VendorSpecific}
    {described : Described} (h : d.describe a = .ok described) (hname : described.name ≠ none) :
    ∃ v ∈ d.vendors, v.id = a.vendor ∧ ∃ definition ∈ v.attributes, definition.code = a.subType ∧
      described = .ofDefinition v definition described.tag described.value ∧
      (¬ definition.Overtagged a.value →
        definition.encodeValue described.tag described.value = .ok a.value ∧
          ∀ tag ∈ described.tag, 1 ≤ tag ∧ tag ≤ 31) ∧
      (definition.Overtagged a.value →
        ∃ tag, 31 < tag ∧ a.value.head? = some tag ∧ described.tag = some tag ∧
          definition.encodeValue described.tag described.value =
            .error (.badAttribute (.invalidTag tag))) := by
  obtain ⟨v, hv, hvendor, definition, hdefinition, hcode, hread, hdescribed⟩ :=
    eq_ofDefinition_of_describe hd.wellFormed h hname
  have htagOf := (Definition.decodeValue_eq_ok_iff.1 hread).2
  refine ⟨v, hv, hvendor, definition, hdefinition, hcode, hdescribed, ?_, ?_⟩
  · intro hover
    have hlegal : ∀ tag ∈ described.tag, isTag tag = true := fun tag htag =>
      (Definition.isTag_of_tagOf (htagOf ▸ htag)).2 hover
    exact ⟨Definition.encodeValue_of_decodeValue hread hlegal, fun tag htag =>
      isTag_iff.1 (hlegal tag htag)⟩
  · intro hover
    obtain ⟨htag, hkind, first, rest, hvalue, hfirst⟩ := hover
    have hmarks : definition.marks first = true := by
      refine Definition.marks_iff.2 ⟨htag, Or.inl ⟨hkind, ?_⟩⟩
      rintro rfl
      exact absurd hfirst (by decide)
    have hfound : described.tag = some first :=
      htagOf.trans (Definition.tagOf_eq_some_iff.2 ⟨rest, hvalue, hmarks⟩)
    have hillegal : isTag first = false := by
      rw [← Bool.not_eq_true, isTag_iff]
      exact fun hlegal => absurd hlegal.2 (UInt8.not_le.2 hfirst)
    refine ⟨first, hfirst, by rw [hvalue, List.head?_cons], hfound, ?_⟩
    rw [hfound] at hread ⊢
    exact Definition.encodeValue_of_illegal hread hillegal

/-- A number with the octet 200 in the place of its tag. -/
theorem encodeValue_of_describe_illegal_tag :
    tunnels.describe ⟨5, 2, [200, 0, 0, 100], by decide, by decide⟩ =
        .ok ⟨5, some "Tunnels", 2, some "Weight", some 200, .integer 100, none⟩ ∧
      ∃ v ∈ tunnels.vendors, ∃ definition ∈ v.attributes, definition.code = 2 ∧
        definition.encodeValue (some 200) (.integer 100) =
          .error (.badAttribute (.invalidTag 200)) := by
  have hdescribe : tunnels.describe ⟨5, 2, [200, 0, 0, 100], by decide, by decide⟩ =
      .ok ⟨5, some "Tunnels", 2, some "Weight", some 200, .integer 100, none⟩ := rfl
  refine ⟨hdescribe, ?_⟩
  obtain ⟨v, hv, -, definition, hdefinition, hcode, hdescribed, -, hover⟩ :=
    encodeValue_of_describe reachable_tunnels hdescribe (by simp)
  obtain rfl := List.mem_singleton.1 hv
  have hweight : definition = ⟨"Weight", 2, "integer", ["has_tag"], []⟩ := by
    rcases List.mem_pair.1 hdefinition with rfl | rfl
    · exact absurd hcode (by decide)
    · rfl
  subst hweight
  obtain ⟨tag, -, -, htag, hrefused⟩ := hover ⟨rfl, rfl, 200, _, rfl, by decide⟩
  obtain rfl := Option.some.inj htag
  exact ⟨_, hv, _, hdefinition, rfl, hrefused⟩

end Dictionary

end Radius
