/-
# Encoding, decoding and encoding again

What an operator has encoded is decoded to one attribute, and what is shown of it, its name and its
value, is again a text that can be encoded.  It has the same octets, whether or not the operator
gave the tag that the value came to have; unless the value is a number whose numeral is, for the
attribute, the name of another number (`Definition.Renames`).
-/
import Radius.Proofs.Dictionary.Description
import Radius.Proofs.Inspection
import Radius.Proofs.Text.Case
import Radius.Proofs.Value.Text
import Radius.Proofs.Wire.Container
import Radius.Query

namespace Radius

open Text Outcome

/-! ### Values -/

namespace Definition

variable {d : Definition} {tag : Option UInt8} {value : Value} {wire : Octets}

/-- Whether a value is a number whose numeral is the name of another number. -/
def Renames (d : Definition) (value : Value) : Prop :=
  ∃ number number', value = .integer number ∧ d.number? value.render = some number' ∧
    number' ≠ number

/-- What is written is read as a tag and a value that are written to the same octets; there is no
tag only where none was given. -/
lemma exists_encodeValue_of_encodeValue (h : d.encodeValue tag value = .ok wire) :
    ∃ tag' value', d.decodeValue wire = .ok (tag', value') ∧
      d.encodeValue tag' value' = .ok wire ∧ (tag' = none → tag = none) := by
  obtain ⟨-, hlegal⟩ := encodeValue_eq_ok_iff.1 h
  obtain ⟨tag', value', hread, hsame, hambiguous⟩ := exists_decodeValue_of_encodeValue h
  have hlegal' : ∀ t ∈ tag', isTag t = true := by
    intro t ht
    by_cases hcase : d.Ambiguous tag value
    · -- the first octet is a tag, though it was none for the operator
      obtain ⟨first, hfirst, -, hvalue⟩ := hambiguous hcase
      obtain ⟨-, -, -, first', rest, hvalue', hrange⟩ := hcase
      obtain ⟨rfl, -⟩ := List.cons.inj (hvalue.symm.trans hvalue')
      obtain rfl := Option.some.inj (hfirst.symm.trans ht)
      exact isTag_iff.2 hrange
    · obtain ⟨rfl, -⟩ := hsame hcase
      exact hlegal t ht
  refine ⟨tag', value', hread, encodeValue_of_decodeValue hread hlegal', fun hnone => ?_⟩
  by_cases hcase : d.Ambiguous tag value
  · exact hcase.2.2.1
  · exact (hsame hcase).1 ▸ hnone

/-- Numbers that are written with one tag to the same octets are the same. -/
lemma number_eq_of_encodeValue {number number' : Int32}
    (h : d.encodeValue tag (.integer number) = .ok wire)
    (h' : d.encodeValue tag (.integer number') = .ok wire) : number = number' := by
  have hkind : d.kind = .integer := (encodeValue_eq_ok_iff.1 h).1.kind_eq.symm
  have hread := decodeValue_of_encodeValue h (not_ambiguous_of_integer hkind)
  have hread' := decodeValue_of_encodeValue h' (not_ambiguous_of_integer hkind)
  obtain ⟨-, hvalue⟩ := Prod.mk.inj (Except.ok.inj (hread.symm.trans hread'))
  exact Value.integer.inj hvalue

end Definition

namespace Vendor

variable {definition : Definition} {value : Value}

/-- The text of a value is read as the value, unless it is the name of another. -/
lemma readValue_render (hkind : value.kind = definition.kind)
    (hrenames : ¬ definition.Renames value) : readValue definition value.render = .ok value := by
  have hparse := Value.parse_render value
  rw [hkind] at hparse
  cases hnumber : definition.kind with
  | integer =>
      have htext : value.kind ≠ .text := by simp [hkind, hnumber]
      rw [hnumber] at hparse
      rw [readValue, hnumber, Value.trim_render value htext, String.ofList_toList]
      cases hnamed : definition.number? value.render with
      | none => exact hparse
      | some number' =>
          cases value with
          | integer number =>
              have hsame : number' = number := by
                by_contra hne
                exact hrenames ⟨number, number', rfl, hnamed, hne⟩
              simp only [hsame]
          | text content | ipv4 address | octets content => simp [hnumber, Value.kind] at hkind
  | text | ipv4 | octets =>
      rw [hnumber] at hparse
      simp only [readValue, hnumber, hparse]

lemma readValue_render_of_number? {number number' : Int32} (hkind : definition.kind = .integer)
    (hnamed : definition.number? (Value.render (.integer number)) = some number') :
    readValue definition (Value.render (.integer number)) = .ok (.integer number') := by
  have htrim := Value.trim_render (.integer number) (by simp [Value.kind])
  simp only [readValue, hkind, htrim, String.ofList_toList, hnamed]

end Vendor

/-! ### Names -/

lemma eq_colon_of_toLower_eq {c : Char} (h : c.toLower = ':') : c = ':' :=
  eq_of_toLower_eq (d := ':') h rfl

/-- Names that differ in letter case only have a colon both or neither. -/
lemma colon_mem_of_fold_eq {name name' : String} (h : fold name = fold name')
    (hcolon : ':' ∈ name.toList) : ':' ∈ name'.toList := by
  have hmem : ':' ∈ fold name' := h ▸ List.mem_map.2 ⟨':', hcolon, rfl⟩
  obtain ⟨c, hc, hlower⟩ := List.mem_map.1 hmem
  exact eq_colon_of_toLower_eq hlower ▸ hc

/-- The name under which an attribute is shown refers to it, unless it has a colon and no tag. -/
lemma names_displayName (v : Vendor) {definition : Definition} {tag : Option UInt8} (value : Value)
    (h : tag = none → ':' ∉ definition.name.toList) :
    Names (Described.ofDefinition v definition tag value).displayName definition.name tag := by
  cases tag with
  | none => exact .plain (h rfl)
  | some t =>
      have hspec : (Described.ofDefinition v definition (some t) value).displayName.toList =
          definition.name.toList ++ ':' :: (toString t).toList := by
        have hname : toString definition.name = definition.name := rfl
        have hcolon : (toString ":").toList = [':'] := rfl
        simp [Described.ofDefinition, Described.displayName, String.toList_append, hname, hcolon]
      have hdigits : ':' ∉ (toString t).toList := by
        rw [toList_toString_octet]
        exact fun hcolon => absurd (isDigit_of_mem_decimal hcolon) (by decide)
      exact .tagged hspec hdigits (octet?_toString t)

/-! ### Queries -/

namespace Dictionary

variable {d : Dictionary} {v : Vendor} {definition : Definition} {a : VendorSpecific}
  {vendor spec text : String} {r : EncodeReport}

lemma resolve_eq_ok_iff :
    d.resolve text = .ok v ↔
      (d.vendorNamed? text).or ((word? text.toList).bind d.vendor?) = some v := by
  rw [resolve]
  cases d.vendorNamed? text with
  | some w => simp
  | none => cases (word? text.toList).bind d.vendor? <;> simp

lemma mem_vendors_of_resolve (h : d.resolve text = .ok v) : v ∈ d.vendors := by
  rcases Option.or_eq_some_iff.1 (resolve_eq_ok_iff.1 h) with hnamed | ⟨-, hnumbered⟩
  · exact List.mem_of_find?_eq_some hnamed
  · obtain ⟨id, -, hv⟩ := Option.bind_eq_some_iff.1 hnumbered
    exact List.mem_of_find?_eq_some hv

lemma resolve_name (hd : d.WellFormed) (hv : v ∈ d.vendors) : d.resolve v.name = .ok v := by
  rw [resolve, (vendorNamed?_eq_some_iff hd).2 ⟨hv, rfl⟩]

/-- What is encoded is a vendor attribute that the vendor builds and that can be framed. -/
lemma encodeText_eq_ok_iff :
    d.encodeText vendor spec text = .ok r ↔
      ∃ v a name tag, d.resolve vendor = .ok v ∧ v.buildFromText spec text = .ok a ∧
        a.encode = .ok r.wire ∧ splitTag spec = .ok (name, tag) ∧
        r = ⟨v.id, v.name, ((v.attribute? name).map (·.name)).getD name, a.subType, tag, text,
          r.wire⟩ := by
  rw [encodeText, bind_eq_ok_iff]
  constructor
  · rintro ⟨v, hv, h⟩
    obtain ⟨a, ha, h⟩ := bind_eq_ok_iff.1 h
    obtain ⟨wire, hwire, h⟩ := bind_eq_ok_iff.1 h
    obtain ⟨⟨name, tag⟩, hspec, h⟩ := bind_eq_ok_iff.1 h
    obtain rfl := Except.ok.inj h
    exact ⟨v, a, name, tag, mapError_eq_ok_iff.1 hv, mapError_eq_ok_iff.1 ha,
      mapError_eq_ok_iff.1 hwire, mapError_eq_ok_iff.1 hspec, rfl⟩
  · rintro ⟨v, a, name, tag, hv, ha, hwire, hspec, hr⟩
    refine ⟨v, mapError_eq_ok_iff.2 hv, bind_eq_ok_iff.2 ⟨a, mapError_eq_ok_iff.2 ha, ?_⟩⟩
    refine bind_eq_ok_iff.2 ⟨r.wire, mapError_eq_ok_iff.2 hwire, ?_⟩
    refine bind_eq_ok_iff.2 ⟨(name, tag), mapError_eq_ok_iff.2 hspec, ?_⟩
    exact congrArg Except.ok hr.symm

/-- An attribute that is asked for without a tag has no colon in its name. -/
lemma colon_not_mem_of_names {name : String} {tag : Option UInt8} (hspec : Names spec name tag)
    (hname : fold definition.name = fold name) (htag : tag = none) :
    ':' ∉ definition.name.toList := by
  subst htag
  cases hspec with
  | plain hcolon => exact fun hmem => hcolon (colon_mem_of_fold_eq hname hmem)

/-- The octets of one vendor attribute of a known definition, pasted in hexadecimal. -/
lemma decodePasted_render (hd : d.WellFormed) (hv : v ∈ d.vendors)
    (hdefinition : definition ∈ v.attributes) (hvendor : v.id = a.vendor)
    (hcode : definition.code = a.subType) {tag : Option UInt8} {value : Value} {wire : Octets}
    (hread : definition.decodeValue a.value = .ok (tag, value)) (hwire : a.encode = .ok wire)
    (mode : Mode) :
    d.decodePasted mode (Hex.render wire) =
      .ok [⟨.ofDefinition v definition tag value, a.value,
        (d.violation? mode a).map .invalid⟩] := by
  have hheld : VendorSpecific.decodeAll wire = .ok [a] :=
    VendorSpecific.decodeAll_of_encode hwire
  have hdescribe := describe_of_mem hd hv hdefinition hvendor hcode hread
  rw [decodePasted, bind_eq_ok_iff]
  refine ⟨wire, readPasted_render wire, ?_⟩
  rw [decodeOctets, bind_eq_ok_iff]
  refine ⟨[a], mapError_eq_ok_iff.2 hheld, ?_⟩
  change Except.ok [d.reportVendor mode a] = _
  rw [reportVendor, hdescribe]

/-- What is shown of a value is encoded to the octets that it was read from, unless its numeral is
the name of another number. -/
lemma encodeText_displayName_iff (hd : d.WellFormed) (hv : v ∈ d.vendors)
    (hdefinition : definition ∈ v.attributes) (hvendor : a.vendor = v.id)
    (hcode : a.subType = definition.code) {tag : Option UInt8} {value : Value} {wire : Octets}
    (hwrite : definition.encodeValue tag value = .ok a.value) (hwire : a.encode = .ok wire)
    (hcolon : tag = none → ':' ∉ definition.name.toList) :
    (∃ r, d.encodeText v.name (Described.ofDefinition v definition tag value).displayName
        value.render = .ok r ∧ r.wire = wire) ↔ ¬ definition.Renames value := by
  have hnames := names_displayName v value hcolon
  have hkind := (Definition.encodeValue_eq_ok_iff.1 hwrite).1.kind_eq
  constructor
  · rintro ⟨r, hr, rfl⟩ ⟨number, number', rfl, hnamed, hne⟩
    obtain ⟨w, b, -, -, hw, hb, hbwire, -, -⟩ := encodeText_eq_ok_iff.1 hr
    obtain rfl := Except.ok.inj (hw.symm.trans (resolve_name hd hv))
    -- what was encoded is the same attribute, so its octets are also those of the other number
    have hsame : b = a := by
      have ha := VendorSpecific.decode_eq_ok_iff.2 (VendorSpecific.encode_eq_ok_iff.1 hwire)
      have hb := VendorSpecific.decode_eq_ok_iff.2 (VendorSpecific.encode_eq_ok_iff.1 hbwire)
      exact Except.ok.inj (hb.symm.trans ha)
    subst hsame
    obtain ⟨name', tag', hnames', definition', hdefinition', -, value', hvalue', -, hcode',
      hwrite'⟩ := (Vendor.buildFromText_eq_ok_iff (hd.vendors w hv)).1 hb
    obtain ⟨-, rfl⟩ := Prod.mk.inj (Except.ok.inj
      ((splitTag_eq_ok_iff.2 hnames').symm.trans (splitTag_eq_ok_iff.2 hnames)))
    obtain rfl : definition' = definition :=
      List.inj_on_of_nodup_map (hd.vendors w hv).codes_nodup hdefinition' hdefinition
        (hcode'.symm.trans hcode)
    rw [Vendor.readValue_render_of_number? hkind.symm hnamed] at hvalue'
    obtain rfl := Except.ok.inj hvalue'
    exact hne (Definition.number_eq_of_encodeValue hwrite' hwrite)
  · intro hrenames
    have hbuild : v.buildFromText (Described.ofDefinition v definition tag value).displayName
        value.render = .ok a :=
      (Vendor.buildFromText_eq_ok_iff (hd.vendors v hv)).2 ⟨definition.name, tag, hnames,
        definition, hdefinition, rfl, value, Vendor.readValue_render hkind hrenames, hvendor, hcode,
        hwrite⟩
    refine ⟨⟨v.id, v.name, ((v.attribute? definition.name).map (·.name)).getD definition.name,
      a.subType, tag, value.render, wire⟩, ?_, rfl⟩
    exact encodeText_eq_ok_iff.2 ⟨v, a, definition.name, tag, resolve_name hd hv, hbuild, hwire,
      splitTag_eq_ok_iff.2 hnames, rfl⟩

/-- **What was encoded can be decoded, and what is shown of it encoded again.**  Where an operator's
text is encoded, the hexadecimal form of the result is decoded to one report in either mode: it has
the vendor and the sub-type of the result and the octets of its value, and the lenient mode finds no
fault. The name and the value that it shows, for the vendor of the result, are encoded to the same
hexadecimal form if and only if the value is not a number whose numeral names another number. -/
theorem Reachable.decodePasted_of_encodeText {d : Dictionary} (hd : d.Reachable)
    {vendor spec text : String} {r : EncodeReport} (h : d.encodeText vendor spec text = .ok r) :
    ∃ v definition a described, d.vendor? r.vendorId = some v ∧ v.name = r.vendorName ∧
      v.attributeOf? r.subType = some definition ∧ VendorSpecific.decode r.wire = .ok a ∧
      described.vendorId = r.vendorId ∧ described.vendorName = some r.vendorName ∧
      described.subType = r.subType ∧
      (∀ mode, ∃ problem, d.decodePasted mode (Hex.render r.wire) =
        .ok [⟨described, a.value, problem⟩] ∧ (mode = .lenient → problem = none)) ∧
      ((∃ r', d.encodeText r.vendorName described.displayName described.value.render = .ok r' ∧
        Hex.render r'.wire = Hex.render r.wire) ↔ ¬ definition.Renames described.value) := by
  have hwf := hd.wellFormed
  obtain ⟨v, a, name, tag, hv, ha, hwire, hspec, hr⟩ := encodeText_eq_ok_iff.1 h
  have hv := mem_vendors_of_resolve hv
  obtain ⟨name', tag', hnames, definition, hdefinition, hname, value, -, hvendor, hcode, hwrite⟩ :=
    (Vendor.buildFromText_eq_ok_iff (hwf.vendors v hv)).1 ha
  -- the tag and the value that are read may be others than those that were given
  obtain ⟨shownTag, shown, hread, hagain, hnone⟩ :=
    Definition.exists_encodeValue_of_encodeValue hwrite
  have hcolon : shownTag = none → ':' ∉ definition.name.toList := fun hshown =>
    colon_not_mem_of_names hnames hname (hnone hshown)
  have hid : r.vendorId = v.id := by rw [hr]
  have hvendorName : r.vendorName = v.name := by rw [hr]
  have hsubType : r.subType = definition.code := by rw [hr, hcode]
  refine ⟨v, definition, a, .ofDefinition v definition shownTag shown, ?_, hvendorName.symm, ?_,
    ?_, hid.symm, ?_, hsubType.symm, ?_, ?_⟩
  · exact (vendor?_eq_some_iff hwf).2 ⟨hv, hid.symm⟩
  · exact (Vendor.attributeOf?_eq_some_iff (hwf.vendors v hv)).2 ⟨hdefinition, hsubType.symm⟩
  · exact VendorSpecific.decode_eq_ok_iff.2 (VendorSpecific.encode_eq_ok_iff.1 hwire)
  · rw [hvendorName]
    rfl
  · intro mode
    refine ⟨_, decodePasted_render hwf hv hdefinition hvendor.symm hcode.symm hread hwire mode, ?_⟩
    rintro rfl
    rw [violation?_lenient_eq_none hwf hv hdefinition hvendor.symm hcode.symm hread,
      Option.map_none]
  · simp only [Hex.render_inj, hvendorName]
    exact encodeText_displayName_iff hwf hv hdefinition hvendor hcode hagain hwire hcolon

/-- A dictionary in which 1 is the name of the number 2. -/
def misnaming : Dictionary :=
  ⟨[⟨"V", 5, [⟨"Kind", 1, "integer", [], [⟨"1", 2⟩]⟩]⟩]⟩

lemma reachable_misnaming : Reachable misnaming := by
  have hparse : parse "VENDOR V 5\nATTRIBUTE Kind 1 integer V\nVALUE Kind 1 2" =
      .ok misnaming := rfl
  exact .parse hparse

/-- The number 1, written with a leading zero, is shown by a numeral that names another number. -/
theorem decodePasted_of_encodeText_misnaming :
    ∃ r a described, misnaming.encodeText "5" "kind" " 01" = .ok r ∧
      VendorSpecific.decode r.wire = .ok a ∧ described.value = .integer 1 ∧
      (∀ mode, ∃ problem, misnaming.decodePasted mode (Hex.render r.wire) =
        .ok [⟨described, a.value, problem⟩] ∧ (mode = .lenient → problem = none)) ∧
      ¬ ∃ r', misnaming.encodeText r.vendorName described.displayName described.value.render =
          .ok r' ∧ Hex.render r'.wire = Hex.render r.wire := by
  have hencode : misnaming.encodeText "5" "kind" " 01" =
      .ok ⟨5, "V", "Kind", 1, none, " 01", [26, 12, 0, 0, 0, 5, 1, 6, 0, 0, 0, 1]⟩ := rfl
  obtain ⟨v, definition, a, described, hv, -, hdefinition, ha, -, -, -, hreport, hagain⟩ :=
    Reachable.decodePasted_of_encodeText reachable_misnaming hencode
  obtain rfl := Option.some.inj hv
  obtain rfl := Option.some.inj hdefinition
  have hshown : described.value = .integer 1 := by
    obtain rfl : a = ⟨5, 1, [0, 0, 0, 1], by decide, by decide⟩ :=
      Except.ok.inj (ha.symm.trans rfl)
    have hwire := VendorSpecific.encode_eq_ok_iff.2 (VendorSpecific.decode_eq_ok_iff.1 ha)
    have hvalue : Definition.decodeValue ⟨"Kind", 1, "integer", [], [⟨"1", 2⟩]⟩ [0, 0, 0, 1] =
        .ok (none, .integer 1) := rfl
    have hread := decodePasted_render reachable_misnaming.wellFormed (List.mem_singleton.2 rfl)
      (List.mem_singleton.2 rfl) rfl rfl hvalue hwire .lenient
    obtain ⟨problem, hdecode, -⟩ := hreport .lenient
    have hreports := Except.ok.inj (hdecode.symm.trans hread)
    simp only [List.cons.injEq, VendorReport.mk.injEq] at hreports
    rw [hreports.1.1]
    rfl
  refine ⟨_, a, described, hencode, ha, hshown, hreport, ?_⟩
  rw [hagain, hshown]
  exact not_not_intro ⟨1, 2, rfl, rfl, by decide⟩

end Dictionary

end Radius
