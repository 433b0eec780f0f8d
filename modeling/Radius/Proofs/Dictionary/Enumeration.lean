/-
# Numbers with names

An operator may give the number of an attribute by a name, the strict mode asks whether a number has
a name, and a description shows the first name of a number.  The three agree: in a well-formed table
the name that is shown for a number is looked up to that number (`number?_of_nameOf?_eq_some`),
since no two names differ in letter case only.  What an operator writes is trimmed before it is
looked up; that does no harm, for the names of a reachable dictionary are words of its texts and
have no blanks (`Reachable.plainNames`).
-/
import Radius.Proofs.Dictionary.Description
import Radius.Proofs.Dictionary.Membership
import Radius.Proofs.Validation
import Radius.Proofs.Value.Text

namespace Radius

open Text Outcome

/-! ### Names without blanks -/

/-- A name that an operator can write as it is. -/
def IsPlain (name : String) : Prop :=
  ∀ c ∈ name.toList, isBlank c = false

lemma trim_of_isPlain {name : String} (h : IsPlain name) :
    String.ofList (trim name.toList) = name := by
  rw [trim_eq_self h, String.ofList_toList]

/-- The words of dictionary text have no blanks. -/
lemma SourceLine.isPlain_of_mem_ofText {text word : String} {line : SourceLine}
    (hline : line ∈ ofText text) (hword : word ∈ line.words) : IsPlain word := by
  obtain ⟨⟨source, number⟩, -, rfl⟩ := List.mem_map.1 hline
  obtain ⟨characters, hcharacters, rfl⟩ := List.mem_map.1 hword
  intro c hc
  rw [String.toList_ofList] at hc
  exact isBlank_of_mem_words hcharacters c hc

/-- A directive whose name for a value, if it gives one, has no blanks. -/
def Directive.NamesPlainly (x : Directive) : Prop :=
  ∀ owner name number, x = .declareValue owner name number → IsPlain name

/-- The name is a word of the line. -/
lemma Directive.mem_of_ofWords_declareValue {keyword owner name number : String}
    {fields : List String} (h : ofWords keyword fields = .ok (.declareValue owner name number)) :
    name ∈ fields := by
  unfold ofWords at h
  grind

lemma SourceLine.namesPlainly_of_mem_ofText {text : String} {x : Directive}
    (h : x ∈ (ofText text).filterMap (·.directive?)) : x.NamesPlainly := by
  obtain ⟨line, hline, hx⟩ := List.mem_filterMap.1 h
  obtain ⟨keyword, fields, hwords, hdirective⟩ := directive?_eq_some_iff.1 hx
  rintro owner name number rfl
  refine isPlain_of_mem_ofText hline ?_
  rw [hwords]
  exact List.mem_cons_of_mem keyword (Directive.mem_of_ofWords_declareValue hdirective)

/-- A naming adds at most its own name. -/
lemma NamedValue.name_of_mem_declare {name : String} {number : Int32} {values : List NamedValue}
    {w : NamedValue} (h : w ∈ declare name number values) :
    w.name = name ∨ ∃ u ∈ values, u.name = w.name := by
  induction values with
  | nil =>
      obtain rfl := List.mem_singleton.1 h
      exact .inl rfl
  | cons u rest ih =>
      rw [declare] at h
      split at h
      · rcases List.mem_cons.1 h with rfl | h
        · exact .inr ⟨u, List.mem_cons_self, rfl⟩
        · exact .inr ⟨w, List.mem_cons_of_mem u h, rfl⟩
      · rcases List.mem_cons.1 h with rfl | h
        · exact .inr ⟨w, List.mem_cons_self, rfl⟩
        · rcases ih h with hname | ⟨t, ht, hname⟩
          · exact .inl hname
          · exact .inr ⟨t, List.mem_cons_of_mem u ht, hname⟩

/-- All values have names without blanks. -/
def Dictionary.PlainNames (d : Dictionary) : Prop :=
  ∀ v ∈ d.vendors, ∀ e ∈ v.attributes, ∀ w ∈ e.values, IsPlain w.name

lemma Loader.Accepts.plainNames {s s' : Loader} {line : Nat} {x : Directive}
    (h : Accepts s line x s') (hs : s.dictionary.WellFormed) (hx : x.NamesPlainly)
    (hplain : s.dictionary.PlainNames) : s'.dictionary.PlainNames := by
  cases h with
  | declareVendor hid hformat hdeclare =>
      rcases (Dictionary.declare?_eq_some_iff hs).1 hdeclare with ⟨-, -, rfl⟩ | ⟨-, rfl⟩
      · intro v hv e he
        rcases Dictionary.mem_place.1 hv with rfl | hv
        · cases he
        · exact hplain v hv e he
      · exact hplain
  | beginBlock hclosed hvendor => exact hplain
  | endBlock hopen hname => exact hplain
  | @declareAttribute name number typeName fourth fifth flags code v v' htarget hnumber hcode
      hinsert =>
      have hv := mem_vendors_of_target htarget
      obtain ⟨-, -, hv'⟩ := Vendor.insert_eq_ok_iff.1 hinsert
      have hid : v'.id ∈ s.dictionary.vendors.map (·.id) := List.mem_map.2 ⟨v, hv, by rw [hv']⟩
      intro w hw e he
      rcases (Dictionary.mem_vendors_update hid).1 hw with rfl | ⟨hw, -⟩
      · subst hv'
        rcases List.mem_append.1 he with he | he
        · exact hplain v hv e he
        · -- the new definition has no values yet
          obtain rfl := List.mem_singleton.1 he
          nofun
      · exact hplain w hw e he
  | @declareValue owner name text number v e hnumber hvendor howner hkind =>
      have hv := mem_vendors_of_valueVendor? hvendor
      have he := ((Vendor.attribute?_eq_some_iff (hs.vendors v hv)).1 howner).1
      have hid : (v.replace (e.declareValue name number)).id ∈ s.dictionary.vendors.map (·.id) :=
        List.mem_map.2 ⟨v, hv, rfl⟩
      intro w hw f hf
      rcases (Dictionary.mem_vendors_update hid).1 hw with rfl | ⟨hw, -⟩
      · rcases (Vendor.mem_attributes_declareValue (hs.vendors v hv) he).1 hf with rfl | ⟨hf, -⟩
        · intro u hu
          rcases NamedValue.name_of_mem_declare hu with hname | ⟨t, ht, hname⟩
          · rw [hname]
            exact hx owner name text rfl
          · rw [← hname]
            exact hplain v hv e he t ht
        · exact hplain v hv f hf
      · exact hplain w hw f hf
  | unsupported => exact hplain

namespace Dictionary

lemma PlainNames.load {d d' : Dictionary} {text : String} (hd : d.WellFormed)
    (hplain : d.PlainNames) (h : d.load text = .ok d') : d'.PlainNames := by
  have hrun := Loader.run_directives_induction
    (P := fun before s => s.dictionary.WellFormed ∧
      ((∀ x ∈ before, x.NamesPlainly) → s.dictionary.PlainNames))
    (fun before s line x s' haccepts hs => ⟨haccepts.wellFormed hs.1, fun hnames =>
      haccepts.plainNames hs.1 (hnames x (by simp)) (hs.2 fun y hy => hnames y (by simp [hy]))⟩)
    [] (load_eq_ok_iff.1 h) ⟨hd, fun _ => hplain⟩
  exact hrun.2 fun x hx => SourceLine.namesPlainly_of_mem_ofText hx

lemma PlainNames.merge {d other : Dictionary} (hother : other.WellFormed) (hplain : d.PlainNames)
    (hplain' : other.PlainNames) : (d.merge other).PlainNames := by
  intro v hv
  rcases (mem_vendors_merge hother).1 hv with hv | ⟨hv, -⟩
  · exact hplain' v hv
  · exact hplain v hv

/-- The values of a reachable dictionary have names without blanks. -/
theorem Reachable.plainNames {d : Dictionary} (h : Reachable d) : d.PlainNames := by
  have hboth : d.WellFormed ∧ d.PlainNames :=
    h.loading_induction (P := fun d => d.WellFormed ∧ d.PlainNames) ⟨wellFormed_empty, nofun⟩
      (fun hd hload => ⟨hd.1.load hload, hd.2.load hd.1 hload⟩)
      (fun hd hother => ⟨hd.1.merge hother.1, hd.2.merge hother.1 hother.2⟩)
  exact hboth.2

end Dictionary

/-! ### Names and numbers -/

namespace Definition

variable {definition : Definition} {name : String} {number : Int32}

lemma number?_eq_some_iff (h : definition.WellFormed) :
    definition.number? name = some number ↔
      ∃ w ∈ definition.values, fold w.name = fold name ∧ w.number = number := by
  rw [number?, Option.map_eq_some_iff]
  simp only [find?_eq_some_iff_of_nodup (fun _ => sameName_iff) h.valueNames_nodup, and_assoc]

lemma exists_of_nameOf?_eq_some (h : definition.nameOf? number = some name) :
    ∃ w ∈ definition.values, w.name = name ∧ w.number = number := by
  obtain ⟨w, hw, rfl⟩ := Option.map_eq_some_iff.1 h
  exact ⟨w, List.mem_of_find?_eq_some hw, rfl, by simpa using List.find?_some hw⟩

/-- The name that is shown for a number is looked up to the number. -/
lemma number?_of_nameOf?_eq_some (h : definition.WellFormed)
    (hname : definition.nameOf? number = some name) : definition.number? name = some number := by
  obtain ⟨w, hw, rfl, hnumber⟩ := exists_of_nameOf?_eq_some hname
  exact (number?_eq_some_iff h).2 ⟨w, hw, rfl, hnumber⟩

end Definition

namespace Vendor

variable {definition : Definition} {text : String} {value : Value}

/-- Text for an integer attribute stands for a number: the one it is the name of, or the one it
spells. -/
lemma exists_number_of_readValue (hkind : definition.kind = .integer)
    (h : readValue definition text = .ok value) :
    ∃ number, value = .integer number ∧
      ∀ named ∈ definition.number? (String.ofList (trim text.toList)), named = number := by
  rw [readValue, hkind] at h
  cases hnamed : definition.number? (String.ofList (trim text.toList)) with
  | some number =>
      simp only [hnamed] at h
      obtain rfl := Except.ok.inj h
      exact ⟨number, rfl, by simp⟩
  | none =>
      simp only [hnamed] at h
      have hvalue := Value.kind_of_parse h
      cases value with
      | integer number => exact ⟨number, rfl, by simp⟩
      | text content | ipv4 address | octets content => cases hvalue

lemma readValue_of_number? {number : Int32} (hkind : definition.kind = .integer)
    (h : definition.number? (String.ofList (trim text.toList)) = some number) :
    readValue definition text = .ok (.integer number) := by
  simp only [readValue, hkind, h]

end Vendor

/-! ### The three together -/

namespace Dictionary

/-- **Building, describing and the strict mode agree on numbers with names.**  Where a vendor of a
reachable dictionary builds an integer attribute, with or without a tag, out of an operator's text,
the text stands for a number, which is read back from the octets without the tag.  The strict mode
accepts what was built if and only if the attribute has no names for its numbers or has one for this
number.  Text that is a name, in any letter case, stands for the number of that name, and what is
built of it is accepted.  Where the description shows a name, the same attribute is built out of the
name. -/
theorem Reachable.named_numbers_agree {d : Dictionary} (hd : d.Reachable) {v : Vendor}
    (hv : v ∈ d.vendors) {definition : Definition} (hdefinition : definition ∈ v.attributes)
    (hkind : definition.kind = .integer) {spec name : String} {tag : Option UInt8}
    (hspec : Names spec name tag) (hname : fold definition.name = fold name) {text : String}
    {a : VendorSpecific} (hbuild : v.buildFromText spec text = .ok a) :
    ∃ number, Vendor.readValue definition text = .ok (.integer number) ∧
      definition.decodeValue a.value = .ok (tag, .integer number) ∧
      (d.violation? .strict a = none ↔
        definition.values = [] ∨ ∃ w ∈ definition.values, w.number = number) ∧
      (∀ w ∈ definition.values, fold w.name = fold (String.ofList (trim text.toList)) →
        w.number = number ∧ d.violation? .strict a = none) ∧
      ∃ described, d.describe a = .ok described ∧
        described = .ofDefinition v definition tag (.integer number) ∧
        ∀ label, described.valueName = some label → v.buildFromText spec label = .ok a := by
  have hwf := hd.wellFormed
  have hvendor := hwf.vendors v hv
  have hdefined := hvendor.definitions definition hdefinition
  -- the attribute that was built is the one that was asked for
  obtain ⟨name', tag', hspec', definition', hdefinition', hname', value, hvalue, hid, hcode,
    hwrite⟩ := (Vendor.buildFromText_eq_ok_iff hvendor).1 hbuild
  obtain ⟨rfl, rfl⟩ := Prod.mk.inj (Except.ok.inj
    ((splitTag_of_names hspec').symm.trans (splitTag_of_names hspec)))
  obtain rfl : definition' = definition :=
    List.inj_on_of_nodup_map hvendor.names_nodup hdefinition' hdefinition (hname'.trans hname.symm)
  obtain ⟨number, rfl, hnamed⟩ := Vendor.exists_number_of_readValue hkind hvalue
  have hread : definition'.decodeValue a.value = .ok (tag', .integer number) :=
    Definition.decodeValue_of_encodeValue hwrite (Definition.not_ambiguous_of_integer hkind)
  have hstrict : d.violation? .strict a = none ↔
      definition'.values = [] ∨ ∃ w ∈ definition'.values, w.number = number := by
    have hfound := (vendor?_eq_some_iff hwf).2 ⟨hv, hid.symm⟩
    have hknown := (Vendor.attributeOf?_eq_some_iff hvendor).2 ⟨hdefinition, hcode.symm⟩
    rw [violation?_of_known hfound hknown]
    exact Definition.violation?_strict_eq_none_iff hread
  refine ⟨number, hvalue, hread, hstrict, ?_, _,
    describe_of_mem hwf hv hdefinition hid.symm hcode.symm hread, rfl, ?_⟩
  · intro w hw hlabel
    have hnumber : w.number = number :=
      hnamed w.number ((Definition.number?_eq_some_iff hdefined).2 ⟨w, hw, hlabel, rfl⟩)
    exact ⟨hnumber, hstrict.2 (.inr ⟨w, hw, hnumber⟩)⟩
  · intro label hlabel
    -- the name that is shown is written without blanks, and is looked up to the number
    obtain ⟨w, hw, rfl, -⟩ := Definition.exists_of_nameOf?_eq_some hlabel
    have hplain := trim_of_isPlain (hd.plainNames v hv definition' hdefinition w hw)
    have hlookup : definition'.number? (String.ofList (trim w.name.toList)) = some number := by
      rw [hplain]
      exact Definition.number?_of_nameOf?_eq_some hdefined hlabel
    exact (Vendor.buildFromText_eq_ok_iff hvendor).2 ⟨name', tag', hspec, definition', hdefinition,
      hname, .integer number, Vendor.readValue_of_number? hkind hlookup, hid, hcode, hwrite⟩

/-- A dictionary with a tagged number that has two names, one of which was taken from another
number. -/
def media : Dictionary :=
  ⟨[⟨"T", 5, [⟨"Medium", 1, "integer", ["has_tag"], [⟨"IPv4", 2⟩, ⟨"Inet", 2⟩, ⟨"None", 0⟩]⟩]⟩]⟩

lemma reachable_media : Reachable media := by
  have hvendor : parse "VENDOR T 5\nATTRIBUTE Medium 1 integer T has_tag" =
      .ok ⟨[⟨"T", 5, [⟨"Medium", 1, "integer", ["has_tag"], []⟩]⟩]⟩ := rfl
  have hvalues : load ⟨[⟨"T", 5, [⟨"Medium", 1, "integer", ["has_tag"], []⟩]⟩]⟩
      "VALUE Medium IPv4 1\nVALUE Medium Inet 2\nVALUE Medium None 0\nVALUE medium ipv4 2" =
        .ok media := rfl
  exact .load (.parse hvendor) hvalues

/-- The second name of a number, with a tag: it is accepted, the first name is shown, and the same
attribute is built out of that. -/
theorem named_numbers_agree_second_name :
    ∃ v a described, v ∈ media.vendors ∧ v.buildFromText "medium:3" " inet" = .ok a ∧
      media.violation? .strict a = none ∧ media.describe a = .ok described ∧
      described.valueName = some "IPv4" ∧ v.buildFromText "medium:3" "IPv4" = .ok a := by
  have hspec : Names "medium:3" "medium" (some 3) :=
    splitTag_eq_ok_iff.1 (show splitTag "medium:3" = .ok ("medium", some 3) from rfl)
  have hv : (⟨"T", 5, [⟨"Medium", 1, "integer", ["has_tag"],
      [⟨"IPv4", 2⟩, ⟨"Inet", 2⟩, ⟨"None", 0⟩]⟩]⟩ : Vendor) ∈ media.vendors :=
    List.mem_singleton.2 rfl
  obtain ⟨number, hvalue, -, -, hlisted, described, hdescribe, rfl, hagain⟩ :=
    reachable_media.named_numbers_agree hv (List.mem_singleton.2 rfl) rfl hspec (by decide)
      (show Vendor.buildFromText _ "medium:3" " inet" =
        .ok ⟨5, 1, [3, 0, 0, 2], by decide, by decide⟩ from rfl)
  obtain rfl : 2 = number := Value.integer.inj (Except.ok.inj hvalue)
  exact ⟨_, _, _, hv, rfl, (hlisted ⟨"Inet", 2⟩ (by decide) (by decide)).2, hdescribe, rfl,
    hagain "IPv4" rfl⟩

end Dictionary

end Radius
