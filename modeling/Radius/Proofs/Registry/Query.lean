/-
# Encoding in any letter case

Vendors and attributes are looked up by the fold of their names, numbers and tags have no letters,
and what is read of a text does not depend on its case unless it is the value itself.  So what one
operator has encoded is encoded for every other whose words differ in letter case only, with the
same report (`Dictionary.encodeText_of_fold_eq`).  A registry encodes as the dictionary does without
the indexes (`encodeText_dictionary`).
-/
import Radius.Proofs.Recoding
import Radius.Proofs.Registry.Reachable
import Radius.Proofs.Value.Case
import Radius.Registry.Query

namespace Radius

open Text Outcome

variable {vendor vendor' spec spec' text text' : String}

/-! ### Names -/

/-- Names that differ in letter case only have the same tag, and lead to names that do so. -/
lemma Names.of_fold_eq {name : String} {tag : Option UInt8} (h : Names spec name tag)
    (hspec : fold spec = fold spec') : ∃ name', Names spec' name' tag ∧ fold name = fold name' := by
  cases h with
  | plain hcolon =>
      exact ⟨spec', .plain fun hmem => hcolon (colon_mem_of_fold_eq hspec.symm hmem), hspec⟩
  | @tagged name digits tag hsplit hcolon htag =>
      have hfold : fold spec' = fold name ++ ':' :: digits.map Char.toLower := by
        rw [← hspec, fold, hsplit, List.map_append, List.map_cons]
        rfl
      -- the colon of the one is where that of the other is
      obtain ⟨name', rest, hsplit', hname, hrest⟩ := List.map_eq_append_iff.1 hfold
      obtain ⟨c, digits', rfl, hc, hdigits⟩ := List.map_eq_cons_iff.1 hrest
      obtain rfl := eq_colon_of_toLower_eq hc
      have hspec' : spec'.toList = (String.ofList name').toList ++ ':' :: digits' := by
        rw [String.toList_ofList]
        exact hsplit'
      refine ⟨String.ofList name', .tagged hspec' ?_ ?_, ?_⟩
      · intro hmem
        have hlower : ':' ∈ digits.map Char.toLower := hdigits ▸ List.mem_map.2 ⟨':', hmem, rfl⟩
        obtain ⟨c, hc, hcase⟩ := List.mem_map.1 hlower
        exact hcolon (eq_colon_of_toLower_eq hcase ▸ hc)
      · rw [octet?_congr hdigits, htag]
      · rw [← hname, fold, String.toList_ofList]

/-! ### Dictionaries -/

namespace Dictionary

variable {d : Dictionary} {v : Vendor} {report : EncodeReport}

lemma resolve_of_fold_eq (h : d.resolve vendor = .ok v) (hvendor : fold vendor = fold vendor') :
    d.resolve vendor' = .ok v := by
  have hsame : d.vendorNamed? vendor = d.vendorNamed? vendor' := by
    simp only [vendorNamed?, sameName, hvendor]
  rw [resolve_eq_ok_iff] at h ⊢
  rwa [← hsame, ← word?_congr hvendor]

/-- Whether an operator asks for an attribute of text. -/
def AsksText (d : Dictionary) (vendor spec : String) : Prop :=
  ∃ v name tag definition, d.resolve vendor = .ok v ∧ splitTag spec = .ok (name, tag) ∧
    v.attribute? name = some definition ∧ definition.kind = .text

lemma AsksText.of_fold_eq (h : d.AsksText vendor spec) (hvendor : fold vendor = fold vendor')
    (hspec : fold spec = fold spec') : d.AsksText vendor' spec' := by
  obtain ⟨v, name, tag, definition, hv, hname, hdefinition, hkind⟩ := h
  obtain ⟨name', hname', hfold⟩ := (splitTag_eq_ok_iff.1 hname).of_fold_eq hspec
  refine ⟨v, name', tag, definition, resolve_of_fold_eq hv hvendor, splitTag_eq_ok_iff.2 hname', ?_,
    hkind⟩
  rw [← hdefinition]
  simp only [Vendor.attribute?, sameName, hfold]

/-- What is encoded is encoded in any letter case. -/
lemma encodeText_of_fold_eq (hd : d.WellFormed) (hvendor : fold vendor = fold vendor')
    (hspec : fold spec = fold spec') (htext : fold text = fold text')
    (hsame : d.AsksText vendor spec → text = text')
    (h : d.encodeText vendor spec text = .ok report) :
    d.encodeText vendor' spec' text' = .ok { report with text := text' } := by
  obtain ⟨v, a, name, tag, hv, ha, hwire, hname, hreport⟩ := encodeText_eq_ok_iff.1 h
  have hwf := hd.vendors v (mem_vendors_of_resolve hv)
  obtain ⟨_, _, hnames, definition, hmem, hfound, value, hvalue, hbuilt⟩ :=
    (Vendor.buildFromText_eq_ok_iff hwf).1 ha
  obtain ⟨rfl, rfl⟩ := Prod.mk.inj (Except.ok.inj
    ((splitTag_eq_ok_iff.2 hnames).symm.trans hname))
  obtain ⟨name', hnames', hfold⟩ := hnames.of_fold_eq hspec
  -- both names lead to one definition, whose own name the reports have
  have hdefinition : ∀ label, fold definition.name = fold label →
      v.attribute? label = some definition := by
    intro label hlabel
    exact (Vendor.attribute?_eq_some_iff hwf).2 ⟨hmem, hlabel⟩
  have hread : Vendor.readValue definition text' = .ok value := by
    refine Vendor.readValue_of_fold_eq htext (fun hkind => hsame ?_) hvalue
    exact ⟨v, _, _, definition, hv, hname, hdefinition _ hfound, hkind⟩
  refine encodeText_eq_ok_iff.2 ⟨v, a, name', _, resolve_of_fold_eq hv hvendor, ?_, hwire,
    splitTag_eq_ok_iff.2 hnames', ?_⟩
  · exact (Vendor.buildFromText_eq_ok_iff hwf).2 ⟨name', _, hnames', definition, hmem,
      hfound.trans hfold, value, hread, hbuilt⟩
  · rw [hreport, hdefinition _ hfound, hdefinition _ (hfound.trans hfold)]
    rfl

/-- Two operators whose words differ in letter case only both fail or both have one answer. -/
lemma encodeText_cases (hd : d.WellFormed) (hvendor : fold vendor = fold vendor')
    (hspec : fold spec = fold spec') (htext : fold text = fold text')
    (hsame : d.AsksText vendor spec → text = text') :
    (∃ e e', d.encodeText vendor spec text = .error e ∧
        d.encodeText vendor' spec' text' = .error e') ∨
      ∃ report, d.encodeText vendor spec text = .ok report ∧
        d.encodeText vendor' spec' text' = .ok { report with text := text' } := by
  cases h : d.encodeText vendor spec text with
  | ok report => exact .inr ⟨report, rfl, encodeText_of_fold_eq hd hvendor hspec htext hsame h⟩
  | error e =>
      cases h' : d.encodeText vendor' spec' text' with
      | error e' => exact .inl ⟨e, e', rfl, rfl⟩
      | ok report =>
          -- what the second has encoded is encoded for the first as well
          have hback : d.AsksText vendor' spec' → text' = text := fun hasks =>
            (hsame (hasks.of_fold_eq hvendor.symm hspec.symm)).symm
          have hok := encodeText_of_fold_eq hd hvendor.symm hspec.symm htext.symm hback h'
          rw [h] at hok
          cases hok

end Dictionary

/-! ### Registries -/

lemma Table.buildFromText_vendor {t : Table} (ht : t.Coherent) (spec text : String) :
    t.vendor.buildFromText spec text = t.buildFromText spec text := by
  have hrequire : ∀ name, t.vendor.require name = t.require name := by
    intro name
    rw [Vendor.require, require, attribute?_vendor ht]
    rfl
  rw [Vendor.buildFromText, buildFromText]
  simp only [hrequire]
  rfl

namespace Registry

variable {r : Registry} {t : Table}

lemma mem_tables_of_resolve (hr : r.Coherent) (h : r.resolve vendor = .ok t) : t ∈ r.tables := by
  rw [resolve] at h
  cases hnamed : r.vendorNamed? vendor with
  | some u =>
      simp only [hnamed] at h
      obtain rfl := Except.ok.inj h
      exact (hr.vendorNamed?_eq_some_iff.1 hnamed).1
  | none =>
      simp only [hnamed] at h
      cases hnumbered : (word? vendor.toList).bind r.vendor? with
      | none => simp [hnumbered] at h
      | some u =>
          simp only [hnumbered] at h
          obtain rfl := Except.ok.inj h
          obtain ⟨id, -, hu⟩ := Option.bind_eq_some_iff.1 hnumbered
          exact (hr.vendor?_eq_some_iff.1 hu).1

/-- A registry encodes as the dictionary does without the indexes. -/
lemma encodeText_dictionary (hr : r.Coherent) (vendor spec text : String) :
    r.dictionary.encodeText vendor spec text = r.encodeText vendor spec text := by
  rw [Dictionary.encodeText, encodeText, ← resolve_dictionary hr]
  cases hresolve : r.resolve vendor with
  | error e => rfl
  | ok t =>
      have ht : t.Coherent := hr.coherent_of_mem (mem_tables_of_resolve hr hresolve)
      change ((t.vendor.buildFromText spec text).mapError QueryError.dictionary >>= _) =
        ((t.buildFromText spec text).mapError QueryError.dictionary >>= _)
      simp only [Table.buildFromText_vendor ht, ← Table.attribute?_vendor ht]
      rfl

/-- Whether an operator asks for an attribute of text. -/
def AsksText (r : Registry) (vendor spec : String) : Prop :=
  ∃ t name tag definition, r.resolve vendor = .ok t ∧ splitTag spec = .ok (name, tag) ∧
    t.attribute? name = some definition ∧ definition.kind = .text

lemma asksText_dictionary (hr : r.Coherent) :
    r.dictionary.AsksText vendor spec ↔ r.AsksText vendor spec := by
  have hlookup : ∀ t name, r.resolve vendor = .ok t → t.vendor.attribute? name = t.attribute? name :=
    fun t name ht =>
      (Table.attribute?_vendor (hr.coherent_of_mem (mem_tables_of_resolve hr ht)) name).symm
  rw [Dictionary.AsksText, AsksText, ← resolve_dictionary hr]
  constructor
  · rintro ⟨v, name, tag, definition, hv, hname, hdefinition, hkind⟩
    obtain ⟨t, ht, rfl⟩ := map_eq_ok_iff.1 hv
    exact ⟨t, name, tag, definition, ht, hname, hlookup t name ht ▸ hdefinition, hkind⟩
  · rintro ⟨t, name, tag, definition, ht, hname, hdefinition, hkind⟩
    exact ⟨t.vendor, name, tag, definition, map_eq_ok_iff.2 ⟨t, ht, rfl⟩, hname,
      (hlookup t name ht).trans hdefinition, hkind⟩

/-- **Encoding does not look at letter case.**  Of two operators whose words for a vendor and for an
attribute differ in the case of ASCII letters only, and whose texts do so too, or do not differ at
all where the attribute is one of text, either both have no answer, or both have one, of the same
vendor, name, sub-type, tag and octets.  This holds in every registry that loading and merging can
make, and a search through its vendors has the same answers. -/
theorem Reachable.encodeText_ignores_case (h : Reachable r) (hvendor : fold vendor = fold vendor')
    (hspec : fold spec = fold spec') (htext : fold text = fold text')
    (hsame : r.AsksText vendor spec → text = text') :
    ((∃ e e', r.encodeText vendor spec text = .error e ∧
        r.encodeText vendor' spec' text' = .error e') ∨
      ∃ report, r.encodeText vendor spec text = .ok report ∧
        r.encodeText vendor' spec' text' = .ok { report with text := text' }) ∧
    r.dictionary.encodeText = r.encodeText := by
  have hr := h.coherent
  have hsearch : r.dictionary.encodeText = r.encodeText := by
    funext vendor spec text
    exact encodeText_dictionary hr vendor spec text
  refine ⟨?_, hsearch⟩
  rw [← hsearch]
  exact Dictionary.encodeText_cases hr.wellFormed hvendor hspec htext fun hasks =>
    hsame ((asksText_dictionary hr).1 hasks)

/-- A vendor, an attribute with its tag, and octets with their mark, in two letter cases. -/
theorem encodeText_ignores_case_tagged :
    ∃ r, Reachable r ∧ fold "acme" = fold "ACME" ∧ fold "Key:3" = fold "kEY:3" ∧
      fold "0xAb" = fold "0XaB" ∧ ¬ r.AsksText "acme" "Key:3" ∧
      r.encodeText "acme" "Key:3" "0xAb" =
        .ok ⟨9, "Acme", "Key", 1, some 3, "0xAb", [26, 10, 0, 0, 0, 9, 1, 4, 3, 0xAB]⟩ ∧
      r.encodeText "ACME" "kEY:3" "0XaB" =
        .ok ⟨9, "Acme", "Key", 1, some 3, "0XaB", [26, 10, 0, 0, 0, 9, 1, 4, 3, 0xAB]⟩ := by
  have hacme : Dictionary.load empty.dictionary
      "VENDOR Acme 9\nATTRIBUTE Key 1 octets Acme has_tag" =
      .ok ⟨[⟨"Acme", 9, [⟨"Key", 1, "octets", ["has_tag"], []⟩]⟩]⟩ := rfl
  obtain ⟨r, hparse, hr⟩ := exists_load coherent_empty hacme
  have hreachable : Reachable r := .parse hparse
  have hvendor : fold "acme" = fold "ACME" := by decide
  have hspec : fold "Key:3" = fold "kEY:3" := by decide
  have htext : fold "0xAb" = fold "0XaB" := by decide
  have hkey : ¬ r.AsksText "acme" "Key:3" := by
    rw [← asksText_dictionary hreachable.coherent, hr]
    rintro ⟨v, name, tag, definition, hv, hname, hdefinition, hkind⟩
    obtain rfl := Except.ok.inj hv
    obtain ⟨rfl, -⟩ := Prod.mk.inj (Except.ok.inj hname)
    obtain rfl := Option.some.inj hdefinition
    cases hkind
  obtain ⟨hcases, hsearch⟩ := Reachable.encodeText_ignores_case hreachable hvendor hspec htext
    fun hasks => absurd hasks hkey
  have hfirst : r.encodeText "acme" "Key:3" "0xAb" =
      .ok ⟨9, "Acme", "Key", 1, some 3, "0xAb", [26, 10, 0, 0, 0, 9, 1, 4, 3, 0xAB]⟩ := by
    rw [← hsearch, hr]
    rfl
  refine ⟨r, hreachable, hvendor, hspec, htext, hkey, hfirst, ?_⟩
  rcases hcases with ⟨e, -, herror, -⟩ | ⟨report, hok, hsecond⟩
  · rw [hfirst] at herror
    cases herror
  · obtain rfl := Except.ok.inj (hok.symm.trans hfirst)
    exact hsecond

end Registry

end Radius
