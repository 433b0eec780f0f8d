/-
# Loading on top of other vendors

A text of new vendors makes the same of them whether it is loaded on top of other vendors or parsed
on its own and then merged, as long as none of its lines is about a vendor that was there before.
Two kinds of lines can be, although no vendor of the text has the number or the name of one that was
there: an attribute whose fourth field names such a vendor, and a value outside a block, which
belongs to the first vendor that has its attribute.  A text without such lines does not touch the
vendors that were there (`Dictionary.untouchedBy`).  The state that reads it is then at every line
the state that reads it on its own, over the vendors that were there (`Loader.atop`).
-/
import Radius.Proofs.Dictionary.Growth
import Radius.Proofs.Dictionary.Reachable

namespace Radius

open Text Outcome

/-! ### Vendors apart -/

namespace Dictionary

/-- No vendor of one dictionary has the number or the name of a vendor of the other. -/
def Disjoint (d other : Dictionary) : Prop :=
  ∀ v ∈ d.vendors, ∀ w ∈ other.vendors, v.id ≠ w.id ∧ sameName v.name w.name = false

instance (d other : Dictionary) : Decidable (d.Disjoint other) :=
  inferInstanceAs (Decidable (∀ v ∈ d.vendors, ∀ w ∈ other.vendors,
    v.id ≠ w.id ∧ sameName v.name w.name = false))

variable {base d d' : Dictionary} {v w : Vendor}

lemma Disjoint.id_ne (h : base.Disjoint d) (hv : v ∈ base.vendors) (hw : w ∈ d.vendors) :
    v.id ≠ w.id :=
  (h v hv w hw).1

lemma Disjoint.name_ne (h : base.Disjoint d) (hv : v ∈ base.vendors) (hw : w ∈ d.vendors) :
    fold v.name ≠ fold w.name := by
  simpa [sameName] using (h v hv w hw).2

/-- What is apart from a dictionary is apart from whatever the dictionary has grown from. -/
lemma Disjoint.of_grows (h : base.Disjoint d')
    (hgrows : ∀ w ∈ d.vendors, ∃ w' ∈ d'.vendors, w.Grows w') : base.Disjoint d := by
  intro v hv w hw
  obtain ⟨w', hw', hgrows⟩ := hgrows w hw
  exact hgrows.id_eq ▸ hgrows.name_eq ▸ h v hv w' hw'

/-- Nothing is lost where dictionaries without common keys are merged. -/
lemma mem_vendors_merge_of_disjoint (hd : d.WellFormed) (hdisjoint : base.Disjoint d) :
    w ∈ (base.merge d).vendors ↔ w ∈ d.vendors ∨ w ∈ base.vendors := by
  rw [mem_vendors_merge hd]
  refine or_congr_right ⟨And.left, fun hw => ⟨hw, fun v hv => ?_⟩⟩
  exact ⟨hdisjoint.id_ne hw hv, hdisjoint.name_ne hw hv⟩

lemma vendorNamed?_merge_eq_none (hd : d.WellFormed) (hdisjoint : base.Disjoint d)
    {name : String} (h : d.vendorNamed? name = none) (hname : base.vendorNamed? name = none) :
    (base.merge d).vendorNamed? name = none := by
  rw [vendorNamed?_eq_none_iff, List.mem_map] at h hname ⊢
  rintro ⟨w, hw, hwname⟩
  rcases (mem_vendors_merge_of_disjoint hd hdisjoint).1 hw with hw | hw
  · exact h ⟨w, hw, hwname⟩
  · exact hname ⟨w, hw, hwname⟩

/-- The first vendor with some property is the one with the least number. -/
lemma find?_vendors_eq_some_iff (hd : d.WellFormed) {p : Vendor → Bool} :
    d.vendors.find? p = some v ↔
      v ∈ d.vendors ∧ p v = true ∧ ∀ w ∈ d.vendors, p w = true → v.id ≤ w.id := by
  have hids := hd.ids_ascending
  rw [List.pairwise_map] at hids
  rw [List.find?_eq_some_iff_append]
  constructor
  · rintro ⟨hpv, before, after, hvendors, hbefore⟩
    rw [hvendors] at hids ⊢
    refine ⟨by simp, hpv, fun w hw hpw => ?_⟩
    rcases List.mem_append.1 hw with hw | hw
    · exact absurd hpw (by simpa using hbefore w hw)
    · rcases List.mem_cons.1 hw with rfl | hw
      · exact UInt32.le_refl _
      · obtain ⟨-, hids, -⟩ := List.pairwise_append.1 hids
        exact UInt32.le_of_lt ((List.pairwise_cons.1 hids).1 w hw)
  · rintro ⟨hv, hpv, hleast⟩
    obtain ⟨before, after, hvendors⟩ := List.append_of_mem hv
    refine ⟨hpv, before, after, hvendors, fun w hw => ?_⟩
    rw [hvendors] at hids hleast
    have hlt : w.id < v.id := (List.pairwise_append.1 hids).2.2 w hw v List.mem_cons_self
    by_contra hpw
    exact absurd (hleast w (List.mem_append_left _ hw) (by simpa using hpw)) (UInt32.not_le.2 hlt)

/-- A vendor is declared alike before and after the merge. -/
lemma declare?_merge {name : String} {id : UInt32} (hbase : base.WellFormed) (hd : d.WellFormed)
    (hdisjoint : base.Disjoint d') (h : d.declare? name id = some d') :
    (base.merge d).declare? name id = some (base.merge d') := by
  have hd' : d'.WellFormed := hd.declare? h
  rw [declare?_eq_some_iff (hbase.merge hd)]
  rcases (declare?_eq_some_iff hd).1 h with ⟨hname, hid, rfl⟩ | ⟨⟨v, hv, hkeys⟩, rfl⟩
  · have hnew : { name, id } ∈ place { name, id } d.vendors := mem_place.2 (.inl rfl)
    have hdisjoint' : base.Disjoint d := fun v hv w hw =>
      hdisjoint v hv w (mem_place.2 (.inr hw))
    have hmerge (w : Vendor) := mem_vendors_merge_of_disjoint (w := w) hd hdisjoint'
    have hname' : fold name ∉ (base.merge d).vendors.map fun v => fold v.name := by
      rw [List.mem_map]
      rintro ⟨w, hw, hwname⟩
      rcases (hmerge w).1 hw with hw | hw
      · exact hname (List.mem_map.2 ⟨w, hw, hwname⟩)
      · exact hdisjoint.name_ne hw hnew hwname
    have hid' : id ∉ (base.merge d).vendors.map (·.id) := by
      rw [List.mem_map]
      rintro ⟨w, hw, hwid⟩
      rcases (hmerge w).1 hw with hw | hw
      · exact hid (List.mem_map.2 ⟨w, hw, hwid⟩)
      · exact hdisjoint.id_ne hw hnew hwid
    refine .inl ⟨hname', hid', eq_of_mem_iff (hbase.merge hd') ?_ fun w => ?_⟩
    · exact (hbase.merge hd).place (wellFormed_vendor_nil name id) hid' hname'
    · rw [mem_vendors_merge_of_disjoint hd' hdisjoint, mem_place, mem_place, hmerge, or_assoc]
  · exact .inr ⟨⟨v, (mem_vendors_merge_of_disjoint hd hdisjoint).2 (.inl hv), hkeys⟩, rfl⟩

/-- A table of the upper dictionary is updated alike before and after the merge. -/
lemma merge_update (hbase : base.WellFormed) (hd : d.WellFormed) (hd' : (d.update v).WellFormed)
    (hdisjoint : base.Disjoint d) (hw : w ∈ d.vendors) (hid : v.id = w.id)
    (hname : v.name = w.name) :
    (base.merge d).update v = base.merge (d.update v) := by
  have hids : v.id ∈ d.vendors.map (·.id) := hid ▸ List.mem_map_of_mem hw
  have hmem : w ∈ (base.merge d).vendors := (mem_vendors_merge_of_disjoint hd hdisjoint).2 (.inl hw)
  have hv : v.WellFormed := hd'.vendors v ((mem_vendors_update hids).2 (.inl rfl))
  have hdisjoint' : base.Disjoint (d.update v) := by
    intro u hu u' hu'
    rcases (mem_vendors_update hids).1 hu' with rfl | ⟨hu', -⟩
    · exact hid ▸ hname ▸ hdisjoint u hu w hw
    · exact hdisjoint u hu u' hu'
  refine eq_of_mem_iff ((hbase.merge hd).update hv hmem hid hname) (hbase.merge hd') fun u => ?_
  rw [mem_vendors_update (hid ▸ List.mem_map_of_mem hmem),
    mem_vendors_merge_of_disjoint hd hdisjoint, mem_vendors_merge_of_disjoint hd' hdisjoint',
    mem_vendors_update hids]
  have hne : u ∈ base.vendors → u.id ≠ v.id := fun hu => hid ▸ hdisjoint.id_ne hu hw
  tauto

end Dictionary

/-! ### Lines that are about other vendors -/

namespace Loader

/-- Whether a directive is about no vendor of `base`, should those be there as well: the fourth
field of an attribute names none of them, and none of them comes, with an attribute of the name,
before the vendor to which a value outside a block belongs. -/
def avoids (s : Loader) (base : Dictionary) : Directive → Bool
  | .declareAttribute _ _ _ (some field) _ => (base.vendorNamed? field).isNone
  | .declareValue owner _ _ =>
    match s.block, s.valueVendor? owner with
    | none, some v => base.vendors.all fun w => v.id ≤ w.id || (w.attribute? owner).isNone
    | _, _ => true
  | _ => true

/-- Whether no line up to the first fault is about a vendor of `base`. -/
def allAvoid (s : Loader) (base : Dictionary) : List SourceLine → Bool
  | [] => true
  | line :: rest =>
    line.directive?.all (s.avoids base) &&
      match s.step line with
      | .ok s => s.allAvoid base rest
      | .error _ => true

/-- The state with the vendors of `base` under its own. -/
def atop (s : Loader) (base : Dictionary) : Loader :=
  { s with dictionary := base.merge s.dictionary }

variable {s s' : Loader} {base : Dictionary} {v v' : Vendor}

@[simp] lemma dictionary_atop : (s.atop base).dictionary = base.merge s.dictionary := rfl

@[simp] lemma block_atop : (s.atop base).block = s.block := rfl

section Atop

variable (hbase : base.WellFormed) (hs : s.dictionary.WellFormed)
  (hdisjoint : base.Disjoint s.dictionary)
include hbase hs hdisjoint

lemma target_atop {name : String} {fourth fifth flags : Option String}
    (havoids : ∀ field ∈ fourth, base.vendorNamed? field = none)
    (h : s.target name fourth fifth = .ok (v, flags)) :
    (s.atop base).target name fourth fifth = .ok (v, flags) := by
  unfold target at h ⊢
  rw [dictionary_atop, block_atop]
  cases hnamed : fourth.bind s.dictionary.vendorNamed? with
  | some w =>
      obtain ⟨field, hfield, hw⟩ := Option.bind_eq_some_iff.1 hnamed
      rw [hnamed] at h
      rw [hfield, Option.bind_some, Dictionary.vendorNamed?_merge hbase hs hw]
      exact h
  | none =>
      -- the fourth field still names no vendor
      have hnone : fourth.bind (base.merge s.dictionary).vendorNamed? = none := by
        rw [Option.bind_eq_none_iff] at hnamed ⊢
        intro field hfield
        exact Dictionary.vendorNamed?_merge_eq_none hs hdisjoint (hnamed field hfield)
          (havoids field hfield)
      rw [hnamed] at h
      rw [hnone]
      cases hblock : s.block with
      | none =>
          rw [hblock] at h
          exact h
      | some block =>
          simp only [hblock] at h ⊢
          cases hw : s.dictionary.vendor? block.vendor with
          | none => simp [hw] at h
          | some w =>
              rw [hw] at h
              rw [Dictionary.vendor?_merge hbase hs hw]
              exact h

/-- A value belongs to the same vendor on top of `base` if and only if it avoids the vendors of
`base`. -/
lemma valueVendor?_atop_iff {owner name number : String} (h : s.valueVendor? owner = some v) :
    (s.atop base).valueVendor? owner = some v ↔
      s.avoids base (.declareValue owner name number) = true := by
  have hvendor := h
  rw [valueVendor?] at h ⊢
  rw [dictionary_atop, block_atop]
  cases hblock : s.block with
  | some block =>
      simp only [hblock] at h
      simp only [avoids, hblock, Dictionary.vendor?_merge hbase hs h]
  | none =>
      simp only [hblock] at h
      obtain ⟨hv, hattribute, hleast⟩ := (Dictionary.find?_vendors_eq_some_iff hs).1 h
      have hmerge (w : Vendor) := Dictionary.mem_vendors_merge_of_disjoint (w := w) hs hdisjoint
      simp only [avoids, hblock, hvendor, List.all_eq_true, Bool.or_eq_true, decide_eq_true_eq]
      rw [Dictionary.find?_vendors_eq_some_iff (hbase.merge hs)]
      constructor
      · rintro ⟨-, -, hleast'⟩ w hw
        cases hwattribute : w.attribute? owner with
        | none => exact .inr rfl
        | some d => exact .inl (hleast' w ((hmerge w).2 (.inr hw)) (by rw [hwattribute]; rfl))
      · intro havoids
        refine ⟨(hmerge v).2 (.inl hv), hattribute, fun w hw hwattribute => ?_⟩
        rcases (hmerge w).1 hw with hw | hw
        · exact hleast w hw hwattribute
        · rcases havoids w hw with hle | hnone
          · exact hle
          · simp [Option.isNone_iff_eq_none.1 hnone] at hwattribute

end Atop

lemma atop_update (hbase : base.WellFormed) (hs : s.dictionary.WellFormed)
    (hs' : (s.dictionary.update v').WellFormed) (hdisjoint : base.Disjoint s.dictionary)
    (hv : v ∈ s.dictionary.vendors) (hgrows : v.Grows v') :
    ({ s with dictionary := s.dictionary.update v' } : Loader).atop base =
      { s.atop base with dictionary := (s.atop base).dictionary.update v' } := by
  rw [dictionary_atop,
    Dictionary.merge_update hbase hs hs' hdisjoint hv hgrows.id_eq hgrows.name_eq]
  rfl

lemma Accepts.atop {line : Nat} {directive : Directive} (h : Accepts s line directive s')
    (hbase : base.WellFormed) (hs : s.dictionary.WellFormed)
    (hdisjoint : base.Disjoint s'.dictionary) (havoids : s.avoids base directive = true) :
    Accepts (s.atop base) line directive (s'.atop base) := by
  have hs' : s'.dictionary.WellFormed := h.wellFormed hs
  have hbelow : base.Disjoint s.dictionary := hdisjoint.of_grows fun _ hw => h.exists_grows hs hw
  cases h with
  | declareVendor hid hformat hdeclare =>
      exact .declareVendor hid hformat (Dictionary.declare?_merge hbase hs hdisjoint hdeclare)
  | beginBlock hclosed hvendor =>
      exact .beginBlock hclosed (Dictionary.vendorNamed?_merge hbase hs hvendor)
  | endBlock hopen hname => exact .endBlock hopen hname
  | @declareAttribute name number typeName fourth fifth flags code v v' htarget hnumber hcode
      hinsert =>
      have hfourth : ∀ field ∈ fourth, base.vendorNamed? field = none := by
        rintro field rfl
        exact Option.isNone_iff_eq_none.1 havoids
      rw [atop_update hbase hs hs' hbelow (mem_vendors_of_target htarget)
        (Vendor.grows_insert hinsert)]
      exact .declareAttribute (target_atop hbase hs hbelow hfourth htarget) hnumber hcode hinsert
  | declareValue hnumber hvendor howner hkind =>
      have hv := mem_vendors_of_valueVendor? hvendor
      rw [atop_update hbase hs hs' hbelow hv (Vendor.grows_declareValue (hs.vendors _ hv) howner)]
      exact .declareValue hnumber ((valueVendor?_atop_iff hbase hs hbelow hvendor).2 havoids)
        howner hkind
  | unsupported => exact .unsupported

lemma step_atop {line : SourceLine} (hbase : base.WellFormed) (hs : s.dictionary.WellFormed)
    (hdisjoint : base.Disjoint s'.dictionary)
    (havoids : line.directive?.all (s.avoids base) = true) (h : s.step line = .ok s') :
    (s.atop base).step line = .ok (s'.atop base) := by
  rw [step_eq_ok_iff] at h ⊢
  rcases h with ⟨hwords, rfl⟩ | ⟨keyword, fields, directive, hwords, hdirective, haccepts⟩
  · exact .inl ⟨hwords, rfl⟩
  · rw [SourceLine.directive?_eq_some_iff.2 ⟨keyword, fields, hwords, hdirective⟩] at havoids
    exact .inr ⟨keyword, fields, directive, hwords, hdirective,
      haccepts.atop hbase hs hdisjoint havoids⟩

/-- Lines that avoid the vendors of `base` do the same on top of them. -/
lemma run_atop {lines : List SourceLine} (hbase : base.WellFormed) (hs : s.dictionary.WellFormed)
    (hdisjoint : base.Disjoint s'.dictionary) (havoids : s.allAvoid base lines = true)
    (h : s.run lines = .ok s') : (s.atop base).run lines = .ok (s'.atop base) := by
  induction lines generalizing s with
  | nil => exact congrArg (Except.ok <| ·.atop base) (Except.ok.inj h)
  | cons line rest ih =>
      rw [run] at h ⊢
      cases hline : s.step line with
      | error e => simp [hline] at h
      | ok t =>
          simp only [hline] at h
          rw [allAvoid, hline, Bool.and_eq_true] at havoids
          have ht : t.dictionary.WellFormed := wellFormed_of_step hline hs
          -- the vendors of the rest of the text are apart, and so are those of this line
          have htdisjoint : base.Disjoint t.dictionary :=
            hdisjoint.of_grows fun _ hw => exists_grows_of_run h ht hw
          rw [step_atop hbase hs htdisjoint havoids.1 hline]
          exact ih ht havoids.2 h

/-- An attribute whose fourth field names a vendor is one more attribute of this vendor. -/
lemma Accepts.exists_longer {line : Nat} {name number typeName field : String}
    {fifth : Option String}
    (h : Accepts s line (.declareAttribute name number typeName (some field) fifth) s')
    (hs : s.dictionary.WellFormed) (hv : v ∈ s.dictionary.vendors)
    (hname : fold v.name = fold field) :
    ∃ v' ∈ s'.dictionary.vendors, v'.id = v.id ∧ v.attributes.length < v'.attributes.length := by
  have hfield : s.dictionary.vendorNamed? field = some v :=
    (Dictionary.vendorNamed?_eq_some_iff hs).2 ⟨hv, hname⟩
  cases h with
  | @declareAttribute _ _ _ _ _ flags code w v' htarget hnumber hcode hinsert =>
      simp only [target, Option.bind_some, hfield] at htarget
      obtain ⟨rfl, -⟩ := Prod.mk.inj (Except.ok.inj htarget)
      have hid : v'.id = v.id := (Vendor.grows_insert hinsert).id_eq
      have hmem : v'.id ∈ s.dictionary.vendors.map (·.id) := hid ▸ List.mem_map_of_mem hv
      obtain ⟨-, -, hv'⟩ := Vendor.insert_eq_ok_iff.1 hinsert
      exact ⟨v', (Dictionary.mem_vendors_update hmem).2 (.inl rfl), hid, by simp [hv']⟩

end Loader

namespace Dictionary

/-- Whether no line of a text that is parsed on its own is about a vendor of the dictionary. -/
def untouchedBy (base : Dictionary) (text : String) : Bool :=
  Loader.allAvoid ⟨empty, none⟩ base (SourceLine.ofText text)

/-- **New vendors are laid on top.**  A text whose vendors have neither a number nor a name of a
vendor that is there, and whose lines do not touch the vendors that are there, is loaded, and what
comes of it is the dictionary that the text makes on its own, merged on top. -/
theorem load_eq_merge_of_untouchedBy {d other : Dictionary} {text : String} (hd : d.Reachable)
    (hparse : parse text = .ok other) (hdisjoint : d.Disjoint other)
    (huntouched : d.untouchedBy text = true) : d.load text = .ok (d.merge other) := by
  rw [parse, load_eq_ok_iff] at hparse
  rw [load_eq_ok_iff]
  exact Loader.run_atop hd.wellFormed wellFormed_empty hdisjoint huntouched hparse

/-- A value outside a block whose attribute a later vendor has too. -/
theorem load_eq_merge_of_untouchedBy_later :
    ∃ d other,
      parse "VENDOR Later 9\nATTRIBUTE Kind 1 integer LATER" = .ok d ∧
      parse "VENDOR V 5\nBEGIN-VENDOR V\nATTRIBUTE Kind 7 integer\nEND-VENDOR V\nVALUE Kind Up 0" =
        .ok other ∧
      d.load "VENDOR V 5\nBEGIN-VENDOR V\nATTRIBUTE Kind 7 integer\nEND-VENDOR V\nVALUE Kind Up 0" =
        .ok (d.merge other) := by
  have hd : parse "VENDOR Later 9\nATTRIBUTE Kind 1 integer LATER" =
      .ok ⟨[⟨"Later", 9, [⟨"Kind", 1, "integer", [], []⟩]⟩]⟩ := rfl
  have hother : parse
      "VENDOR V 5\nBEGIN-VENDOR V\nATTRIBUTE Kind 7 integer\nEND-VENDOR V\nVALUE Kind Up 0" =
      .ok ⟨[⟨"V", 5, [⟨"Kind", 7, "integer", [], [⟨"Up", 0⟩]⟩]⟩]⟩ := rfl
  exact ⟨_, _, hd, hother, load_eq_merge_of_untouchedBy (.parse hd) hother (by decide) rfl⟩

/-- Distinct numbers and names are not enough.  A value outside a block goes to an earlier vendor
that has its attribute, and an attribute to the vendor that its fourth field names. -/
theorem load_ne_merge_of_touched :
    (∃ d other,
      parse "VENDOR Early 1\nATTRIBUTE Kind 1 integer EARLY" = .ok d ∧
      parse "VENDOR Late 2\nATTRIBUTE Kind 1 integer LATE\nVALUE Kind Big 7" = .ok other ∧
      d.Disjoint other ∧
      d.load "VENDOR Late 2\nATTRIBUTE Kind 1 integer LATE\nVALUE Kind Big 7" =
        .ok ⟨[⟨"Early", 1, [⟨"Kind", 1, "integer", [], [⟨"Big", 7⟩]⟩]⟩,
          ⟨"Late", 2, [⟨"Kind", 1, "integer", [], []⟩]⟩]⟩ ∧
      d.load "VENDOR Late 2\nATTRIBUTE Kind 1 integer LATE\nVALUE Kind Big 7" ≠
        .ok (d.merge other)) ∧
    ∃ d other,
      parse "VENDOR Early 1" = .ok d ∧
      parse "VENDOR Late 2\nBEGIN-VENDOR Late\nATTRIBUTE Kind 1 integer early\nEND-VENDOR Late" =
        .ok other ∧
      d.Disjoint other ∧
      d.load "VENDOR Late 2\nBEGIN-VENDOR Late\nATTRIBUTE Kind 1 integer early\nEND-VENDOR Late" =
        .ok ⟨[⟨"Early", 1, [⟨"Kind", 1, "integer", [], []⟩]⟩, ⟨"Late", 2, []⟩]⟩ ∧
      d.load "VENDOR Late 2\nBEGIN-VENDOR Late\nATTRIBUTE Kind 1 integer early\nEND-VENDOR Late" ≠
        .ok (d.merge other) := by
  constructor
  · refine ⟨_, _, rfl, rfl, by decide, rfl, fun h => ?_⟩
    exact absurd (Except.ok.inj h) (by decide)
  · refine ⟨_, _, rfl, rfl, by decide, rfl, fun h => ?_⟩
    exact absurd (Except.ok.inj h) (by decide)

/-- A text that is loaded as it is merged has no attribute whose fourth field names a vendor that
was there: the attribute would be one of that vendor's. -/
theorem vendorNamed?_eq_none_of_load_eq_merge {d other : Dictionary} {text : String}
    {line : SourceLine} {name number typeName field : String} {fifth : Option String}
    (hd : d.WellFormed) (hparse : parse text = .ok other) (hdisjoint : d.Disjoint other)
    (hload : d.load text = .ok (d.merge other)) (hline : line ∈ SourceLine.ofText text)
    (hdirective :
      line.directive? = some (.declareAttribute name number typeName (some field) fifth)) :
    d.vendorNamed? field = none := by
  have hother : other.WellFormed := wellFormed_empty.load hparse
  by_contra hfield
  obtain ⟨v, hfield⟩ := Option.ne_none_iff_exists'.1 hfield
  obtain ⟨hv, hname⟩ := (vendorNamed?_eq_some_iff hd).1 hfield
  obtain ⟨before, after, hlines⟩ := List.append_of_mem hline
  rw [load_eq_ok_iff, hlines, Loader.run_append] at hload
  obtain ⟨s, hbefore, hload⟩ := bind_eq_ok_iff.1 hload
  rw [Loader.run] at hload
  cases hstep : s.step line with
  | error e => simp [hstep] at hload
  | ok t =>
      simp only [hstep] at hload
      have hs : s.dictionary.WellFormed := Loader.wellFormed_of_run hbefore hd
      have ht : t.dictionary.WellFormed := Loader.wellFormed_of_step hstep hs
      -- the vendor before the line, after it and at the end of the text
      obtain ⟨v₁, hv₁, hgrows₁⟩ := Loader.exists_grows_of_run hbefore hd hv
      rw [Loader.step_of_directive? hdirective, Loader.apply_eq_ok_iff] at hstep
      obtain ⟨v₂, hv₂, hid, hlength⟩ := hstep.exists_longer hs hv₁ (hgrows₁.name_eq ▸ hname)
      obtain ⟨v₃, hv₃, hgrows₃⟩ := Loader.exists_grows_of_run hload ht hv₂
      have hmerge : v ∈ (d.merge other).vendors :=
        (mem_vendors_merge_of_disjoint hother hdisjoint).2 (.inr hv)
      obtain rfl : v₃ = v := List.inj_on_of_nodup_map (hd.merge hother).ids_nodup hv₃ hmerge
        ((hgrows₃.id_eq.trans hid).trans hgrows₁.id_eq)
      have hle := hgrows₁.length_le
      have hle' := hgrows₃.length_le
      omega

end Dictionary

end Radius
