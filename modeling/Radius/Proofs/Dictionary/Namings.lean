/-
# The names that a text gives to numbers

A `VALUE` line names a number of one attribute.  Which attribute that is can be read off the lines
before it: inside a block it is the attribute of that name in the table of the block's vendor, and
outside it is the one in the table of the vendor with the least number among those whose table has
the name (`Dictionary.naming?`).  The values of a definition are at all times those that it had at
the start after the namings of the lines before, one after the other (`Dictionary.NamedBy`).  So a
number keeps a name until a later line gives the name to another number.
-/
import Mathlib.Data.List.Induction
import Radius.Proofs.Dictionary.Builtin
import Radius.Proofs.Validation

namespace Radius

open Text Outcome

/-! ### One naming after the other -/

/-- A name for a number of the attribute with a code among those of a vendor. -/
structure Naming where
  vendor : UInt32
  code : UInt8
  name : String
  number : Int32
deriving DecidableEq

namespace Naming

/-- The number of the last naming of a name, in any letter case. -/
def lastNumber? (namings : List Naming) (name : String) : Option Int32 :=
  ((namings.filter fun n => sameName n.name name).getLast?).map (·.number)

variable {namings earlier later : List Naming} {n : Naming} {name : String}

lemma lastNumber?_append_singleton :
    lastNumber? (namings ++ [n]) name =
      if sameName n.name name then some n.number else lastNumber? namings name := by
  rw [lastNumber?, List.filter_append]
  cases hname : sameName n.name name with
  | true => simp [hname]
  | false => simp [hname, lastNumber?]

/-- A name keeps its number until a naming gives it another one. -/
lemma lastNumber?_eq_of_forall
    (hlater : ∀ m ∈ later, fold m.name = fold n.name → m.number = n.number) :
    lastNumber? (earlier ++ n :: later) n.name = some n.number := by
  induction later using List.reverseRecOn with
  | nil => rw [lastNumber?_append_singleton, if_pos (sameName_refl n.name)]
  | append_singleton later m ih =>
      rw [← List.cons_append, ← List.append_assoc, lastNumber?_append_singleton]
      split_ifs with hname
      · rw [hlater m (by simp) (sameName_iff.1 hname)]
      · exact ih fun m hm => hlater m (List.mem_append_left _ hm)

end Naming

namespace NamedValue

/-- Named values after some namings. -/
def declareAll (values : List NamedValue) (namings : List Naming) : List NamedValue :=
  namings.foldl (fun values n => declare n.name n.number values) values

lemma declareAll_append (values : List NamedValue) (namings namings' : List Naming) :
    declareAll values (namings ++ namings') = declareAll (declareAll values namings) namings' :=
  List.foldl_append

lemma declareAll_append_singleton (values : List NamedValue) (namings : List Naming) (n : Naming) :
    declareAll values (namings ++ [n]) = declare n.name n.number (declareAll values namings) :=
  declareAll_append values namings [n]

/-- The last naming of a name decides on its number. -/
lemma find?_declareAll (values : List NamedValue) (namings : List Naming) (name : String) :
    ((declareAll values namings).find? fun v => sameName v.name name).map (·.number) =
      (Naming.lastNumber? namings name).or
        ((values.find? fun v => sameName v.name name).map (·.number)) := by
  induction namings using List.reverseRecOn with
  | nil => rfl
  | append_singleton namings n ih =>
      rw [declareAll_append_singleton, find?_declare, ih, Naming.lastNumber?_append_singleton]
      split_ifs <;> rfl

lemma exists_mem_declareAll {values : List NamedValue} {namings : List Naming} {name : String}
    {number : Int32} (h : Naming.lastNumber? namings name = some number) :
    ∃ w ∈ declareAll values namings, w.number = number := by
  have hfound := find?_declareAll values namings name
  rw [h, Option.some_or, Option.map_eq_some_iff] at hfound
  obtain ⟨w, hw, hnumber⟩ := hfound
  exact ⟨w, List.mem_of_find?_eq_some hw, hnumber⟩

end NamedValue

/-! ### Reading the namings off the lines -/

namespace Dictionary

/-- The definitions of a vendor, without their values, after some directives. -/
def table (d : Dictionary) (before : List Directive) (vendor : UInt32) : List Definition :=
  d.headers vendor ++ d.additionsTo before vendor

/-- The number of the vendor that has the attribute of a `VALUE` line after some directives: the
vendor of the open block, or else the one with the least number whose table has the name. -/
def holder? (d : Dictionary) (before : List Directive) (owner : String) : Option UInt32 :=
  match openBlock before with
  | some block => ((d.known before).find? fun v => sameName v.name block).map (·.id)
  | none =>
    (((d.known before).map (·.id)).filter fun vendor =>
      (d.table before vendor).any fun e => sameName e.name owner).min?

/-- The naming that a `VALUE` line makes after some directives. -/
def naming? (d : Dictionary) (before : List Directive) : Directive → Option Naming
  | .declareValue owner name number => do
    let vendor ← d.holder? before owner
    let e ← (d.table before vendor).find? fun e => sameName e.name owner
    let number ← (sourceNumber? number).bind pattern32?
    return ⟨vendor, e.code, name, number⟩
  | _ => none

/-- The namings that directives make after some others, in their order. -/
def namings (d : Dictionary) (before : List Directive) : List Directive → List Naming
  | [] => []
  | x :: after => (d.naming? before x).toList ++ d.namings (before ++ [x]) after

/-- Those of the namings that are for the attribute with a code among those of a vendor. -/
def namingsTo (d : Dictionary) (before after : List Directive) (vendor : UInt32) (code : UInt8) :
    List Naming :=
  (d.namings before after).filter fun n => n.vendor == vendor && n.code == code

/-- The named values that an attribute starts with; none if it is not there. -/
def valuesOf (d : Dictionary) (vendor : UInt32) (code : UInt8) : List NamedValue :=
  ((d.vendor? vendor).bind (·.attributeOf? code)).elim [] (·.values)

variable {d : Dictionary} {before after ds : List Directive} {x : Directive} {n : Naming}
  {vendor : UInt32} {code : UInt8}

lemma namings_append (before ds after : List Directive) :
    d.namings before (ds ++ after) = d.namings before ds ++ d.namings (before ++ ds) after := by
  induction ds generalizing before with
  | nil => simp [namings]
  | cons x ds ih => simp [namings, ih]

lemma namings_append_singleton :
    d.namings [] (before ++ [x]) = d.namings [] before ++ (d.naming? before x).toList := by
  rw [namings_append, List.nil_append, namings, namings, List.append_nil]

lemma namingsTo_append_singleton :
    d.namingsTo [] (before ++ [x]) vendor code = d.namingsTo [] before vendor code ++
      (d.naming? before x).toList.filter fun n => n.vendor == vendor && n.code == code := by
  rw [namingsTo, namings_append_singleton, List.filter_append, namingsTo]

/-- Only `VALUE` lines make namings. -/
lemma naming?_eq_none (hx : ∀ owner name number, x ≠ .declareValue owner name number) :
    d.naming? before x = none := by
  cases x with
  | declareValue owner name number => exact absurd rfl (hx owner name number)
  | _ => rfl

lemma namings_eq_nil (hafter : ∀ owner name number, .declareValue owner name number ∉ after) :
    d.namings before after = [] := by
  induction after generalizing before with
  | nil => rfl
  | cons x after ih =>
      have hx : ∀ owner name number, x ≠ .declareValue owner name number := by
        rintro owner name number rfl
        exact hafter owner name number List.mem_cons_self
      have hrest : ∀ owner name number, .declareValue owner name number ∉ after :=
        fun owner name number hmem => hafter owner name number (List.mem_cons_of_mem x hmem)
      rw [namings, naming?_eq_none hx, ih hrest]
      rfl

/-- Directives with one more after them are split at that one or before it. -/
lemma split_append_singleton {first last : List Directive} {y : Directive}
    (h : before ++ [x] = first ++ y :: last) :
    (first = before ∧ y = x) ∨ ∃ rest, before = first ++ y :: rest := by
  rcases List.eq_nil_or_concat last with rfl | ⟨rest, z, rfl⟩
  · obtain ⟨hfirst, hlast⟩ := List.append_singleton_inj.1 h
    exact .inl ⟨hfirst.symm, hlast.symm⟩
  · rw [List.concat_eq_append, ← List.cons_append, ← List.append_assoc] at h
    exact .inr ⟨rest, (List.append_singleton_inj.1 h).1⟩

/-! ### The attribute to which a line belongs -/

namespace Follows

variable {s s' : Loader} {line : Nat} {v : Vendor} {e : Definition} {owner name : String}

lemma table_eq (h : d.Follows before s) (hv : v ∈ s.dictionary.vendors) :
    d.table before v.id = v.attributes.map (·.header) :=
  (h.headers_eq v hv).symm

lemma find?_table_eq (h : d.Follows before s) (hv : v ∈ s.dictionary.vendors) (owner : String) :
    (d.table before v.id).find? (fun e => sameName e.name owner) =
      (v.attribute? owner).map (·.header) := by
  rw [h.table_eq hv, List.find?_map]
  rfl

lemma any_table_eq (h : d.Follows before s) (hv : v ∈ s.dictionary.vendors) (owner : String) :
    (d.table before v.id).any (fun e => sameName e.name owner) = (v.attribute? owner).isSome := by
  rw [← List.isSome_find?, h.find?_table_eq hv, Option.isSome_map]

lemma mem_ids_iff (h : d.Follows before s) :
    vendor ∈ (d.known before).map (·.id) ↔ ∃ w ∈ s.dictionary.vendors, w.id = vendor := by
  rw [← (h.vendors_perm.map (·.id)).mem_iff, List.map_map, List.mem_map]
  rfl

/-- The vendor that the loader finds for a value can be read off the lines before. -/
lemma holder?_eq (h : d.Follows before s) (hvendor : s.valueVendor? owner = some v) :
    d.holder? before owner = some v.id := by
  rw [holder?, ← h.block_name]
  rw [Loader.valueVendor?] at hvendor
  cases hblock : s.block with
  | some block =>
      simp only [hblock] at hvendor
      simp only [Option.map_some]
      rw [h.find?_known_eq, h.vendorNamed?_block hblock, hvendor]
      rfl
  | none =>
      simp only [hblock] at hvendor
      simp only [Option.map_none]
      obtain ⟨hhas, first, last, hvendors, hfirst⟩ := List.find?_eq_some_iff_append.1 hvendor
      have hv : v ∈ s.dictionary.vendors := List.mem_of_find?_eq_some hvendor
      rw [List.min?_eq_some_iff]
      constructor
      · rw [List.mem_filter, h.any_table_eq hv]
        exact ⟨h.mem_ids_iff.2 ⟨v, hv, rfl⟩, hhas⟩
      · intro vendor hmem
        obtain ⟨hmem, hother⟩ := List.mem_filter.1 hmem
        obtain ⟨w, hw, rfl⟩ := h.mem_ids_iff.1 hmem
        rw [h.any_table_eq hw] at hother
        -- the vendors stand in ascending order, and those before `v` do not have the name
        have hascending := h.wellFormed.ids_ascending
        rw [hvendors, List.map_append, List.map_cons, List.pairwise_append,
          List.pairwise_cons] at hascending
        rw [hvendors, List.mem_append, List.mem_cons] at hw
        rcases hw with hw | rfl | hw
        · have := hfirst w hw
          simp [hother] at this
        · exact UInt32.le_refl _
        · exact UInt32.le_of_lt (hascending.2.1.1 w.id (List.mem_map_of_mem hw))

/-- A value that is accepted is named for the attribute to which its line belongs. -/
lemma naming?_eq (h : d.Follows before s) {text : String} {number : Int32}
    (hnumber : (sourceNumber? text).bind pattern32? = some number)
    (hvendor : s.valueVendor? owner = some v) (howner : v.attribute? owner = some e) :
    d.naming? before (.declareValue owner name text) = some ⟨v.id, e.code, name, number⟩ := by
  have hv := Loader.mem_vendors_of_valueVendor? hvendor
  simp [naming?, h.holder?_eq hvendor, h.find?_table_eq hv, howner, hnumber, Definition.header]

/-- An attribute whose code is new had no values at the start. -/
lemma valuesOf_eq_nil (h : d.Follows before s) (hv : v ∈ s.dictionary.vendors)
    (hcode : code ∉ v.attributes.map (·.code)) :
    d.valuesOf v.id code = [] := by
  rw [valuesOf]
  cases hvendor : d.vendor? v.id with
  | none => rfl
  | some w =>
      -- what the vendor had at the start it has kept
      have hnone : w.attributeOf? code = none := by
        rw [Vendor.attributeOf?_eq_none_iff]
        intro hmem
        obtain ⟨e, he, hecode⟩ := List.mem_map.1 hmem
        have hheader : e.header ∈ v.attributes.map (·.header) := by
          rw [h.headers_eq v hv, headers, hvendor]
          exact List.mem_append_left _ (List.mem_map_of_mem he)
        obtain ⟨e', he', heq⟩ := List.mem_map.1 hheader
        have hsame : e'.header.code = e.header.code := by rw [heq]
        exact hcode (List.mem_map.2 ⟨e', he', hsame.trans hecode⟩)
      simp [hnone]

end Follows

/-! ### What the values of a state come from -/

/-- The values of a state are what the namings of some directives have made of those of a
dictionary. -/
structure NamedBy (d : Dictionary) (before : List Directive) (s : Loader) : Prop where
  /-- No `VALUE` line is passed over. -/
  named : ∀ first owner name number last,
    before = first ++ .declareValue owner name number :: last →
      (d.naming? first (.declareValue owner name number)).isSome
  /-- The attributes of the namings are there. -/
  held : ∀ n ∈ d.namings [] before, ∃ v ∈ s.dictionary.vendors, v.id = n.vendor ∧
    n.code ∈ v.attributes.map (·.code)
  /-- The namings of an attribute have taken place one after the other. -/
  values_eq : ∀ v ∈ s.dictionary.vendors, ∀ e ∈ v.attributes, e.values =
    NamedValue.declareAll (d.valuesOf v.id e.code) (d.namingsTo [] before v.id e.code)

lemma namedBy_nil (hd : d.WellFormed) : d.NamedBy [] ⟨d, none⟩ where
  named := by simp
  held := by simp [namings]
  values_eq := by
    intro v hv e he
    have hvendor : d.vendor? v.id = some v := (vendor?_eq_some_iff hd).2 ⟨hv, rfl⟩
    have hknown : v.attributeOf? e.code = some e :=
      (Vendor.attributeOf?_eq_some_iff (hd.vendors v hv)).2 ⟨he, rfl⟩
    simp [valuesOf, hvendor, hknown, namingsTo, namings, NamedValue.declareAll]

namespace NamedBy

variable {s s' : Loader} {line : Nat} {v : Vendor} {e : Definition}

/-- If the last line makes a naming, should it be a `VALUE` line, then all `VALUE` lines do. -/
lemma named_append (h : d.NamedBy before s)
    (hx : ∀ owner name number, x = .declareValue owner name number → (d.naming? before x).isSome)
    {first last : List Directive} {owner name number : String}
    (hsplit : before ++ [x] = first ++ .declareValue owner name number :: last) :
    (d.naming? first (.declareValue owner name number)).isSome := by
  rcases split_append_singleton hsplit with ⟨rfl, rfl⟩ | ⟨rest, hbefore⟩
  · exact hx owner name number rfl
  · exact h.named first owner name number rest hbefore

/-- What has been named is there still, as definitions do not go away. -/
lemma held_append (h : d.NamedBy before s)
    (hgrows : ∀ v ∈ s.dictionary.vendors, ∃ v' ∈ s'.dictionary.vendors, v.Grows v')
    (hx : ∀ n ∈ d.naming? before x, ∃ v ∈ s.dictionary.vendors, v.id = n.vendor ∧
      n.code ∈ v.attributes.map (·.code)) :
    ∀ n ∈ d.namings [] (before ++ [x]), ∃ v ∈ s'.dictionary.vendors, v.id = n.vendor ∧
      n.code ∈ v.attributes.map (·.code) := by
  intro n hn
  rw [namings_append_singleton, List.mem_append, Option.mem_toList] at hn
  obtain ⟨v, hv, hid, hcode⟩ := hn.elim (h.held n) (hx n)
  obtain ⟨v', hv', hgrows⟩ := hgrows v hv
  exact ⟨v', hv', hgrows.id_eq.trans hid, hgrows.codes_subset hcode⟩

/-- A line that names nothing leaves the definitions as they are; those that it adds have had no
values and have none. -/
lemma append (h : d.NamedBy before s)
    (hgrows : ∀ v ∈ s.dictionary.vendors, ∃ v' ∈ s'.dictionary.vendors, v.Grows v')
    (hx : ∀ owner name number, x ≠ .declareValue owner name number)
    (hnew : ∀ v' ∈ s'.dictionary.vendors, ∀ e ∈ v'.attributes,
      (∃ v ∈ s.dictionary.vendors, v.id = v'.id ∧ e ∈ v.attributes) ∨
        (e.values = [] ∧ d.valuesOf v'.id e.code = [] ∧
          d.namingsTo [] before v'.id e.code = [])) :
    d.NamedBy (before ++ [x]) s' where
  named := fun _ _ _ _ _ hsplit =>
    h.named_append (fun owner name number hvalue => absurd hvalue (hx owner name number)) hsplit
  held := h.held_append hgrows (by simp [naming?_eq_none hx])
  values_eq := by
    intro v' hv' e he
    rw [namingsTo_append_singleton, naming?_eq_none hx, Option.toList_none, List.filter_nil,
      List.append_nil]
    rcases hnew v' hv' e he with ⟨v, hv, hid, he⟩ | ⟨hvalues, hstart, hnone⟩
    · rw [← hid]
      exact h.values_eq v hv e he
    · rw [hvalues, hstart, hnone]
      rfl

/-- Nothing has been named for an attribute whose code is new. -/
lemma namingsTo_eq_nil (h : d.NamedBy before s) (hs : s.dictionary.WellFormed)
    (hv : v ∈ s.dictionary.vendors) (hcode : code ∉ v.attributes.map (·.code)) :
    d.namingsTo [] before v.id code = [] := by
  rw [namingsTo, List.filter_eq_nil_iff]
  intro n hn hkeys
  simp only [Bool.and_eq_true, beq_iff_eq] at hkeys
  obtain ⟨w, hw, hid, hmem⟩ := h.held n hn
  obtain rfl : w = v := List.inj_on_of_nodup_map hs.ids_nodup hw hv (hid.trans hkeys.1)
  exact hcode (hkeys.2 ▸ hmem)

/-- A value that is accepted is the next naming of its attribute, and of no other one. -/
lemma values_eq_declareValue {name : String} {number : Int32} (h : d.NamedBy before s)
    (hs : s.dictionary.WellFormed)
    (hx : d.naming? before x = some ⟨v.id, e.code, name, number⟩)
    (hv : v ∈ s.dictionary.vendors) (he : e ∈ v.attributes) :
    ∀ w ∈ (s.dictionary.update (v.replace (e.declareValue name number))).vendors,
      ∀ f ∈ w.attributes, f.values =
        NamedValue.declareAll (d.valuesOf w.id f.code)
          (d.namingsTo [] (before ++ [x]) w.id f.code) := by
  intro w hw f hf
  rw [namingsTo_append_singleton, hx, Option.toList_some]
  have hid : (v.replace (e.declareValue name number)).id ∈ s.dictionary.vendors.map (·.id) :=
    List.mem_map.2 ⟨v, hv, rfl⟩
  rcases (mem_vendors_update hid).1 hw with rfl | ⟨hw, hwv⟩
  · rcases (Vendor.mem_attributes_declareValue (hs.vendors v hv) he).1 hf with rfl | ⟨hf, hcode⟩
    · rw [List.filter_cons_of_pos (by simp [Vendor.replace, Definition.declareValue]),
        List.filter_nil, NamedValue.declareAll_append]
      exact congrArg (NamedValue.declare name number) (h.values_eq v hv e he)
    · rw [List.filter_cons_of_neg (by simp [Ne.symm hcode]), List.filter_nil, List.append_nil]
      exact h.values_eq v hv f hf
  · have hwv : v.id ≠ w.id := Ne.symm hwv
    rw [List.filter_cons_of_neg (by simp [hwv]), List.filter_nil, List.append_nil]
    exact h.values_eq w hw f hf

lemma step (h : d.NamedBy before s) (hfollows : d.Follows before s)
    (haccepts : Loader.Accepts s line x s') : d.NamedBy (before ++ [x]) s' := by
  have hs := hfollows.wellFormed
  have hgrows := fun v hv => haccepts.exists_grows (v := v) hs hv
  cases haccepts with
  | declareVendor hid hformat hdeclare =>
      refine h.append hgrows nofun fun v hv e he => ?_
      rcases (declare?_eq_some_iff hs).1 hdeclare with ⟨-, -, rfl⟩ | ⟨-, rfl⟩
      · rcases mem_place.1 hv with rfl | hv
        · simp at he
        · exact .inl ⟨v, hv, rfl, he⟩
      · exact .inl ⟨v, hv, rfl, he⟩
  | beginBlock hclosed hvendor =>
      exact h.append hgrows nofun fun v hv e he => .inl ⟨v, hv, rfl, he⟩
  | endBlock hblock hname =>
      exact h.append hgrows nofun fun v hv e he => .inl ⟨v, hv, rfl, he⟩
  | @declareAttribute name number typeName fourth fifth flags code v v' htarget hnumber hcode
      hinsert =>
      refine h.append hgrows nofun fun w hw f hf => ?_
      have hv := Loader.mem_vendors_of_target htarget
      obtain ⟨-, hnew, hv'⟩ := Vendor.insert_eq_ok_iff.1 hinsert
      have hid : v'.id ∈ s.dictionary.vendors.map (·.id) := List.mem_map.2 ⟨v, hv, by rw [hv']⟩
      have hstart := hfollows.valuesOf_eq_nil hv hnew
      have hnone := h.namingsTo_eq_nil hs hv hnew
      rcases (mem_vendors_update hid).1 hw with rfl | ⟨hw, -⟩
      · subst hv'
        rcases List.mem_append.1 hf with hf | hf
        · exact .inl ⟨v, hv, rfl, hf⟩
        · obtain rfl := List.mem_singleton.1 hf
          exact .inr ⟨rfl, hstart, hnone⟩
      · exact .inl ⟨w, hw, rfl, hf⟩
  | @declareValue owner name text number v e hnumber hvendor howner hkind =>
      have hx : d.naming? before (.declareValue owner name text) =
          some ⟨v.id, e.code, name, number⟩ := hfollows.naming?_eq hnumber hvendor howner
      have hv := Loader.mem_vendors_of_valueVendor? hvendor
      have he := ((Vendor.attribute?_eq_some_iff (hs.vendors v hv)).1 howner).1
      refine ⟨fun _ _ _ _ _ hsplit => h.named_append (fun _ _ _ _ => by rw [hx]; rfl) hsplit,
        h.held_append hgrows ?_,
        h.values_eq_declareValue hs hx hv he⟩
      rw [hx]
      rintro n ⟨⟩
      exact ⟨v, hv, rfl, List.mem_map_of_mem he⟩
  | unsupported =>
      exact h.append hgrows nofun fun v hv e he => .inl ⟨v, hv, rfl, he⟩

end NamedBy

/-! ### Texts -/

/-- What every accepted directive keeps, texts keep that are loaded one after the other. -/
lemma foldlM_load_induction {P : List Directive → Loader → Prop}
    (hstep : ∀ before s line directive s', Loader.Accepts s line directive s' → P before s →
      P (before ++ [directive]) s')
    {texts : List String} {t d' : Dictionary} (h : texts.foldlM load t = .ok d')
    (ht : P before ⟨t, none⟩) : P (before ++ texts.flatMap directives) ⟨d', none⟩ := by
  induction texts generalizing t before with
  | nil =>
      obtain rfl := Except.ok.inj h
      simpa using ht
  | cons text rest ih =>
      rw [List.foldlM_cons] at h
      obtain ⟨u, htext, hrest⟩ := bind_eq_ok_iff.1 h
      have hu := Loader.run_directives_induction hstep before (load_eq_ok_iff.1 htext) ht
      rw [List.flatMap_cons, ← List.append_assoc]
      exact ih hrest hu

/-- Texts leave the definitions that their lines declare, with the values that their lines name. -/
lemma follows_and_namedBy_of_foldlM {texts : List String} {d' : Dictionary} (hd : d.WellFormed)
    (h : texts.foldlM load d = .ok d') :
    d.Follows (texts.flatMap directives) ⟨d', none⟩ ∧
      d.NamedBy (texts.flatMap directives) ⟨d', none⟩ :=
  foldlM_load_induction (P := fun before s => d.Follows before s ∧ d.NamedBy before s)
    (fun _ _ _ _ _ haccepts hs => ⟨hs.1.step haccepts, hs.2.step hs.1 haccepts⟩) h
    ⟨follows_nil hd, namedBy_nil hd⟩

/-- Every `VALUE` line makes a naming of an attribute that is there in the end. -/
lemma NamedBy.exists_naming {d' : Dictionary} (h : d.NamedBy ds ⟨d', none⟩) (hd' : d'.WellFormed)
    {owner name number : String}
    (hsplit : ds = before ++ .declareValue owner name number :: after) :
    ∃ n v e, d.naming? before (.declareValue owner name number) = some n ∧
      d'.vendor? n.vendor = some v ∧ v.attributeOf? n.code = some e ∧
      d.namings [] ds = d.namings [] before ++ n ::
        d.namings (before ++ [.declareValue owner name number]) after := by
  obtain ⟨n, hn⟩ := Option.isSome_iff_exists.1 (h.named before owner name number after hsplit)
  have hnamings : d.namings [] ds = d.namings [] before ++ n ::
      d.namings (before ++ [.declareValue owner name number]) after := by
    rw [hsplit, namings_append, namings, List.nil_append, hn]
    rfl
  obtain ⟨v, hv, hid, hcode⟩ := h.held n (by simp [hnamings])
  obtain ⟨e, he, hecode⟩ := List.mem_map.1 hcode
  exact ⟨n, v, e, hn, (vendor?_eq_some_iff hd').2 ⟨hv, hid⟩,
    (Vendor.attributeOf?_eq_some_iff (hd'.vendors v hv)).2 ⟨he, hecode⟩, hnamings⟩

/-- The numbers that `VALUE` lines name are listed in the end.  Each line names a number of an
attribute, and where no later line gives the name another number, the number is among the values of
the attribute and the strict mode finds nothing wrong with it. -/
def ListsNamed (d : Dictionary) (ds : List Directive) (d' : Dictionary) : Prop :=
  ∀ before owner name number after, ds = before ++ .declareValue owner name number :: after →
    ∃ n v e, d.naming? before (.declareValue owner name number) = some n ∧
      d'.vendor? n.vendor = some v ∧ v.attributeOf? n.code = some e ∧
      ((∀ m ∈ d.namings (before ++ [.declareValue owner name number]) after,
          m.vendor = n.vendor → m.code = n.code → sameName m.name n.name = true →
            m.number = n.number) →
        (∃ w ∈ e.values, w.number = n.number) ∧
          ∀ (a : VendorSpecific) (tag : Option UInt8), a.vendor = n.vendor → a.subType = n.code →
            e.decodeValue a.value = .ok (tag, .integer n.number) → d'.violation? .strict a = none)

lemma NamedBy.listsNamed {d' : Dictionary} (h : d.NamedBy ds ⟨d', none⟩) (hd' : d'.WellFormed) :
    d.ListsNamed ds d' := by
  intro before owner name number after hsplit
  obtain ⟨n, v, e, hn, hvendor, hknown, hnamings⟩ := h.exists_naming hd' hsplit
  refine ⟨n, v, e, hn, hvendor, hknown, fun hlater => ?_⟩
  obtain ⟨hv, hid⟩ := (vendor?_eq_some_iff hd').1 hvendor
  obtain ⟨he, hecode⟩ := (Vendor.attributeOf?_eq_some_iff (hd'.vendors v hv)).1 hknown
  have hlisted : ∃ w ∈ e.values, w.number = n.number := by
    rw [h.values_eq v hv e he, hid, hecode, namingsTo, hnamings, List.filter_append,
      List.filter_cons_of_pos (by simp)]
    refine NamedValue.exists_mem_declareAll (Naming.lastNumber?_eq_of_forall fun m hm hname => ?_)
    obtain ⟨hm, hkeys⟩ := List.mem_filter.1 hm
    simp only [Bool.and_eq_true, beq_iff_eq] at hkeys
    exact hlater m hm hkeys.1 hkeys.2 (sameName_iff.2 hname)
  refine ⟨hlisted, fun a tag hvendor' hsubType hread => ?_⟩
  rw [← hvendor'] at hvendor
  rw [← hsubType] at hknown
  exact violation?_strict_eq_none hvendor hknown hread hlisted

/-- Texts that are loaded one after the other list what their lines name. -/
theorem Reachable.listsNamed {d' : Dictionary} {texts : List String} (hd : d.Reachable)
    (h : texts.foldlM Dictionary.load d = .ok d') : d.ListsNamed (texts.flatMap directives) d' := by
  obtain ⟨hfollows, hnamed⟩ := follows_and_namedBy_of_foldlM hd.wellFormed h
  exact hnamed.listsNamed hfollows.wellFormed

/-- Every line of texts that load is accepted in a state that follows from the lines before it, and
the vendors of this state are there in the end. -/
lemma exists_accepts_of_foldlM {texts : List String} {d' : Dictionary} (hd : d.WellFormed)
    (h : texts.foldlM load d = .ok d')
    (hsplit : texts.flatMap directives = before ++ x :: after) :
    ∃ s line s', d.Follows before s ∧ Loader.Accepts s line x s' ∧
      ∀ v ∈ s.dictionary.vendors, ∃ v' ∈ d'.vendors, v.Grows v' := by
  refine (foldlM_load_induction (P := fun ds s => d.Follows ds s ∧
    ∀ first y last, ds = first ++ y :: last → ∃ t line t', d.Follows first t ∧
      Loader.Accepts t line y t' ∧
        ∀ v ∈ t.dictionary.vendors, ∃ v' ∈ s.dictionary.vendors, v.Grows v')
    ?_ h ⟨follows_nil hd, by simp⟩).2 before x after hsplit
  rintro ds s line y s' haccepts ⟨hs, hearlier⟩
  have hgrows : ∀ v ∈ s.dictionary.vendors, ∃ v' ∈ s'.dictionary.vendors, v.Grows v' :=
    fun v hv => haccepts.exists_grows hs.wellFormed hv
  refine ⟨hs.step haccepts, fun first z last hsplit => ?_⟩
  rcases split_append_singleton hsplit with ⟨rfl, rfl⟩ | ⟨rest, hbefore⟩
  · exact ⟨s, line, s', hs, haccepts, hgrows⟩
  · obtain ⟨t, line', t', ht, haccepts', hkept⟩ := hearlier first z rest hbefore
    refine ⟨t, line', t', ht, haccepts', fun v hv => ?_⟩
    obtain ⟨v', hv', hgrows'⟩ := hkept v hv
    obtain ⟨v'', hv'', hgrows''⟩ := hgrows v' hv'
    exact ⟨v'', hv'', hgrows'.trans hgrows''⟩

/-- A `VALUE` line at the end of a block is about the vendor of the block. -/
lemma exists_naming_of_endBlock {texts : List String} {d' : Dictionary} (hd : d.WellFormed)
    (h : texts.foldlM load d = .ok d') {owner name number vendor : String}
    (hsplit : texts.flatMap directives =
      before ++ .declareValue owner name number :: .endBlock vendor :: after) :
    ∃ v e k, (sourceNumber? number).bind pattern32? = some k ∧
      d.naming? before (.declareValue owner name number) = some ⟨v.id, e.code, name, k⟩ ∧
      v ∈ d'.vendors ∧ fold v.name = fold vendor ∧
      e ∈ v.attributes ∧ fold e.name = fold owner ∧ e.kind = .integer := by
  obtain ⟨s, line, s', hs, haccepts, hgrows⟩ := exists_accepts_of_foldlM hd h hsplit
  obtain ⟨t, line', t', ht, hends, -⟩ :=
    exists_accepts_of_foldlM hd h (hsplit.trans (List.append_cons _ _ _))
  cases hends with
  | @endBlock _ block hopen hname =>
  cases haccepts with
  | @declareValue _ _ _ k v e hnumber hvendor howner hkind =>
    have hopened : openBlock before = some block.name := by
      have hblock := ht.block_name
      rw [hopen, openBlock_append_singleton] at hblock
      exact hblock.symm
    rw [← hs.block_name] at hopened
    obtain ⟨inside, hinside, hsame⟩ := Option.map_eq_some_iff.1 hopened
    have hnamed : s.dictionary.vendorNamed? inside.name = some v := by
      rw [hs.vendorNamed?_block hinside, ← hvendor, Loader.valueVendor?, hinside]
    obtain ⟨hv, hvname⟩ := (vendorNamed?_eq_some_iff hs.wellFormed).1 hnamed
    obtain ⟨he, hename⟩ := (Vendor.attribute?_eq_some_iff (hs.wellFormed.vendors v hv)).1 howner
    obtain ⟨v', hv', hkept⟩ := hgrows v hv
    obtain ⟨e', he', hheader⟩ :=
      List.mem_map.1 (hkept.headers_prefix.subset (List.mem_map_of_mem he))
    have hcode : e'.header.code = e.header.code := by rw [hheader]
    have hname' : e'.header.name = e.header.name := by rw [hheader]
    have hkind' : e'.header.kind = e.header.kind := by rw [hheader]
    refine ⟨v', e', k, hnumber, ?_, hv', ?_, he', ?_, hkind'.trans hkind⟩
    · rw [hs.naming?_eq hnumber hvendor howner, hkept.id_eq, show e'.code = e.code from hcode]
    · rw [hkept.name_eq, hvname, hsame, sameName_iff.1 hname]
    · exact (congrArg fold hname').trans hename

/-- **A named number is listed until its name is given away.**  Every `VALUE` line of a text that
makes a dictionary names a number of an attribute, and unless a later line for the same attribute
gives the same name, in any letter case, another number, the strict mode finds nothing wrong with a
vendor attribute of this vendor and code that has the number.  The texts of the built-in dictionary
all load, and the same holds of their lines. -/
theorem named_numbers_listed :
    (∀ text d, parse text = .ok d → empty.ListsNamed (directives text) d) ∧
      loadBuiltin = .ok builtin ∧
      empty.ListsNamed (Builtin.files.flatMap fun file => directives file.2) builtin := by
  refine ⟨fun text d h => ?_, loadBuiltin_eq_ok.1, ?_⟩
  · have hone : [text].foldlM load empty = .ok d := by
      rw [List.foldlM_cons, show empty.load text = .ok d from h]
      rfl
    simpa using Reachable.empty.listsNamed hone
  · have hlists := Reachable.empty.listsNamed (loadAll_eq_ok_iff.1 loadBuiltin_eq_ok.1)
    rwa [List.flatMap_map] at hlists

/-- A number whose name is not given away, one that gets its name from another and in another letter
case, and the last number of the built-in texts. -/
theorem named_numbers_listed_in_any_case :
    (∃ d, parse ("VENDOR A 9\nATTRIBUTE K 1 integer A\n" ++
        "VALUE K High 2\nVALUE K Low 1\nVALUE k low 3") = .ok d ∧
      d.violation? .strict ⟨9, 1, [0, 0, 0, 2], by decide, by decide⟩ = none ∧
      d.violation? .strict ⟨9, 1, [0, 0, 0, 3], by decide, by decide⟩ = none) ∧
      ∃ v e, ∃ a : VendorSpecific, builtin.vendor? 6527 = some v ∧
        v.attribute? "Alc-Mgw-Interface-Type" = some e ∧ (∃ w ∈ e.values, w.number = 3) ∧
        a.vendor = 6527 ∧ a.subType = e.code ∧ a.value = [0, 0, 0, 3] ∧
        builtin.violation? .strict a = none := by
  constructor
  · have hparse : parse ("VENDOR A 9\nATTRIBUTE K 1 integer A\n" ++
        "VALUE K High 2\nVALUE K Low 1\nVALUE k low 3") =
        .ok ⟨[⟨"A", 9, [⟨"K", 1, "integer", [], [⟨"High", 2⟩, ⟨"Low", 3⟩]⟩]⟩]⟩ := rfl
    have hlists := named_numbers_listed.1 _ _ hparse
    refine ⟨_, hparse, ?_, ?_⟩
    · obtain ⟨n, v, e, hn, hv, he, hlisted⟩ := hlists
        [.declareVendor "A" "9" none, .declareAttribute "K" "1" "integer" (some "A") none]
        "K" "High" "2" [.declareValue "K" "Low" "1", .declareValue "k" "low" "3"] rfl
      obtain rfl : n = ⟨9, 1, "High", 2⟩ := (Option.some.inj hn).symm
      obtain rfl := (Option.some.inj hv).symm
      obtain rfl := (Option.some.inj he).symm
      refine (hlisted ?_).2 ⟨9, 1, [0, 0, 0, 2], by decide, by decide⟩ none rfl rfl rfl
      decide
    · obtain ⟨n, v, e, hn, hv, he, hlisted⟩ := hlists
        [.declareVendor "A" "9" none, .declareAttribute "K" "1" "integer" (some "A") none,
          .declareValue "K" "High" "2", .declareValue "K" "Low" "1"] "k" "low" "3" [] rfl
      obtain rfl : n = ⟨9, 1, "low", 3⟩ := (Option.some.inj hn).symm
      obtain rfl := (Option.some.inj hv).symm
      obtain rfl := (Option.some.inj he).symm
      refine (hlisted ?_).2 ⟨9, 1, [0, 0, 0, 3], by decide, by decide⟩ none rfl rfl rfl
      simp [namings]
  · obtain ⟨before, hsplit⟩ := exists_directives_files_eq
    obtain ⟨n, v, e, hn, hvendor, hknown, hlisted⟩ :=
      named_numbers_listed.2.2 before _ _ _ _ hsplit
    have hload := loadAll_eq_ok_iff.1 loadBuiltin_eq_ok.1
    have hwell := Reachable.builtin.wellFormed
    obtain ⟨v', e', k, hk, hn', hv', hvname, he', hename, hkind⟩ :=
      exists_naming_of_endBlock wellFormed_empty hload (by rw [List.flatMap_map]; exact hsplit)
    obtain rfl : 3 = k := Option.some.inj hk
    obtain rfl := Option.some.inj (hn.symm.trans hn')
    have hid : v'.id = 6527 := id_of_mem_builtin hv' hvname
    obtain rfl : v' = v :=
      Option.some.inj (((vendor?_eq_some_iff hwell).2 ⟨hv', rfl⟩).symm.trans hvendor)
    have hvwell := hwell.vendors v' hv'
    obtain rfl : e' = e :=
      Option.some.inj (((Vendor.attributeOf?_eq_some_iff hvwell).2 ⟨he', rfl⟩).symm.trans hknown)
    have hnone : empty.namings (before ++ [.declareValue "Alc-Mgw-Interface-Type" "s2b" "3"])
        (.endBlock "Alcatel-Lucent-Service-Router" :: directives Builtin.wispr) = [] := by
      refine namings_eq_nil fun owner name number hmem => ?_
      rcases List.mem_cons.1 hmem with hend | hmem
      · cases hend
      · exact declareValue_not_mem_directives_wispr owner name number hmem
    rw [hnone] at hlisted
    obtain ⟨hvalue, hviolation⟩ := hlisted fun m hm => absurd hm List.not_mem_nil
    have hread : e'.decodeValue [0, 0, 0, 3] = .ok (none, .integer 3) := by
      unfold Definition.decodeValue
      simp only [hkind]
      cases e'.hasTag <;> rfl
    have hcode := (hvwell.definitions e' he').code_ne_zero
    exact ⟨v', e', ⟨6527, e'.code, [0, 0, 0, 3], hcode, by decide⟩,
      hid ▸ hvendor, (Vendor.attribute?_eq_some_iff hvwell).2 ⟨he', hename⟩, hvalue, rfl, rfl, rfl,
      hviolation _ none hid.symm rfl hread⟩

/-- A number loses its name to a later line, and then it is not listed. -/
theorem not_all_named_numbers_listed :
    ¬ ∀ text d, parse text = .ok d → ∀ before owner name number after n,
      directives text = before ++ .declareValue owner name number :: after →
      empty.naming? before (.declareValue owner name number) = some n →
      ∀ v e, d.vendor? n.vendor = some v → v.attributeOf? n.code = some e →
      ∀ (a : VendorSpecific) (tag : Option UInt8), a.vendor = n.vendor → a.subType = n.code →
        e.decodeValue a.value = .ok (tag, .integer n.number) →
        ∀ label number, d.violation? .strict a ≠ some (.unlistedValue label number) := by
  intro h
  have hparse : parse ("VENDOR A 9\nBEGIN-VENDOR A\nATTRIBUTE Kind 1 integer\n" ++
      "VALUE Kind Low 1\nVALUE Kind low 2\nEND-VENDOR A") =
      .ok ⟨[⟨"A", 9, [⟨"Kind", 1, "integer", [], [⟨"Low", 2⟩]⟩]⟩]⟩ := rfl
  exact h _ _ hparse
    [.declareVendor "A" "9" none, .beginBlock "A",
      .declareAttribute "Kind" "1" "integer" none none] "Kind" "Low" "1"
    [.declareValue "Kind" "low" "2", .endBlock "A"] ⟨9, 1, "Low", 1⟩ rfl rfl _ _ rfl rfl
    ⟨9, 1, [0, 0, 0, 1], by decide, by decide⟩ none rfl rfl rfl "Kind" 1 rfl

end Dictionary

end Radius
