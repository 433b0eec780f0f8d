/-
# What a text declares

The vendors and the definitions that a text adds can be read off its lines, without running the
loader.  A `VENDOR` line makes a vendor known, unless it is known already.  An `ATTRIBUTE` line
belongs to the known vendor that its fourth field names, or else to the block that is open, and adds
one definition there (`Dictionary.addition?`).  The state between two lines is at all times what the
lines before it have declared (`Dictionary.Follows`); in the end nothing is lost and nothing is
added that no line declares.
-/
import Radius.Proofs.Dictionary.Growth
import Radius.Proofs.Dictionary.Reachable

namespace Radius

open Text Outcome

/-! ### Reading the lines -/

/-- The directives of a text, in their order. -/
def directives (text : String) : List Directive :=
  (SourceLine.ofText text).filterMap (·.directive?)

/-- A vendor without its definitions. -/
def Vendor.bare (v : Vendor) : Vendor :=
  { v with attributes := [] }

/-- The vendor that a `VENDOR` line is about, as it starts. -/
def Directive.vendor? : Directive → Option Vendor
  | .declareVendor name number _ =>
    (sourceNat UInt32.size number).toOption.map fun id => { name, id := .ofNat id }
  | _ => none

/-- The name of the block that is open after some directives. -/
def openBlock (before : List Directive) : Option String :=
  before.foldl (fun block directive =>
    match directive with
    | .beginBlock name => some name
    | .endBlock _ => none
    | _ => block) none

/-- Vendors with another one after them, unless its number and, in any letter case, its name are
there. -/
def learn (known : List Vendor) (v : Vendor) : List Vendor :=
  if known.any fun w => w.id == v.id && sameName w.name v.name then known else known ++ [v]

namespace Dictionary

/-- The vendors, without their definitions, that are known after some directives: those of the
dictionary and then those that the directives declare. -/
def known (d : Dictionary) (before : List Directive) : List Vendor :=
  (before.filterMap Directive.vendor?).foldl learn (d.vendors.map Vendor.bare)

/-- The vendor to which an attribute belongs that is declared after some directives, and the field
that holds its flags. -/
def owner? (d : Dictionary) (before : List Directive) (fourth fifth : Option String) :
    Option (Vendor × Option String) :=
  let named? name := (d.known before).find? fun v => sameName v.name name
  match fourth.bind named?, (openBlock before).bind named? with
  | some v, _ => some (v, fifth)
  | none, some v => some (v, fourth)
  | none, none => none

/-- The flags that a field lists between its commas. -/
def listedFlags (field : Option String) : List String :=
  field.elim [] fun field => (field.toList.splitOn ',').map String.ofList

/-- The definition that an `ATTRIBUTE` line adds after some directives, with the number of the
vendor to which it belongs. -/
def addition? (d : Dictionary) (before : List Directive) :
    Directive → Option (UInt32 × Definition)
  | .declareAttribute name number typeName fourth fifth => do
    let (v, flags) ← d.owner? before fourth fifth
    let code ← (sourceNat UInt8.size number).toOption
    return (v.id, { name, code := .ofNat code, typeName, flags := listedFlags flags })
  | _ => none

/-- The definitions that directives add, in their order. -/
def additions (d : Dictionary) (ds : List Directive) : List (UInt32 × Definition) :=
  (List.range ds.length).filterMap fun n => ds[n]?.bind (d.addition? (ds.take n))

/-- The definitions that directives add to the vendor with a number. -/
def additionsTo (d : Dictionary) (ds : List Directive) (id : UInt32) : List Definition :=
  ((d.additions ds).filter (·.1 == id)).map (·.2)

/-- The definitions of the vendor with a number, without their values; none if there is no such
vendor. -/
def headers (d : Dictionary) (id : UInt32) : List Definition :=
  (d.vendor? id).elim [] fun v => v.attributes.map (·.header)

variable {d : Dictionary} {before ds : List Directive} {x : Directive} {v : Vendor}

lemma known_append_singleton :
    d.known (before ++ [x]) = x.vendor?.toList.foldl learn (d.known before) := by
  rw [known, List.filterMap_append, List.foldl_append]
  cases hx : x.vendor? <;> simp [known, hx]

lemma known_append_of_vendor?_eq_none (hx : x.vendor? = none) :
    d.known (before ++ [x]) = d.known before := by
  simp [known_append_singleton, hx]

/-- What one more directive adds comes after what those before it have added. -/
lemma additions_append_singleton :
    d.additions (ds ++ [x]) = d.additions ds ++ (d.addition? ds x).toList := by
  have hbefore : ∀ n ∈ List.range ds.length,
      (ds ++ [x])[n]?.bind (d.addition? ((ds ++ [x]).take n)) =
        ds[n]?.bind (d.addition? (ds.take n)) := by
    intro n hn
    have hlt : n < ds.length := List.mem_range.1 hn
    rw [List.getElem?_append_left hlt, List.take_append_of_le_length (Nat.le_of_lt hlt)]
  rw [additions, List.length_append, List.length_singleton, List.range_succ, List.filterMap_append,
    List.filterMap_congr hbefore, additions]
  cases hx : d.addition? ds x <;> simp [hx]

lemma additions_append_of_addition?_eq_none (hx : d.addition? ds x = none) :
    d.additions (ds ++ [x]) = d.additions ds := by
  simp [additions_append_singleton, hx]

lemma additionsTo_append_singleton {id : UInt32} :
    d.additionsTo (ds ++ [x]) id =
      d.additionsTo ds id ++ ((d.addition? ds x).toList.filter (·.1 == id)).map (·.2) := by
  rw [additionsTo, additions_append_singleton, List.filter_append, List.map_append, additionsTo]

/-! ### Vendors that are known -/

lemma learn_eq_append {known : List Vendor} (hid : v.id ∉ known.map (·.id)) :
    learn known v = known ++ [v] := by
  rw [learn, if_neg]
  rw [List.any_eq_true]
  rintro ⟨w, hw, hsame⟩
  simp only [Bool.and_eq_true, beq_iff_eq] at hsame
  exact hid (List.mem_map.2 ⟨w, hw, hsame.1⟩)

lemma learn_eq_self {known : List Vendor} {w : Vendor} (hw : w ∈ known) (hid : w.id = v.id)
    (hname : fold w.name = fold v.name) : learn known v = known := by
  rw [learn, if_pos]
  exact List.any_eq_true.2 ⟨w, hw, by simp [hid, sameName_iff.2 hname]⟩

lemma mem_learn_of_mem {known : List Vendor} {w : Vendor} (hw : w ∈ known) : w ∈ learn known v := by
  rw [learn]
  split_ifs
  · exact hw
  · exact List.mem_append_left _ hw

/-- A vendor that is known stays known. -/
lemma mem_known_append (h : v ∈ d.known before) : v ∈ d.known (before ++ [x]) := by
  rw [known_append_singleton]
  cases x.vendor? with
  | none => exact h
  | some w => exact mem_learn_of_mem h

/-- A change in the table of one vendor leaves the vendors as they are but for their tables. -/
lemma bare_update (hd : d.WellFormed) {v' : Vendor} (hv : v ∈ d.vendors) (hid : v'.id = v.id)
    (hname : v'.name = v.name) :
    (d.update v').vendors.map Vendor.bare = d.vendors.map Vendor.bare := by
  have hsame : ∀ w ∈ d.vendors, w.id = v'.id → w = v := fun w hw hwid =>
    List.inj_on_of_nodup_map hd.ids_nodup hw hv (hwid.trans hid)
  rw [update, List.map_map]
  refine List.map_congr_left fun w hw => ?_
  by_cases hwid : w.id = v'.id
  · rw [Function.comp_apply, if_pos hwid, hsame w hw hwid, Vendor.bare, Vendor.bare, hid, hname]
  · rw [Function.comp_apply, if_neg hwid]

lemma bare_mem_known (h : v ∈ d.vendors) : v.bare ∈ d.known ds :=
  List.foldlRecOn _ learn (List.mem_map_of_mem h) fun _ hmem _ _ => mem_learn_of_mem hmem

/-! ### What a state follows from -/

/-- The state is what some directives have made of a dictionary. -/
structure Follows (d : Dictionary) (before : List Directive) (s : Loader) : Prop where
  wellFormed : s.dictionary.WellFormed
  vendors_perm : (s.dictionary.vendors.map Vendor.bare).Perm (d.known before)
  block_name : s.block.map (·.name) = openBlock before
  block_vendor : ∀ block ∈ s.block,
    ∃ v ∈ d.known before, v.id = block.vendor ∧ fold v.name = fold block.name
  owner_known : ∀ p ∈ d.additions before, p.1 ∈ s.dictionary.vendors.map (·.id)
  headers_eq : ∀ v ∈ s.dictionary.vendors,
    v.attributes.map (·.header) = d.headers v.id ++ d.additionsTo before v.id

lemma follows_nil (hd : d.WellFormed) : d.Follows [] ⟨d, none⟩ where
  wellFormed := hd
  vendors_perm := .refl _
  block_name := rfl
  block_vendor := by simp
  owner_known := by simp [additions]
  headers_eq := by
    intro v hv
    have hvendor : d.vendor? v.id = some v := (vendor?_eq_some_iff hd).2 ⟨hv, rfl⟩
    simp [headers, hvendor, additionsTo, additions]

namespace Follows

variable {s s' : Loader} {line : Nat}

/-- The vendor of a name is the known one of the name. -/
lemma find?_known_eq (h : d.Follows before s) (name : String) :
    (d.known before).find? (fun v => sameName v.name name) =
      (s.dictionary.vendorNamed? name).map Vendor.bare := by
  have hnames : ((d.known before).map fun v => fold v.name).Nodup := by
    rw [← (h.vendors_perm.map _).nodup_iff, List.map_map]
    exact h.wellFormed.names_nodup
  apply Option.ext
  intro v
  rw [find?_eq_some_iff_of_nodup (fun _ => sameName_iff) hnames, Option.map_eq_some_iff,
    ← h.vendors_perm.mem_iff, List.mem_map]
  constructor
  · rintro ⟨⟨w, hw, rfl⟩, hname⟩
    exact ⟨w, (vendorNamed?_eq_some_iff h.wellFormed).2 ⟨hw, hname⟩, rfl⟩
  · rintro ⟨w, hw, rfl⟩
    obtain ⟨hw, hname⟩ := (vendorNamed?_eq_some_iff h.wellFormed).1 hw
    exact ⟨⟨w, hw, rfl⟩, hname⟩

/-- The open block is that of the known vendor of its name. -/
lemma vendorNamed?_block (h : d.Follows before s) {block : Block} (hblock : s.block = some block) :
    s.dictionary.vendorNamed? block.name = s.dictionary.vendor? block.vendor := by
  obtain ⟨v, hv, hid, hname⟩ := h.block_vendor block hblock
  obtain ⟨w, hw, rfl⟩ := List.mem_map.1 (h.vendors_perm.mem_iff.2 hv)
  rw [(vendorNamed?_eq_some_iff h.wellFormed).2 ⟨hw, hname⟩,
    (vendor?_eq_some_iff h.wellFormed).2 ⟨hw, hid⟩]

lemma owner?_eq_of_target (h : d.Follows before s) {name : String}
    {fourth fifth flags : Option String} (htarget : s.target name fourth fifth = .ok (v, flags)) :
    d.owner? before fourth fifth = some (v.bare, flags) := by
  have hfourth : (fourth.bind fun name => (d.known before).find? fun v => sameName v.name name) =
      (fourth.bind s.dictionary.vendorNamed?).map Vendor.bare := by
    cases fourth with
    | none => rfl
    | some field => exact h.find?_known_eq field
  rw [owner?, ← h.block_name]
  simp only [hfourth]
  unfold Loader.target at htarget
  cases hnamed : fourth.bind s.dictionary.vendorNamed? with
  | some w =>
      simp only [hnamed] at htarget
      obtain ⟨rfl, rfl⟩ := Prod.mk.inj (Except.ok.inj htarget)
      rfl
  | none =>
      cases hblock : s.block with
      | none => cases fourth <;> simp [hnamed, hblock] at htarget
      | some block =>
          simp only [hnamed, hblock] at htarget
          cases hw : s.dictionary.vendor? block.vendor with
          | none => simp [hw] at htarget
          | some w =>
              simp only [hw] at htarget
              obtain ⟨rfl, rfl⟩ := Prod.mk.inj (Except.ok.inj htarget)
              simp [h.find?_known_eq, h.vendorNamed?_block hblock, hw]

/-- A line that declares no vendor leaves the vendors as they are but for what it adds. -/
lemma append_of_bare_eq (h : d.Follows before s) (hs' : s'.dictionary.WellFormed)
    (hvendor : x.vendor? = none)
    (hbare : s'.dictionary.vendors.map Vendor.bare = s.dictionary.vendors.map Vendor.bare)
    (hname : s'.block.map (·.name) = openBlock (before ++ [x]))
    (hblock : ∀ block ∈ s'.block,
      ∃ v ∈ d.known before, v.id = block.vendor ∧ fold v.name = fold block.name)
    (howner : ∀ p ∈ d.addition? before x, p.1 ∈ s.dictionary.vendors.map (·.id))
    (hheaders : ∀ v' ∈ s'.dictionary.vendors, ∃ v ∈ s.dictionary.vendors, v.id = v'.id ∧
      v'.attributes.map (·.header) = v.attributes.map (·.header) ++
        ((d.addition? before x).toList.filter (·.1 == v.id)).map (·.2)) :
    d.Follows (before ++ [x]) s' := by
  have hids : s'.dictionary.vendors.map (·.id) = s.dictionary.vendors.map (·.id) := by
    simpa [List.map_map, Function.comp_def, Vendor.bare] using congrArg (List.map (·.id)) hbare
  have hknown : d.known (before ++ [x]) = d.known before :=
    known_append_of_vendor?_eq_none hvendor
  refine ⟨hs', ?_, hname, ?_, ?_, ?_⟩
  · rw [hknown, hbare]
    exact h.vendors_perm
  · rw [hknown]
    exact hblock
  · intro p hp
    rw [additions_append_singleton, List.mem_append, Option.mem_toList] at hp
    rw [hids]
    rcases hp with hp | hp
    · exact h.owner_known p hp
    · exact howner p hp
  · intro v' hv'
    obtain ⟨v, hv, hid, hadded⟩ := hheaders v' hv'
    rw [hadded, h.headers_eq v hv, additionsTo_append_singleton, hid, List.append_assoc]

/-- A line that changes nothing but the block. -/
lemma setBlock (h : d.Follows before s) {block : Option Block} (hvendor : x.vendor? = none)
    (haddition : d.addition? before x = none)
    (hname : block.map (·.name) = openBlock (before ++ [x]))
    (hblock : ∀ b ∈ block, ∃ v ∈ d.known before, v.id = b.vendor ∧ fold v.name = fold b.name) :
    d.Follows (before ++ [x]) { s with block } := by
  refine h.append_of_bare_eq h.wellFormed hvendor rfl hname hblock (by simp [haddition]) ?_
  intro v hv
  exact ⟨v, hv, rfl, by simp [haddition]⟩

/-- A line that changes one vendor, and of that only what stands in its table. -/
lemma update (h : d.Follows before s) {v' : Vendor} (hv : v ∈ s.dictionary.vendors)
    (hid : v'.id = v.id) (hname : v'.name = v.name)
    (hs' : (s.dictionary.update v').WellFormed) (hvendor : x.vendor? = none)
    (hopen : openBlock (before ++ [x]) = openBlock before)
    (howner : ∀ p ∈ d.addition? before x, p.1 = v.id)
    (hheaders : v'.attributes.map (·.header) = v.attributes.map (·.header) ++
      (d.addition? before x).toList.map (·.2)) :
    d.Follows (before ++ [x]) { s with dictionary := s.dictionary.update v' } := by
  have hbare := bare_update h.wellFormed hv hid hname
  refine h.append_of_bare_eq hs' hvendor hbare (h.block_name.trans hopen.symm) h.block_vendor ?_ ?_
  · intro p hp
    rw [howner p hp]
    exact List.mem_map_of_mem hv
  · intro w hw
    rcases (mem_vendors_update (hid ▸ List.mem_map_of_mem hv)).1 hw with rfl | ⟨hw, hwid⟩
    · refine ⟨v, hv, hid.symm, ?_⟩
      rw [List.filter_eq_self.2, hheaders]
      intro p hp
      rw [howner p (Option.mem_toList.1 hp), beq_self_eq_true]
    · refine ⟨w, hw, rfl, ?_⟩
      rw [List.filter_eq_nil_iff.2, List.map_nil, List.append_nil]
      intro p hp hpid
      rw [howner p (Option.mem_toList.1 hp), beq_iff_eq, ← hid] at hpid
      exact hwid hpid.symm

/-- A line that declares a vendor that is not there makes it known, and it starts without
definitions. -/
lemma place (h : d.Follows before s) (hempty : v.attributes = []) (hvendor : x.vendor? = some v)
    (haddition : d.addition? before x = none)
    (hopen : openBlock (before ++ [x]) = openBlock before)
    (hid : v.id ∉ s.dictionary.vendors.map (·.id))
    (hs' : WellFormed ⟨Dictionary.place v s.dictionary.vendors⟩) :
    d.Follows (before ++ [x])
      { s with dictionary := ⟨Dictionary.place v s.dictionary.vendors⟩ } := by
  have hids : ((d.known before).map (·.id)).Perm (s.dictionary.vendors.map (·.id)) := by
    simpa [List.map_map, Function.comp_def, Vendor.bare] using (h.vendors_perm.map (·.id)).symm
  have hknown : d.known (before ++ [x]) = d.known before ++ [v] := by
    rw [known_append_singleton, hvendor]
    exact learn_eq_append fun hmem => hid (hids.mem_iff.1 hmem)
  have hadditions : d.additions (before ++ [x]) = d.additions before :=
    additions_append_of_addition?_eq_none haddition
  refine ⟨hs', ?_, h.block_name.trans hopen.symm, ?_, ?_, ?_⟩
  · have hbare : v.bare = v := by rw [Vendor.bare, ← hempty]
    have hplace := (place_perm v s.dictionary.vendors).map Vendor.bare
    rw [List.map_cons, hbare] at hplace
    rw [hknown]
    exact (hplace.trans (h.vendors_perm.cons v)).trans (List.perm_append_singleton v _).symm
  · intro block hblock
    obtain ⟨w, hw, hkeys⟩ := h.block_vendor block hblock
    exact ⟨w, mem_known_append hw, hkeys⟩
  · intro p hp
    rw [hadditions] at hp
    obtain ⟨w, hw, hwid⟩ := List.mem_map.1 (h.owner_known p hp)
    exact List.mem_map.2 ⟨w, mem_place.2 (.inr hw), hwid⟩
  · intro w hw
    rw [additionsTo, hadditions]
    rcases mem_place.1 hw with rfl | hw
    · -- no vendor of the number was there, and nothing has been added to one
      have hnone : d.vendor? w.id = none := by
        rw [vendor?_eq_none_iff, List.mem_map]
        rintro ⟨u, hu, huid⟩
        exact hid (hids.mem_iff.1 (List.mem_map.2 ⟨u.bare, bare_mem_known hu, huid⟩))
      have hnothing : (d.additions before).filter (·.1 == w.id) = [] := by
        rw [List.filter_eq_nil_iff]
        intro p hp hpid
        exact hid (beq_iff_eq.1 hpid ▸ h.owner_known p hp)
      simp [headers, hnone, hnothing, hempty]
    · exact h.headers_eq w hw

/-- A line that declares a vendor again changes nothing. -/
lemma repeated (h : d.Follows before s) (hvendor : x.vendor? = some v)
    (haddition : d.addition? before x = none)
    (hopen : openBlock (before ++ [x]) = openBlock before)
    (hv : ∃ w ∈ s.dictionary.vendors, w.id = v.id ∧ fold w.name = fold v.name) :
    d.Follows (before ++ [x]) s := by
  obtain ⟨w, hw, hid, hname⟩ := hv
  have hmem : w.bare ∈ d.known before := h.vendors_perm.mem_iff.1 (List.mem_map_of_mem hw)
  have hknown : d.known (before ++ [x]) = d.known before := by
    rw [known_append_singleton, hvendor]
    exact learn_eq_self hmem hid hname
  have hadditions : d.additions (before ++ [x]) = d.additions before :=
    additions_append_of_addition?_eq_none haddition
  refine ⟨h.wellFormed, hknown ▸ h.vendors_perm, h.block_name.trans hopen.symm,
    hknown ▸ h.block_vendor, hadditions ▸ h.owner_known, ?_⟩
  intro v hv
  rw [additionsTo, hadditions]
  exact h.headers_eq v hv

end Follows

/-! ### Lines and texts -/

variable {s s' : Loader} {line : Nat}

lemma openBlock_append_singleton (ds : List Directive) (x : Directive) :
    openBlock (ds ++ [x]) =
      match x with
      | .beginBlock name => some name
      | .endBlock _ => none
      | _ => openBlock ds := by
  rw [openBlock, List.foldl_append]
  cases x <;> rfl

/-- An attribute that is accepted adds what its line says. -/
lemma Follows.addition?_eq (h : d.Follows before s) {name number : String} (typeName : String)
    {fourth fifth flags : Option String} {code : Nat}
    (htarget : s.target name fourth fifth = .ok (v, flags))
    (hnumber : sourceNat UInt8.size number = .ok code) :
    d.addition? before (.declareAttribute name number typeName fourth fifth) =
      some (v.id, { name, code := .ofNat code, typeName, flags := Loader.splitFlags flags }) := by
  have hflags : listedFlags flags = Loader.splitFlags flags := by cases flags <;> rfl
  simp [addition?, h.owner?_eq_of_target htarget, hnumber, hflags, Except.toOption, Vendor.bare]

lemma Follows.step (h : d.Follows before s) (haccepts : Loader.Accepts s line x s') :
    d.Follows (before ++ [x]) s' := by
  have hopen := openBlock_append_singleton before x
  have hs' := haccepts.wellFormed h.wellFormed
  cases haccepts with
  | @declareVendor name number format id d' hid hformat hdeclare =>
      have hvendor : Directive.vendor? (.declareVendor name number format) =
          some { name, id := .ofNat id } := by
        simp [Directive.vendor?, hid, Except.toOption]
      rcases (declare?_eq_some_iff h.wellFormed).1 hdeclare with ⟨-, hnew, rfl⟩ | ⟨hthere, rfl⟩
      · exact h.place rfl hvendor rfl hopen hnew hs'
      · exact h.repeated hvendor rfl hopen hthere
  | @beginBlock name v hclosed hvendor =>
      obtain ⟨hv, hname⟩ := (vendorNamed?_eq_some_iff h.wellFormed).1 hvendor
      refine h.setBlock rfl rfl hopen.symm fun block hblock => ?_
      obtain rfl := Option.some.inj hblock
      exact ⟨v.bare, h.vendors_perm.mem_iff.1 (List.mem_map_of_mem hv), rfl, hname⟩
  | endBlock hblock hname => exact h.setBlock rfl rfl hopen.symm (by simp)
  | @declareAttribute name number typeName fourth fifth flags code v v' htarget hnumber hcode
      hinsert =>
      have haddition := h.addition?_eq typeName htarget hnumber
      obtain ⟨-, -, rfl⟩ := Vendor.insert_eq_ok_iff.1 hinsert
      refine h.update (Loader.mem_vendors_of_target htarget) rfl rfl hs' rfl hopen ?_ ?_
      · simp [haddition]
      · simp [haddition, Definition.header]
  | @declareValue owner name text number v e hnumber hvendor howner hkind =>
      have hv := Loader.mem_vendors_of_valueVendor? hvendor
      refine h.update hv rfl rfl hs' rfl hopen ?_ ?_
      · simp [addition?]
      · rw [Vendor.headers_declareValue (h.wellFormed.vendors v hv) howner]
        simp [addition?]
  | unsupported => exact h.setBlock rfl rfl (h.block_name.trans hopen.symm) h.block_vendor

lemma Follows.run {lines : List SourceLine} (h : d.Follows before s)
    (hrun : s.run lines = .ok s') : d.Follows (before ++ lines.filterMap (·.directive?)) s' :=
  Loader.run_directives_induction (P := d.Follows)
    (fun _ _ _ _ _ haccepts hs => hs.step haccepts) before hrun h

/-- Whether a directive that declares something says what, after those before it. -/
def Resolves (d : Dictionary) (before : List Directive) : Directive → Prop
  | .declareVendor name number format =>
    (Directive.vendor? (.declareVendor name number format)).isSome = true
  | .declareAttribute name number typeName fourth fifth =>
    (d.addition? before (.declareAttribute name number typeName fourth fifth)).isSome = true
  | _ => True

lemma Follows.resolves (h : d.Follows before s) (haccepts : Loader.Accepts s line x s') :
    d.Resolves before x := by
  cases haccepts with
  | declareVendor hid hformat hdeclare => simp [Resolves, Directive.vendor?, hid, Except.toOption]
  | declareAttribute htarget hnumber hcode hinsert =>
      rw [Resolves, h.addition?_eq _ htarget hnumber, Option.isSome_some]
  | _ => trivial

/-- No line is passed over: one with words holds a directive, and what it declares is added. -/
lemma Follows.resolves_of_run {lines : List SourceLine} {after : List Directive}
    (h : d.Follows [] s) (hrun : s.run lines = .ok s')
    (hlines : lines.filterMap (·.directive?) = before ++ x :: after) : d.Resolves before x := by
  obtain ⟨first, last, rfl, hfirst, hlast⟩ := List.filterMap_eq_append_iff.1 hlines
  obtain ⟨blank, line, rest, rfl, hblank, hline, -⟩ := List.filterMap_eq_cons_iff.1 hlast
  rw [← List.append_assoc, Loader.run_append, bind_eq_ok_iff] at hrun
  obtain ⟨t, hbefore, hrun⟩ := hrun
  have ht := h.run hbefore
  rw [List.nil_append, List.filterMap_append, hfirst, List.filterMap_eq_nil_iff.2 hblank,
    List.append_nil] at ht
  rw [Loader.run] at hrun
  cases hstep : t.step line with
  | error e => simp [hstep] at hrun
  | ok t' =>
      rw [Loader.step_of_directive? hline, Loader.apply_eq_ok_iff] at hstep
      exact ht.resolves hstep

/-- A line with words holds a directive with all its fields. -/
lemma directive?_isSome_of_run {lines : List SourceLine} {l : SourceLine}
    (hrun : s.run lines = .ok s') (hl : l ∈ lines) (hwords : l.words ≠ []) :
    l.directive?.isSome = true := by
  obtain ⟨first, last, rfl⟩ := List.append_of_mem hl
  rw [Loader.run_append, bind_eq_ok_iff] at hrun
  obtain ⟨t, -, hrun⟩ := hrun
  rw [Loader.run] at hrun
  cases hstep : t.step l with
  | error e => simp [hstep] at hrun
  | ok t' =>
      rcases Loader.step_eq_ok_iff.1 hstep with ⟨hnil, -⟩ | ⟨keyword, fields, x, hline, hx, -⟩
      · exact absurd hnil hwords
      · rw [SourceLine.directive?_eq_some_iff.2 ⟨keyword, fields, hline, hx⟩, Option.isSome_some]

/-- **Loading adds what the lines declare.**  After a text is loaded there are the vendors that were
there and one vendor for each `VENDOR` line with a new number and name.  The definitions of a
vendor, but for their values, are those it had and then one for each `ATTRIBUTE` line that belongs
to it, in the order of the text.  Every line with words is a directive, and every `VENDOR` or
`ATTRIBUTE` line says what it declares and to which vendor of the new dictionary that belongs. -/
theorem Reachable.load_declares {d d' : Dictionary} {text : String} (hd : d.Reachable)
    (h : d.load text = .ok d') :
    (d'.vendors.map Vendor.bare).Perm (d.known (directives text)) ∧
      (∀ v ∈ d'.vendors, v.attributes.map (·.header) =
        d.headers v.id ++ d.additionsTo (directives text) v.id) ∧
      (∀ p ∈ d.additions (directives text), p.1 ∈ d'.vendors.map (·.id)) ∧
      (∀ before x after, directives text = before ++ x :: after → d.Resolves before x) ∧
      ∀ line ∈ SourceLine.ofText text, line.words ≠ [] → line.directive?.isSome = true := by
  have hrun := load_eq_ok_iff.1 h
  have hnil := follows_nil hd.wellFormed
  have hfollows := hnil.run hrun
  rw [List.nil_append] at hfollows
  refine ⟨hfollows.vendors_perm, hfollows.headers_eq, hfollows.owner_known, ?_, ?_⟩
  · intro before x after hdirectives
    exact hnil.resolves_of_run hrun hdirectives
  · intro line hline hwords
    exact directive?_isSome_of_run hrun hline hwords

/-- A vendor that is declared again, a new one, and an attribute of the new one inside of a block of
the other. -/
theorem load_declares_across_blocks :
    ∃ d d' : Dictionary, d.Reachable ∧
      d.load ("VENDOR a 0x9\nVENDOR B 2\nBEGIN-VENDOR A\nATTRIBUTE M 1 octets x,y\n" ++
        "ATTRIBUTE N 1 string b z\nEND-VENDOR a") = .ok d' ∧
      (d'.vendors.map Vendor.bare).Perm [⟨"A", 9, []⟩, ⟨"B", 2, []⟩] ∧
      ∀ v ∈ d'.vendors,
        (v.id = 9 → v.attributes.map (·.header) =
          [⟨"L", 7, "string", [], []⟩, ⟨"M", 1, "octets", ["x", "y"], []⟩]) ∧
        (v.id = 2 → v.attributes.map (·.header) = [⟨"N", 1, "string", ["z"], []⟩]) := by
  have hparse : parse "VENDOR A 9\nATTRIBUTE L 7 string A" =
      .ok ⟨[⟨"A", 9, [⟨"L", 7, "string", [], []⟩]⟩]⟩ := rfl
  have hload : load ⟨[⟨"A", 9, [⟨"L", 7, "string", [], []⟩]⟩]⟩
      ("VENDOR a 0x9\nVENDOR B 2\nBEGIN-VENDOR A\nATTRIBUTE M 1 octets x,y\n" ++
        "ATTRIBUTE N 1 string b z\nEND-VENDOR a") =
      .ok ⟨[⟨"B", 2, [⟨"N", 1, "string", ["z"], []⟩]⟩,
        ⟨"A", 9, [⟨"L", 7, "string", [], []⟩, ⟨"M", 1, "octets", ["x", "y"], []⟩]⟩]⟩ := rfl
  obtain ⟨hvendors, hheaders, -⟩ := Reachable.load_declares (.parse hparse) hload
  refine ⟨_, _, .parse hparse, hload, hvendors, fun v hv => ⟨fun hid => ?_, fun hid => ?_⟩⟩
  · rw [hheaders v hv, hid]
    rfl
  · rw [hheaders v hv, hid]
    rfl

end Dictionary
end Radius
