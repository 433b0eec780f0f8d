/-
# The built-in dictionary loads

Each of the built-in texts declares one vendor and encloses its attributes and their values in one
block.  Such a text is loaded into every dictionary in which neither the name nor the number of the
vendor is taken (`Dictionary.exists_load_of_isVendorText`), so texts about different vendors are
loaded one after the other (`Dictionary.exists_loadAll`).  That a text is of this sort is decided by
a check that goes through its lines as the loader does, but keeps no more of a definition than
decides on later lines (`Outline`), and reads characters where the loader reads strings.  All ten
texts pass it, so that the built-in dictionary loads (`Dictionary.loadBuiltin_eq_ok`).
-/
import Radius.Proofs.Dictionary.Declarations
import Radius.Proofs.Dictionary.Numerals

namespace Radius

open Text Outcome

/-! ### Texts of one vendor -/

/-- What of a definition decides whether the lines after it are accepted. -/
structure Outline where
  /-- The name in small letters, from the last to the first: names differ at their ends. -/
  name : List Char
  code : Nat
  /-- Whether the type is spelled `integer`. -/
  isInteger : Bool

namespace Outline

/-- The name of an outline. -/
def key (name : List Char) : List Char :=
  (name.map Char.toLower).reverse

/-- The outlines with that of an attribute before them, if the code is one and both it and the name
are new. -/
def addAttribute? (outlines : List Outline) (name code typeName : List Char) :
    Option (List Outline) :=
  match word? code with
  | none => none
  | some code =>
    if 0 < code.toNat && code.toNat < UInt8.size &&
        outlines.all (fun o => o.name != key name && o.code != code.toNat) then
      some (⟨key name, code.toNat, typeName == "integer".toList⟩ :: outlines)
    else none

/-- The outlines, if a name can be given to the number for one of the integers among them. -/
def nameValue? (outlines : List Outline) (owner number : List Char) : Option (List Outline) :=
  if (word? number).isSome && outlines.any fun o => o.isInteger && o.name == key owner then
    some outlines
  else none

/-- The outlines after a line in the block, given by its words. -/
def addLine? (outlines : List Outline) : List (List Char) → Option (List Outline)
  | [keyword, first, second, third] =>
    if keyword == "ATTRIBUTE".toList then addAttribute? outlines first second third
    else if keyword == "VALUE".toList then nameValue? outlines first third
    else none
  | [keyword, first, second, third, flags] =>
    if keyword == "ATTRIBUTE".toList && flags == "has_tag".toList then
      addAttribute? outlines first second third
    else none
  | _ => none

/-- Whether lines are those of a block that has been opened for a vendor: the last one ends it. -/
def isBlock (vendor : List Char) (block : List (List (List Char))) : Bool :=
  block.getLast? == some ["END-VENDOR".toList, vendor] &&
    (block.dropLast.foldlM addLine? []).isSome

end Outline

/-- The words of the lines that have some. -/
def wordLines (text : List Char) : List (List (List Char)) :=
  ((lines text).map fun line => words (withoutComment line)).filter (!·.isEmpty)

/-- Whether a text declares the vendor of a name and a number and then has its block. -/
def isVendorText (name : List Char) (id : UInt32) (text : List Char) : Bool :=
  match wordLines text with
  | [declare, vendor, number] :: start :: block =>
    declare == "VENDOR".toList && vendor == name && word? number == some id &&
      start == ["BEGIN-VENDOR".toList, name] && Outline.isBlock name block
  | _ => false

/-! ### Outlines of definitions -/

namespace Outline

variable {outlines outlines' : List Outline} {name code typeName owner number : List Char}

lemma exists_of_addAttribute? (h : addAttribute? outlines name code typeName = some outlines') :
    ∃ word, word? code = some word ∧ 0 < word.toNat ∧ word.toNat < UInt8.size ∧
      (∀ o ∈ outlines, o.name ≠ key name ∧ o.code ≠ word.toNat) ∧
      outlines' = ⟨key name, word.toNat, typeName == "integer".toList⟩ :: outlines := by
  cases hword : word? code with
  | none => simp [addAttribute?, hword] at h
  | some word =>
      simp only [addAttribute?, hword, Bool.and_eq_true, decide_eq_true_eq, List.all_eq_true,
        bne_iff_ne] at h
      split_ifs at h with hnew
      exact ⟨word, rfl, hnew.1.1, hnew.1.2, hnew.2, (Option.some.inj h).symm⟩

lemma exists_of_nameValue? (h : nameValue? outlines owner number = some outlines') :
    (∃ word, word? number = some word) ∧
      (∃ o ∈ outlines, o.isInteger = true ∧ o.name = key owner) ∧ outlines' = outlines := by
  rw [nameValue?] at h
  split_ifs at h with hthere
  simp only [Bool.and_eq_true, List.any_eq_true, Option.isSome_iff_exists, beq_iff_eq] at hthere
  exact ⟨hthere.1, hthere.2, (Option.some.inj h).symm⟩

end Outline

namespace Definition

/-- The outline of a definition. -/
def outline (e : Definition) : Outline where
  name := Outline.key e.name.toList
  code := e.code.toNat
  isInteger := e.typeName.toList == "integer".toList

lemma outline_of_words (name typeName : List Char) (flags : List String) {code : Nat}
    (hcode : code < UInt8.size) :
    outline ⟨String.ofList name, .ofNat code, String.ofList typeName, flags, []⟩ =
      ⟨Outline.key name, code, typeName == "integer".toList⟩ := by
  rw [outline, String.toList_ofList, String.toList_ofList, UInt8.toNat_ofNat_of_lt' hcode]

variable {e f : Definition}

/-- Outlines have the names that definitions have but for their letter case. -/
lemma name_outline_eq_iff : f.outline.name = e.outline.name ↔ fold f.name = fold e.name :=
  List.reverse_inj

lemma code_outline_eq_iff : f.outline.code = e.outline.code ↔ f.code = e.code :=
  UInt8.toNat_inj

lemma kind_of_isInteger (h : e.outline.isInteger = true) : e.kind = .integer := by
  have htype : e.typeName = "integer" := String.toList_inj.1 (beq_iff_eq.1 h)
  rw [kind, htype]
  rfl

end Definition

namespace Vendor

variable {v : Vendor} {e : Definition} {outlines outlines' : List Outline}

/-- A definition is inserted if its outline has a new name and a new code. -/
lemma insert_of_outline
    (hnew : ∀ f ∈ v.attributes,
      f.outline.name ≠ e.outline.name ∧ f.outline.code ≠ e.outline.code) :
    v.insert e = .ok { v with attributes := v.attributes ++ [e] } := by
  rw [insert_eq_ok_iff, List.mem_map, List.mem_map]
  refine ⟨?_, ?_, rfl⟩
  · rintro ⟨f, hf, hname⟩
    exact (hnew f hf).1 (Definition.name_outline_eq_iff.2 hname)
  · rintro ⟨f, hf, hcode⟩
    exact (hnew f hf).2 (Definition.code_outline_eq_iff.2 hcode)

/-- An attribute that the check adds to the outlines of a vendor is inserted. -/
lemma exists_insert_of_addAttribute?
    (houtlines : ∀ o, o ∈ outlines ↔ o ∈ v.attributes.map Definition.outline)
    {name code typeName : List Char}
    (hadd : Outline.addAttribute? outlines name code typeName = some outlines')
    (flags : List String) :
    ∃ word v', word? code = some word ∧ word.toNat < UInt8.size ∧ UInt8.ofNat word.toNat ≠ 0 ∧
      v.insert ⟨String.ofList name, .ofNat word.toNat, String.ofList typeName, flags, []⟩ =
        .ok v' ∧ v'.id = v.id ∧ v'.name = v.name ∧
      ∀ o, o ∈ outlines' ↔ o ∈ v'.attributes.map Definition.outline := by
  obtain ⟨word, hword, hpos, hlt, hnew, rfl⟩ := Outline.exists_of_addAttribute? hadd
  have houtline := Definition.outline_of_words name typeName flags hlt
  have hne : UInt8.ofNat word.toNat ≠ 0 := by
    intro hzero
    have hcode := UInt8.toNat_ofNat_of_lt' hlt
    rw [hzero] at hcode
    exact absurd hcode.symm (Nat.ne_of_gt hpos)
  refine ⟨word, _, hword, hlt, hne, insert_of_outline fun f hf => ?_, rfl, rfl, fun o => ?_⟩
  · rw [houtline]
    exact hnew f.outline ((houtlines _).2 (List.mem_map_of_mem hf))
  · rw [List.mem_cons, List.map_append, List.mem_append, List.map_singleton, List.mem_singleton,
      houtline, houtlines, or_comm]

/-- A value that is named changes no outline. -/
lemma outlines_declareValue {owner name : String} {number : Int32} (hv : v.WellFormed)
    (h : v.attribute? owner = some e) :
    (v.replace (e.declareValue name number)).attributes.map Definition.outline =
      v.attributes.map Definition.outline := by
  have hheaders : (v.replace (e.declareValue name number)).attributes.map (·.header) =
      v.attributes.map (·.header) := headers_declareValue hv h
  have houtlines := congrArg (List.map Definition.outline) hheaders
  rw [List.map_map, List.map_map] at houtlines
  exact houtlines

end Vendor

/-! ### Lines of a block -/

namespace Loader

/-- A state in the block of a vendor: the vendors are those of a list, of which none has the name of
a flag, and the table of this one has the outlines. -/
structure Within (vendors : List Vendor) (name : String) (id : UInt32) (outlines : List Outline)
    (s : Loader) : Prop where
  wellFormed : s.dictionary.WellFormed
  bare_eq : s.dictionary.vendors.map Vendor.bare = vendors
  flag_not_mem : fold "has_tag" ∉ vendors.map fun w => fold w.name
  block_eq : ∃ line, s.block = some ⟨name, id, line⟩
  table : ∃ v, s.dictionary.vendor? id = some v ∧
    ∀ o, o ∈ outlines ↔ o ∈ v.attributes.map Definition.outline

variable {vendors : List Vendor} {name : String} {id : UInt32} {outlines outlines' : List Outline}
  {s s' : Loader} {v v' : Vendor} {line : Nat} {x : Directive}

/-- A line that changes the table of the vendor stays in the block. -/
lemma Within.update (h : s.Within vendors name id outlines) (hv : s.dictionary.vendor? id = some v)
    (hid : v'.id = v.id) (hname : v'.name = v.name)
    (haccepts : s.Accepts line x { s with dictionary := s.dictionary.update v' })
    (houtlines : ∀ o, o ∈ outlines' ↔ o ∈ v'.attributes.map Definition.outline) :
    Within vendors name id outlines' { s with dictionary := s.dictionary.update v' } where
  wellFormed := haccepts.wellFormed h.wellFormed
  bare_eq := by
    obtain ⟨hmem, -⟩ := (Dictionary.vendor?_eq_some_iff h.wellFormed).1 hv
    rw [← h.bare_eq]
    exact Dictionary.bare_update h.wellFormed hmem hid hname
  flag_not_mem := h.flag_not_mem
  block_eq := h.block_eq
  table := by
    obtain ⟨hmem, rfl⟩ := (Dictionary.vendor?_eq_some_iff h.wellFormed).1 hv
    have hthere : v'.id ∈ s.dictionary.vendors.map (·.id) := hid ▸ List.mem_map_of_mem hmem
    refine ⟨v', ?_, houtlines⟩
    rw [Dictionary.vendor?_eq_some_iff (haccepts.wellFormed h.wellFormed)]
    exact ⟨(Dictionary.mem_vendors_update hthere).2 (.inl rfl), hid⟩

/-- Inside of the block a field that names no vendor holds flags. -/
lemma Within.target_eq (h : s.Within vendors name id outlines)
    (hv : s.dictionary.vendor? id = some v) {fourth : Option String}
    (hfourth : ∀ field ∈ fourth, fold field ∉ vendors.map fun w => fold w.name)
    (first : String) : s.target first fourth none = .ok (v, fourth) := by
  obtain ⟨line, hblock⟩ := h.block_eq
  have hnamed : fourth.bind s.dictionary.vendorNamed? = none := by
    rw [Option.bind_eq_none_iff]
    intro field hfield
    have hnew := hfourth field hfield
    rw [← h.bare_eq, List.map_map] at hnew
    exact Dictionary.vendorNamed?_eq_none_iff.2 hnew
  unfold target
  simp only [hnamed, hblock, hv]

lemma Within.exists_accepts_addAttribute (h : s.Within vendors name id outlines) (line : Nat)
    {first code typeName : List Char}
    (hadd : Outline.addAttribute? outlines first code typeName = some outlines')
    {fourth : Option String}
    (hfourth : ∀ field ∈ fourth, fold field ∉ vendors.map fun w => fold w.name) :
    ∃ s', s.Accepts line (.declareAttribute (String.ofList first) (String.ofList code)
        (String.ofList typeName) fourth none) s' ∧ s'.Within vendors name id outlines' := by
  obtain ⟨v, hv, houtlines⟩ := h.table
  obtain ⟨word, v', hword, hlt, hne, hinsert, hid, hname, houtlines'⟩ :=
    Vendor.exists_insert_of_addAttribute? houtlines hadd (splitFlags fourth)
  have haccepts : s.Accepts line _ _ :=
    .declareAttribute (h.target_eq hv hfourth (String.ofList first)) (sourceNat_of_word? hword hlt)
      hne hinsert
  exact ⟨_, haccepts, h.update hv hid hname haccepts houtlines'⟩

lemma Within.exists_accepts_nameValue (h : s.Within vendors name id outlines) (line : Nat)
    {owner number : List Char} (hadd : Outline.nameValue? outlines owner number = some outlines')
    (second : String) :
    ∃ s', s.Accepts line (.declareValue (String.ofList owner) second (String.ofList number)) s' ∧
      s'.Within vendors name id outlines' := by
  obtain ⟨v, hv, houtlines⟩ := h.table
  obtain ⟨⟨word, hword⟩, ⟨o, ho, hinteger, hname⟩, rfl⟩ := Outline.exists_of_nameValue? hadd
  obtain ⟨e, he, rfl⟩ := List.mem_map.1 ((houtlines o).1 ho)
  have hvendor := h.wellFormed.vendors v ((Dictionary.vendor?_eq_some_iff h.wellFormed).1 hv).1
  have howner : v.attribute? (String.ofList owner) = some e := by
    rw [Vendor.attribute?_eq_some_iff hvendor]
    refine ⟨he, List.reverse_injective (hname.trans ?_)⟩
    rw [Outline.key, fold, String.toList_ofList]
  have hvalue : s.valueVendor? (String.ofList owner) = some v := by
    obtain ⟨line, hblock⟩ := h.block_eq
    rw [valueVendor?, hblock]
    exact hv
  have haccepts : s.Accepts line (.declareValue _ second _) _ :=
    .declareValue (bind_pattern32?_of_word? hword) hvalue howner
      (Definition.kind_of_isInteger hinteger)
  refine ⟨_, haccepts, h.update hv rfl rfl haccepts fun o => ?_⟩
  rw [Vendor.outlines_declareValue hvendor howner, houtlines]

/-- A line that the check lets pass is accepted. -/
lemma Within.exists_step (h : s.Within vendors name id outlines) {line : SourceLine}
    {words : List (List Char)} (hwords : line.words = words.map String.ofList)
    (hadd : Outline.addLine? outlines words = some outlines') :
    ∃ s', s.step line = .ok s' ∧ s'.Within vendors name id outlines' := by
  unfold Outline.addLine? at hadd
  split at hadd
  · rename_i keyword first second third
    split_ifs at hadd with hattribute hvalue
    · obtain rfl := beq_iff_eq.1 hattribute
      have hfourth : ∀ field ∈ (none : Option String),
          fold field ∉ vendors.map fun w => fold w.name := by simp
      obtain ⟨s', haccepts, hs'⟩ := h.exists_accepts_addAttribute line.number hadd hfourth
      exact ⟨s', haccepts.step_eq hwords rfl, hs'⟩
    · obtain rfl := beq_iff_eq.1 hvalue
      obtain ⟨s', haccepts, hs'⟩ := h.exists_accepts_nameValue line.number hadd
        (String.ofList second)
      exact ⟨s', haccepts.step_eq hwords rfl, hs'⟩
  · rename_i keyword first second third flags
    split_ifs at hadd with hattribute
    rw [Bool.and_eq_true, beq_iff_eq, beq_iff_eq] at hattribute
    obtain ⟨rfl, rfl⟩ := hattribute
    have hfourth : ∀ field ∈ some "has_tag", fold field ∉ vendors.map fun w => fold w.name := by
      simpa using h.flag_not_mem
    obtain ⟨s', haccepts, hs'⟩ := h.exists_accepts_addAttribute line.number hadd hfourth
    exact ⟨s', haccepts.step_eq hwords rfl, hs'⟩
  · cases hadd

/-- Lines that the check lets pass are accepted one after the other. -/
lemma Within.exists_run (h : s.Within vendors name id outlines) {lines : List SourceLine}
    {rows : List (List (List Char))} (hlines : lines.map (·.words) = rows.map (·.map String.ofList))
    (hrows : rows.foldlM Outline.addLine? outlines = some outlines') :
    ∃ s', s.run lines = .ok s' ∧ s'.Within vendors name id outlines' := by
  induction rows generalizing s lines outlines with
  | nil =>
      obtain rfl : lines = [] := List.map_eq_nil_iff.1 hlines
      obtain rfl := Option.some.inj hrows
      exact ⟨s, rfl, h⟩
  | cons words rest ih =>
      obtain ⟨line, lines, rfl, hwords, hrest⟩ := List.map_eq_cons_iff.1 hlines
      obtain ⟨between, hadd, hrows⟩ := Option.bind_eq_some_iff.1 hrows
      obtain ⟨t, hstep, ht⟩ := h.exists_step hwords hadd
      rw [run_cons_of_step hstep]
      exact ih ht hrest hrows

/-- The line that ends the block of a vendor closes it. -/
lemma Within.run_end (h : s.Within vendors name id outlines) {line : SourceLine}
    (hwords : line.words = ["END-VENDOR", name]) :
    s.run [line] = .ok ⟨s.dictionary, none⟩ := by
  obtain ⟨number, hopen⟩ := h.block_eq
  have haccepts : s.Accepts line.number (.endBlock name) ⟨s.dictionary, none⟩ :=
    .endBlock hopen (sameName_refl name)
  rw [run_cons_of_step (haccepts.step_eq hwords rfl)]
  rfl

/-- The lines of a block that the check lets pass are read, and close it. -/
lemma Within.exists_run_block (h : s.Within vendors name id []) {lines : List SourceLine}
    {block : List (List (List Char))}
    (hlines : lines.map (·.words) = block.map (·.map String.ofList))
    (hblock : Outline.isBlock name.toList block = true) :
    ∃ d, s.run lines = .ok ⟨d, none⟩ ∧ d.WellFormed ∧ d.vendors.map Vendor.bare = vendors := by
  rw [Outline.isBlock, Bool.and_eq_true, beq_iff_eq, Option.isSome_iff_exists] at hblock
  obtain ⟨hlast, outlines, hrows⟩ := hblock
  rw [← List.dropLast_append_getLast? _ hlast, List.map_append] at hlines
  obtain ⟨inner, last, rfl, hinner, hend⟩ := List.map_eq_append_iff.1 hlines
  obtain ⟨line, rest, rfl, hwords, hrest⟩ := List.map_eq_cons_iff.1 hend
  obtain rfl : rest = [] := List.map_eq_nil_iff.1 hrest
  obtain ⟨t, hrun, ht⟩ := h.exists_run hinner hrows
  have hendWords : line.words = ["END-VENDOR", name] := by
    simpa only [List.map_cons, List.map_nil, String.ofList_toList] using hwords
  refine ⟨t.dictionary, ?_, ht.wellFormed, ht.bare_eq⟩
  rw [run_append, hrun]
  exact ht.run_end hendWords

end Loader

/-! ### Texts -/

namespace Dictionary

lemma map_words_filter_ofText (text : String) :
    ((SourceLine.ofText text).filter (!·.words.isEmpty)).map (·.words) =
      (wordLines text.toList).map (·.map String.ofList) := by
  have hwords : (SourceLine.ofText text).map (·.words) =
      ((lines text.toList).map fun line => words (withoutComment line)).map
        (·.map String.ofList) := by
    conv_rhs => rw [← List.zipIdx_map_fst 1 (lines text.toList)]
    rw [SourceLine.ofText, List.map_map, List.map_map, List.map_map]
    rfl
  have hempty : ((!·.isEmpty) : List String → Bool) ∘ (·.map String.ofList) =
      ((!·.isEmpty) : List (List Char) → Bool) := by
    funext words
    cases words <;> rfl
  rw [wordLines, ← hempty, ← List.filter_map, ← hwords, List.filter_map]
  rfl

/-- The directives of a text can be read off the words of its lines. -/
lemma directives_eq (text : String) :
    directives text = (wordLines text.toList).filterMap fun row =>
      SourceLine.directive? ⟨0, row.map .ofList⟩ := by
  have hwords : (fun row : List (List Char) => SourceLine.directive? ⟨0, row.map .ofList⟩) =
      (fun words => SourceLine.directive? ⟨0, words⟩) ∘ (·.map String.ofList) := rfl
  rw [hwords, ← List.filterMap_map, ← map_words_filter_ofText, List.filterMap_map,
    List.filterMap_filter, directives]
  refine List.filterMap_congr fun line _ => ?_
  cases hline : line.words <;> simp [SourceLine.directive?, hline]

/-- A state in a block that has just been opened for a vendor without definitions. -/
lemma within_nil {d : Dictionary} (hd : d.WellFormed) {name : String} {id : UInt32}
    (hflag : fold "has_tag" ∉ (d.vendors.map Vendor.bare).map fun w => fold w.name)
    (hv : ⟨name, id, []⟩ ∈ d.vendors) (line : Nat) :
    Loader.Within (d.vendors.map Vendor.bare) name id [] ⟨d, some ⟨name, id, line⟩⟩ where
  wellFormed := hd
  bare_eq := rfl
  flag_not_mem := hflag
  block_eq := ⟨line, rfl⟩
  table := ⟨⟨name, id, []⟩, (vendor?_eq_some_iff hd).2 ⟨hv, rfl⟩, by simp⟩

/-- Vendors that differ in their names and numbers, of which none has the name of a flag. -/
structure Apart (vendors : List Vendor) : Prop where
  names_nodup : (vendors.map fun v => fold v.name).Nodup
  ids_nodup : (vendors.map (·.id)).Nodup
  flag_not_mem : fold "has_tag" ∉ vendors.map fun v => fold v.name

lemma Apart.perm {vendors vendors' : List Vendor} (h : Apart vendors)
    (hperm : vendors'.Perm vendors) : Apart vendors' where
  names_nodup := (hperm.map _).nodup_iff.2 h.names_nodup
  ids_nodup := (hperm.map _).nodup_iff.2 h.ids_nodup
  flag_not_mem := fun hmem => h.flag_not_mem ((hperm.map _).mem_iff.1 hmem)

lemma Apart.sublist {vendors vendors' : List Vendor} (h : Apart vendors)
    (hsub : vendors'.Sublist vendors) : Apart vendors' where
  names_nodup := h.names_nodup.sublist (hsub.map _)
  ids_nodup := h.ids_nodup.sublist (hsub.map _)
  flag_not_mem := fun hmem => h.flag_not_mem ((hsub.map _).subset hmem)

/-- A vendor that is apart from those that are there is declared, and its block opened. -/
lemma exists_run_open {d : Dictionary} (hd : d.WellFormed) {name : String} {id : UInt32}
    {number : List Char} (hnumber : word? number = some id)
    (hapart : Apart (⟨name, id, []⟩ :: d.vendors.map Vendor.bare)) {first second : SourceLine}
    (hfirst : first.words = ["VENDOR", name, String.ofList number])
    (hsecond : second.words = ["BEGIN-VENDOR", name]) :
    ∃ s vendors, Loader.run ⟨d, none⟩ [first, second] = .ok s ∧
      s.Within vendors name id [] ∧
      vendors.Perm (⟨name, id, []⟩ :: d.vendors.map Vendor.bare) := by
  have hname : fold name ∉ d.vendors.map fun v => fold v.name := by
    have hnames := (List.nodup_cons.1 hapart.names_nodup).1
    rwa [List.map_map] at hnames
  have hid : id ∉ d.vendors.map (·.id) := by
    have hids := (List.nodup_cons.1 hapart.ids_nodup).1
    rwa [List.map_map] at hids
  have hdeclare : d.declare? name id = some ⟨place ⟨name, id, []⟩ d.vendors⟩ :=
    (declare?_eq_some_iff hd).2 (.inl ⟨hname, hid, rfl⟩)
  have hdeclared := hd.declare? hdeclare
  have hmem : ⟨name, id, []⟩ ∈ place ⟨name, id, []⟩ d.vendors := mem_place.2 (.inl rfl)
  have hfirstAccepts : Loader.Accepts ⟨d, none⟩ first.number
      (.declareVendor name (String.ofList number) none)
      ⟨⟨place ⟨name, id, []⟩ d.vendors⟩, none⟩ := by
    refine .declareVendor (sourceNat_of_word? hnumber id.toNat_lt) (by simp) ?_
    rw [UInt32.ofNat_toNat]
    exact hdeclare
  have hvendor := (vendorNamed?_eq_some_iff hdeclared).2 ⟨hmem, rfl⟩
  have hsecondAccepts : Loader.Accepts ⟨⟨place ⟨name, id, []⟩ d.vendors⟩, none⟩ second.number
      (.beginBlock name) _ := .beginBlock rfl hvendor
  have hplace := (place_perm ⟨name, id, []⟩ d.vendors).map Vendor.bare
  have hflag := (hapart.perm hplace).flag_not_mem
  refine ⟨_, _, ?_, within_nil hdeclared hflag hmem second.number, hplace⟩
  rw [Loader.run_cons_of_step (hfirstAccepts.step_eq hfirst rfl),
    Loader.run_cons_of_step (hsecondAccepts.step_eq hsecond rfl)]
  rfl

/-- A text about one vendor is loaded into every dictionary whose vendors are apart from it. -/
lemma exists_load_of_isVendorText {d : Dictionary} (hd : d.WellFormed) {name text : String}
    {id : UInt32} (htext : isVendorText name.toList id text.toList = true)
    (hapart : Apart (⟨name, id, []⟩ :: d.vendors.map Vendor.bare)) :
    ∃ d', d.load text = .ok d' ∧ d'.WellFormed ∧
      (d'.vendors.map Vendor.bare).Perm (⟨name, id, []⟩ :: d.vendors.map Vendor.bare) := by
  have hlines := map_words_filter_ofText text
  rw [isVendorText] at htext
  split at htext
  · rename_i declare vendor number start block hrows
    simp only [Bool.and_eq_true, beq_iff_eq] at htext
    obtain ⟨⟨⟨⟨rfl, rfl⟩, hnumber⟩, rfl⟩, hblock⟩ := htext
    rw [hrows] at hlines
    obtain ⟨first, rest, hrest, hfirst, hlines⟩ := List.map_eq_cons_iff.1 hlines
    obtain ⟨second, rest, rfl, hsecond, hlines⟩ := List.map_eq_cons_iff.1 hlines
    simp only [List.map_cons, List.map_nil, String.ofList_toList] at hfirst hsecond
    obtain ⟨s, vendors, hopen, hwithin, hperm⟩ :=
      exists_run_open hd hnumber hapart hfirst hsecond
    obtain ⟨d', hrun, hd', rfl⟩ := hwithin.exists_run_block hlines hblock
    refine ⟨d', load_eq_ok_iff.2 ?_, hd', hperm⟩
    have hheader : first :: second :: rest = [first, second] ++ rest := rfl
    rw [← Loader.run_filter_words, hrest, hheader, Loader.run_append, hopen]
    exact hrun
  · cases htext

/-- Texts about vendors that are apart are loaded one after the other. -/
lemma exists_loadAll {files : List (String × String)} {vendors : List Vendor}
    (hfiles : List.Forall₂ (fun file v =>
      v.bare = v ∧ isVendorText v.name.toList v.id file.2.toList = true) files vendors)
    {d : Dictionary} (hd : d.WellFormed) (hapart : Apart (vendors ++ d.vendors.map Vendor.bare)) :
    ∃ d', d.loadAll files = .ok d' ∧ d'.WellFormed ∧
      (d'.vendors.map Vendor.bare).Perm (vendors ++ d.vendors.map Vendor.bare) := by
  induction hfiles generalizing d with
  | nil => exact ⟨d, rfl, hd, .refl _⟩
  | @cons file v files vendors hfile _ ih =>
      obtain ⟨name, id, attributes⟩ := v
      obtain ⟨hbare, htext⟩ := hfile
      obtain rfl : [] = attributes := congrArg Vendor.attributes hbare
      have hhead : Apart (⟨name, id, []⟩ :: d.vendors.map Vendor.bare) :=
        hapart.sublist ((List.sublist_append_right vendors _).cons_cons _)
      obtain ⟨t, hload, ht, hperm⟩ := exists_load_of_isVendorText hd htext hhead
      have hvendors := (hperm.append_left vendors).trans List.perm_middle
      obtain ⟨d', hrest, hd', hperm'⟩ := ih ht (hapart.perm hvendors)
      refine ⟨d', ?_, hd', hperm'.trans hvendors⟩
      rw [loadAll_eq_ok_iff] at hrest ⊢
      rw [List.map_cons, List.foldlM_cons, hload]
      exact hrest

/-! ### The built-in texts -/

/-- The vendors of the built-in dictionary, in the order of its files. -/
def builtinVendors : List Vendor :=
  [⟨"ACC", 5, []⟩, ⟨"Gandalf", 64, []⟩, ⟨"Ascend", 529, []⟩, ⟨"Extreme", 1916, []⟩,
   ⟨"Huawei", 2011, []⟩, ⟨"Juniper", 2636, []⟩, ⟨"Cisco-ASA", 3076, []⟩, ⟨"ERX", 4874, []⟩,
   ⟨"Alcatel-Lucent-Service-Router", 6527, []⟩, ⟨"WISPr", 14122, []⟩]

lemma apart_builtinVendors : Apart builtinVendors where
  names_nodup := by decide +kernel
  ids_nodup := by decide
  flag_not_mem := by decide +kernel

/-- Only lines that start with `VALUE` name values. -/
lemma keyword_of_ofWords {keyword owner name number : String} {fields : List String}
    (h : Directive.ofWords keyword fields = .ok (.declareValue owner name number)) :
    keyword = "VALUE" := by
  unfold Directive.ofWords at h
  split_ifs at h with hvendor hbegin hend hattribute hvalue
  · split at h <;> cases h
  · split at h <;> cases h
  · split at h <;> cases h
  · split at h <;> cases h
  · exact hvalue
  · cases h

lemma isSuffix_directives_of_eq_ofList {ds : List Directive} {text : String} {l : List Char}
    (htext : text = String.ofList l)
    (h : ds <:+ (wordLines l).filterMap fun row => SourceLine.directive? ⟨0, row.map .ofList⟩) :
    ds <:+ directives text := by
  rwa [directives_eq, htext, String.toList_ofList]

lemma declareValue_not_mem_directives_of_eq_ofList {text : String} {l : List Char}
    (htext : text = String.ofList l)
    (h : ((wordLines l).all fun row => row.head? != some "VALUE".toList) = true)
    (owner name number : String) : .declareValue owner name number ∉ directives text := by
  rw [directives_eq, htext, String.toList_ofList, List.mem_filterMap]
  rintro ⟨row, hrow, hdirective⟩
  obtain ⟨keyword, fields, hwords, hfields⟩ := SourceLine.directive?_eq_some_iff.1 hdirective
  obtain ⟨word, rest, rfl, rfl, -⟩ := List.map_eq_cons_iff.1 hwords
  have hkeyword : String.ofList word = "VALUE" := keyword_of_ofWords hfields
  have hword : word = "VALUE".toList := by rw [← hkeyword, String.toList_ofList]
  simpa [hword] using List.all_eq_true.1 h _ hrow

lemma isVendorText_of_eq_ofList {name : List Char} {id : UInt32} {text : String} {l : List Char}
    (htext : text = String.ofList l) (h : isVendorText name id l = true) :
    isVendorText name id text.toList = true := by
  rwa [htext, String.toList_ofList]

section Checks

-- the longest of the texts have ten thousand characters
set_option maxRecDepth 200000

/-- Each of the built-in texts is about one vendor. -/
lemma forall₂_isVendorText :
    List.Forall₂ (fun file v => v.bare = v ∧ isVendorText v.name.toList v.id file.2.toList = true)
      Builtin.files builtinVendors := by
  refine .cons ⟨rfl, ?_⟩ <| .cons ⟨rfl, ?_⟩ <| .cons ⟨rfl, ?_⟩ <| .cons ⟨rfl, ?_⟩ <|
    .cons ⟨rfl, ?_⟩ <| .cons ⟨rfl, ?_⟩ <| .cons ⟨rfl, ?_⟩ <| .cons ⟨rfl, ?_⟩ <|
    .cons ⟨rfl, ?_⟩ <| .cons ⟨rfl, ?_⟩ .nil
  -- a literal is spelled out as its characters, and on these the kernel evaluates the check
  all_goals
    apply isVendorText_of_eq_ofList
    · rfl
    · decide +kernel

/-- The text of the service routers ends with a value. -/
lemma isSuffix_directives_alcatelSr :
    [.declareValue "Alc-Mgw-Interface-Type" "s2b" "3",
      .endBlock "Alcatel-Lucent-Service-Router"] <:+ directives Builtin.alcatelSr := by
  apply isSuffix_directives_of_eq_ofList
  · rfl
  · decide +kernel

/-- The text of the hotspots names no values. -/
lemma declareValue_not_mem_directives_wispr (owner name number : String) :
    .declareValue owner name number ∉ directives Builtin.wispr :=
  declareValue_not_mem_directives_of_eq_ofList rfl (by decide +kernel) owner name number

end Checks

/-- The last value of the built-in texts stands at the end of a block. -/
lemma exists_directives_files_eq :
    ∃ before, Builtin.files.flatMap (fun file => directives file.2) =
      before ++ .declareValue "Alc-Mgw-Interface-Type" "s2b" "3" ::
        .endBlock "Alcatel-Lucent-Service-Router" :: directives Builtin.wispr := by
  obtain ⟨init, hinit⟩ := isSuffix_directives_alcatelSr
  have hfiles : Builtin.files = Builtin.files.take 8 ++
      [("dictionary.alcatel.sr", Builtin.alcatelSr), ("dictionary.wispr", Builtin.wispr)] := rfl
  refine ⟨(Builtin.files.take 8).flatMap (fun file => directives file.2) ++ init, ?_⟩
  conv_lhs => rw [hfiles, List.flatMap_append, List.flatMap_cons, List.flatMap_singleton, ← hinit]
  simp

/-- The built-in dictionary loads, and has the vendors of its files. -/
theorem loadBuiltin_eq_ok :
    loadBuiltin = .ok builtin ∧ (builtin.vendors.map Vendor.bare).Perm builtinVendors := by
  have hapart : Apart (builtinVendors ++ empty.vendors.map Vendor.bare) := apart_builtinVendors
  obtain ⟨d, hload, -, hperm⟩ := exists_loadAll forall₂_isVendorText wellFormed_empty hapart
  obtain rfl := builtin_eq_of_loadBuiltin hload
  exact ⟨hload, hperm⟩

/-- The service routers have one number in the built-in dictionary. -/
lemma id_of_mem_builtin {v : Vendor} (hv : v ∈ builtin.vendors)
    (hname : fold v.name = fold "Alcatel-Lucent-Service-Router") : v.id = 6527 := by
  have hbare : v.bare ∈ builtinVendors := loadBuiltin_eq_ok.2.mem_iff.1 (List.mem_map_of_mem hv)
  have hids : ∀ w ∈ builtinVendors,
      fold w.name = fold "Alcatel-Lucent-Service-Router" → w.id = 6527 := by decide +kernel
  exact hids v.bare hbare hname

end Dictionary

end Radius
