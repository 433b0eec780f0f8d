/-
# Steps of loading

Loading a text goes from state to state, one line at a time.  The relation `Loader.Accepts` says
what a directive does when it is accepted and all that has to hold for it; a property of states that
every accepted directive keeps is then kept by a whole text.
-/
import Radius.Dictionary.Loading
import Radius.Proofs.Dictionary.Table
import Radius.Proofs.Outcome

namespace Radius

open Text Outcome

/-! ### Lines with a directive -/

/-- The directive of a line that holds one with all its fields. -/
def SourceLine.directive? (line : SourceLine) : Option Directive :=
  match line.words with
  | [] => none
  | keyword :: fields => (Directive.ofWords keyword fields).toOption

lemma SourceLine.directive?_eq_some_iff {line : SourceLine} {directive : Directive} :
    line.directive? = some directive ↔
      ∃ keyword fields, line.words = keyword :: fields ∧
        Directive.ofWords keyword fields = .ok directive := by
  rw [directive?]
  cases line.words with
  | nil => simp
  | cons keyword fields =>
      cases hwords : Directive.ofWords keyword fields <;> simp [hwords, Except.toOption]

namespace Loader

/-! ### Accepted directives -/

/-- What a directive on the given line does to a state that accepts it. -/
inductive Accepts (s : Loader) (line : Nat) : Directive → Loader → Prop
  | declareVendor {name number : String} {format : Option String} {id : Nat} {d : Dictionary}
      (hid : sourceNat UInt32.size number = .ok id) (hformat : ∀ f ∈ format, f = "format=1,1")
      (hdeclare : s.dictionary.declare? name (.ofNat id) = some d) :
      Accepts s line (.declareVendor name number format) { s with dictionary := d }
  | beginBlock {name : String} {v : Vendor} (hclosed : s.block = none)
      (hvendor : s.dictionary.vendorNamed? name = some v) :
      Accepts s line (.beginBlock name) { s with block := some ⟨name, v.id, line⟩ }
  | endBlock {name : String} {block : Block} (hopen : s.block = some block)
      (hname : sameName block.name name = true) :
      Accepts s line (.endBlock name) { s with block := none }
  | declareAttribute {name number typeName : String} {fourth fifth flags : Option String}
      {code : Nat} {v v' : Vendor} (htarget : s.target name fourth fifth = .ok (v, flags))
      (hnumber : sourceNat UInt8.size number = .ok code) (hcode : UInt8.ofNat code ≠ 0)
      (hinsert : v.insert
        { name, code := .ofNat code, typeName, flags := splitFlags flags } = .ok v') :
      Accepts s line (.declareAttribute name number typeName fourth fifth)
        { s with dictionary := s.dictionary.update v' }
  | declareValue {owner name text : String} {number : Int32} {v : Vendor} {d : Definition}
      (hnumber : (sourceNumber? text).bind pattern32? = some number)
      (hvendor : s.valueVendor? owner = some v) (howner : v.attribute? owner = some d)
      (hkind : d.kind = .integer) :
      Accepts s line (.declareValue owner name text)
        { s with dictionary := s.dictionary.update (v.replace (d.declareValue name number)) }
  | unsupported {keyword : String} : Accepts s line (.unsupported keyword) s

variable {s s' : Loader} {line : Nat}

lemma accepts_of_declareVendor {name number : String} {format : Option String}
    (h : s.declareVendor name number format = .ok s') :
    Accepts s line (.declareVendor name number format) s' := by
  obtain ⟨id, hid, h⟩ := bind_eq_ok_iff.1 h
  obtain ⟨n, hn, rfl⟩ := map_eq_ok_iff.1 hid
  cases hformat : format.filter (· ≠ "format=1,1") with
  | some f =>
      rw [hformat] at h
      simp at h
  | none =>
      rw [hformat] at h
      cases hdeclare : s.dictionary.declare? name (.ofNat n) with
      | none => simp [hdeclare] at h
      | some d =>
          simp only [hdeclare] at h
          obtain rfl := Except.ok.inj h
          exact .declareVendor hn (by simpa using hformat) hdeclare

lemma accepts_of_beginBlock {name : String} (h : s.beginBlock line name = .ok s') :
    Accepts s line (.beginBlock name) s' := by
  rw [beginBlock] at h
  cases hblock : s.block with
  | some block => simp [hblock] at h
  | none =>
      cases hvendor : s.dictionary.vendorNamed? name with
      | none => simp [hblock, hvendor] at h
      | some v =>
          simp only [hblock, hvendor] at h
          obtain rfl := Except.ok.inj h
          exact .beginBlock hblock hvendor

lemma accepts_of_endBlock {name : String} (h : s.endBlock name = .ok s') :
    Accepts s line (.endBlock name) s' := by
  rw [endBlock] at h
  cases hblock : s.block with
  | none => simp [hblock] at h
  | some block =>
      simp only [hblock] at h
      split_ifs at h with hname
      obtain rfl := Except.ok.inj h
      exact .endBlock hblock hname

lemma accepts_of_declareAttribute {name number typeName : String} {fourth fifth : Option String}
    (h : s.declareAttribute name number typeName fourth fifth = .ok s') :
    Accepts s line (.declareAttribute name number typeName fourth fifth) s' := by
  obtain ⟨⟨v, flags⟩, htarget, h⟩ := bind_eq_ok_iff.1 h
  obtain ⟨code, hcode, h⟩ := bind_eq_ok_iff.1 h
  obtain ⟨n, hn, rfl⟩ := map_eq_ok_iff.1 hcode
  split_ifs at h with hzero
  cases hinsert : v.insert
      { name, code := .ofNat n, typeName, flags := splitFlags flags } with
  | error d => simp [hinsert] at h
  | ok v' =>
      simp only [hinsert] at h
      obtain rfl := Except.ok.inj h
      exact .declareAttribute htarget hn hzero hinsert

lemma accepts_of_declareValue {owner name text : String}
    (h : s.declareValue owner name text = .ok s') :
    Accepts s line (.declareValue owner name text) s' := by
  rw [declareValue] at h
  cases hnumber : (sourceNumber? text).bind pattern32? with
  | none => simp [hnumber] at h
  | some number =>
      simp only [hnumber] at h
      cases hvendor : s.valueVendor? owner with
      | none => simp [hvendor] at h
      | some v =>
          simp only [hvendor] at h
          cases howner : v.attribute? owner with
          | none => simp [howner] at h
          | some d =>
              simp only [howner] at h
              split_ifs at h with hkind
              obtain rfl := Except.ok.inj h
              exact .declareValue hnumber hvendor howner (Decidable.not_not.1 hkind)

lemma apply_of_accepts {directive : Directive} (h : Accepts s line directive s') :
    s.apply line directive = .ok s' := by
  cases h with
  | declareVendor hid hformat hdeclare =>
      refine mapError_eq_ok_iff.2 (bind_eq_ok_iff.2 ⟨_, map_eq_ok_iff.2 ⟨_, hid, rfl⟩, ?_⟩)
      rw [Option.filter_eq_none_iff.2 (by simpa using hformat)]
      simp only [hdeclare]
  | beginBlock hclosed hvendor => simp only [apply, beginBlock, hclosed, hvendor]
  | endBlock hopen hname =>
      refine mapError_eq_ok_iff.2 ?_
      simp only [endBlock, hopen, hname, if_true]
  | declareAttribute htarget hnumber hcode hinsert =>
      refine mapError_eq_ok_iff.2 (bind_eq_ok_iff.2 ⟨_, htarget, ?_⟩)
      refine bind_eq_ok_iff.2 ⟨_, map_eq_ok_iff.2 ⟨_, hnumber, rfl⟩, ?_⟩
      rw [if_neg hcode]
      simp only [hinsert]
  | declareValue hnumber hvendor howner hkind =>
      refine mapError_eq_ok_iff.2 ?_
      simp only [declareValue, hnumber, hvendor, howner, hkind, ne_eq, not_true, if_false]
  | unsupported => rfl

lemma apply_eq_ok_iff {directive : Directive} :
    s.apply line directive = .ok s' ↔ Accepts s line directive s' := by
  constructor
  · intro h
    cases directive with
    | declareVendor name number format => exact accepts_of_declareVendor (mapError_eq_ok_iff.1 h)
    | beginBlock name => exact accepts_of_beginBlock h
    | endBlock name => exact accepts_of_endBlock (mapError_eq_ok_iff.1 h)
    | declareAttribute name number typeName fourth fifth =>
        exact accepts_of_declareAttribute (mapError_eq_ok_iff.1 h)
    | declareValue owner name text => exact accepts_of_declareValue (mapError_eq_ok_iff.1 h)
    | unsupported keyword =>
        obtain rfl := Except.ok.inj h
        exact .unsupported
  · exact apply_of_accepts

/-! ### Lines and texts -/

/-- A line without words changes nothing; any other must hold a directive that is accepted. -/
lemma step_eq_ok_iff {line : SourceLine} :
    s.step line = .ok s' ↔
      (line.words = [] ∧ s' = s) ∨
      ∃ keyword fields directive, line.words = keyword :: fields ∧
        Directive.ofWords keyword fields = .ok directive ∧
        Accepts s line.number directive s' := by
  rw [step]
  cases line.words with
  | nil => simp [eq_comm (a := s')]
  | cons keyword fields =>
      cases hwords : Directive.ofWords keyword fields <;> simp [hwords, apply_eq_ok_iff]

lemma Accepts.step_eq {line : SourceLine} {keyword : String} {fields : List String}
    {directive : Directive} (h : Accepts s line.number directive s')
    (hline : line.words = keyword :: fields)
    (hfields : Directive.ofWords keyword fields = .ok directive) : s.step line = .ok s' :=
  step_eq_ok_iff.2 (.inr ⟨keyword, fields, directive, hline, hfields, h⟩)

lemma step_of_directive? {line : SourceLine} {directive : Directive}
    (h : line.directive? = some directive) : s.step line = s.apply line.number directive := by
  obtain ⟨keyword, fields, hwords, hdirective⟩ := SourceLine.directive?_eq_some_iff.1 h
  rw [step, hwords]
  simp only [hdirective]

lemma run_append (s : Loader) (lines lines' : List SourceLine) :
    s.run (lines ++ lines') = s.run lines >>= fun t => t.run lines' := by
  induction lines generalizing s with
  | nil => rfl
  | cons line rest ih =>
      rw [List.cons_append, run, run]
      cases s.step line with
      | error e => rfl
      | ok t => exact ih t

/-- A line without words at the end changes nothing. -/
lemma run_append_blank (s : Loader) (lines : List SourceLine) (number : Nat) :
    s.run (lines ++ [⟨number, []⟩]) = s.run lines := by
  rw [run_append]
  cases s.run lines <;> rfl

lemma run_cons_of_step {line : SourceLine} (h : s.step line = .ok s') (rest : List SourceLine) :
    s.run (line :: rest) = s'.run rest := by
  rw [run, h]

/-- Lines without words do not count. -/
lemma run_filter_words (s : Loader) (lines : List SourceLine) :
    s.run (lines.filter (!·.words.isEmpty)) = s.run lines := by
  induction lines generalizing s with
  | nil => rfl
  | cons line rest ih =>
      cases hwords : line.words with
      | nil =>
          have hstep : s.step line = .ok s := by rw [step, hwords]
          rw [List.filter_cons_of_neg (by simp [hwords]), run_cons_of_step hstep, ih]
      | cons keyword fields =>
          rw [List.filter_cons_of_pos (by simp [hwords]), run, run]
          cases s.step line with
          | error e => rfl
          | ok t => exact ih t

/-- What every accepted directive keeps, where it may speak of the directives before, every text
keeps. -/
lemma run_directives_induction {P : List Directive → Loader → Prop}
    (hstep : ∀ before s line directive s', Accepts s line directive s' → P before s →
      P (before ++ [directive]) s')
    (before : List Directive) {lines : List SourceLine} (h : s.run lines = .ok s')
    (hs : P before s) : P (before ++ lines.filterMap (·.directive?)) s' := by
  induction lines generalizing s before with
  | nil =>
      obtain rfl := Except.ok.inj h
      simpa using hs
  | cons line rest ih =>
      rw [run] at h
      cases hline : s.step line with
      | error e => simp [hline] at h
      | ok t =>
          simp only [hline] at h
          rcases step_eq_ok_iff.1 hline with
            ⟨hwords, rfl⟩ | ⟨keyword, fields, directive, hwords, hdirective, haccepts⟩
          · have hnone : line.directive? = none := by rw [SourceLine.directive?, hwords]
            rw [List.filterMap_cons_none hnone]
            exact ih before h hs
          · have hsome : line.directive? = some directive :=
              SourceLine.directive?_eq_some_iff.2 ⟨keyword, fields, hwords, hdirective⟩
            rw [List.filterMap_cons_some hsome, List.append_cons]
            exact ih _ h (hstep before s line.number directive t haccepts hs)

/-- What every accepted directive keeps, every text keeps. -/
lemma run_induction {P : Loader → Prop}
    (hstep : ∀ s line directive s', Accepts s line directive s' → P s → P s')
    {lines : List SourceLine} (h : s.run lines = .ok s') (hs : P s) : P s' :=
  run_directives_induction (P := fun _ => P) (fun _ => hstep) [] h hs

end Loader

/-- A text is loaded if its lines can be read one after the other and leave no block open. -/
lemma Dictionary.load_eq_ok_iff {d d' : Dictionary} {text : String} :
    d.load text = .ok d' ↔ Loader.run ⟨d, none⟩ (SourceLine.ofText text) = .ok ⟨d', none⟩ := by
  rw [load, bind_eq_ok_iff]
  constructor
  · rintro ⟨⟨dictionary, block⟩, hrun, hfinish⟩
    cases block with
    | some block => simp [Loader.finish] at hfinish
    | none =>
        obtain rfl : dictionary = d' := Except.ok.inj hfinish
        exact hrun
  · intro hrun
    exact ⟨_, hrun, rfl⟩

/-! ### Loading keeps a dictionary well-formed -/

namespace Loader

variable {s s' : Loader} {v : Vendor}

lemma mem_vendors_of_target {name : String} {fourth fifth flags : Option String}
    (h : s.target name fourth fifth = .ok (v, flags)) : v ∈ s.dictionary.vendors := by
  unfold target at h
  cases hnamed : fourth.bind s.dictionary.vendorNamed? with
  | some w =>
      simp only [hnamed] at h
      obtain ⟨rfl, -⟩ := Prod.mk.inj (Except.ok.inj h)
      obtain ⟨field, -, hw⟩ := Option.bind_eq_some_iff.1 hnamed
      exact List.mem_of_find?_eq_some hw
  | none =>
      cases hblock : s.block with
      | none => cases fourth <;> simp [hnamed, hblock] at h
      | some block =>
          simp only [hnamed, hblock] at h
          cases hw : s.dictionary.vendor? block.vendor with
          | none => simp [hw] at h
          | some w =>
              simp only [hw] at h
              obtain ⟨rfl, -⟩ := Prod.mk.inj (Except.ok.inj h)
              exact List.mem_of_find?_eq_some hw

lemma mem_vendors_of_valueVendor? {owner : String} (h : s.valueVendor? owner = some v) :
    v ∈ s.dictionary.vendors := by
  rw [valueVendor?] at h
  cases hblock : s.block with
  | some block =>
      simp only [hblock] at h
      exact List.mem_of_find?_eq_some h
  | none =>
      simp only [hblock] at h
      exact List.mem_of_find?_eq_some h

lemma Accepts.wellFormed {line : Nat} {directive : Directive}
    (h : Accepts s line directive s') (hs : s.dictionary.WellFormed) :
    s'.dictionary.WellFormed := by
  cases h with
  | declareVendor hid hformat hdeclare => exact hs.declare? hdeclare
  | beginBlock hclosed hvendor => exact hs
  | endBlock hopen hname => exact hs
  | declareAttribute htarget hnumber hcode hinsert =>
      -- the new definition has a code and no values yet
      have hv := mem_vendors_of_target htarget
      obtain ⟨-, -, rfl⟩ := Vendor.insert_eq_ok_iff.1 hinsert
      refine hs.update ((hs.vendors _ hv).insert ?_ hinsert) hv rfl rfl
      exact ⟨hcode, .nil, fun hvalues => absurd rfl hvalues⟩
  | @declareValue owner name text number v d hnumber hvendor howner hkind =>
      have hv := mem_vendors_of_valueVendor? hvendor
      have hvendor := hs.vendors v hv
      obtain ⟨hd, -⟩ := (Vendor.attribute?_eq_some_iff hvendor).1 howner
      have hfound : v.attribute? d.name = some d :=
        (Vendor.attribute?_eq_some_iff hvendor).2 ⟨hd, rfl⟩
      -- a definition with one more value has the name and the code of the old one
      have hvalue := (hvendor.definitions d hd).declareValue hkind name number
      exact hs.update (hvendor.replace hvalue hfound rfl) hv rfl rfl
  | unsupported => exact hs

lemma wellFormed_of_step {line : SourceLine} (h : s.step line = .ok s')
    (hs : s.dictionary.WellFormed) : s'.dictionary.WellFormed := by
  rcases step_eq_ok_iff.1 h with ⟨-, rfl⟩ | ⟨_, _, _, -, -, haccepts⟩
  · exact hs
  · exact haccepts.wellFormed hs

lemma wellFormed_of_run {lines : List SourceLine} (h : s.run lines = .ok s')
    (hs : s.dictionary.WellFormed) : s'.dictionary.WellFormed :=
  run_induction (P := fun s => s.dictionary.WellFormed)
    (fun _ _ _ _ haccepts hs => haccepts.wellFormed hs) h hs

end Loader

lemma Dictionary.WellFormed.load {d d' : Dictionary} {text : String} (hd : d.WellFormed)
    (h : d.load text = .ok d') : d'.WellFormed :=
  Loader.wellFormed_of_run (load_eq_ok_iff.1 h) hd

end Radius
