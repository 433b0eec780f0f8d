/-
# Names that are given again

A line may give a number a second name, and it may give a name that is there another number.  The
values of an attribute then answer by two orders at once.  A name stands for the number of its last
naming; the names are listed in the order of their first namings, and in the spelling of these; and
the name that is shown for a number is the earliest of the list whose last number it is, which need
not be the one that had the number first (`Definition.Recalls`).  The namings are those of all texts
that were loaded so far, and where a vendor was merged those of the texts that made the vendor
(`Dictionary.History`).
-/
import Mathlib.Data.List.Find
import Mathlib.Data.List.Induction
import Radius.Proofs.Dictionary.Enumeration
import Radius.Proofs.Dictionary.Namings

namespace Radius

open Text

/-! ### What namings say -/

/-- The last element is kept if it is a duplicate of none that is kept before it. -/
lemma eraseDupsBy_append_singleton {α : Type} (r : α → α → Bool) (l : List α) (a : α) :
    (l ++ [a]).eraseDupsBy r =
      if (l.eraseDupsBy r).any (r a) then l.eraseDupsBy r else l.eraseDupsBy r ++ [a] := by
  have hloop : ∀ l seen, List.eraseDupsBy.loop r (l ++ [a]) seen =
      if (List.eraseDupsBy.loop r l seen).any (r a) then List.eraseDupsBy.loop r l seen
      else List.eraseDupsBy.loop r l seen ++ [a] := by
    intro l
    induction l with
    | nil =>
        intro seen
        simp only [List.nil_append, List.eraseDupsBy.loop, List.any_reverse]
        cases seen.any (r a) <;> simp
    | cons b rest ih =>
        intro seen
        rw [List.cons_append, List.eraseDupsBy.loop, List.eraseDupsBy.loop]
        cases seen.any (r b)
        · exact ih (b :: seen)
        · exact ih seen
  exact hloop l []

namespace Naming

/-- The names of namings in the order in which they first appear.  Each is there once, whatever the
letter case, and as its first naming spells it. -/
def names (namings : List Naming) : List String :=
  (namings.map (·.name)).eraseDupsBy sameName

lemma names_append_singleton (namings : List Naming) (n : Naming) :
    names (namings ++ [n]) =
      if (names namings).any (sameName n.name) then names namings
      else names namings ++ [n.name] := by
  rw [names, List.map_append, List.map_singleton, eraseDupsBy_append_singleton, names]

end Naming

/-! ### What the values answer -/

lemma NamedValue.map_name_declareAll (namings : List Naming) :
    (declareAll [] namings).map (·.name) = Naming.names namings := by
  induction namings using List.reverseRecOn with
  | nil => rfl
  | append_singleton namings n ih =>
      rw [declareAll_append_singleton, map_name_declare, ih, Naming.names_append_singleton]

/-- A definition that answers by some namings: by the last ones what number a name stands for, and
by the first ones in what order and spelling the names are listed. -/
structure Definition.Recalls (e : Definition) (namings : List Naming) : Prop where
  /-- A name stands for the number of its last naming. -/
  number?_eq : ∀ name, e.number? name = Naming.lastNumber? namings name
  /-- The names are listed by their first namings. -/
  names_eq : e.values.map (·.name) = Naming.names namings
  /-- No two names of the list differ in letter case only. -/
  names_nodup : (e.values.map fun v => fold v.name).Nodup
  /-- The name shown for a number is the earliest of the list whose last number it is. -/
  nameOf?_eq : ∀ number, e.nameOf? number =
    (Naming.names namings).find? fun name => Naming.lastNumber? namings name == some number
  /-- No name is shown for a number exactly if it is the last number of none. -/
  nameOf?_eq_none_iff : ∀ number, e.nameOf? number = none ↔
    ∀ name, Naming.lastNumber? namings name ≠ some number
  /-- The name that is shown for a number stands for it. -/
  number?_of_nameOf? : ∀ number name, e.nameOf? number = some name → e.number? name = some number

lemma Definition.recalls_of_values_eq {e : Definition} {namings : List Naming} (he : e.WellFormed)
    (hvalues : e.values = NamedValue.declareAll [] namings) : e.Recalls namings := by
  have hnumber : ∀ name, e.number? name = Naming.lastNumber? namings name := by
    intro name
    rw [number?, hvalues, NamedValue.find?_declareAll]
    exact Option.or_none
  have hnames : e.values.map (·.name) = Naming.names namings := by
    rw [hvalues, NamedValue.map_name_declareAll]
  -- every value holds the last number of its name
  have hlast : ∀ w ∈ e.values, Naming.lastNumber? namings w.name = some w.number := by
    intro w hw
    rw [← hnumber, number?_eq_some_iff he]
    exact ⟨w, hw, rfl, rfl⟩
  refine ⟨hnumber, hnames, he.valueNames_nodup, ?_, ?_, ?_⟩
  · intro number
    rw [nameOf?, ← hnames, List.find?_map]
    refine congrArg _ (List.find?_congr fun w hw => ?_)
    rw [Function.comp_apply, hlast w hw]
    rfl
  · intro number
    rw [nameOf?_eq_none_iff]
    simp only [← hnumber, ne_eq, number?_eq_some_iff he]
    constructor
    · rintro h name ⟨w, hw, -, hnumber⟩
      exact h ⟨w, hw, hnumber⟩
    · rintro h ⟨w, hw, hnumber⟩
      exact h w.name ⟨w, hw, rfl, hnumber⟩
  · intro number name h
    exact number?_of_nameOf?_eq_some he h

/-! ### Everything that was loaded -/

namespace Dictionary

/-- The namings that loading has applied to the attribute with a code among those of a vendor, in
their order. -/
inductive History (vendor : UInt32) (code : UInt8) : Dictionary → List Naming → Prop
  /-- An attribute starts without values. -/
  | start {d : Dictionary} (hd : d.WellFormed) (hnone : d.valuesOf vendor code = []) :
      History vendor code d []
  /-- A text that is loaded adds what its lines name. -/
  | load {d d' : Dictionary} {text : String} {namings : List Naming}
      (h : History vendor code d namings) (hload : d.load text = .ok d') :
      History vendor code d' (namings ++ d.namingsTo [] (directives text) vendor code)
  /-- A vendor that is laid over another brings its own. -/
  | upper {d other : Dictionary} {v : Vendor} {namings : List Naming} (hd : d.WellFormed)
      (h : History vendor code other namings) (hv : other.vendor? vendor = some v) :
      History vendor code (d.merge other) namings
  /-- A vendor in whose place nothing is laid keeps its own. -/
  | lower {d other : Dictionary} {v : Vendor} {namings : List Naming}
      (h : History vendor code d namings) (hother : other.WellFormed)
      (hfree : other.vendor? vendor = none) (hv : (d.merge other).vendor? vendor = some v) :
      History vendor code (d.merge other) namings

variable {d d' : Dictionary} {before : List Directive} {s : Loader} {vendor : UInt32}
  {code : UInt8} {v : Vendor} {e : Definition} {namings : List Naming}

lemma valuesOf_eq (hv : d.vendor? vendor = some v) (he : v.attributeOf? code = some e) :
    d.valuesOf vendor code = e.values := by
  simp [valuesOf, hv, he]

lemma valuesOf_congr (h : d.vendor? vendor = d'.vendor? vendor) :
    d.valuesOf vendor code = d'.valuesOf vendor code := by
  rw [valuesOf, h, valuesOf]

/-- A vendor that is not there after some directives was not there at the start. -/
lemma Follows.vendor?_eq_none (h : d.Follows before s) (hv : s.dictionary.vendor? vendor = none) :
    d.vendor? vendor = none := by
  rw [vendor?_eq_none_iff, List.mem_map] at hv ⊢
  rintro ⟨w, hw, hid⟩
  obtain ⟨u, hu, hbare⟩ := List.mem_map.1 (h.vendors_perm.mem_iff.2 (bare_mem_known hw))
  exact hv ⟨u, hu, (congrArg Vendor.id hbare).trans hid⟩

/-- Whether or not an attribute is there, its values are those at the start after its namings. -/
lemma NamedBy.valuesOf_eq (h : d.NamedBy before s) (hfollows : d.Follows before s) :
    s.dictionary.valuesOf vendor code =
      NamedValue.declareAll (d.valuesOf vendor code) (d.namingsTo [] before vendor code) := by
  have hs := hfollows.wellFormed
  cases hvendor : s.dictionary.vendor? vendor with
  | none =>
      have hnone : d.namingsTo [] before vendor code = [] := by
        rw [namingsTo, List.filter_eq_nil_iff]
        intro n hn hkeys
        simp only [Bool.and_eq_true, beq_iff_eq] at hkeys
        obtain ⟨w, hw, hid, -⟩ := h.held n hn
        exact vendor?_eq_none_iff.1 hvendor (List.mem_map.2 ⟨w, hw, hid.trans hkeys.1⟩)
      simp [valuesOf, hvendor, hfollows.vendor?_eq_none hvendor, hnone, NamedValue.declareAll]
  | some v =>
      obtain ⟨hv, rfl⟩ := (vendor?_eq_some_iff hs).1 hvendor
      cases hknown : v.attributeOf? code with
      | none =>
          have hcode := Vendor.attributeOf?_eq_none_iff.1 hknown
          rw [hfollows.valuesOf_eq_nil hv hcode, h.namingsTo_eq_nil hs hv hcode]
          simp [valuesOf, hvendor, hknown, NamedValue.declareAll]
      | some e =>
          obtain ⟨he, rfl⟩ := (Vendor.attributeOf?_eq_some_iff (hs.vendors v hv)).1 hknown
          rw [Dictionary.valuesOf_eq hvendor hknown]
          exact h.values_eq v hv e he

lemma follows_and_namedBy_of_load (hd : d.WellFormed) {text : String} (h : d.load text = .ok d') :
    d.Follows (directives text) ⟨d', none⟩ ∧ d.NamedBy (directives text) ⟨d', none⟩ := by
  have hone : [text].foldlM Dictionary.load d = .ok d' := by
    rw [List.foldlM_cons, h]
    rfl
  simpa using follows_and_namedBy_of_foldlM hd hone

lemma History.wellFormed (h : d.History vendor code namings) : d.WellFormed := by
  induction h with
  | start hd _ => exact hd
  | load _ hload ih => exact ih.load hload
  | upper hd _ _ ih => exact hd.merge ih
  | lower _ hother _ _ ih => exact ih.merge hother

/-- The values of an attribute are what its whole history has made of none. -/
lemma History.valuesOf_eq (h : d.History vendor code namings) :
    d.valuesOf vendor code = NamedValue.declareAll [] namings := by
  induction h with
  | start _ hnone => exact hnone
  | load h hload ih =>
      obtain ⟨hfollows, hnamed⟩ := follows_and_namedBy_of_load h.wellFormed hload
      rw [NamedValue.declareAll_append, ← ih]
      exact hnamed.valuesOf_eq hfollows
  | upper hd h hv ih =>
      rw [← ih]
      exact valuesOf_congr ((vendor?_merge hd h.wellFormed hv).trans hv.symm)
  | lower h hother hfree hv ih =>
      rw [← ih]
      exact valuesOf_congr (hv.trans (vendor?_of_merge h.wellFormed hother hfree hv).symm)

/-- Every attribute of a reachable dictionary has a history. -/
lemma Reachable.exists_history (h : d.Reachable) (vendor : UInt32) (code : UInt8) :
    ∃ namings, d.History vendor code namings := by
  refine h.loading_induction (P := fun d => ∃ namings, d.History vendor code namings)
    ⟨[], .start wellFormed_empty rfl⟩ ?_ ?_
  · rintro d d' text ⟨namings, hd⟩ hload
    exact ⟨_, hd.load hload⟩
  · rintro d other ⟨namings, hd⟩ ⟨namings', hother⟩
    cases habove : other.vendor? vendor with
    | some v => exact ⟨namings', .upper hd.wellFormed hother habove⟩
    | none =>
        cases hvendor : (d.merge other).vendor? vendor with
        | some v => exact ⟨namings, hd.lower hother.wellFormed habove hvendor⟩
        | none =>
            -- the vendor has given way to one with its name
            refine ⟨[], .start (hd.wellFormed.merge hother.wellFormed) ?_⟩
            simp [valuesOf, hvendor]

/-- **Names stand for their last numbers and are listed by their first namings.**  Every attribute
of a reachable dictionary has the values that the `VALUE` lines loaded so far have given it, and no
such line of a text that is loaded is passed over.  A name, in any letter case, stands for the
number that was given to it last.  The list has each name once, in the order in which the names
first appear and in the first spelling.  The name that is shown for a number is the earliest of the
list whose last number it is; there is none exactly if no name has the number as its last one; and
the name that is shown stands for the number. -/
theorem history_recalled :
    (∀ d : Dictionary, d.Reachable → ∀ vendor code, ∃ namings, d.History vendor code namings) ∧
      (∀ (d d' : Dictionary) (text : String), d.WellFormed → d.load text = .ok d' →
        ∀ before owner name number after,
          directives text = before ++ .declareValue owner name number :: after →
            ∃ n v e, d.naming? before (.declareValue owner name number) = some n ∧
              n ∈ d.namingsTo [] (directives text) n.vendor n.code ∧
              d'.vendor? n.vendor = some v ∧ v.attributeOf? n.code = some e) ∧
      ∀ (d : Dictionary) (vendor : UInt32) (code : UInt8) (namings : List Naming),
        d.History vendor code namings → ∀ v e, d.vendor? vendor = some v →
          v.attributeOf? code = some e → e.Recalls namings := by
  refine ⟨fun d hd => hd.exists_history, ?_, ?_⟩
  · intro d d' text hd hload before owner name number after hsplit
    obtain ⟨hfollows, hnamed⟩ := follows_and_namedBy_of_load hd hload
    obtain ⟨n, v, e, hn, hvendor, hknown, hnamings⟩ :=
      hnamed.exists_naming hfollows.wellFormed hsplit
    refine ⟨n, v, e, hn, ?_, hvendor, hknown⟩
    rw [namingsTo, hnamings]
    simp
  · intro d vendor code namings h v e hvendor hknown
    obtain ⟨hv, -⟩ := (vendor?_eq_some_iff h.wellFormed).1 hvendor
    have hwf := h.wellFormed.vendors v hv
    obtain ⟨he, -⟩ := (Vendor.attributeOf?_eq_some_iff hwf).1 hknown
    refine Definition.recalls_of_values_eq (hwf.definitions e he) ?_
    rw [← Dictionary.valuesOf_eq hvendor hknown]
    exact h.valuesOf_eq

/-- A vendor with one attribute and the values of this. -/
def oneAttribute (vendor owner : String) (values : List NamedValue) : Dictionary :=
  ⟨[⟨vendor, 9, [⟨owner, 1, "integer", [], values⟩]⟩]⟩

/-- A vendor that is laid over another one and then loaded into: one of the two names of a number is
given another number, in another letter case, and the first number is shown by the other name. -/
theorem history_recalled_of_two_names :
    ∃ layered text d v e, load layered text = .ok d ∧ Reachable d ∧
      ⟨9, 1, "on", 3⟩ ∈ layered.namingsTo [] (directives text) 9 1 ∧
      d.History 9 1 [⟨9, 1, "On", 1⟩, ⟨9, 1, "Enabled", 1⟩, ⟨9, 1, "on", 3⟩, ⟨9, 1, "Off", 0⟩] ∧
      d.vendor? 9 = some v ∧ v.attributeOf? 1 = some e ∧ e.number? "ON" = some 3 ∧
      e.values.map (·.name) = ["On", "Enabled", "Off"] ∧ e.nameOf? 1 = some "Enabled" ∧
      e.nameOf? 2 = none := by
  have hbelow : load empty "VENDOR B 9\nATTRIBUTE L 1 integer B\nVALUE L Most 2" =
      .ok (oneAttribute "B" "L" [⟨"Most", 2⟩]) := rfl
  have habove : load empty
      "VENDOR A 9\nATTRIBUTE K 1 integer A\nVALUE K On 1\nVALUE K Enabled 1" =
        .ok (oneAttribute "A" "K" [⟨"On", 1⟩, ⟨"Enabled", 1⟩]) := rfl
  have hlast : load ((oneAttribute "B" "L" [⟨"Most", 2⟩]).merge
      (oneAttribute "A" "K" [⟨"On", 1⟩, ⟨"Enabled", 1⟩]))
      "BEGIN-VENDOR a\nVALUE k on 3\nVALUE K Off 0\nEND-VENDOR A" =
        .ok (oneAttribute "A" "K" [⟨"On", 3⟩, ⟨"Enabled", 1⟩, ⟨"Off", 0⟩]) := rfl
  have hmerged := Reachable.merge (.load .empty hbelow) (.load .empty habove)
  have hupper : History 9 1 _ [⟨9, 1, "On", 1⟩, ⟨9, 1, "Enabled", 1⟩] :=
    .load (.start wellFormed_empty rfl) habove
  have hhistory : History 9 1 _
      [⟨9, 1, "On", 1⟩, ⟨9, 1, "Enabled", 1⟩, ⟨9, 1, "on", 3⟩, ⟨9, 1, "Off", 0⟩] :=
    .load (.upper (wellFormed_empty.load hbelow) hupper rfl) hlast
  obtain ⟨n, -, -, hn, hnamed, -⟩ := history_recalled.2.1 _ _ _ hmerged.wellFormed hlast
    [.beginBlock "a"] "k" "on" "3" [.declareValue "K" "Off" "0", .endBlock "A"] rfl
  obtain rfl : ⟨9, 1, "on", 3⟩ = n := Option.some.inj hn
  have hrecalls := history_recalled.2.2 _ 9 1 _ hhistory _ _ rfl rfl
  exact ⟨_, _, _, _, _, hlast, .load hmerged hlast, hnamed, hhistory, rfl, rfl,
    hrecalls.number?_eq "ON", hrecalls.names_eq, hrecalls.nameOf?_eq 1, hrecalls.nameOf?_eq 2⟩

end Dictionary

end Radius
