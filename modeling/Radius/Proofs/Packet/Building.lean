/-
# Packets built addition by addition

An addition that succeeds puts one attribute behind the others, one that fails leaves the packet as
it was (`run_make`); so the packet that many additions leave is the packet they started from and the
attributes of those that succeeded, in order (`run_makeAll`).  What is read of the packet after it
was sent is then known addition by addition (`vendorAttributes_makeAll`).
-/
import Radius.Packet.Building
import Radius.Proofs.Packet.Vendors
import Radius.Proofs.Wire.Packet

namespace Radius

open VendorSpecific (allOfAttribute)

/-! ### Additions -/

namespace Addition

/-- The attribute that an addition puts into a packet, if it succeeds. -/
def added : Addition → List Attribute
  | plain a => [a]
  | vendor v => v.toAttribute.toOption.toList

/-- Whether an addition succeeds: a vendor attribute of more than 247 octets has no frame. -/
def outcome : Addition → Except PacketError Unit
  | plain _ => .ok ()
  | vendor v =>
    if v.value.length ≤ 247 then .ok ()
    else .error (.badAttribute (.valueTooLong v.value.length 247))

/-- What is read of an addition where the vendor attributes of its packet are read. -/
def reads : Addition → List (Except AttributeError (List VendorSpecific))
  | plain a => if a.type = 26 then [allOfAttribute a] else []
  | vendor v => if v.value.length ≤ 247 then [.ok [v]] else []

variable {v : VendorSpecific}

lemma added_vendor_of_toAttribute {a : Attribute} (h : v.toAttribute = .ok a) :
    (vendor v).added = [a] := by
  rw [added, h]
  rfl

lemma exists_added_vendor_iff :
    v.value.length ≤ 247 ↔ ∃ a, v.toAttribute = .ok a ∧ (vendor v).added = [a] := by
  constructor
  · intro hfits
    have ha := VendorSpecific.toAttribute_eq_ok_iff.2 ⟨hfits, rfl⟩
    exact ⟨_, ha, added_vendor_of_toAttribute ha⟩
  · rintro ⟨a, ha, -⟩
    exact (VendorSpecific.toAttribute_eq_ok_iff.1 ha).1

lemma reads_eq (x : Addition) : (x.added.filter (·.type == 26)).map allOfAttribute = x.reads := by
  cases x with
  | plain a =>
      by_cases htype : a.type = 26
      · simp [added, reads, htype]
      · simp [added, reads, htype]
  | vendor v =>
      by_cases hfits : v.value.length ≤ 247
      · obtain ⟨a, ha, hadded⟩ := exists_added_vendor_iff.1 hfits
        have hread := VendorSpecific.allOfAttribute_eq_singleton_iff.2 ha
        have htype := VendorSpecific.type_of_allOfAttribute hread
        simp [hadded, htype, hread, reads, hfits]
      · have herror := VendorSpecific.toAttribute_eq_error_iff.2 ⟨Nat.not_le.1 hfits, rfl⟩
        simp [added, herror, reads, hfits, Except.toOption]

end Addition

/-! ### Runs -/

namespace Packet

variable {p : Packet} {v : VendorSpecific}

lemma extended_append (p : Packet) (as bs : List Attribute) :
    p.extended (as ++ bs) = (p.extended as).extended bs := by
  simp only [extended, List.append_assoc]

@[simp] lemma extended_nil (p : Packet) : p.extended [] = p := by
  rw [extended, List.append_nil]

lemma run_append (a : Attribute) (p : Packet) : (append a).run.run p = (.ok (), p.add a) :=
  rfl

/-- Putting a vendor attribute into a packet in place comes to what making the longer packet comes
to, and where that fails the packet is still there. -/
lemma run_appendVendor (v : VendorSpecific) (p : Packet) :
    (appendVendor v).run.run p =
      match p.addVendor v with
      | .ok q => (.ok (), q)
      | .error e => (.error e, p) := by
  rw [appendVendor, addVendor]
  cases v.toAttribute with
  | error e => rfl
  | ok a => rfl

lemma run_appendVendor_of_lt (h : 247 < v.value.length) (p : Packet) :
    (appendVendor v).run.run p =
      (.error (.badAttribute (.valueTooLong v.value.length 247)), p) := by
  rw [run_appendVendor, addVendor, VendorSpecific.toAttribute_eq_error_iff.2 ⟨h, rfl⟩]
  rfl

/-- One addition: its outcome, and the packet with what it added. -/
lemma run_make (x : Addition) (p : Packet) :
    (make x).run.run p = (x.outcome, p.extended x.added) := by
  cases x with
  | plain a => exact run_append a p
  | vendor v =>
      by_cases hfits : v.value.length ≤ 247
      · obtain ⟨a, ha, hadded⟩ := Addition.exists_added_vendor_iff.1 hfits
        rw [hadded, Addition.outcome, if_pos hfits]
        show (appendVendor v).run.run p = _
        rw [run_appendVendor, addVendor, ha]
        rfl
      · have herror := VendorSpecific.toAttribute_eq_error_iff.2 ⟨Nat.not_le.1 hfits, rfl⟩
        rw [Addition.outcome, if_neg hfits, Addition.added, herror]
        show (appendVendor v).run.run p = (_, p.extended [])
        rw [run_appendVendor_of_lt (Nat.not_le.1 hfits), extended_nil]

/-- A run of additions: their outcomes, and the packet with what they added in order. -/
lemma run_makeAll (xs : List Addition) (p : Packet) :
    (makeAll xs).run p = (xs.map Addition.outcome, p.extended (xs.flatMap Addition.added)) := by
  induction xs generalizing p with
  | nil =>
      rw [List.map_nil, List.flatMap_nil, extended_nil]
      rfl
  | cons x rest ih =>
      rw [makeAll] at ih ⊢
      rw [Outcome.run_mapM_cons, run_make, ih, List.map_cons, List.flatMap_cons, extended_append]

lemma vendorAttributes_makeAll (p : Packet) (xs : List Addition) :
    (p.extended (xs.flatMap Addition.added)).vendorAttributes =
      p.vendorAttributes ++ xs.flatMap Addition.reads := by
  have hreads : ((xs.flatMap Addition.added).filter (·.type == 26)).map allOfAttribute =
      xs.flatMap Addition.reads := by
    induction xs with
    | nil => rfl
    | cons x rest ih =>
        rw [List.flatMap_cons, List.filter_append, List.map_append, Addition.reads_eq, ih,
          List.flatMap_cons]
  rw [vendorAttributes_extended, hreads]

/-- A vendor attribute that was added is found, or else one with its numbers that the packet held
before. -/
lemma findVendor?_makeAll (p : Packet) (earlier later : List Addition)
    (hfits : v.value.length ≤ 247) :
    (p.extended ((earlier ++ .vendor v :: later).flatMap Addition.added)).findVendor?
        v.vendor v.subType =
      some (((p.extended (earlier.flatMap Addition.added)).findVendor? v.vendor v.subType).getD
        v) := by
  obtain ⟨a, ha, hadded⟩ := Addition.exists_added_vendor_iff.1 hfits
  have hself : ∀ rest : List VendorSpecific,
      (v :: rest).find? (·.Numbered v.vendor v.subType) = some v :=
    fun rest => List.find?_cons_of_pos (decide_eq_true ⟨rfl, rfl⟩)
  rw [List.flatMap_append, List.flatMap_cons, hadded, extended_append, findVendor?_extended,
    List.singleton_append, List.flatMap_cons, Attribute.held_of_toAttribute ha,
    List.singleton_append, hself, Option.or_some]

/-- An attribute that cannot be read hides none. -/
lemma findVendor?_eq_without {q : Packet} {before after : List Attribute} {a : Attribute}
    {e : AttributeError} (hq : q.attributes = before ++ a :: after)
    (hread : allOfAttribute a = .error e) (vendor : UInt32) (subType : UInt8) :
    q.findVendor? vendor subType =
      { q with attributes := before ++ after }.findVendor? vendor subType := by
  refine findVendor?_congr ?_ vendor subType
  rw [held_eq, held_eq, hq, List.flatMap_append, List.flatMap_cons, Attribute.held_of_error hread,
    List.nil_append, ← List.flatMap_append]

/-- **A packet holds what was added to it.**  Additions leave the packet that they started from with
the attributes of those that succeeded behind its own, in order; a vendor attribute is added in the
attribute that it is wrapped in if it has at most 247 octets, and otherwise is refused, and the
packet is as it was.  If the packet is sent, it arrives.  Each of its attributes of type 26 is read
for itself, and of each vendor attribute that was added just that one is read.  A search finds the
first vendor attribute with the given numbers that any attribute holds, whatever attributes that
cannot be read there are, and a vendor attribute that was added is found unless there was one with
its numbers before. -/
theorem makeAll_reads_back (p : Packet) (xs : List Addition) :
    ∃ q, (makeAll xs).run p = (xs.map Addition.outcome, q) ∧
      q = { p with attributes := p.attributes ++ xs.flatMap Addition.added } ∧
      (∀ v : VendorSpecific, v.value.length ≤ 247 ↔
        ∃ a, v.toAttribute = .ok a ∧ (Addition.vendor v).added = [a]) ∧
      (∀ (v : VendorSpecific) (r : Packet), 247 < v.value.length →
        (appendVendor v).run.run r =
          (.error (.badAttribute (.valueTooLong v.value.length 247)), r)) ∧
      ∀ wire, q.encode = .ok wire →
        decode wire = .ok q ∧
          q.vendorAttributes = (q.attributes.filter (·.type == 26)).map allOfAttribute ∧
          q.vendorAttributes = p.vendorAttributes ++ xs.flatMap Addition.reads ∧
          (∀ vendor subType,
            (∀ found, q.findVendor? vendor subType = some found ↔
              FirstHeld vendor subType q.attributes found) ∧
            (q.findVendor? vendor subType = none ↔
              ∀ a ∈ q.attributes, ∀ vs, allOfAttribute a = .ok vs →
                ∀ v ∈ vs, ¬ (v.vendor = vendor ∧ v.subType = subType)) ∧
            ∀ before a after e, q.attributes = before ++ a :: after →
              allOfAttribute a = .error e →
                q.findVendor? vendor subType =
                  { q with attributes := before ++ after }.findVendor? vendor subType) ∧
          ∀ earlier v later, xs = earlier ++ .vendor v :: later → v.value.length ≤ 247 →
            q.findVendor? v.vendor v.subType =
              some ((((makeAll earlier).run p).2.findVendor? v.vendor v.subType).getD v) := by
  refine ⟨_, run_makeAll xs p, rfl, fun v => Addition.exists_added_vendor_iff,
    fun v r hlong => run_appendVendor_of_lt hlong r, fun wire hwire => ⟨?_, rfl, ?_, ?_, ?_⟩⟩
  · simpa using decode_of_encode hwire []
  · exact vendorAttributes_makeAll p xs
  · intro vendor subType
    exact ⟨fun found => findVendor?_eq_some_iff, findVendor?_eq_none_iff,
      fun before a after e hq hread => findVendor?_eq_without hq hread vendor subType⟩
  · rintro earlier v later rfl hfits
    rw [run_makeAll]
    exact findVendor?_makeAll p earlier later hfits

/-- A vendor attribute that can be held but not framed. -/
def unframed : VendorSpecific :=
  ⟨5, 1, List.replicate 248 0, by decide, by rw [List.length_replicate]; decide⟩

/-- A packet that came with an attribute that cannot be read; then one octet is added to it as a
vendor attribute, one vendor attribute is refused, and another octet is added with the same
numbers. -/
theorem makeAll_reads_back_behind_malformed :
    ∃ q wire,
      (makeAll [.vendor ⟨5, 1, [7], by decide, by decide⟩, .vendor unframed,
          .vendor ⟨5, 1, [8], by decide, by decide⟩]).run
        ⟨.accessAccept, 9, .zero, [⟨26, [0, 0, 0, 5, 1, 9]⟩]⟩ =
          ([.ok (), .error (.badAttribute (.valueTooLong 248 247)), .ok ()], q) ∧
      (appendVendor unframed).run.run q = (.error (.badAttribute (.valueTooLong 248 247)), q) ∧
      q.encode = .ok wire ∧ decode wire = .ok q ∧
      q.vendorAttributes = [.error (.lengthMismatch 9 2),
        .ok [⟨5, 1, [7], by decide, by decide⟩], .ok [⟨5, 1, [8], by decide, by decide⟩]] ∧
      q.findVendor? 5 1 = { q with attributes := q.attributes.drop 1 }.findVendor? 5 1 ∧
      q.findVendor? 5 1 = some ⟨5, 1, [7], by decide, by decide⟩ := by
  obtain ⟨q, hrun, hq, -, hlong, hsent⟩ := makeAll_reads_back
    ⟨.accessAccept, 9, .zero, [⟨26, [0, 0, 0, 5, 1, 9]⟩]⟩
    [.vendor ⟨5, 1, [7], by decide, by decide⟩, .vendor unframed,
      .vendor ⟨5, 1, [8], by decide, by decide⟩]
  have hlength : unframed.value.length = 248 := List.length_replicate
  have hmalformed : allOfAttribute ⟨26, [0, 0, 0, 5, 1, 9]⟩ = .error (.lengthMismatch 9 2) := by
    cbv
  have hrefused : (Addition.vendor unframed).added = [] := by
    rw [Addition.added, VendorSpecific.toAttribute_eq_error_iff.2 ⟨by rw [hlength]; decide, rfl⟩]
    rfl
  have hunread : (Addition.vendor unframed).reads = [] := by
    rw [Addition.reads, hlength]
    rfl
  have houtcome : (Addition.vendor unframed).outcome =
      .error (.badAttribute (.valueTooLong 248 247)) := by
    rw [Addition.outcome, hlength]
    rfl
  have hattributes : q.attributes =
      [⟨26, [0, 0, 0, 5, 1, 9]⟩, ⟨26, [0, 0, 0, 5, 1, 3, 7]⟩, ⟨26, [0, 0, 0, 5, 1, 3, 8]⟩] := by
    simp only [hq, List.flatMap_cons, hrefused]
    rfl
  have hwire : q.encode = .ok ([2, 9, 0, 46] ++ List.replicate 16 0 ++ [26, 8, 0, 0, 0, 5, 1, 9,
      26, 9, 0, 0, 0, 5, 1, 3, 7, 26, 9, 0, 0, 0, 5, 1, 3, 8]) := by
    simp only [hq, List.flatMap_cons, hrefused]
    rfl
  obtain ⟨harrived, -, hread, hsearch, hfound⟩ := hsent _ hwire
  refine ⟨q, _, ?_, ?_, hwire, harrived, ?_, ?_, ?_⟩
  · rw [hrun, List.map_cons, List.map_cons, houtcome]
    rfl
  · rw [hlong unframed q (by rw [hlength]; decide), hlength]
  · simp only [hread, List.flatMap_cons, hunread]
    show allOfAttribute ⟨26, [0, 0, 0, 5, 1, 9]⟩ :: _ = _
    rw [hmalformed]
    rfl
  · rw [(hsearch 5 1).2.2 [] _ _ _ hattributes hmalformed, hattributes]
    rfl
  · rw [hfound [] ⟨5, 1, [7], by decide, by decide⟩ _ rfl (by decide)]
    have hbefore : findVendor? ⟨.accessAccept, 9, .zero, [⟨26, [0, 0, 0, 5, 1, 9]⟩]⟩ 5 1 = none := by
      rw [findVendor?_eq_none_iff]
      intro a ha vs hread
      rw [List.mem_singleton.1 ha, hmalformed] at hread
      simp at hread
    exact congrArg (fun found => some (Option.getD found _)) hbefore

end Packet

end Radius
