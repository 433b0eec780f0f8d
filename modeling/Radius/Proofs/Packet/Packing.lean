/-
# Packing does not matter

Several vendor attributes can travel in one attribute of type 26 or each in one of its own.  What a
packet holds, what validation finds in it and what is shown of it come from reading its attributes
one after the other, so these agree for two lists of attributes if they agree part by part
(`Alike.append`); and an attribute is alike to the vendor attributes that it holds, wrapped one by
one (`alike_singles`).
-/
import Mathlib.Data.List.Forall2
import Radius.Proofs.Inspection.Attributes
import Radius.Proofs.Packet.Vendors

namespace Radius

open VendorSpecific (allOfAttribute)

/-- The reports on vendor attributes in the report on an attribute. -/
def AttributeReport.vendorReports : AttributeReport → List VendorReport
  | vendor held => held
  | _ => []

/-- The reports on vendor attributes in the report on a packet, in order. -/
def PacketReport.vendorReports (r : PacketReport) : List VendorReport :=
  r.attributes.flatMap AttributeReport.vendorReports

namespace Dictionary

variable {d : Dictionary} {mode : Mode} {a : Attribute} {as as' bs bs' singles : List Attribute}
  {vs : List VendorSpecific}

lemma attributeViolation?_of_ok (h : allOfAttribute a = .ok vs) :
    d.attributeViolation? mode a = vs.findSome? (d.violation? mode) := by
  have htype : a.type = StandardType.vendorSpecific := VendorSpecific.type_of_allOfAttribute h
  simp only [attributeViolation?, if_pos htype, h]

/-! ### Attributes alike -/

/-- Two lists of attributes that hold the same vendor attributes, have the same first violation, and
are reported on by the same reports on vendor attributes. -/
structure Alike (d : Dictionary) (mode : Mode) (as bs : List Attribute) : Prop where
  held : as.flatMap Attribute.held = bs.flatMap Attribute.held
  violation : as.findSome? (d.attributeViolation? mode) = bs.findSome? (d.attributeViolation? mode)
  reports : (as.flatMap fun a => (d.reportAttribute mode a).vendorReports) =
    bs.flatMap fun a => (d.reportAttribute mode a).vendorReports

lemma Alike.refl (as : List Attribute) : d.Alike mode as as :=
  ⟨rfl, rfl, rfl⟩

lemma Alike.append (h : d.Alike mode as bs) (h' : d.Alike mode as' bs') :
    d.Alike mode (as ++ as') (bs ++ bs') where
  held := by rw [List.flatMap_append, List.flatMap_append, h.held, h'.held]
  violation := by rw [List.findSome?_append, List.findSome?_append, h.violation, h'.violation]
  reports := by rw [List.flatMap_append, List.flatMap_append, h.reports, h'.reports]

/-- What an attribute holds and the attributes in which this is wrapped one by one. -/
lemma alike_singles (hread : allOfAttribute a = .ok vs)
    (hsingles : List.Forall₂ (fun v single => v.toAttribute = .ok single) vs singles) :
    d.Alike mode [a] singles := by
  suffices h : singles.flatMap Attribute.held = vs ∧
      singles.findSome? (d.attributeViolation? mode) = vs.findSome? (d.violation? mode) ∧
      (singles.flatMap fun a => (d.reportAttribute mode a).vendorReports) =
        vs.map (d.reportVendor mode) by
    obtain ⟨hheld, hviolation, hreports⟩ := h
    refine ⟨?_, ?_, ?_⟩
    · rw [hheld, List.flatMap_singleton, Attribute.held_of_ok hread]
    · rw [hviolation, List.findSome?_singleton, attributeViolation?_of_ok hread]
    · rw [hreports, List.flatMap_singleton, reportAttribute_of_ok hread]
      rfl
  clear hread
  induction hsingles with
  | nil => exact ⟨rfl, rfl, rfl⟩
  | @cons v single vs singles hsingle _ ih =>
      obtain ⟨hheld, hviolation, hreports⟩ := ih
      have hread := VendorSpecific.allOfAttribute_eq_singleton_iff.2 hsingle
      refine ⟨?_, ?_, ?_⟩
      · rw [List.flatMap_cons, hheld, Attribute.held_of_ok hread, List.singleton_append]
      · rw [List.findSome?_cons, List.findSome?_cons, attributeViolation?_of_ok hread,
          List.findSome?_singleton, hviolation]
      · rw [List.flatMap_cons, hreports, reportAttribute_of_ok hread, List.map_cons]
        rfl

/-! ### Packets alike -/

lemma exists_singles (h : allOfAttribute a = .ok vs) :
    ∃ singles, List.Forall₂ (fun v single => v.toAttribute = .ok single) vs singles := by
  have hwrapped : ∀ v ∈ vs, ∃ single, v.toAttribute = .ok single :=
    fun v hv => VendorSpecific.exists_toAttribute_of_mem h hv
  clear h
  induction vs with
  | nil => exact ⟨[], .nil⟩
  | cons v rest ih =>
      obtain ⟨hfirst, hrest⟩ := List.forall_mem_cons.1 hwrapped
      obtain ⟨single, hsingle⟩ := hfirst
      obtain ⟨singles, hsingles⟩ := ih hrest
      exact ⟨single :: singles, .cons hsingle hsingles⟩

lemma vendorReports_inspect (d : Dictionary) (mode : Mode) (p : Packet) :
    (d.inspect mode p).vendorReports =
      p.attributes.flatMap fun a => (d.reportAttribute mode a).vendorReports := by
  rw [PacketReport.vendorReports, inspect, List.flatMap_map]

/-- What is shown of a packet that was sent. -/
lemma inspectPasted_of_encode {p : Packet} {wire : Octets} {input : String}
    (hwire : p.encode = .ok wire) (hinput : readPasted input = .ok wire) :
    d.inspectPasted mode input = .ok (d.inspect mode p) := by
  have harrived : Packet.decode wire = .ok p := by
    simpa using Packet.decode_of_encode hwire []
  exact inspectPasted_eq_ok_iff.2 ⟨wire, p, hinput, harrived, rfl⟩

/-- **Packing does not matter.**  Each vendor attribute that an attribute of a packet holds can be
wrapped in an attribute of its own.  Whoever puts these in the place of that attribute gets a packet
with the same violation, if any; it holds the same vendor attributes in the same order; a search by
numbers finds the same; and if both packets can be sent, the same reports on vendor attributes are
shown of both, in the same order. -/
theorem unpacking_keeps_content (d : Dictionary) (mode : Mode) (p : Packet)
    (before after : List Attribute) (a : Attribute) (vs : List VendorSpecific)
    (hp : p.attributes = before ++ a :: after) (hread : allOfAttribute a = .ok vs) :
    (∃ singles, List.Forall₂ (fun v single => v.toAttribute = .ok single) vs singles) ∧
      ∀ singles, List.Forall₂ (fun v single => v.toAttribute = .ok single) vs singles →
        ∀ q : Packet, q = { p with attributes := before ++ (singles ++ after) } →
          d.packetViolation? mode q = d.packetViolation? mode p ∧
          q.held = p.held ∧
          (∀ vendor subType, q.findVendor? vendor subType = p.findVendor? vendor subType) ∧
          ∀ wire wire' input input', p.encode = .ok wire → q.encode = .ok wire' →
            readPasted input = .ok wire → readPasted input' = .ok wire' →
              ∃ report report', d.inspectPasted mode input = .ok report ∧
                d.inspectPasted mode input' = .ok report' ∧
                report'.vendorReports = report.vendorReports := by
  refine ⟨exists_singles hread, ?_⟩
  rintro singles hsingles q rfl
  have halike : d.Alike mode p.attributes (before ++ (singles ++ after)) := by
    rw [hp, ← List.singleton_append]
    exact (Alike.refl before).append ((alike_singles hread hsingles).append (Alike.refl after))
  have hheld : Packet.held { p with attributes := before ++ (singles ++ after) } = p.held := by
    rw [Packet.held_eq, Packet.held_eq, halike.held]
  refine ⟨halike.violation.symm, hheld, Packet.findVendor?_congr hheld, ?_⟩
  intro wire wire' input input' hwire hwire' hinput hinput'
  refine ⟨_, _, inspectPasted_of_encode hwire hinput, inspectPasted_of_encode hwire' hinput', ?_⟩
  rw [vendorReports_inspect, vendorReports_inspect, halike.reports]

/-- Two vendor attributes in one attribute, before one that cannot be read, and the same two in
attributes of their own. -/
theorem unpacking_keeps_content_of_two :
    ∃ p q report report',
      p.attributes = [⟨26, [0, 0, 0, 5, 1, 3, 7, 2, 3, 8]⟩, ⟨26, []⟩] ∧
      q.attributes =
        [⟨26, [0, 0, 0, 5, 1, 3, 7]⟩, ⟨26, [0, 0, 0, 5, 2, 3, 8]⟩, ⟨26, []⟩] ∧
      empty.packetViolation? .strict q = some (.unknownVendor 5) ∧
      empty.packetViolation? .strict p = some (.unknownVendor 5) ∧
      q.held = p.held ∧ q.findVendor? 5 2 = p.findVendor? 5 2 ∧
      empty.inspectPasted .strict
          "01050022000000000000000000000000000000001a0c000000050103070203081a02" =
        .ok report ∧
      empty.inspectPasted .strict
          "01050028000000000000000000000000000000001a09000000050103071a09000000050203081a02" =
        .ok report' ∧
      report'.vendorReports = report.vendorReports := by
  have hread : allOfAttribute ⟨26, [0, 0, 0, 5, 1, 3, 7, 2, 3, 8]⟩ =
      .ok [⟨5, 1, [7], by decide, by decide⟩, ⟨5, 2, [8], by decide, by decide⟩] := by cbv
  obtain ⟨-, hreplaced⟩ := unpacking_keeps_content empty .strict
    ⟨.accessRequest, 5, .zero, [⟨26, [0, 0, 0, 5, 1, 3, 7, 2, 3, 8]⟩, ⟨26, []⟩]⟩
    [] [⟨26, []⟩] _ _ rfl hread
  obtain ⟨hviolation, hheld, hfind, hshown⟩ := hreplaced
    [⟨26, [0, 0, 0, 5, 1, 3, 7]⟩, ⟨26, [0, 0, 0, 5, 2, 3, 8]⟩] (.cons rfl (.cons rfl .nil)) _ rfl
  obtain ⟨report, report', hreport, hreport', hsame⟩ := hshown
    ([1, 5, 0, 34] ++ List.replicate 16 0 ++
      [26, 12, 0, 0, 0, 5, 1, 3, 7, 2, 3, 8, 26, 2])
    ([1, 5, 0, 40] ++ List.replicate 16 0 ++
      [26, 9, 0, 0, 0, 5, 1, 3, 7, 26, 9, 0, 0, 0, 5, 2, 3, 8, 26, 2])
    "01050022000000000000000000000000000000001a0c000000050103070203081a02"
    "01050028000000000000000000000000000000001a09000000050103071a09000000050203081a02"
    rfl rfl rfl rfl
  have hunknown : empty.packetViolation? .strict ⟨.accessRequest, 5, .zero,
      [⟨26, [0, 0, 0, 5, 1, 3, 7, 2, 3, 8]⟩, ⟨26, []⟩]⟩ =
        some (.unknownVendor 5) := by cbv
  exact ⟨_, _, report, report', rfl, rfl, hviolation.trans hunknown, hunknown, hheld, hfind 5 2,
    hreport, hreport', hsame⟩

end Dictionary

end Radius
