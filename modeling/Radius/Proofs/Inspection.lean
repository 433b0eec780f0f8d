/-
# Inspecting and validating

Inspecting a packet reports on all its attributes, validating it stops at the first violation.  A
report is clean if it notes no problem.  The report on an attribute is clean exactly if validation
finds no violation in it (`reportAttribute_clean_iff`), so that both ways through a packet come to
the same verdict.
-/
import Radius.Proofs.Outcome
import Radius.Proofs.Text.Hex
import Radius.Proofs.Validation
import Radius.Query

namespace Radius

open Text Outcome

/-- Octets pasted as they are shown. -/
lemma readPasted_render (octets : Octets) : readPasted (Hex.render octets) = .ok octets := by
  rw [readPasted, Hex.render, String.toList_ofList, Hex.decodePasted_encode]
  rfl

/-- A report on an attribute without a problem. -/
def AttributeReport.Clean : AttributeReport → Prop
  | standard _ _ _ problem => problem = none
  | vendor held => ∀ r ∈ held, r.problem = none
  | malformed _ _ => False

/-- A report on a packet without a problem in any of its attributes. -/
def PacketReport.Clean (r : PacketReport) : Prop :=
  ∀ a ∈ r.attributes, a.Clean

namespace Dictionary

variable {d : Dictionary} {mode : Mode} {p : Packet}

/-! ### Reports on attributes -/

lemma problem_reportVendor_eq_none_iff {a : VendorSpecific} :
    (d.reportVendor mode a).problem = none ↔ d.violation? mode a = none := by
  rw [reportVendor]
  cases hdescribe : d.describe a with
  | error e =>
      -- what has no description is not valid either
      have hinvalid := violation?_ne_none_of_describe hdescribe mode
      simp [hinvalid]
  | ok described => simp

lemma reportStandard_clean_iff {a : Attribute} :
    (reportStandard a).Clean ↔ a.violation? = none := by
  unfold reportStandard Attribute.violation?
  cases htype : StandardType.ofCode? a.type with
  | none => simp [AttributeReport.Clean]
  | some type =>
      cases hread : a.valueAs type.kind <;> simp [hread, AttributeReport.Clean]

lemma reportAttribute_clean_iff {a : Attribute} :
    (d.reportAttribute mode a).Clean ↔ d.attributeViolation? mode a = none := by
  unfold reportAttribute attributeViolation?
  by_cases htype : a.type = StandardType.vendorSpecific
  · rw [if_pos htype, if_pos htype]
    cases hheld : VendorSpecific.allOfAttribute a with
    | error e => simp [AttributeReport.Clean]
    | ok held =>
        simp only [AttributeReport.Clean, List.forall_mem_map, problem_reportVendor_eq_none_iff,
          List.findSome?_eq_none_iff]
  · rw [if_neg htype, if_neg htype]
    exact reportStandard_clean_iff

/-! ### Reports on packets -/

lemma inspect_clean_iff : (d.inspect mode p).Clean ↔ d.packetViolation? mode p = none := by
  rw [packetViolation?, List.findSome?_eq_none_iff]
  simp only [PacketReport.Clean, inspect, List.forall_mem_map, reportAttribute_clean_iff]

/-- A packet is inspected exactly where octets and a packet can be read. -/
lemma inspectPasted_eq_ok_iff {input : String} {r : PacketReport} :
    d.inspectPasted mode input = .ok r ↔
      ∃ octets p, readPasted input = .ok octets ∧ Packet.decode octets = .ok p ∧
        r = d.inspect mode p := by
  rw [inspectPasted, bind_eq_ok_iff]
  constructor
  · rintro ⟨octets, hoctets, h⟩
    obtain ⟨p, hp, hr⟩ := bind_eq_ok_iff.1 h
    exact ⟨octets, p, hoctets, mapError_eq_ok_iff.1 hp, (Except.ok.inj hr).symm⟩
  · rintro ⟨octets, p, hoctets, hp, rfl⟩
    exact ⟨octets, hoctets, bind_eq_ok_iff.2 ⟨p, mapError_eq_ok_iff.2 hp, rfl⟩⟩

/-- Inspecting refuses what does not spell octets and octets that start with no packet, and nothing
else. -/
lemma eq_of_inspectPasted_eq_error {input : String} {e : QueryError}
    (h : d.inspectPasted mode input = .error e) :
    readPasted input = .error e ∨
      ∃ octets fault, readPasted input = .ok octets ∧ Packet.decode octets = .error fault ∧
        e = .packet fault := by
  rw [inspectPasted, bind_eq_error_iff] at h
  rcases h with h | ⟨octets, hoctets, h⟩
  · exact Or.inl h
  · right
    rcases bind_eq_error_iff.1 h with h | ⟨p, -, h⟩
    · obtain ⟨fault, hfault, rfl⟩ := mapError_eq_error_iff.1 h
      exact ⟨octets, fault, hoctets, hfault, rfl⟩
    -- of a packet that was read there is always a report
    · exact absurd (show Except.ok (d.inspect mode p) = .error e from h) (by simp)

/-- **Inspecting and validating come to the same verdict.**  If an input spells octets that start
with a packet, inspecting it gives a report, and the report notes no problem - it has no malformed
attribute and no problem with a standard attribute or with a vendor attribute - exactly if the
packet is valid in the same mode.  What is valid in the strict mode is valid in the lenient mode.
And inspecting gives no report only where the input does not spell octets or these start with no
packet. -/
theorem inspectPasted_clean_iff (d : Dictionary) (mode : Mode) (input : String) :
    (∀ octets p, readPasted input = .ok octets → Packet.decode octets = .ok p →
      ∃ report, d.inspectPasted mode input = .ok report ∧
        (report.Clean ↔ d.packetViolation? mode p = none)) ∧
      (∀ p, d.packetViolation? .strict p = none → d.packetViolation? .lenient p = none) ∧
      ∀ e, d.inspectPasted mode input = .error e →
        readPasted input = .error e ∨
          ∃ octets fault, readPasted input = .ok octets ∧ Packet.decode octets = .error fault ∧
            e = .packet fault := by
  refine ⟨?_, ?_, ?_⟩
  · intro octets p hoctets hp
    exact ⟨d.inspect mode p, inspectPasted_eq_ok_iff.2 ⟨octets, p, hoctets, hp, rfl⟩,
      inspect_clean_iff⟩
  · intro p hstrict
    exact packetViolation?_eq_none_of_strict hstrict .lenient
  · intro e h
    exact eq_of_inspectPasted_eq_error h

/-- A packet with an attribute of a vendor that no dictionary knows, which only the strict mode
notes. -/
theorem inspectPasted_clean_iff_unknown_vendor :
    ∃ lenient strict,
      empty.inspectPasted .lenient
          "0x0105001e 00000000000000000000000000000000 1a:0a:00:00:00:05:01:04:ab:cd" =
        .ok lenient ∧ lenient.Clean ∧
      empty.inspectPasted .strict
          "0x0105001e 00000000000000000000000000000000 1a:0a:00:00:00:05:01:04:ab:cd" =
        .ok strict ∧ ¬ strict.Clean := by
  have hread : readPasted
      "0x0105001e 00000000000000000000000000000000 1a:0a:00:00:00:05:01:04:ab:cd" =
        .ok ([1, 5, 0, 30] ++ List.replicate 16 0 ++ [26, 10, 0, 0, 0, 5, 1, 4, 0xab, 0xcd]) := by
    rfl
  have hdecode : Packet.decode
      ([1, 5, 0, 30] ++ List.replicate 16 0 ++ [26, 10, 0, 0, 0, 5, 1, 4, 0xab, 0xcd]) =
        .ok ⟨.accessRequest, 5, .zero, [⟨26, [0, 0, 0, 5, 1, 4, 0xab, 0xcd]⟩]⟩ := by
    cbv
  obtain ⟨lenient, hlenient, hvalid⟩ :=
    (inspectPasted_clean_iff empty .lenient _).1 _ _ hread hdecode
  obtain ⟨strict, hstrict, hinvalid⟩ :=
    (inspectPasted_clean_iff empty .strict _).1 _ _ hread hdecode
  refine ⟨lenient, strict, hlenient, hvalid.2 (by cbv), hstrict, ?_⟩
  have hviolation : empty.packetViolation? .strict
      ⟨.accessRequest, 5, .zero, [⟨26, [0, 0, 0, 5, 1, 4, 0xab, 0xcd]⟩]⟩ =
        some (.unknownVendor 5) := by
    cbv
  rw [hinvalid, hviolation]
  simp

end Dictionary

end Radius
