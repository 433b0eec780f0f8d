/-
# Inspecting attribute by attribute

The report on a packet has one entry for each attribute, and the entry is a matter of that attribute
alone.  The entry on an attribute of type 26 says what an operator is told who pastes that attribute
(`decodePasted_render_of_encode`): both ways read the same octets.  Each malformed attribute leaves
one warning in the log (`run_reportWarned`), and so the log of a whole packet has the warnings of
its malformed attributes in order (`run_inspectWarned`).
-/
import Radius.Proofs.Inspection
import Radius.Proofs.Wire.Packet
import Radius.Proofs.Wire.Wrapping
import Radius.Query.Warning

namespace Radius

open Text Outcome
open VendorSpecific (allOfAttribute)

/-- The warning that belongs to an entry. -/
def AttributeReport.warning? : AttributeReport → Option DropWarning
  | malformed _ e => some ⟨e.message⟩
  | _ => none

/-- The warnings of a report, by why its malformed attributes were dropped. -/
lemma PacketReport.map_dropped (r : PacketReport) :
    r.dropped.map (fun e => DropWarning.mk e.message) =
      r.attributes.filterMap AttributeReport.warning? := by
  rw [dropped, List.map_filterMap]
  congr 1
  funext entry
  cases entry <;> rfl

namespace Dictionary

variable {d : Dictionary} {mode : Mode} {a : Attribute} {p : Packet} {octets : Octets}
  {input : String}

/-! ### Warnings -/

lemma warning?_reportStandard (a : Attribute) : (reportStandard a).warning? = none := by
  unfold reportStandard
  cases StandardType.ofCode? a.type with
  | none => rfl
  | some type => cases hread : a.valueAs type.kind <;> simp [hread, AttributeReport.warning?]

/-- The entry on one attribute, and its warning after those before. -/
lemma run_reportWarned (d : Dictionary) (mode : Mode) (a : Attribute) (log : List DropWarning) :
    (d.reportWarned mode a).run log =
      (d.reportAttribute mode a, log ++ (d.reportAttribute mode a).warning?.toList) := by
  unfold reportWarned reportAttribute
  by_cases htype : a.type = StandardType.vendorSpecific
  · rw [if_pos htype, if_pos htype]
    cases allOfAttribute a with
    | error e => rfl
    | ok held =>
        simp only [AttributeReport.warning?, Option.toList_none, List.append_nil]
        rfl
  · rw [if_neg htype, if_neg htype, warning?_reportStandard, Option.toList_none, List.append_nil]
    rfl

lemma run_mapM_reportWarned (as : List Attribute) (log : List DropWarning) :
    (as.mapM (d.reportWarned mode)).run log =
      (as.map (d.reportAttribute mode),
        log ++ (as.map (d.reportAttribute mode)).filterMap AttributeReport.warning?) := by
  induction as generalizing log with
  | nil => exact congrArg (Prod.mk []) (List.append_nil log).symm
  | cons a rest ih =>
      rw [run_mapM_cons, run_reportWarned, ih, List.map_cons, List.append_assoc]
      cases hwarning : (d.reportAttribute mode a).warning? with
      | none => rw [List.filterMap_cons_none hwarning, Option.toList_none, List.nil_append]
      | some warning =>
          rw [List.filterMap_cons_some hwarning, Option.toList_some, List.singleton_append]

/-- The report on a packet, and the warnings of its malformed entries after those before. -/
lemma run_inspectWarned (d : Dictionary) (mode : Mode) (p : Packet) (log : List DropWarning) :
    (d.inspectWarned mode p).run log =
      (d.inspect mode p,
        log ++ (d.inspect mode p).attributes.filterMap AttributeReport.warning?) := by
  have hbind : (d.inspectWarned mode p).run log =
      ({ d.inspect mode p with
          attributes := ((p.attributes.mapM (d.reportWarned mode)).run log).1 },
        ((p.attributes.mapM (d.reportWarned mode)).run log).2) := rfl
  rw [hbind, run_mapM_reportWarned]
  rfl

lemma run_inspectPastedWarned (hinput : readPasted input = .ok octets)
    (hp : Packet.decode octets = .ok p) (log : List DropWarning) :
    (d.inspectPastedWarned mode input).run.run log =
      (.ok (d.inspect mode p),
        log ++ (d.inspect mode p).attributes.filterMap AttributeReport.warning?) := by
  have hbind : (d.inspectPastedWarned mode input).run.run log =
      (.ok ((d.inspectWarned mode p).run log).1, ((d.inspectWarned mode p).run log).2) := by
    rw [inspectPastedWarned, hinput]
    show (ExceptT.run (do
      let p ← liftM ((Packet.decode octets).mapError QueryError.packet)
      liftM (d.inspectWarned mode p) : ExceptT QueryError (StateM _) PacketReport)).run log = _
    rw [hp]
    rfl
  rw [hbind, run_inspectWarned]

/-! ### Entries -/

/-- What an operator is told who pastes an attribute of type 26. -/
lemma decodePasted_render_of_encode {wire : Octets} (htype : a.type = 26)
    (hwire : a.encode = .ok wire) :
    d.decodePasted mode (Hex.render wire) =
      match allOfAttribute a with
      | .ok held => .ok (held.map (d.reportVendor mode))
      | .error e => .error (.vendorSpecific e) := by
  rw [decodePasted, readPasted_render, VendorSpecific.allOfAttribute_eq_decodeAll htype hwire]
  show d.decodeOctets mode wire = _
  rw [decodeOctets]
  cases VendorSpecific.decodeAll wire <;> rfl

lemma reportAttribute_of_ok {held : List VendorSpecific} (h : allOfAttribute a = .ok held) :
    d.reportAttribute mode a = .vendor (held.map (d.reportVendor mode)) := by
  have htype : a.type = StandardType.vendorSpecific := VendorSpecific.type_of_allOfAttribute h
  simp only [reportAttribute, if_pos htype, h]

lemma reportAttribute_of_error {e : AttributeError} (htype : a.type = 26)
    (h : allOfAttribute a = .error e) : d.reportAttribute mode a = .malformed a.value e := by
  have htype : a.type = StandardType.vendorSpecific := htype
  simp only [reportAttribute, if_pos htype, h]

/-- The entry on an attribute of type 26 has the reports that pasting the attribute gives, or its
value and the error that pasting it gives. -/
lemma reportAttribute_agrees {wire : Octets} (htype : a.type = 26) (hwire : a.encode = .ok wire) :
    (∀ reports, d.reportAttribute mode a = .vendor reports ↔
      d.decodePasted mode (Hex.render wire) = .ok reports) ∧
      (∀ raw e, d.reportAttribute mode a = .malformed raw e ↔
        raw = a.value ∧ d.decodePasted mode (Hex.render wire) = .error (.vendorSpecific e)) ∧
      ∀ error, d.decodePasted mode (Hex.render wire) = .error error →
        ∃ e, error = .vendorSpecific e := by
  rw [decodePasted_render_of_encode htype hwire]
  cases hread : allOfAttribute a with
  | ok held => simp [reportAttribute_of_ok hread]
  | error cause => simp [reportAttribute_of_error htype hread, eq_comm]

/-- **A packet is inspected attribute by attribute.**  If an input spells octets that start with a
packet, its report has one entry for each attribute of the packet, in order; wherever else the same
attribute stands in a packet, the entry on it is the same.  The entry on an attribute of type 26
has the reports that are given when the wire form of the attribute is pasted on its own; exactly
where there are none, for the attribute cannot be read, the entry is a malformed one with the octets
of the value and the error that is given then.  And the warnings are those of the malformed entries,
in order, each with the words for the error. -/
theorem inspection_attribute_by_attribute (d : Dictionary) (mode : Mode) (input : String)
    (octets : Octets) (p : Packet) (hinput : readPasted input = .ok octets)
    (hp : Packet.decode octets = .ok p) :
    ∃ report, d.inspectPasted mode input = .ok report ∧
      (d.inspectPastedWarned mode input).run.run [] =
        (.ok report, report.dropped.map fun e => ⟨e.message⟩) ∧
      report.attributes = p.attributes.map (d.reportAttribute mode) ∧
      (∀ input' octets' p' report', readPasted input' = .ok octets' →
        Packet.decode octets' = .ok p' → d.inspectPasted mode input' = .ok report' →
          ∀ i j : Nat, p.attributes[i]? = p'.attributes[j]? →
            report.attributes[i]? = report'.attributes[j]?) ∧
      ∀ (i : Nat) (a : Attribute), p.attributes[i]? = some a → a.type = 26 →
        ∃ wire entry, a.encode = .ok wire ∧ report.attributes[i]? = some entry ∧
          (∀ reports, entry = .vendor reports ↔
            d.decodePasted mode (Hex.render wire) = .ok reports) ∧
          (∀ raw e, entry = .malformed raw e ↔ raw = a.value ∧
            d.decodePasted mode (Hex.render wire) = .error (.vendorSpecific e)) ∧
          ∀ error, d.decodePasted mode (Hex.render wire) = .error error →
            ∃ e, error = .vendorSpecific e := by
  refine ⟨d.inspect mode p, inspectPasted_eq_ok_iff.2 ⟨octets, p, hinput, hp, rfl⟩, ?_, rfl,
    ?_, ?_⟩
  · rw [run_inspectPastedWarned hinput hp, PacketReport.map_dropped, List.nil_append]
  · intro input' octets' p' report' hinput' hp' hreport' i j hsame
    obtain ⟨_, _, hoctets, hpacket, rfl⟩ := inspectPasted_eq_ok_iff.1 hreport'
    obtain rfl := Except.ok.inj (hinput'.symm.trans hoctets)
    obtain rfl := Except.ok.inj (hp'.symm.trans hpacket)
    simp only [inspect, List.getElem?_map, hsame]
  · intro i a ha htype
    obtain ⟨-, area, rest, harea, -⟩ := Packet.eq_of_decode hp
    obtain ⟨wire, hwire⟩ := Attribute.exists_encode_of_mem harea (List.mem_of_getElem? ha)
    refine ⟨wire, d.reportAttribute mode a, hwire, ?_, reportAttribute_agrees htype hwire⟩
    simp only [inspect, List.getElem?_map, ha, Option.map_some]

/-- Two vendor attributes in one attribute and behind it a malformed one, which also stands alone in
another packet. -/
theorem inspection_attribute_by_attribute_dropped :
    ∃ report report' reports,
      empty.inspectPasted .strict
          "01050022000000000000000000000000000000001a0c000000050103070203081a02" =
        .ok report ∧
      empty.inspectPasted .strict "01050016000000000000000000000000000000001a02" = .ok report' ∧
      (empty.inspectPastedWarned .strict
          "01050022000000000000000000000000000000001a0c000000050103070203081a02").run.run [] =
        (.ok report, [⟨"Truncated attribute: 2 bytes (min 8)"⟩]) ∧
      report.attributes = [.vendor reports, .malformed [] (.truncated 2 8)] ∧
      report'.attributes[0]? = report.attributes[1]? ∧
      empty.decodePasted .strict (Hex.render [26, 12, 0, 0, 0, 5, 1, 3, 7, 2, 3, 8]) =
        .ok reports ∧
      empty.decodePasted .strict (Hex.render [26, 2]) =
        .error (.vendorSpecific (.truncated 2 8)) := by
  have hoctets : readPasted
      "01050022000000000000000000000000000000001a0c000000050103070203081a02" =
        .ok ([1, 5, 0, 34] ++ List.replicate 16 0 ++
          [26, 12, 0, 0, 0, 5, 1, 3, 7, 2, 3, 8, 26, 2]) := rfl
  have hoctets' : readPasted "01050016000000000000000000000000000000001a02" =
      .ok ([1, 5, 0, 22] ++ List.replicate 16 0 ++ [26, 2]) := rfl
  have hpacket : Packet.decode ([1, 5, 0, 34] ++ List.replicate 16 0 ++
      [26, 12, 0, 0, 0, 5, 1, 3, 7, 2, 3, 8, 26, 2]) =
        .ok ⟨.accessRequest, 5, .zero, [⟨26, [0, 0, 0, 5, 1, 3, 7, 2, 3, 8]⟩, ⟨26, []⟩]⟩ := by
    cbv
  have hpacket' : Packet.decode ([1, 5, 0, 22] ++ List.replicate 16 0 ++ [26, 2]) =
      .ok ⟨.accessRequest, 5, .zero, [⟨26, []⟩]⟩ := by
    cbv
  obtain ⟨report, hreport, hwarned, hentries, halone, hagrees⟩ :=
    inspection_attribute_by_attribute empty .strict _ _ _ hoctets hpacket
  obtain ⟨report', hreport', -⟩ :=
    inspection_attribute_by_attribute empty .strict _ _ _ hoctets' hpacket'
  have hread : allOfAttribute ⟨26, [0, 0, 0, 5, 1, 3, 7, 2, 3, 8]⟩ =
      .ok [⟨5, 1, [7], by decide, by decide⟩, ⟨5, 2, [8], by decide, by decide⟩] := by cbv
  have hmalformed : empty.reportAttribute .strict ⟨26, []⟩ = .malformed [] (.truncated 2 8) := rfl
  rw [List.map_cons, List.map_cons, reportAttribute_of_ok hread, hmalformed, List.map_nil] at hentries
  obtain ⟨wire, entry, hwire, hentry, hvendor, -, -⟩ := hagrees 0 _ rfl rfl
  obtain ⟨wire', entry', hwire', hentry', -, hdropped, -⟩ := hagrees 1 _ rfl rfl
  obtain rfl := Except.ok.inj hwire
  obtain rfl := Except.ok.inj hwire'
  rw [hentries] at hentry hentry'
  refine ⟨report, report', _, hreport, hreport', ?_, hentries, ?_, ?_, ?_⟩
  · rw [hwarned, PacketReport.dropped, hentries]
    rfl
  · exact (halone _ _ _ _ hoctets' hpacket' hreport' 1 0 rfl).symm
  · exact (hvendor _).1 (Option.some.inj hentry).symm
  · exact ((hdropped _ _).1 (Option.some.inj hentry').symm).2

end Dictionary

end Radius
