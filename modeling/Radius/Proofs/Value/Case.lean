/-
# Values in any letter case

Unless an operator's text is the value itself, its letter case does not count.  What is read as a
number or as an address has no letters, so that no other text differs from it in case only
(`unsigned?_congr`, `signed?_congr`); octets have their mark and their digits in either case
(`Hex.withoutMark_map_toLower`); and the name of a number is looked up by its fold.
-/
import Radius.Proofs.Dictionary.Numerals
import Radius.Proofs.Text.Pasted

namespace Radius

open Text Outcome

/-! ### Numerals -/

namespace Text

variable {text text' : List Char} {c : Char}

lemma unsigned?_congr (h : text.map Char.toLower = text'.map Char.toLower) :
    unsigned? 10 text = unsigned? 10 text' := by
  refine congr_of_no_letters (fun text n hn => ?_) h
  unfold unsigned? at hn
  split at hn
  · refine List.forall_mem_cons.2 ⟨rfl, fun c hc => ?_⟩
    exact isAlpha_of_isDigit ((digits?_eq_some_iff.1 hn).2.1 c hc)
  · exact fun c hc => isAlpha_of_isDigit ((digits?_eq_some_iff.1 hn).2.1 c hc)

lemma signed?_congr (h : text.map Char.toLower = text'.map Char.toLower) :
    signed? 10 text = signed? 10 text' := by
  refine congr_of_no_letters (fun text n hn => ?_) h
  rcases signed?_eq_some_iff.1 hn with ⟨-, hdigits⟩ | ⟨-, hdigits⟩ | ⟨-, hdigits⟩
  · exact fun c hc => isAlpha_of_isDigit (hdigits c hc)
  · exact List.forall_mem_cons.2 ⟨rfl, fun c hc => isAlpha_of_isDigit (hdigits c hc)⟩
  · exact List.forall_mem_cons.2 ⟨rfl, fun c hc => isAlpha_of_isDigit (hdigits c hc)⟩

lemma octet?_congr (h : text.map Char.toLower = text'.map Char.toLower) :
    octet? text = octet? text' := by
  rw [octet?, octet?, unsigned?_congr h]

lemma word?_congr (h : text.map Char.toLower = text'.map Char.toLower) :
    word? text = word? text' := by
  rw [word?, word?, unsigned?_congr h]

lemma int32?_congr (h : text.map Char.toLower = text'.map Char.toLower) :
    int32? text = int32? text' := by
  rw [int32?, int32?, signed?_congr h]

/-! ### Octets -/

lemma Hex.withoutMark_singleton (c : Char) : withoutMark [c] = [c] := by
  unfold withoutMark
  split <;> simp_all

lemma Hex.withoutMark_cons_cons (c d : Char) (rest : List Char) :
    withoutMark (c :: d :: rest) =
      if c = '0' ∧ (d = 'x' ∨ d = 'X') then rest else c :: d :: rest := by
  split_ifs with hmark
  · obtain ⟨rfl, rfl | rfl⟩ := hmark <;> rfl
  · unfold withoutMark
    split <;> simp_all

lemma toLower_eq_x_iff : c.toLower = 'x' ∨ c.toLower = 'X' ↔ c = 'x' ∨ c = 'X' := by
  have hnat := toNat_toLower c
  simp only [← Char.toNat_inj, hnat]
  change _ = 120 ∨ _ = 88 ↔ _ = 120 ∨ _ = 88
  split_ifs <;> omega

/-- Taking off the mark does not look at its case. -/
lemma Hex.withoutMark_map_toLower (text : List Char) :
    withoutMark (text.map Char.toLower) = (withoutMark text).map Char.toLower := by
  match text with
  | [] => rfl
  | [c] => rw [List.map_singleton, withoutMark_singleton, withoutMark_singleton, List.map_singleton]
  | c :: d :: rest =>
      have hzero : c.toLower = '0' ↔ c = '0' :=
        ⟨fun h => eq_of_toLower_eq (d := '0') h rfl, by rintro rfl; rfl⟩
      simp only [List.map_cons, withoutMark_cons_cons, hzero, toLower_eq_x_iff,
        apply_ite (List.map Char.toLower)]

end Text

/-! ### Values -/

namespace Value

variable {kind : Kind} {input input' : String} {value : Value}

/-- Texts that differ in letter case only stand for one value, unless it is text. -/
lemma parse_of_fold_eq (hkind : kind ≠ .text) (hinput : fold input = fold input')
    (h : parse kind input = .ok value) : parse kind input' = .ok value := by
  have htrim := trim_congr hinput
  cases kind with
  | integer =>
      rw [parse_integer_eq_ok_iff_readInteger?] at h ⊢
      rwa [readInteger?, ← int32?_congr htrim, ← word?_congr htrim]
  | text => exact absurd rfl hkind
  | ipv4 =>
      rw [parse_ipv4_eq_ok_iff] at h ⊢
      obtain ⟨address, hread, rfl⟩ := h
      refine ⟨address, ?_, rfl⟩
      rw [← hread]
      -- digits and points are no letters
      refine eq_of_map_toLower_eq htrim.symm fun c hc => ?_
      rcases Ipv4.mem_render (hread ▸ hc) with hdigit | rfl
      · exact isAlpha_of_isDigit hdigit
      · rfl
  | octets =>
      rw [parse_octets_eq_ok_iff] at h ⊢
      obtain ⟨content, hread, rfl⟩ := h
      refine ⟨content, ?_, rfl⟩
      rw [Hex.decode_eq_ok_iff, Hex.Spells, ← Hex.withoutMark_map_toLower] at hread ⊢
      rwa [← htrim]

end Value

lemma Definition.number?_congr {d : Definition} {name name' : String} (h : fold name = fold name') :
    d.number? name = d.number? name' := by
  have hsame : ∀ v : NamedValue, sameName v.name name = sameName v.name name' := by
    intro v
    rw [sameName, sameName, h]
  simp only [number?, hsame]

/-- Texts that differ in letter case only stand for one value of an attribute, and for an attribute
of text texts that do not differ at all. -/
lemma Vendor.readValue_of_fold_eq {definition : Definition} {text text' : String} {value : Value}
    (htext : fold text = fold text') (hsame : definition.kind = .text → text = text')
    (h : readValue definition text = .ok value) : readValue definition text' = .ok value := by
  have htrim : fold (String.ofList (trim text.toList)) =
      fold (String.ofList (trim text'.toList)) := by
    rw [fold, fold, String.toList_ofList, String.toList_ofList]
    exact trim_congr htext
  by_cases hkind : definition.kind = .text
  · obtain rfl := hsame hkind
    exact h
  · unfold readValue at h ⊢
    rw [← Definition.number?_congr htrim]
    split at h
    · exact h
    · exact Value.parse_of_fold_eq hkind htext h

end Radius
