/-
# Values as text

The text in which a value is shown is read, as a text of the value's kind, as the value
(`parse_render`).  What is shown is said without the printers (`Value.HasText`).  A reader of any
kind but text sees only what blanks enclose (`parse_around`), and an address of the other family is
told from a text that is no address at all.
-/
import Radius.Proofs.Address.Ipv6
import Radius.Proofs.Text.Hex
import Radius.Value

namespace Radius.Value

open Text

/-- The text that stands for a value. -/
def HasText : Value → List Char → Prop
  | integer number, shown =>
    shown = if 0 ≤ number.toInt then Nat.toDigits 10 number.toInt.toNat
      else '-' :: Nat.toDigits 10 (-number.toInt).toNat
  | text content, shown => shown = content.toList
  | ipv4 address, shown =>
    shown = Nat.toDigits 10 address.first.toNat ++ '.' ::
      (Nat.toDigits 10 address.second.toNat ++ '.' ::
        (Nat.toDigits 10 address.third.toNat ++ '.' :: Nat.toDigits 10 address.fourth.toNat))
  | octets content, shown =>
    shown = '0' :: 'x' :: content.flatMap fun octet =>
      [Nat.digitChar (octet.toNat / 16), Nat.digitChar (octet.toNat % 16)]

/-! ### What is shown -/

/-- A value is shown by the text that stands for it. -/
lemma hasText_render (value : Value) : value.HasText value.render.toList := by
  cases value with
  | integer number =>
      change (toString number.toInt).toList = _
      rw [Int.toString_eq_repr, Int.repr_eq_if]
      split_ifs with hsign
      · rw [Nat.repr_eq_ofList_toDigits, String.toList_ofList]
      · rw [Nat.repr_eq_ofList_toDigits, String.toList_append, String.toList_ofList,
          String.toList_ofList]
        rfl
  | text content => rfl
  | ipv4 address =>
      change address.render.toList = _
      simp only [Ipv4.toList_render, toList_toString_octet]
  | octets content =>
      change ("0x" ++ Hex.render content).toList = _
      rw [Hex.render, String.toList_append, String.toList_ofList, String.toList_ofList]
      rfl

/-- The text of a number, an address or octets has no blanks. -/
lemma isBlank_of_mem_render {value : Value} (hkind : value.kind ≠ .text) {c : Char}
    (h : c ∈ value.render.toList) : isBlank c = false := by
  cases value with
  | integer number => exact isBlank_of_mem_toString (i := number.toInt) h
  | text content => exact absurd rfl hkind
  | ipv4 address => exact Ipv4.isBlank_of_mem_render h
  | octets content =>
      rw [render, Hex.render, String.toList_append, String.toList_ofList, String.toList_ofList,
        List.mem_append] at h
      rcases h with h | h
      · rcases List.mem_cons.1 h with rfl | h
        · rfl
        · obtain rfl := List.mem_singleton.1 h
          rfl
      · exact (Hex.of_mem_encode h).2.1

lemma trim_render (value : Value) (hkind : value.kind ≠ .text) :
    trim value.render.toList = value.render.toList :=
  trim_eq_self fun _ hc => isBlank_of_mem_render hkind hc

/-! ### What is read -/

/-- What is shown of a number is read as the number, without trying the unsigned range. -/
lemma readInteger?_toString (number : Int32) :
    readInteger? (toString number.toInt).toList = some number := by
  rw [readInteger?, int32?_eq_some_iff.2 (signed?_toString number.toInt)]

/-- What is shown of a value is read as the value. -/
lemma parse_render (value : Value) : parse value.kind value.render = .ok value := by
  cases value with
  | integer number =>
      have htrim := trim_render (.integer number) (by simp [kind])
      have hread : readInteger? (render (.integer number)).toList = some number :=
        readInteger?_toString number
      simp only [kind, parse, htrim, hread]
  | text content => rfl
  | ipv4 address =>
      have htrim := trim_render (.ipv4 address) (by simp [kind])
      have hread : Address.parse? (render (.ipv4 address)).toList = some (.v4 address) :=
        Address.parse?_eq_v4_iff.2 rfl
      simp only [kind, parse, htrim, hread]
  | octets content =>
      have htrim := trim_render (.octets content) (by simp [kind])
      have hmark : Hex.withoutMark (render (.octets content)).toList = Hex.encode content := by
        rw [render, Hex.render, String.toList_append, String.toList_ofList, String.toList_ofList]
        rfl
      simp only [kind, parse, htrim, hmark, Hex.decode_encode]

variable {kind : Kind} {input : String} {value : Value}

lemma parse_integer_eq_ok_iff_readInteger? :
    parse .integer input = .ok value ↔
      ∃ number, readInteger? (trim input.toList) = some number ∧ value = .integer number := by
  simp only [parse]
  cases readInteger? (trim input.toList) <;> simp [eq_comm]

lemma parse_ipv4_eq_ok_iff :
    parse .ipv4 input = .ok value ↔
      ∃ address : Ipv4, trim input.toList = address.render.toList ∧ value = .ipv4 address := by
  simp only [parse, ← Address.parse?_eq_v4_iff]
  rcases Address.parse? (trim input.toList) with _ | address | _
  · simp
  · simp [eq_comm]
  · simp

lemma parse_octets_eq_ok_iff :
    parse .octets input = .ok value ↔
      ∃ content, Hex.decode (Hex.withoutMark (trim input.toList)) = .ok content ∧
        value = .octets content := by
  simp only [parse]
  cases Hex.decode (Hex.withoutMark (trim input.toList)) with
  | error fault => simp
  | ok content => simp [eq_comm]

lemma kind_of_parse (h : parse kind input = .ok value) : value.kind = kind := by
  cases kind with
  | integer =>
      obtain ⟨number, -, rfl⟩ := parse_integer_eq_ok_iff_readInteger?.1 h
      rfl
  | text =>
      obtain rfl := Except.ok.inj h
      rfl
  | ipv4 =>
      obtain ⟨address, -, rfl⟩ := parse_ipv4_eq_ok_iff.1 h
      rfl
  | octets =>
      obtain ⟨content, -, rfl⟩ := parse_octets_eq_ok_iff.1 h
      rfl

/-- Where the trimmed texts agree, the same values are read. -/
lemma parse_of_trim_eq {input' : String} (hkind : kind ≠ .text)
    (htrim : trim input'.toList = trim input.toList) (h : parse kind input = .ok value) :
    parse kind input' = .ok value := by
  cases kind with
  | integer =>
      rw [parse_integer_eq_ok_iff_readInteger?] at h ⊢
      rwa [htrim]
  | text => exact absurd rfl hkind
  | ipv4 =>
      rw [parse_ipv4_eq_ok_iff] at h ⊢
      rwa [htrim]
  | octets =>
      rw [parse_octets_eq_ok_iff] at h ⊢
      rwa [htrim]

/-- Blanks around a text do not change what is read. -/
lemma parse_around {before after : String} (hkind : kind ≠ .text)
    (hbefore : ∀ c ∈ before.toList, isBlank c = true)
    (hafter : ∀ c ∈ after.toList, isBlank c = true) (h : parse kind input = .ok value) :
    parse kind (before ++ input ++ after) = .ok value := by
  refine parse_of_trim_eq hkind ?_ h
  rw [String.toList_append, String.toList_append, trim_around hbefore hafter]

/-- The other family is reported for the addresses of that family, and for nothing else. -/
lemma parse_ipv4_eq_addressFamily_iff :
    parse .ipv4 input = .error (.addressFamily 16) ↔ Ipv6.IsText (trim input.toList) := by
  rw [← Address.parse?_eq_v6_iff]
  simp only [parse]
  constructor
  · intro h
    split at h
    · cases h
    · assumption
    · cases h
  · intro h
    rw [h]

lemma ofAddress_eq_addressFamily {address : Octets} (h : address.length = 16) :
    ofAddress address = .error (.addressFamily 16) := by
  have hnone : Ipv4.ofOctets? address = none := by
    unfold Ipv4.ofOctets?
    split
    · cases h
    · rfl
  simp only [ofAddress, hnone, h]

/-- **What is shown of a value is read as the value.**  A number is shown in signed decimal, text as
it is, an address in dotted decimal, and octets as two hexadecimal digits each after `0x`; every
value is read back from what is shown of it.  Whatever is read as a kind is a value of the kind, and
for every kind but text the same value is read with blanks around the text.  Of a text that spells
an IPv6 address no octets are taken: it is reported as such, as are sixteen octets, and nothing else
that an operator writes is. -/
theorem parse_inverts_render :
    (∀ value : Value, value.HasText value.render.toList ∧
        parse value.kind value.render = .ok value) ∧
      (∀ (kind : Kind) (input : String) (value : Value), parse kind input = .ok value →
        value.kind = kind ∧
          (kind ≠ .text → ∀ before after : String, (∀ c ∈ before.toList, isBlank c = true) →
            (∀ c ∈ after.toList, isBlank c = true) →
              parse kind (before ++ input ++ after) = .ok value)) ∧
      (∀ input : String,
        parse .ipv4 input = .error (.addressFamily 16) ↔ Ipv6.IsText (trim input.toList)) ∧
      ∀ address : Octets, address.length = 16 →
        ofAddress address = .error (.addressFamily 16) := by
  refine ⟨fun value => ⟨hasText_render value, parse_render value⟩, ?_,
    fun input => parse_ipv4_eq_addressFamily_iff, fun address h => ofAddress_eq_addressFamily h⟩
  intro kind input value h
  exact ⟨kind_of_parse h, fun hkind before after hbefore hafter =>
    parse_around hkind hbefore hafter h⟩

/-- The least number, no octets between blanks, and the loopback address of the other family. -/
theorem parse_inverts_render_at_bounds :
    parse .integer "-2147483648" = .ok (integer (-2147483648)) ∧
      parse .octets "\t0X\u00A0" = .ok (octets []) ∧
      parse .ipv4 " ::1" = .error (.addressFamily 16) := by
  refine ⟨(parse_inverts_render.1 (integer (-2147483648))).2, ?_, ?_⟩
  · exact (parse_inverts_render.2.1 .octets "0X" (octets []) rfl).2 (by decide) "\t" "\u00A0"
      (List.all_eq_true.1 rfl) (List.all_eq_true.1 rfl)
  · refine (parse_inverts_render.2.2.1 " ::1").2 ?_
    have hgroup : Ipv6.IsGroup ['1'] := ⟨by decide, by decide, List.all_eq_true.1 rfl⟩
    exact .short .none (.row (.group hgroup)) (by decide)

end Radius.Value
