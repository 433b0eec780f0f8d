/-
# Hexadecimal read back

The hexadecimal form of octets is read as the octets, both as it stands (`decode_encode`) and where
an operator pastes it (`decodePasted_encode`): it has none of the characters that do not count
there.
-/
import Radius.Proofs.Text.Blank
import Radius.Proofs.Text.Numeral
import Radius.Proofs.Text.Utf8
import Radius.Text.Hex

namespace Radius.Text.Hex

variable {octets : Octets} {c : Char}

lemma digit_digitChar (index : Nat) {n : Nat} (hn : n < 16) :
    digit index (Nat.digitChar n) = .ok n := by
  rw [digit, digit?_digitChar (by decide) hn]

/-- Two digits are read as the octet that they were written for. -/
lemma pairs_encode (index : Nat) (octets : Octets) : pairs index (encode octets) = .ok octets := by
  induction octets generalizing index with
  | nil => rfl
  | cons octet rest ih =>
      have hhigh : octet.toNat / 16 < 16 := by
        have hlt := octet.toNat_lt
        omega
      have hlow : octet.toNat % 16 < 16 := Nat.mod_lt _ (by decide)
      have hencode : encode (octet :: rest) = Nat.digitChar (octet.toNat / 16) ::
          Nat.digitChar (octet.toNat % 16) :: encode rest := rfl
      rw [hencode, pairs, digit_digitChar index hhigh, digit_digitChar (index + 1) hlow, ih]
      change Except.ok (UInt8.ofNat (octet.toNat / 16 * 16 + octet.toNat % 16) :: rest) = _
      rw [Nat.div_add_mod', UInt8.ofNat_toNat]

/-! ### Characters of the hexadecimal form -/

lemma mem_encode (h : c ∈ encode octets) : ∃ n, n < 16 ∧ c = Nat.digitChar n := by
  obtain ⟨octet, -, hc⟩ := List.mem_flatMap.1 h
  have hlt := octet.toNat_lt
  rw [digits, List.mem_cons, List.mem_singleton] at hc
  rcases hc with rfl | rfl
  · exact ⟨octet.toNat / 16, by omega, rfl⟩
  · exact ⟨octet.toNat % 16, by omega, rfl⟩

/-- A digit has one octet, and is neither a blank, nor a colon, nor the letter of a mark. -/
lemma of_mem_encode (h : c ∈ encode octets) :
    c.toNat ≤ 0x7F ∧ isBlank c = false ∧ c ≠ ':' ∧ c ≠ 'x' ∧ c ≠ 'X' := by
  have hall : ∀ n : Fin 16, (Nat.digitChar n).toNat ≤ 0x7F ∧ isBlank (Nat.digitChar n) = false ∧
      Nat.digitChar n ≠ ':' ∧ Nat.digitChar n ≠ 'x' ∧ Nat.digitChar n ≠ 'X' := by decide
  obtain ⟨n, hn, rfl⟩ := mem_encode h
  exact hall ⟨n, hn⟩

lemma length_utf8Encode {text : List Char} (h : ∀ c ∈ text, c.toNat ≤ 0x7F) :
    (Utf8.encode text).length = text.length := by
  induction text with
  | nil => rfl
  | cons c rest ih =>
      have hrest := ih fun d hd => h d (List.mem_cons_of_mem c hd)
      rw [Utf8.encode_cons, Utf8.encodeChar_one (h c List.mem_cons_self), List.length_append,
        hrest, List.length_singleton, List.length_cons, Nat.add_comm]

lemma length_encode (octets : Octets) : (encode octets).length = 2 * octets.length := by
  induction octets with
  | nil => rfl
  | cons octet rest ih =>
      rw [encode, List.flatMap_cons, List.length_append, ← encode, ih, List.length_cons]
      simp only [digits, List.length_cons, List.length_nil]
      omega

/-! ### There and back -/

lemma decode_encode (octets : Octets) : decode (encode octets) = .ok octets := by
  have heven : (Utf8.encode (encode octets)).length % 2 = 0 := by
    rw [length_utf8Encode fun c hc => (of_mem_encode hc).1, length_encode, Nat.mul_mod_right]
  rw [decode, if_neg (by omega), pairs_encode]

/-- The hexadecimal form determines the octets. -/
lemma render_inj {octets octets' : Octets} : render octets = render octets' ↔ octets = octets' := by
  constructor
  · intro h
    have hencode : encode octets = encode octets' := String.ofList_injective h
    have hread := decode_encode octets
    rw [hencode, decode_encode] at hread
    exact (Except.ok.inj hread).symm
  · rintro rfl
    rfl

lemma trim_encode (octets : Octets) : trim (encode octets) = encode octets :=
  trim_eq_self fun _ hc => (of_mem_encode hc).2.1

lemma withoutMark_eq_self {text : List Char} (hlower : 'x' ∉ text) (hupper : 'X' ∉ text) :
    withoutMark text = text := by
  unfold withoutMark
  split
  · simp at hlower
  · simp at hupper
  · rfl

/-- The hexadecimal form has no mark, for that is no digit. -/
lemma withoutMark_encode (octets : Octets) : withoutMark (encode octets) = encode octets := by
  have hnomark : ∀ c ∈ encode octets, c ≠ 'x' ∧ c ≠ 'X' := fun c hc => (of_mem_encode hc).2.2.2
  exact withoutMark_eq_self (fun h => (hnomark _ h).1 rfl) (fun h => (hnomark _ h).2 rfl)

/-- Octets that an operator pastes as they were shown are read as they were. -/
lemma decodePasted_encode (octets : Octets) : decodePasted (encode octets) = .ok octets := by
  have hcounts : ∀ c ∈ encode octets, (!isBlank c && c != ':') = true := by
    intro c hc
    obtain ⟨-, hblank, hcolon, -⟩ := of_mem_encode hc
    simp [hblank, hcolon]
  rw [decodePasted, trim_encode, withoutMark_encode, List.filter_eq_self.2 hcounts, decode_encode]

end Radius.Text.Hex
