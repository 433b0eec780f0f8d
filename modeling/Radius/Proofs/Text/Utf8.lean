/-
# Text and its octets

The UTF-8 form of a text determines the text, and the octets that are accepted as text are exactly
the UTF-8 forms (`decode_eq_ok_iff`).  Between the two stands the table of well-formed sequences
(`Spells`): every character is written to one of them, and reading takes one of them off at a time.
-/
import Mathlib.Tactic.Lemma
import Mathlib.Tactic.SplitIfs
import Radius.Proofs.Outcome
import Radius.Text.Utf8

namespace Radius.Text.Utf8

open Outcome String

/-! ### Octets as numbers -/

lemma isTrailing_iff {octet : UInt8} :
    isTrailing octet = true ↔ 0x80 ≤ octet.toNat ∧ octet.toNat ≤ 0xBF := by
  simp [isTrailing, UInt8.le_iff_toNat_le]

lemma isSecond_iff {first second : UInt8} :
    isSecond first second = true ↔
      0x80 ≤ second.toNat ∧ second.toNat ≤ 0xBF ∧
        (first.toNat = 0xE0 → 0xA0 ≤ second.toNat) ∧ (first.toNat = 0xF0 → 0x90 ≤ second.toNat) ∧
          (first.toNat = 0xED → second.toNat ≤ 0x9F) ∧
            (first.toNat = 0xF4 → second.toNat ≤ 0x8F) := by
  have hE0 : first = 0xE0 ↔ first.toNat = 0xE0 := UInt8.toNat_inj.symm
  have hF0 : first = 0xF0 ↔ first.toNat = 0xF0 := UInt8.toNat_inj.symm
  have hED : first = 0xED ↔ first.toNat = 0xED := UInt8.toNat_inj.symm
  have hF4 : first = 0xF4 ↔ first.toNat = 0xF4 := UInt8.toNat_inj.symm
  simp only [isSecond, Bool.and_eq_true, decide_eq_true_eq, UInt8.le_iff_toNat_le, hE0, hF0, hED,
    hF4]
  split_ifs <;> simp only [UInt8.reduceToNat] <;> omega

lemma ofNat_eq_of_eq {n : Nat} (octet : UInt8) (h : n = octet.toNat) : UInt8.ofNat n = octet := by
  rw [h, UInt8.ofNat_toNat]

/-! ### The four forms of a character -/

lemma toNat_charOfNat {n : Nat} (h : n.isValidChar) : (Char.ofNat n).toNat = n := by
  rw [Char.ofNat, dif_pos h]
  rfl

section Forms

variable {c : Char}

lemma encodeChar_one (h : c.toNat ≤ 0x7F) : utf8EncodeChar c = [UInt8.ofNat c.toNat] := by
  change c.val.toNat ≤ 0x7F at h
  rw [utf8EncodeChar, if_pos h]
  rfl

lemma encodeChar_two (h : 0x7F < c.toNat) (h' : c.toNat ≤ 0x7FF) :
    utf8EncodeChar c = [UInt8.ofNat (c.toNat / 64 + 0xC0), UInt8.ofNat (c.toNat % 64 + 0x80)] := by
  have hmod : c.toNat / 64 % 0x20 = c.toNat / 64 := by omega
  change 0x7F < c.val.toNat at h
  change c.val.toNat ≤ 0x7FF at h'
  rw [utf8EncodeChar, if_neg (by omega), if_pos h']
  change [UInt8.ofNat (c.toNat / 64 % 0x20 + 0xC0), _] = _
  rw [hmod]
  rfl

lemma encodeChar_three (h : 0x7FF < c.toNat) (h' : c.toNat ≤ 0xFFFF) :
    utf8EncodeChar c = [UInt8.ofNat (c.toNat / 4096 + 0xE0),
      UInt8.ofNat (c.toNat / 64 % 64 + 0x80), UInt8.ofNat (c.toNat % 64 + 0x80)] := by
  have hmod : c.toNat / 4096 % 0x10 = c.toNat / 4096 := by omega
  change 0x7FF < c.val.toNat at h
  change c.val.toNat ≤ 0xFFFF at h'
  rw [utf8EncodeChar, if_neg (by omega), if_neg (by omega), if_pos h']
  change [UInt8.ofNat (c.toNat / 4096 % 0x10 + 0xE0), _, _] = _
  rw [hmod]
  rfl

lemma encodeChar_four (h : 0xFFFF < c.toNat) :
    utf8EncodeChar c = [UInt8.ofNat (c.toNat / 262144 + 0xF0),
      UInt8.ofNat (c.toNat / 4096 % 64 + 0x80), UInt8.ofNat (c.toNat / 64 % 64 + 0x80),
      UInt8.ofNat (c.toNat % 64 + 0x80)] := by
  have hlt : c.toNat < 0x110000 := by
    rcases c.valid with hv | hv
    · exact Nat.lt_trans hv (by decide)
    · exact hv.2
  have hmod : c.toNat / 262144 % 0x08 = c.toNat / 262144 := by omega
  change 0xFFFF < c.val.toNat at h
  rw [utf8EncodeChar, if_neg (by omega), if_neg (by omega), if_neg (by omega)]
  change [UInt8.ofNat (c.toNat / 262144 % 0x08 + 0xF0), _, _, _] = _
  rw [hmod]
  rfl

end Forms

/-! ### Well-formed sequences -/

/-- The well-formed sequences, of one to four octets, and the characters that they spell. -/
inductive Spells : Octets → Char → Prop
  | one {a : UInt8} : a.toNat < 0x80 → Spells [a] (scalar 128 a [])
  | two {a b : UInt8} : 0xC2 ≤ a.toNat → a.toNat < 0xE0 → isSecond a b = true →
      Spells [a, b] (scalar 32 a [b])
  | three {a b c : UInt8} : 0xE0 ≤ a.toNat → a.toNat < 0xF0 → isSecond a b = true →
      isTrailing c = true → Spells [a, b, c] (scalar 16 a [b, c])
  | four {a b c d : UInt8} : 0xF0 ≤ a.toNat → a.toNat < 0xF5 → isSecond a b = true →
      isTrailing c = true → isTrailing d = true → Spells [a, b, c, d] (scalar 8 a [b, c, d])

/-- A sequence is the form of the character that it spells. -/
lemma encodeChar_of_spells {octets : Octets} {char : Char} (h : Spells octets char) :
    utf8EncodeChar char = octets := by
  cases h with
  | @one a ha =>
      have hmod : a.toNat % 128 = a.toNat := by omega
      have hn : (scalar 128 a []).toNat = a.toNat := by
        rw [scalar, List.foldl_nil, hmod]
        exact toNat_charOfNat (Or.inl (by omega))
      rw [encodeChar_one (by omega), hn, UInt8.ofNat_toNat]
  | @two a b ha ha' hb =>
      obtain ⟨hb, hb', -⟩ := isSecond_iff.1 hb
      have hvalid : Nat.isValidChar (a.toNat % 32 * 64 + b.toNat % 64) := Or.inl (by omega)
      have hn : (scalar 32 a [b]).toNat = a.toNat % 32 * 64 + b.toNat % 64 :=
        toNat_charOfNat hvalid
      rw [encodeChar_two (by omega) (by omega), hn, ofNat_eq_of_eq a (by omega),
        ofNat_eq_of_eq b (by omega)]
  | @three a b c ha ha' hb hc =>
      obtain ⟨hb, hb', hshort, -, hsurrogate, -⟩ := isSecond_iff.1 hb
      obtain ⟨hc, hc'⟩ := isTrailing_iff.1 hc
      have hvalid : Nat.isValidChar ((a.toNat % 16 * 64 + b.toNat % 64) * 64 + c.toNat % 64) := by
        -- the surrogates would start with `ED` and an octet from `A0` on
        unfold Nat.isValidChar
        omega
      have hn : (scalar 16 a [b, c]).toNat =
          (a.toNat % 16 * 64 + b.toNat % 64) * 64 + c.toNat % 64 := toNat_charOfNat hvalid
      rw [encodeChar_three (by omega) (by omega), hn, ofNat_eq_of_eq a (by omega),
        ofNat_eq_of_eq b (by omega), ofNat_eq_of_eq c (by omega)]
  | @four a b c d ha ha' hb hc hd =>
      obtain ⟨hb, hb', -, hshort, -, hlast⟩ := isSecond_iff.1 hb
      obtain ⟨hc, hc'⟩ := isTrailing_iff.1 hc
      obtain ⟨hd, hd'⟩ := isTrailing_iff.1 hd
      have hvalid : Nat.isValidChar
          (((a.toNat % 8 * 64 + b.toNat % 64) * 64 + c.toNat % 64) * 64 + d.toNat % 64) :=
        Or.inr (by omega)
      have hn : (scalar 8 a [b, c, d]).toNat =
          ((a.toNat % 8 * 64 + b.toNat % 64) * 64 + c.toNat % 64) * 64 + d.toNat % 64 :=
        toNat_charOfNat hvalid
      rw [encodeChar_four (by omega), hn, ofNat_eq_of_eq a (by omega),
        ofNat_eq_of_eq b (by omega), ofNat_eq_of_eq c (by omega),
        ofNat_eq_of_eq d (by omega)]

/-- Every character is written to a sequence that spells it. -/
lemma spells_encodeChar (char : Char) : Spells (utf8EncodeChar char) char := by
  generalize hn : char.toNat = n
  have hchar : char = Char.ofNat n := by rw [← hn, Char.ofNat_toNat]
  have hvalid : n.isValidChar := hn ▸ char.valid
  have hoctet {k : Nat} (h : k < 256) : (UInt8.ofNat k).toNat = k := UInt8.toNat_ofNat_of_lt' h
  unfold Nat.isValidChar at hvalid
  by_cases h₁ : n ≤ 0x7F
  · have ha := hoctet (k := n) (by omega)
    have hscalar : scalar 128 (UInt8.ofNat n) [] = char := by
      rw [scalar, List.foldl_nil, ha, hchar, Nat.mod_eq_of_lt (by omega)]
    rw [encodeChar_one (by omega), hn]
    exact hscalar ▸ .one (by omega)
  by_cases h₂ : n ≤ 0x7FF
  · have ha := hoctet (k := n / 64 + 0xC0) (by omega)
    have hb := hoctet (k := n % 64 + 0x80) (by omega)
    have hscalar :
        scalar 32 (UInt8.ofNat (n / 64 + 0xC0)) [UInt8.ofNat (n % 64 + 0x80)] = char := by
      rw [scalar, List.foldl_cons, List.foldl_nil, ha, hb, hchar]
      exact congrArg Char.ofNat (by omega)
    rw [encodeChar_two (by omega) (by omega), hn]
    exact hscalar ▸ .two (by omega) (by omega) (isSecond_iff.2 (by omega))
  by_cases h₃ : n ≤ 0xFFFF
  · have ha := hoctet (k := n / 4096 + 0xE0) (by omega)
    have hb := hoctet (k := n / 64 % 64 + 0x80) (by omega)
    have hc := hoctet (k := n % 64 + 0x80) (by omega)
    have hscalar : scalar 16 (UInt8.ofNat (n / 4096 + 0xE0))
        [UInt8.ofNat (n / 64 % 64 + 0x80), UInt8.ofNat (n % 64 + 0x80)] = char := by
      rw [scalar, List.foldl_cons, List.foldl_cons, List.foldl_nil, ha, hb, hc, hchar]
      exact congrArg Char.ofNat (by omega)
    rw [encodeChar_three (by omega) (by omega), hn]
    exact hscalar ▸ .three (by omega) (by omega) (isSecond_iff.2 (by omega))
      (isTrailing_iff.2 (by omega))
  · have ha := hoctet (k := n / 262144 + 0xF0) (by omega)
    have hb := hoctet (k := n / 4096 % 64 + 0x80) (by omega)
    have hc := hoctet (k := n / 64 % 64 + 0x80) (by omega)
    have hd := hoctet (k := n % 64 + 0x80) (by omega)
    have hscalar : scalar 8 (UInt8.ofNat (n / 262144 + 0xF0))
        [UInt8.ofNat (n / 4096 % 64 + 0x80), UInt8.ofNat (n / 64 % 64 + 0x80),
          UInt8.ofNat (n % 64 + 0x80)] = char := by
      rw [scalar, List.foldl_cons, List.foldl_cons, List.foldl_cons, List.foldl_nil, ha, hb, hc, hd,
        hchar]
      exact congrArg Char.ofNat (by omega)
    rw [encodeChar_four (by omega), hn]
    exact hscalar ▸ .four (by omega) (by omega) (isSecond_iff.2 (by omega))
      (isTrailing_iff.2 (by omega)) (isTrailing_iff.2 (by omega))

/-! ### Reading one character -/

lemma not_lt_of_toNat_le {a n : UInt8} (h : n.toNat ≤ a.toNat) : ¬a < n := by
  rw [UInt8.lt_iff_toNat_lt]
  exact Nat.not_lt.2 h

/-- Reading takes a sequence off as the character that it spells, whatever follows. -/
lemma decodeFrom_append_of_spells {octets : Octets} {char : Char} (h : Spells octets char)
    (index : Nat) (rest : Octets) :
    decodeFrom index (octets ++ rest) =
      (char :: ·) <$> decodeFrom (index + octets.length) rest := by
  cases h with
  | @one a ha =>
      rw [List.cons_append, List.nil_append, decodeFrom.eq_def]
      exact if_pos (UInt8.lt_iff_toNat_lt.2 ha)
  | @two a b ha ha' hb =>
      have h₁ : ¬a < 0x80 := not_lt_of_toNat_le (Nat.le_trans (by decide) ha)
      have h₂ : ¬a < 0xC2 := not_lt_of_toNat_le ha
      have h₃ : a < 0xE0 := UInt8.lt_iff_toNat_lt.2 ha'
      simp only [List.cons_append, List.nil_append, decodeFrom, h₁, h₂, h₃, hb, if_true, if_false]
      rfl
  | @three a b c ha ha' hb hc =>
      have h₁ : ¬a < 0x80 := not_lt_of_toNat_le (Nat.le_trans (by decide) ha)
      have h₂ : ¬a < 0xC2 := not_lt_of_toNat_le (Nat.le_trans (by decide) ha)
      have h₃ : ¬a < 0xE0 := not_lt_of_toNat_le ha
      have h₄ : a < 0xF0 := UInt8.lt_iff_toNat_lt.2 ha'
      simp only [List.cons_append, List.nil_append, decodeFrom, h₁, h₂, h₃, h₄, hb, hc, if_true,
        if_false, Bool.not_true, Bool.false_eq_true]
      rfl
  | @four a b c d ha ha' hb hc hd =>
      have h₁ : ¬a < 0x80 := not_lt_of_toNat_le (Nat.le_trans (by decide) ha)
      have h₂ : ¬a < 0xC2 := not_lt_of_toNat_le (Nat.le_trans (by decide) ha)
      have h₃ : ¬a < 0xE0 := not_lt_of_toNat_le (Nat.le_trans (by decide) ha)
      have h₄ : ¬a < 0xF0 := not_lt_of_toNat_le ha
      have h₅ : a < 0xF5 := UInt8.lt_iff_toNat_lt.2 ha'
      simp only [List.cons_append, List.nil_append, decodeFrom, h₁, h₂, h₃, h₄, h₅, hb, hc, hd,
        if_true, if_false, Bool.not_true, Bool.false_eq_true]
      rfl

/-! ### Whole texts -/

lemma encode_cons (char : Char) (text : List Char) :
    encode (char :: text) = utf8EncodeChar char ++ encode text :=
  List.flatMap_cons

lemma decodeFrom_encode (text : List Char) (index : Nat) :
    decodeFrom index (encode text) = .ok text := by
  induction text generalizing index with
  | nil => rfl
  | cons char text ih =>
      rw [encode_cons, decodeFrom_append_of_spells (spells_encodeChar char), ih]
      rfl

/-- A sequence before octets that are the form of all texts read from them. -/
lemma encode_cons_of_spells {octets rest : Octets} {char : Char} {text : List Char}
    {read : Except Fault (List Char)} (hs : Spells octets char)
    (hrest : ∀ {text : List Char}, read = .ok text → encode text = rest)
    (h : (char :: ·) <$> read = .ok text) : encode text = octets ++ rest := by
  obtain ⟨text, hread, rfl⟩ := map_eq_ok_iff.1 h
  rw [encode_cons, encodeChar_of_spells hs, hrest hread]

lemma encode_of_decodeFrom {octets : Octets} {index : Nat} {text : List Char}
    (h : decodeFrom index octets = .ok text) : encode text = octets := by
  fun_induction decodeFrom index octets generalizing text with
  | case1 =>
      rw [Except.ok.injEq] at h
      exact h ▸ rfl
  | case2 index a rest ha ih =>
      exact encode_cons_of_spells (.one (UInt8.lt_iff_toNat_lt.1 ha)) ih h
  | case5 index a _ ha ha' b rest hb ih =>
      rw [UInt8.not_lt, UInt8.le_iff_toNat_le] at ha
      exact encode_cons_of_spells (.two ha (UInt8.lt_iff_toNat_lt.1 ha') hb) ih h
  | case10 index a _ _ ha ha' b c rest hb hc ih =>
      rw [UInt8.not_lt, UInt8.le_iff_toNat_le] at ha
      rw [Bool.not_eq_true', Bool.not_eq_false] at hb
      exact encode_cons_of_spells (.three ha (UInt8.lt_iff_toNat_lt.1 ha') hb hc) ih h
  | case17 index a _ _ _ ha ha' b c d rest hb hc hd ih =>
      rw [UInt8.not_lt, UInt8.le_iff_toNat_le] at ha
      rw [Bool.not_eq_true', Bool.not_eq_false] at hb hc
      exact encode_cons_of_spells (.four ha (UInt8.lt_iff_toNat_lt.1 ha') hb hc hd) ih h
  | _ => simp at h

/-- Octets are read as text exactly if they are the form of that text. -/
lemma decode_eq_ok_iff {octets : Octets} {text : List Char} :
    decode octets = .ok text ↔ encode text = octets := by
  constructor
  · exact encode_of_decodeFrom
  · rintro rfl
    exact decodeFrom_encode text 0

/-- A text whose form starts with a low octet starts with the character of that number. -/
lemma exists_of_encode_eq_cons {text : List Char} {first : UInt8} {rest : Octets}
    (h : encode text = first :: rest) (hfirst : first.toNat < 0x80) :
    ∃ text', text = scalar 128 first [] :: text' ∧ encode text' = rest := by
  have hread : decodeFrom 0 (first :: rest) = .ok text := by
    rw [← h]
    exact decodeFrom_encode text 0
  change decodeFrom 0 ([first] ++ rest) = .ok text at hread
  rw [decodeFrom_append_of_spells (.one hfirst)] at hread
  obtain ⟨text', hrest, rfl⟩ := map_eq_ok_iff.1 hread
  exact ⟨text', rfl, encode_of_decodeFrom hrest⟩

end Radius.Text.Utf8
