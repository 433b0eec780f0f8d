/-
# Numbers of operators and of dictionary text

An operator's number and the number on a `VALUE` line are read in two ways.  The operator's is
trimmed and read in 32 bits, signed or else unsigned (`Value.readInteger?_eq_some_iff`).  That of
the line is a word, which may be written in hexadecimal after a mark; it is read in 64 bits and then
brought into 32 (`bind_pattern32?_eq_some_iff`).  Without a mark both come to the same: a number in
decimal digits in the signed or the unsigned range, which stands for the number of 32 bits that is
congruent to it (`Value.parse_integer_eq_ok_iff`), and which the line gives to the name
(`Loader.numberOf?_of_step`).
-/
import Radius.Proofs.Dictionary.Enumeration
import Radius.Proofs.Text.Decimal

namespace Radius

open Text Outcome

/-! ### Patterns of 32 bits -/

/-- The number with the pattern of an unsigned one is congruent to it. -/
lemma toInt_toInt32_emod (word : UInt32) :
    word.toInt32.toInt % 0x100000000 = (word.toNat : Int) % 0x100000000 := by
  have hpattern : word.toInt32.toInt = (word.toNat : Int).bmod (2 ^ 32) :=
    BitVec.toInt_eq_toNat_bmod word.toBitVec
  rw [hpattern]
  exact Int.bmod_emod

/-- A number brought into 32 bits is congruent to what it was. -/
lemma toInt_toInt32_emod_of_int64 (n : Int64) :
    n.toInt32.toInt % 0x100000000 = n.toInt % 0x100000000 := by
  rw [Int64.toInt_toInt32]
  exact Int.bmod_emod

/-- The lower half of a number is the same with and without a sign. -/
lemma toInt32_toUInt32_toUInt64 (n : Int64) : n.toUInt64.toUInt32.toInt32 = n.toInt32 := by
  rw [← Int32.toBitVec_inj, Int64.toBitVec_toInt32,
    BitVec.signExtend_eq_setWidth_of_le _ (by decide)]
  rfl

/-- A number of 32 bits without a sign fits in 64 with one. -/
lemma toInt_ofInt_toNat (word : UInt32) : (Int64.ofInt word.toNat).toInt = word.toNat := by
  have hlt := word.toNat_lt
  exact Int64.toInt_ofInt_of_le (by omega) (by omega)

/-- Numbers of 32 bits that are congruent are the same. -/
lemma eq_of_toInt_emod_eq {a b : Int32} (h : a.toInt % 0x100000000 = b.toInt % 0x100000000) :
    a = b := by
  have hleast := a.le_toInt
  have hmost := a.toInt_lt
  have hleast' := b.le_toInt
  have hmost' := b.toInt_lt
  exact Int32.toInt_inj.1 (by omega)

/-! ### What an operator writes -/

namespace Value

variable {input : String} {value : Value}

/-- The signed and the unsigned reader together read the decimal numbers of either range. -/
lemma readInteger?_eq_some_iff {text : List Char} {number : Int32} :
    readInteger? text = some number ↔
      ∃ n, signed? 10 text = some n ∧ -0x80000000 ≤ n ∧ n < 0x100000000 ∧
        number.toInt % 0x100000000 = n % 0x100000000 := by
  constructor
  · intro h
    unfold readInteger? at h
    split at h
    · rename_i signed hsigned
      obtain rfl := Option.some.inj h
      have hleast := signed.le_toInt
      have hmost := signed.toInt_lt
      exact ⟨_, int32?_eq_some_iff.1 hsigned, by omega, by omega, rfl⟩
    · obtain ⟨word, hword, rfl⟩ := Option.map_eq_some_iff.1 h
      have hlt := word.toNat_lt
      exact ⟨word.toNat, signed?_of_unsigned? (word?_eq_some_iff.1 hword), by omega, by omega,
        toInt_toInt32_emod word⟩
  · rintro ⟨n, hn, hleast, hmost, hsame⟩
    cases hsigned : int32? text with
    | some signed =>
        obtain rfl := Option.some.inj (hn.symm.trans (int32?_eq_some_iff.1 hsigned))
        rw [readInteger?, hsigned, eq_of_toInt_emod_eq hsame]
    | none =>
        -- the number is too great for the signed range, so that it has no minus sign
        have hgreat : 0x80000000 ≤ n := by
          by_contra hsmall
          have hnumber : (Int32.ofInt n).toInt = n :=
            Int32.toInt_ofInt_of_le (by omega) (by omega)
          have hread : int32? text = some (Int32.ofInt n) :=
            int32?_eq_some_iff.2 (hnumber.symm ▸ hn)
          simp [hread] at hsigned
        have hnat : (UInt32.ofNat n.toNat).toNat = n.toNat :=
          UInt32.toNat_ofNat_of_lt' (by change n.toNat < 0x100000000; omega)
        have hword : word? text = some (UInt32.ofNat n.toNat) := by
          rw [word?_eq_some_iff, hnat]
          exact unsigned?_of_signed? (by omega) hn
        rw [readInteger?, hsigned, hword]
        have hpattern := toInt_toInt32_emod (UInt32.ofNat n.toNat)
        rw [hnat, Int.toNat_of_nonneg (by omega), ← hsame] at hpattern
        exact congrArg some (eq_of_toInt_emod_eq hpattern)

/-- An operator's text is read as an integer where a number in decimal digits is left of it without
the blanks around it, and the number is in the signed or the unsigned range. -/
lemma parse_integer_eq_ok_iff :
    parse .integer input = .ok value ↔
      ∃ n number, IsDecimal (trim input.toList) n ∧ -0x80000000 ≤ n ∧ n < 0x100000000 ∧
        number.toInt % 0x100000000 = n % 0x100000000 ∧ value = .integer number := by
  simp only [parse_integer_eq_ok_iff_readInteger?, readInteger?_eq_some_iff, signed?_eq_some_iff]
  constructor
  · rintro ⟨number, ⟨n, hn, hleast, hmost, hsame⟩, rfl⟩
    exact ⟨n, number, hn, hleast, hmost, hsame, rfl⟩
  · rintro ⟨n, number, hn, hleast, hmost, hsame, rfl⟩
    exact ⟨number, ⟨n, hn, hleast, hmost, hsame⟩, rfl⟩

end Value

/-! ### What dictionary text says -/

/-- The two conversions together bring the numbers of either range into 32 bits. -/
lemma pattern32?_eq_some_iff {n : Int64} {number : Int32} :
    pattern32? n = some number ↔ -0x80000000 ≤ n.toInt ∧ n.toInt < 0x100000000 ∧
      number.toInt % 0x100000000 = n.toInt % 0x100000000 := by
  have hpattern : n.toInt32 = number ↔ number.toInt % 0x100000000 = n.toInt % 0x100000000 := by
    rw [← toInt_toInt32_emod_of_int64 n]
    constructor
    · rintro rfl
      rfl
    · exact fun h => (eq_of_toInt_emod_eq h).symm
  have hsigned : Int32.minValue.toInt64 ≤ n ∧ n ≤ Int32.maxValue.toInt64 ↔
      -0x80000000 ≤ n.toInt ∧ n.toInt ≤ 0x7FFFFFFF := by
    rw [Int64.le_iff_toInt_le, Int64.le_iff_toInt_le]
    rfl
  have hunsigned : 0 ≤ n ∧ n < 0x100000000 ↔ 0 ≤ n.toInt ∧ n.toInt < 0x100000000 := by
    rw [Int64.le_iff_toInt_le, Int64.lt_iff_toInt_lt]
    rfl
  rw [pattern32?, toInt32_toUInt32_toUInt64, if_congr hsigned rfl (if_congr hunsigned rfl rfl),
    ← hpattern]
  split_ifs with hlow hhigh
  · rw [Option.some.injEq]
    exact ⟨fun h => ⟨by omega, by omega, h⟩, fun h => h.2.2⟩
  · rw [Option.some.injEq]
    exact ⟨fun h => ⟨by omega, by omega, h⟩, fun h => h.2.2⟩
  · constructor
    · intro h
      cases h
    · rintro ⟨hleast, hmost, -⟩
      omega

/-- What is read in 64 bits and then brought into 32 are the numbers in decimal digits of either
range; those that do not even fit in 64 bits are in neither. -/
lemma bind_pattern32?_eq_some_iff {text : List Char} {number : Int32} :
    (int64? 10 text).bind pattern32? = some number ↔
      ∃ n, signed? 10 text = some n ∧ -0x80000000 ≤ n ∧ n < 0x100000000 ∧
        number.toInt % 0x100000000 = n % 0x100000000 := by
  simp only [Option.bind_eq_some_iff, int64?_eq_some_iff, pattern32?_eq_some_iff]
  constructor
  · rintro ⟨n, hn, hrange⟩
    exact ⟨n.toInt, hn, hrange⟩
  · rintro ⟨n, hn, hleast, hmost, hsame⟩
    have hfits : (Int64.ofInt n).toInt = n := Int64.toInt_ofInt_of_le (by omega) (by omega)
    exact ⟨Int64.ofInt n, by rw [hfits, hn], by omega, by omega, by rw [hfits, hsame]⟩

/-- A number without a mark is read in decimal. -/
lemma sourceNumber?_of_not_marked {numeral : String} (hlower : ¬ "0x".toList <+: numeral.toList)
    (hupper : ¬ "0X".toList <+: numeral.toList) :
    sourceNumber? numeral = int64? 10 numeral.toList := by
  unfold sourceNumber?
  split
  · rename_i digits hdigits
    exact absurd ⟨digits, hdigits.symm⟩ hlower
  · rename_i digits hdigits
    exact absurd ⟨digits, hdigits.symm⟩ hupper
  · rfl

/-- A word without a mark stands for a number on a line as it does where an operator writes it. -/
lemma bind_sourceNumber?_eq_some_iff {numeral : String} (hplain : IsPlain numeral)
    (hlower : ¬ "0x".toList <+: numeral.toList) (hupper : ¬ "0X".toList <+: numeral.toList)
    {number : Int32} :
    (sourceNumber? numeral).bind pattern32? = some number ↔
      Value.parse .integer numeral = .ok (.integer number) := by
  rw [sourceNumber?_of_not_marked hlower hupper, bind_pattern32?_eq_some_iff,
    ← Value.readInteger?_eq_some_iff, Value.parse_integer_eq_ok_iff_readInteger?,
    trim_eq_self hplain]
  simp

section Unsigned

variable {text : List Char} {word : UInt32} (h : word? text = some word)
include h

/-- A number of 32 bits in decimal digits is read in 64 bits as it is. -/
lemma sourceNumber?_of_word? : sourceNumber? (String.ofList text) = some (.ofInt word.toNat) := by
  have hread := word?_eq_some_iff.1 h
  rw [sourceNumber?, String.toList_ofList]
  -- with a mark in front it would not have been read
  split
  · cases hread
  · cases hread
  · rw [int64?_eq_some_iff, toInt_ofInt_toNat]
    exact signed?_of_unsigned? hread

lemma sourceNat_of_word? {bound : Nat} (hbound : word.toNat < bound) :
    sourceNat bound (String.ofList text) = .ok word.toNat := by
  rw [sourceNat, sourceNumber?_of_word? h, Option.map_some, toInt_ofInt_toNat]
  exact if_pos hbound

lemma bind_pattern32?_of_word? :
    (sourceNumber? (String.ofList text)).bind pattern32? = some word.toInt32 := by
  have hlt := word.toNat_lt
  rw [sourceNumber?_of_word? h, Option.bind_some, pattern32?_eq_some_iff, toInt_ofInt_toNat]
  exact ⟨by omega, by omega, toInt_toInt32_emod word⟩

end Unsigned

/-- The number that a name has among the values of the attribute with a code. -/
def Dictionary.numberOf? (d : Dictionary) (vendor : UInt32) (code : UInt8) (name : String) :
    Option Int32 :=
  ((d.vendor? vendor).bind (·.attributeOf? code)).bind (·.number? name)

namespace Loader

variable {s s' : Loader} {line : SourceLine} {owner name numeral : String} {rest : List String}
  {v : Vendor} {definition : Definition} {number : Int32}

lemma directive?_value (hwords : line.words = "VALUE" :: owner :: name :: numeral :: rest) :
    line.directive? = some (.declareValue owner name numeral) :=
  SourceLine.directive?_eq_some_iff.2 ⟨_, _, hwords, rfl⟩

/-- For an integer attribute that is there a line is accepted if its number is one. -/
lemma exists_step_value_iff
    (hwords : line.words = "VALUE" :: owner :: name :: numeral :: rest)
    (hvendor : s.valueVendor? owner = some v) (howner : v.attribute? owner = some definition)
    (hkind : definition.kind = .integer) :
    (∃ s', s.step line = .ok s') ↔
      ∃ number, (sourceNumber? numeral).bind pattern32? = some number := by
  simp only [step_of_directive? (directive?_value hwords), apply_eq_ok_iff]
  constructor
  · rintro ⟨s', h⟩
    cases h with
    | declareValue hnumber _ _ _ => exact ⟨_, hnumber⟩
  · rintro ⟨number, hnumber⟩
    exact ⟨_, .declareValue hnumber hvendor howner hkind⟩

/-- An accepted line gives its number to its name. -/
lemma numberOf?_of_step (hs : s.dictionary.WellFormed)
    (hwords : line.words = "VALUE" :: owner :: name :: numeral :: rest)
    (hvendor : s.valueVendor? owner = some v) (howner : v.attribute? owner = some definition)
    (h : s.step line = .ok s') (hnumber : (sourceNumber? numeral).bind pattern32? = some number) :
    s'.dictionary.numberOf? v.id definition.code name = some number := by
  have hs' := wellFormed_of_step h hs
  rw [step_of_directive? (directive?_value hwords), apply_eq_ok_iff] at h
  cases h with
  | @declareValue _ _ _ number' v' definition' hnumber' hvendor' howner' hkind =>
      -- the line belongs to one attribute and has one number
      obtain rfl := Option.some.inj (hnumber'.symm.trans hnumber)
      obtain rfl := Option.some.inj (hvendor'.symm.trans hvendor)
      obtain rfl := Option.some.inj (howner'.symm.trans howner)
      have hv := mem_vendors_of_valueVendor? hvendor
      have hmem := ((Vendor.attribute?_eq_some_iff (hs.vendors v' hv)).1 howner).1
      have hid : (v'.replace (definition'.declareValue name number')).id ∈
          s.dictionary.vendors.map (·.id) := List.mem_map.2 ⟨v', hv, rfl⟩
      have hreplaced := (Dictionary.mem_vendors_update hid).2 (.inl rfl)
      have hdeclared : definition'.declareValue name number' ∈
          (v'.replace (definition'.declareValue name number')).attributes :=
        (Vendor.mem_attributes_declareValue (hs.vendors v' hv) hmem).2 (.inl rfl)
      have hfound := (Dictionary.vendor?_eq_some_iff hs').2 ⟨hreplaced, rfl⟩
      have hknown := (Vendor.attributeOf?_eq_some_iff (hs'.vendors _ hreplaced)).2 ⟨hdeclared, rfl⟩
      change (((s.dictionary.update (v'.replace (definition'.declareValue name number'))).vendor?
        (v'.replace (definition'.declareValue name number')).id).bind
          (·.attributeOf? (definition'.declareValue name number').code)).bind
            (·.number? name) = some number'
      rw [hfound, Option.bind_some, hknown, Option.bind_some]
      exact (NamedValue.find?_declare name name number' definition'.values).trans
        (if_pos (sameName_refl name))

end Loader

namespace Dictionary

/-- **Operators and dictionary text write numbers alike.**  An operator's text is read as an integer
if and only if what is left of it without the blanks around it is a number in decimal digits, after
at most one sign, that is at least -2147483648 and less than 4294967296; and it is read as the
number of 32 bits that is congruent to this one.  Where a line of a text that is loaded into a
reachable dictionary names a value of an integer attribute that is there, by a number without `0x`
or `0X` in front, the line is accepted if and only if the number is read where an operator writes
it, and then the name is bound to the number that is read there. -/
theorem integers_read_alike :
    (∀ (input : String) (value : Value), Value.parse .integer input = .ok value ↔
      ∃ n number, IsDecimal (trim input.toList) n ∧ -0x80000000 ≤ n ∧ n < 0x100000000 ∧
        number.toInt % 0x100000000 = n % 0x100000000 ∧ value = .integer number) ∧
      ∀ (d : Dictionary) (source : String) (before : List SourceLine) (line : SourceLine)
        (after : List SourceLine) (s : Loader),
        d.Reachable → SourceLine.ofText source = before ++ line :: after →
        Loader.run ⟨d, none⟩ before = .ok s →
        ∀ (owner name numeral : String) (rest : List String) (v : Vendor) (definition : Definition),
          line.words = "VALUE" :: owner :: name :: numeral :: rest →
          ¬ "0x".toList <+: numeral.toList → ¬ "0X".toList <+: numeral.toList →
          s.valueVendor? owner = some v → v.attribute? owner = some definition →
          definition.kind = .integer →
          ((∃ s', s.step line = .ok s') ↔ ∃ value, Value.parse .integer numeral = .ok value) ∧
            ∀ s', s.step line = .ok s' → ∃ number,
              Value.parse .integer numeral = .ok (.integer number) ∧
                s'.dictionary.numberOf? v.id definition.code name = some number := by
  refine ⟨fun input value => Value.parse_integer_eq_ok_iff, ?_⟩
  intro d source before line after s hd hsource hrun owner name numeral rest v definition hwords
    hlower hupper hvendor howner hkind
  have hs := Loader.wellFormed_of_run hrun hd.wellFormed
  have hline : line ∈ SourceLine.ofText source := by simp [hsource]
  have hplain : IsPlain numeral := SourceLine.isPlain_of_mem_ofText hline (by simp [hwords])
  have hread : ∀ number, (sourceNumber? numeral).bind pattern32? = some number ↔
      Value.parse .integer numeral = .ok (.integer number) :=
    fun _ => bind_sourceNumber?_eq_some_iff hplain hlower hupper
  have haccepted := Loader.exists_step_value_iff hwords hvendor howner hkind
  constructor
  · rw [haccepted]
    constructor
    · rintro ⟨number, hnumber⟩
      exact ⟨_, (hread number).1 hnumber⟩
    · rintro ⟨value, hvalue⟩
      obtain ⟨number, -, rfl⟩ := Value.parse_integer_eq_ok_iff_readInteger?.1 hvalue
      exact ⟨number, (hread number).2 hvalue⟩
  · intro s' hstep
    obtain ⟨number, hnumber⟩ := haccepted.1 ⟨s', hstep⟩
    exact ⟨number, (hread number).1 hnumber,
      Loader.numberOf?_of_step hs hwords hvendor howner hstep hnumber⟩

/-- The greatest number of the unsigned range, with a sign and a leading zero. -/
theorem integers_read_alike_greatest :
    Value.parse .integer "\t+04294967295 " = .ok (.integer (-1)) ∧
      ∃ d, parse "VENDOR A 9\nATTRIBUTE K 1 integer A\nVALUE k Most +04294967295" = .ok d ∧
        d.numberOf? 9 1 "Most" = some (-1) := by
  have hgreatest : IsDecimal "+04294967295".toList 4294967295 :=
    .plus (by decide) (List.all_eq_true.1 rfl)
  constructor
  · exact (integers_read_alike.1 _ _).2
      ⟨4294967295, -1, hgreatest, by decide, by decide, by decide, rfl⟩
  · have hstep : Loader.step ⟨⟨[⟨"A", 9, [⟨"K", 1, "integer", [], []⟩]⟩]⟩, none⟩
        ⟨3, ["VALUE", "k", "Most", "+04294967295"]⟩ =
        .ok ⟨⟨[⟨"A", 9, [⟨"K", 1, "integer", [], [⟨"Most", -1⟩]⟩]⟩]⟩, none⟩ := rfl
    obtain ⟨-, hbound⟩ := integers_read_alike.2 empty
      "VENDOR A 9\nATTRIBUTE K 1 integer A\nVALUE k Most +04294967295"
      [⟨1, ["VENDOR", "A", "9"]⟩, ⟨2, ["ATTRIBUTE", "K", "1", "integer", "A"]⟩] _ [] _ .empty
      rfl rfl "k" "Most" "+04294967295" [] _ _ rfl (by decide) (by decide) rfl rfl rfl
    obtain ⟨number, hnumber, hlookup⟩ := hbound _ hstep
    obtain rfl : number = -1 := Value.integer.inj (Except.ok.inj (hnumber.symm.trans rfl))
    exact ⟨_, rfl, hlookup⟩

end Dictionary

end Radius
