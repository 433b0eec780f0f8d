/-
# Values with tags

A definition lays a value out on the wire in one of three ways (`Definition.Lays`): as a whole, as a
number of 24 bits after the octet of its tag, or after a tag.  Writing follows these layouts with
the tags that are legal (`encodeValue_eq_ok_iff`), reading with the tag that the first octet shows
(`decodeValue_eq_ok_iff`).  What is written with a tag and what is read as a tag is decided by
different tests.  These agree, so that reading and writing are inverse, but in two corners: text or
octets without a tag that start with an octet that is one (`Definition.Ambiguous`), and numbers
whose first octet is above the tags (`Definition.Overtagged`).
-/
import Radius.Dictionary.Definition
import Radius.Proofs.Value

namespace Radius

open Text Outcome

lemma isTag_iff {octet : UInt8} : isTag octet = true ↔ 1 ≤ octet ∧ octet ≤ 31 := by
  simp [isTag]

namespace Definition

variable {d : Definition} {tag : Option UInt8} {value : Value} {wire : Octets}

/-- How a value, of the kind of the definition, and its tag stand on the wire. -/
inductive Lays (d : Definition) : Option UInt8 → Value → Octets → Prop
  /-- The value alone. -/
  | whole {value : Value} : value.kind = d.kind → (d.hasTag = true → d.kind ≠ .integer) →
      Lays d none value value.encode
  /-- A number of 24 bits after the octet of its tag, which is 0 if there is none. -/
  | number {tag : Option UInt8} {number : Int32} : d.hasTag = true → d.kind = .integer →
      0 ≤ number → number ≤ 0x00FFFFFF →
      Lays d tag (.integer number) (tag.getD 0 :: Octets.ofNat 3 number.toUInt32.toNat)
  /-- The value after its tag. -/
  | marked {tag : UInt8} {value : Value} : d.hasTag = true → d.kind = .text ∨ d.kind = .octets →
      value.kind = d.kind → Lays d (some tag) value (tag :: value.encode)

/-- Whether an octet at the head of a value is read as its tag. -/
def marks (d : Definition) (octet : UInt8) : Bool :=
  d.hasTag &&
    match d.kind with
    | .integer => octet != 0
    | .text => isTag octet
    | .octets => isTag octet
    | .ipv4 => false

/-- The tag that is read off a value. -/
def tagOf (d : Definition) (wire : Octets) : Option UInt8 :=
  wire.head?.filter d.marks

lemma marks_iff {octet : UInt8} :
    d.marks octet = true ↔
      d.hasTag = true ∧ (d.kind = .integer ∧ octet ≠ 0 ∨
        (d.kind = .text ∨ d.kind = .octets) ∧ isTag octet = true) := by
  rw [marks, Bool.and_eq_true]
  cases d.kind <;> simp

lemma Lays.kind_eq (h : d.Lays tag value wire) : value.kind = d.kind := by
  cases h with
  | whole hkind _ => exact hkind
  | number _ hkind _ _ => exact hkind.symm
  | marked _ _ hkind => exact hkind

/-! ### Numbers of 24 bits -/

lemma toNat_toUInt32_lt_iff {number : Int32} :
    number.toUInt32.toNat < 0x1000000 ↔ 0 ≤ number ∧ number ≤ 0x00FFFFFF := by
  have hcases := BitVec.toInt_eq_toNat_cond number.toBitVec
  have hnat : number.toUInt32.toNat = number.toBitVec.toNat := rfl
  have hint : number.toInt = number.toBitVec.toInt := rfl
  have hlt : number.toBitVec.toNat < 2 ^ 32 := number.toBitVec.isLt
  rw [Int32.le_iff_toInt_le, Int32.le_iff_toInt_le, hnat, hint]
  change _ ↔ 0 ≤ _ ∧ _ ≤ 16777215
  split at hcases <;> omega

/-- The first of the four octets of a number is 0 exactly if the number fits in the other three. -/
lemma encodeInteger_eq_zero_cons_iff {number : Int32} {rest : Octets} :
    Value.encodeInteger number = 0 :: rest ↔
      (0 ≤ number ∧ number ≤ 0x00FFFFFF) ∧ rest = Octets.ofNat 3 number.toUInt32.toNat := by
  have hlt : number.toUInt32.toNat < 0x100000000 := number.toUInt32.toNat_lt
  have hcapacity : Octets.capacity 3 = 0x1000000 := rfl
  have hfirst : UInt8.ofNat (number.toUInt32.toNat / Octets.capacity 3) = 0 ↔
      number.toUInt32.toNat < 0x1000000 := by
    rw [hcapacity, ← UInt8.toNat_inj, UInt8.toNat_ofNat_of_lt' (show _ < 256 by omega)]
    change _ = 0 ↔ _
    omega
  rw [Value.encodeInteger, Octets.ofNat, List.cons.injEq, hfirst, toNat_toUInt32_lt_iff]
  exact and_congr_right fun _ => eq_comm

/-! ### Writing -/

lemma lays_of_encodeValue_none (h : d.encodeValue none value = .ok wire) :
    d.Lays none value wire := by
  unfold encodeValue at h
  split at h
  · simp at h
  rename_i hkind
  rw [Decidable.not_not] at hkind
  rw [if_neg (by simp)] at h
  cases value with
  | integer number =>
      cases htag : d.hasTag with
      | false =>
          simp only [htag, Option.filter_none, Bool.not_false, if_true] at h
          obtain rfl := Except.ok.inj h
          exact .whole hkind (by simp [htag])
      | true =>
          simp only [htag, Option.filter_none, Bool.not_true, Bool.false_eq_true, if_false] at h
          split at h
          · rename_i hrange
            obtain rfl := Except.ok.inj h
            exact .number htag hkind.symm hrange.1 hrange.2
          · simp at h
  | text content | ipv4 address | octets content =>
      obtain rfl := Except.ok.inj h
      refine .whole hkind fun _ => ?_
      rw [← hkind]
      simp [Value.kind]

lemma lays_of_encodeValue_some {t : UInt8} (h : d.encodeValue (some t) value = .ok wire) :
    d.Lays (some t) value wire ∧ isTag t = true := by
  unfold encodeValue at h
  split at h
  · simp at h
  rename_i hkind
  rw [Decidable.not_not] at hkind
  split at h
  · simp at h
  rename_i htaken
  simp only [Option.isSome_some, true_and, not_or, Bool.not_eq_true', Bool.not_eq_false] at htaken
  obtain ⟨htag, hipv4⟩ := htaken
  cases hlegal : isTag t with
  | false =>
      simp only [Option.filter_some, hlegal, Bool.not_false, if_true] at h
      exact absurd h (by simp)
  | true =>
      simp only [Option.filter_some, hlegal, Bool.not_true, Bool.false_eq_true, if_false] at h
      refine ⟨?_, rfl⟩
      cases value with
      | integer number =>
          simp only [htag, Bool.not_true, Bool.false_eq_true, if_false] at h
          split at h
          · rename_i hrange
            obtain rfl := Except.ok.inj h
            exact .number htag hkind.symm hrange.1 hrange.2
          · simp at h
      | text content =>
          obtain rfl := Except.ok.inj h
          exact .marked htag (Or.inl hkind.symm) hkind
      | ipv4 address => exact absurd hkind.symm hipv4
      | octets content =>
          obtain rfl := Except.ok.inj h
          exact .marked htag (Or.inr hkind.symm) hkind

lemma encodeValue_of_lays (h : d.Lays tag value wire) (hlegal : ∀ t ∈ tag, isTag t = true) :
    d.encodeValue tag value = .ok wire := by
  have hfilter : tag.filter (!isTag ·) = none := by
    rw [Option.filter_eq_none_iff]
    intro t ht
    simp [hlegal t ht]
  unfold encodeValue
  rw [if_neg (not_not_intro h.kind_eq)]
  cases h with
  | @whole value hkind hnumber =>
      rw [if_neg (by simp)]
      cases value with
      | integer number =>
          have htag : d.hasTag = false := by
            rw [← Bool.not_eq_true]
            exact fun htag => hnumber htag hkind.symm
          simp [htag]
      | text content | ipv4 address | octets content => rfl
  | number htag hkind hleast hmost =>
      rw [if_neg (by simp [htag, hkind]), hfilter]
      simp [htag, hleast, hmost]
  | @marked t value htag hkind hvalue =>
      rw [if_neg (by rcases hkind with hkind | hkind <;> simp [htag, hkind]), hfilter]
      cases value with
      | integer number => rcases hkind with hkind | hkind <;> simp [Value.kind, hkind] at hvalue
      | text content | ipv4 address | octets content => rfl

/-- A value and a tag are written exactly as they are laid out, if the tag is legal. -/
lemma encodeValue_eq_ok_iff :
    d.encodeValue tag value = .ok wire ↔ d.Lays tag value wire ∧ ∀ t ∈ tag, isTag t = true := by
  constructor
  · intro h
    cases tag with
    | none => exact ⟨lays_of_encodeValue_none h, by simp⟩
    | some t =>
        obtain ⟨hlays, hlegal⟩ := lays_of_encodeValue_some h
        exact ⟨hlays, by simpa using hlegal⟩
  · rintro ⟨h, hlegal⟩
    exact encodeValue_of_lays h hlegal

/-! ### Reading -/

lemma tagOf_cons (first : UInt8) (rest : Octets) :
    d.tagOf (first :: rest) = if d.marks first = true then some first else none := by
  rw [tagOf, List.head?_cons, Option.filter_some]

lemma tagOf_eq_some_iff {t : UInt8} :
    d.tagOf wire = some t ↔ ∃ rest, wire = t :: rest ∧ d.marks t = true := by
  cases wire with
  | nil => simp [tagOf]
  | cons first rest =>
      rw [tagOf_cons]
      constructor
      · intro h
        split at h
        · rename_i hmarks
          obtain rfl := Option.some.inj h
          exact ⟨rest, rfl, hmarks⟩
        · simp at h
      · rintro ⟨_, h, hmarks⟩
        obtain ⟨rfl, rfl⟩ := List.cons.inj h
        rw [if_pos hmarks]

lemma decodeValue_untagged (htag : d.hasTag = false) :
    d.decodeValue wire = (Prod.mk none) <$> Value.decode d.kind wire := by
  unfold decodeValue
  rw [htag]
  rfl

/-- The octet of a number's tag is always there, and is no part of the number. -/
lemma decodeValue_number (htag : d.hasTag = true) (hkind : d.kind = .integer) (first : UInt8)
    (rest : Octets) :
    d.decodeValue (first :: rest) =
      (fun number => (d.tagOf (first :: rest), .integer number)) <$>
        Value.decodeInteger (0 :: rest) := by
  have htagOf : d.tagOf (first :: rest) = if first = 0 then none else some first := by
    rw [tagOf_cons]
    by_cases hfirst : first = 0 <;> simp [marks_iff, htag, hkind, hfirst]
  rw [htagOf]
  unfold decodeValue
  rw [htag, hkind]
  show (Value.decodeInteger (0 :: rest) >>= _) = _
  cases Value.decodeInteger (0 :: rest) <;> rfl

lemma decodeValue_marked (htag : d.hasTag = true) (hkind : d.kind = .text ∨ d.kind = .octets)
    {first : UInt8} (hfirst : isTag first = true) (rest : Octets) :
    d.decodeValue (first :: rest) = (Prod.mk (some first)) <$> Value.decode d.kind rest := by
  unfold decodeValue
  rcases hkind with hkind | hkind <;> rw [htag, hkind] <;> exact if_pos hfirst

/-- Text and octets that do not start with a tag are read whole. -/
lemma decodeValue_unmarked (hkind : d.kind = .text ∨ d.kind = .octets)
    (hfirst : ∀ first rest, wire = first :: rest → isTag first = false) :
    d.decodeValue wire = (Prod.mk none) <$> Value.decode d.kind wire := by
  cases htag : d.hasTag with
  | false => exact decodeValue_untagged htag
  | true =>
      unfold decodeValue
      rcases hkind with hkind | hkind <;> rw [htag, hkind] <;> cases wire with
      | nil => rfl
      | cons first rest => exact if_neg (Bool.eq_false_iff.1 (hfirst first rest rfl))

lemma decodeValue_whole (hnumber : d.hasTag = true → d.kind ≠ .integer)
    (h : d.tagOf wire = none) :
    d.decodeValue wire = (Prod.mk none) <$> Value.decode d.kind wire := by
  cases htag : d.hasTag with
  | false => exact decodeValue_untagged htag
  | true =>
      have hunmarked : d.kind = .text ∨ d.kind = .octets → ∀ first rest, wire = first :: rest →
          isTag first = false := by
        intro hkind first rest hwire
        rw [← Bool.not_eq_true]
        intro hfirst
        have hsome := tagOf_eq_some_iff.2 ⟨rest, hwire, marks_iff.2 ⟨htag, Or.inr ⟨hkind, hfirst⟩⟩⟩
        simp [h] at hsome
      cases hkind : d.kind with
      | integer => exact absurd hkind (hnumber htag)
      | ipv4 =>
          unfold decodeValue
          rw [htag, hkind]
          rfl
      | text =>
          rw [← hkind]
          exact decodeValue_unmarked (Or.inl hkind) (hunmarked (Or.inl hkind))
      | octets =>
          rw [← hkind]
          exact decodeValue_unmarked (Or.inr hkind) (hunmarked (Or.inr hkind))

lemma lays_of_decodeValue (h : d.decodeValue wire = .ok (tag, value)) :
    d.Lays tag value wire ∧ tag = d.tagOf wire := by
  by_cases hnumber : d.hasTag = true → d.kind ≠ .integer
  · cases htagOf : d.tagOf wire with
    | none =>
        rw [decodeValue_whole hnumber htagOf] at h
        obtain ⟨value', hread, hpair⟩ := map_eq_ok_iff.1 h
        obtain ⟨rfl, rfl⟩ := Prod.mk.inj hpair
        obtain ⟨hkind, rfl⟩ := Value.decode_eq_ok_iff.1 hread
        exact ⟨.whole hkind hnumber, rfl⟩
    | some t =>
        obtain ⟨rest, rfl, hmarks⟩ := tagOf_eq_some_iff.1 htagOf
        obtain ⟨htag, ⟨hkind, -⟩ | ⟨hkind, hlegal⟩⟩ := marks_iff.1 hmarks
        · exact absurd hkind (hnumber htag)
        · rw [decodeValue_marked htag hkind hlegal] at h
          obtain ⟨value', hread, hpair⟩ := map_eq_ok_iff.1 h
          obtain ⟨rfl, rfl⟩ := Prod.mk.inj hpair
          obtain ⟨hvalue, rfl⟩ := Value.decode_eq_ok_iff.1 hread
          exact ⟨.marked htag hkind hvalue, rfl⟩
  -- a number with a tag, whose first octet is always there
  · rw [Classical.not_imp, Decidable.not_not] at hnumber
    obtain ⟨htag, hkind⟩ := hnumber
    cases wire with
    | nil =>
        have hshort : d.decodeValue [] = .error (.malformed (.integerLength 0)) := by
          unfold decodeValue
          rw [htag, hkind]
          rfl
        simp [hshort] at h
    | cons first rest =>
        rw [decodeValue_number htag hkind] at h
        obtain ⟨number, hread, hpair⟩ := map_eq_ok_iff.1 h
        obtain ⟨htagOf, rfl⟩ := Prod.mk.inj hpair
        obtain ⟨⟨hleast, hmost⟩, rfl⟩ :=
          encodeInteger_eq_zero_cons_iff.1 (Value.decodeInteger_eq_ok_iff.1 hread)
        have hfirst : first = tag.getD 0 := by
          rw [← htagOf, tagOf_cons]
          by_cases hfirst : first = 0 <;> simp [marks_iff, htag, hkind, hfirst]
        rw [hfirst] at htagOf ⊢
        exact ⟨.number htag hkind hleast hmost, htagOf.symm⟩

lemma decodeValue_of_lays (h : d.Lays tag value wire) (htagOf : tag = d.tagOf wire) :
    d.decodeValue wire = .ok (tag, value) := by
  cases h with
  | whole hkind hnumber =>
      rw [decodeValue_whole hnumber htagOf.symm, map_eq_ok_iff]
      exact ⟨value, Value.decode_eq_ok_iff.2 ⟨hkind, rfl⟩, rfl⟩
  | @number tag number htag hkind hleast hmost =>
      rw [decodeValue_number htag hkind, map_eq_ok_iff]
      refine ⟨number, ?_, by rw [← htagOf]⟩
      exact Value.decodeInteger_eq_ok_iff.2
        (encodeInteger_eq_zero_cons_iff.2 ⟨⟨hleast, hmost⟩, rfl⟩)
  | @marked t value htag hkind hvalue =>
      obtain ⟨rest, hrest, hmarks⟩ := tagOf_eq_some_iff.1 htagOf.symm
      have hlegal : isTag t = true := by
        rcases hkind with hkind | hkind <;> simpa [marks_iff, htag, hkind] using hmarks
      rw [decodeValue_marked htag hkind hlegal, map_eq_ok_iff]
      exact ⟨value, Value.decode_eq_ok_iff.2 ⟨hvalue, rfl⟩, rfl⟩

/-- A value is read exactly as it is laid out, with the tag that its first octet shows. -/
lemma decodeValue_eq_ok_iff :
    d.decodeValue wire = .ok (tag, value) ↔ d.Lays tag value wire ∧ tag = d.tagOf wire := by
  constructor
  · exact lays_of_decodeValue
  · rintro ⟨h, htagOf⟩
    exact decodeValue_of_lays h htagOf

/-! ### There and back -/

/-- Text or octets without a tag whose first octet is one. -/
def Ambiguous (d : Definition) (tag : Option UInt8) (value : Value) : Prop :=
  d.hasTag = true ∧ (d.kind = .text ∨ d.kind = .octets) ∧ tag = none ∧
    ∃ first rest, value.encode = first :: rest ∧ 1 ≤ first ∧ first ≤ 31

/-- What is read of a number is never in doubt. -/
lemma not_ambiguous_of_integer (hkind : d.kind = .integer) : ¬ d.Ambiguous tag value := by
  rintro ⟨-, hother, -⟩
  rcases hother with hother | hother <;> simp [hkind] at hother

/-- The octets of a number whose first octet is above the tags. -/
def Overtagged (d : Definition) (wire : Octets) : Prop :=
  d.hasTag = true ∧ d.kind = .integer ∧ ∃ first rest, wire = first :: rest ∧ 31 < first

/-- Written and read again, a tag and a value come back, unless the value is taken to start with a
tag. -/
lemma decodeValue_of_encodeValue (h : d.encodeValue tag value = .ok wire)
    (hambiguous : ¬ d.Ambiguous tag value) : d.decodeValue wire = .ok (tag, value) := by
  obtain ⟨hlays, hlegal⟩ := encodeValue_eq_ok_iff.1 h
  refine decodeValue_eq_ok_iff.2 ⟨hlays, ?_⟩
  -- the tag that was laid out is the one that the first octet shows
  cases hlays with
  | @whole value hkind hnumber =>
      cases htagOf : d.tagOf value.encode with
      | none => rfl
      | some t =>
          obtain ⟨rest, hvalue, hmarks⟩ := tagOf_eq_some_iff.1 htagOf
          obtain ⟨htag, ⟨hkind, -⟩ | ⟨hkind, ht⟩⟩ := marks_iff.1 hmarks
          · exact absurd hkind (hnumber htag)
          -- a whole value that shows a tag is the ambiguous case
          · exact absurd ⟨htag, hkind, rfl, t, rest, hvalue, isTag_iff.1 ht⟩ hambiguous
  | @number tag number htag hkind hleast hmost =>
      rw [tagOf_cons]
      cases tag with
      | none => simp [marks_iff, hkind]
      | some t =>
          have ht : t ≠ 0 := by
            rintro rfl
            exact absurd (hlegal 0 rfl) (by decide)
          exact (if_pos (marks_iff.2 ⟨htag, Or.inl ⟨hkind, ht⟩⟩)).symm
  | @marked t value htag hkind hvalue =>
      rw [tagOf_cons, if_pos (marks_iff.2 ⟨htag, Or.inr ⟨hkind, hlegal t rfl⟩⟩)]

/-- Where the value is taken to start with a tag, that octet comes back as the tag and the rest as
the value. -/
lemma decodeValue_of_ambiguous (h : d.encodeValue tag value = .ok wire)
    (hambiguous : d.Ambiguous tag value) :
    ∃ first value', d.decodeValue wire = .ok (some first, value') ∧ value'.kind = value.kind ∧
      value.encode = first :: value'.encode := by
  obtain ⟨htag, hkind, rfl, first, rest, hvalue, hfirst⟩ := hambiguous
  obtain ⟨hlays, -⟩ := encodeValue_eq_ok_iff.1 h
  have hlegal : isTag first = true := isTag_iff.2 hfirst
  -- the rest of a text is a text again, for a tag is a character of its own
  obtain ⟨value', hsame, hrest⟩ :
      ∃ value' : Value, value'.kind = value.kind ∧ value'.encode = rest := by
    have hown := hlays.kind_eq
    cases value with
    | integer number => rcases hkind with hkind | hkind <;> simp [hkind, Value.kind] at hown
    | ipv4 address => rcases hkind with hkind | hkind <;> simp [hkind, Value.kind] at hown
    | octets content => exact ⟨.octets rest, rfl, rfl⟩
    | text content =>
        have hsmall : first < 0x80 := by
          rw [UInt8.lt_iff_toNat_lt]
          have hmost := UInt8.le_iff_toNat_le.1 hfirst.2
          exact Nat.lt_of_le_of_lt hmost (by decide)
        obtain ⟨content', -, hcontent'⟩ := Utf8.exists_of_encode_eq_cons hvalue hsmall
        exact ⟨.text (String.ofList content'), rfl, by simpa [Value.encode] using hcontent'⟩
  have hwire : wire = value.encode := by
    cases hlays with
    | whole => rfl
    | number _ hnumber _ _ => rcases hkind with hkind | hkind <;> simp [hkind] at hnumber
  refine ⟨first, value', ?_, hsame, by rw [hvalue, hrest]⟩
  rw [hwire, hvalue, ← hrest, decodeValue_eq_ok_iff]
  refine ⟨.marked htag hkind (hsame.trans hlays.kind_eq), ?_⟩
  rw [tagOf_cons, if_pos (marks_iff.2 ⟨htag, Or.inr ⟨hkind, hlegal⟩⟩)]

/-- What is written can be read, and what comes back is known in either case. -/
lemma exists_decodeValue_of_encodeValue (h : d.encodeValue tag value = .ok wire) :
    ∃ tag' value', d.decodeValue wire = .ok (tag', value') ∧
      (¬ d.Ambiguous tag value → tag' = tag ∧ value' = value) ∧
      (d.Ambiguous tag value → ∃ first, tag' = some first ∧ value'.kind = value.kind ∧
        value.encode = first :: value'.encode) := by
  by_cases hambiguous : d.Ambiguous tag value
  · obtain ⟨first, value', hread, hkind, hvalue⟩ := decodeValue_of_ambiguous h hambiguous
    exact ⟨some first, value', hread, fun h => absurd hambiguous h, fun _ =>
      ⟨first, rfl, hkind, hvalue⟩⟩
  · exact ⟨tag, value, decodeValue_of_encodeValue h hambiguous, fun _ => ⟨rfl, rfl⟩, fun h =>
      absurd h hambiguous⟩

/-- Read and written again, a value with a legal tag, or with none, gives its octets back. -/
lemma encodeValue_of_decodeValue (h : d.decodeValue wire = .ok (tag, value))
    (hlegal : ∀ t ∈ tag, isTag t = true) : d.encodeValue tag value = .ok wire :=
  encodeValue_eq_ok_iff.2 ⟨(decodeValue_eq_ok_iff.1 h).1, hlegal⟩

lemma encodeValue_of_illegal {t : UInt8} (h : d.decodeValue wire = .ok (some t, value))
    (hillegal : isTag t = false) :
    d.encodeValue (some t) value = .error (.badAttribute (.invalidTag t)) := by
  obtain ⟨hlays, -⟩ := decodeValue_eq_ok_iff.1 h
  have htaken : d.hasTag = true ∧ d.kind ≠ .ipv4 := by
    cases hlays with
    | number htag hkind => exact ⟨htag, by simp [hkind]⟩
    | marked htag hkind => exact ⟨htag, by rcases hkind with hkind | hkind <;> simp [hkind]⟩
  unfold encodeValue
  rw [if_neg (not_not_intro hlays.kind_eq), if_neg (by simp [htaken.1, htaken.2]),
    Option.filter_some, if_pos (by simp [hillegal])]

/-- The tags that are read are legal but for those of numbers, which may have any octet but 0. -/
lemma isTag_of_tagOf {t : UInt8} (h : d.tagOf wire = some t) :
    isTag t = true ↔ ¬ d.Overtagged wire := by
  obtain ⟨rest, rfl, hmarks⟩ := tagOf_eq_some_iff.1 h
  obtain ⟨htag, hmarks⟩ := marks_iff.1 hmarks
  have hover : d.Overtagged (t :: rest) ↔ d.kind = .integer ∧ 31 < t := by
    constructor
    · rintro ⟨-, hkind, first, rest', hwire, hfirst⟩
      obtain ⟨rfl, -⟩ := List.cons.inj hwire
      exact ⟨hkind, hfirst⟩
    · rintro ⟨hkind, ht⟩
      exact ⟨htag, hkind, t, rest, rfl, ht⟩
  rw [hover]
  rcases hmarks with ⟨hkind, ht⟩ | ⟨hkind, ht⟩
  · rw [isTag_iff]
    simp only [hkind, true_and, UInt8.not_lt]
    refine and_iff_right ?_
    rw [UInt8.le_iff_toNat_le]
    exact Nat.pos_of_ne_zero fun h => ht (UInt8.toNat_inj.1 h)
  · rcases hkind with hkind | hkind <;> simp [hkind, ht]

end Definition

end Radius
