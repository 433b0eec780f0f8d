/-
# Letters and their case

Folding moves the ASCII capitals to the small letters and leaves every other character where it is
(`toNat_toLower`).  So characters other than letters are known from their fold
(`eq_of_toLower_eq`), blanks are blanks whatever the case (`isBlank_toLower`), and the worth of a
hexadecimal digit is that of its fold (`digit?_hex_eq_some_iff`).
-/
import Mathlib.Tactic.Lemma
import Mathlib.Tactic.SplitIfs
import Radius.Text.Blank
import Radius.Text.Case
import Radius.Text.Numeral

namespace Radius.Text

variable {c d : Char} {text text' : List Char} {n : Nat}

/-! ### Characters -/

lemma toNat_toLower (c : Char) :
    c.toLower.toNat = if 65 ≤ c.toNat ∧ c.toNat ≤ 90 then c.toNat + 32 else c.toNat := by
  have hrange : c.val ≥ 'A'.val ∧ c.val ≤ 'Z'.val ↔ 65 ≤ c.toNat ∧ c.toNat ≤ 90 := by
    rw [ge_iff_le, UInt32.le_iff_toNat_le, UInt32.le_iff_toNat_le]
    rfl
  by_cases hupper : 65 ≤ c.toNat ∧ c.toNat ≤ 90
  · have hsmall : c.toLower.val = c.val + ('a'.val - 'A'.val) :=
      congrArg Char.val (dif_pos (hrange.2 hupper))
    have hadd : (c.val + ('a'.val - 'A'.val)).toNat = (c.toNat + 32) % 2 ^ 32 :=
      UInt32.toNat_add _ _
    rw [if_pos hupper, Char.toNat, hsmall, hadd]
    omega
  · have hsame : c.toLower = c := dif_neg fun hval => hupper (hrange.1 hval)
    rw [if_neg hupper, hsame]

lemma isAlpha_eq_false_iff :
    c.isAlpha = false ↔ ¬ (65 ≤ c.toNat ∧ c.toNat ≤ 90) ∧ ¬ (97 ≤ c.toNat ∧ c.toNat ≤ 122) := by
  have hupper : c.isUpper = true ↔ 65 ≤ c.toNat ∧ c.toNat ≤ 90 := by
    change decide (c.val ≥ 'A'.val ∧ c.val ≤ 'Z'.val) = true ↔ _
    rw [decide_eq_true_eq, ge_iff_le, UInt32.le_iff_toNat_le, UInt32.le_iff_toNat_le]
    rfl
  have hlower : c.isLower = true ↔ 97 ≤ c.toNat ∧ c.toNat ≤ 122 := by
    change (decide (c.val ≥ 'a'.val) && decide (c.val ≤ 'z'.val)) = true ↔ _
    rw [Bool.and_eq_true, decide_eq_true_eq, decide_eq_true_eq, ge_iff_le,
      UInt32.le_iff_toNat_le, UInt32.le_iff_toNat_le]
    rfl
  change (c.isUpper || c.isLower) = false ↔ _
  rw [Bool.or_eq_false_iff, ← hupper, ← hlower, Bool.not_eq_true, Bool.not_eq_true]

lemma isAlpha_of_isDigit (h : c.isDigit = true) : c.isAlpha = false := by
  rw [Char.isDigit_iff_toNat] at h
  change 48 ≤ c.toNat ∧ c.toNat ≤ 57 at h
  rw [isAlpha_eq_false_iff]
  omega

/-- A character that is no letter differs from every other one in more than case. -/
lemma eq_of_toLower_eq (h : c.toLower = d.toLower) (hd : d.isAlpha = false) : c = d := by
  have hnat : c.toLower.toNat = d.toLower.toNat := congrArg Char.toNat h
  rw [isAlpha_eq_false_iff] at hd
  rw [toNat_toLower, toNat_toLower, if_neg hd.1] at hnat
  rw [← Char.toNat_inj]
  split_ifs at hnat <;> omega

lemma isBlank_toLower (c : Char) : isBlank c.toLower = isBlank c := by
  have hnat := toNat_toLower c
  split_ifs at hnat with hupper
  · -- there are no blanks among the letters
    simp only [isBlank, hnat]
    grind
  · rw [isBlank, isBlank, hnat]

/-- A hexadecimal digit is one of the sixteen small ones or its capital. -/
lemma digit?_hex_eq_some_iff : digit? 16 c = some n ↔ n < 16 ∧ c.toLower = Nat.digitChar n := by
  have hdecimal : '0' ≤ c ∧ c ≤ '9' ↔ 48 ≤ c.toNat ∧ c.toNat ≤ 57 := Iff.rfl
  have hlower : 'a' ≤ c ∧ c ≤ 'f' ↔ 97 ≤ c.toNat ∧ c.toNat ≤ 102 := Iff.rfl
  have hupper : 'A' ≤ c ∧ c ≤ 'F' ↔ 65 ≤ c.toNat ∧ c.toNat ≤ 70 := Iff.rfl
  have hworth : ∀ n : Fin 16, (Nat.digitChar n).toNat = if n.val < 10 then 48 + n.val
      else 87 + n.val := by decide
  simp only [digit?, Option.filter_eq_some_iff, decide_eq_true_eq, hdecimal, hlower, hupper]
  rw [and_comm, ← Char.toNat_inj, toNat_toLower]
  refine and_congr_right fun hn => ?_
  rw [show (Nat.digitChar n).toNat = if n < 10 then 48 + n else 87 + n from hworth ⟨n, hn⟩]
  change (if 48 ≤ c.toNat ∧ c.toNat ≤ 57 then some (c.toNat - 48)
    else if 97 ≤ c.toNat ∧ c.toNat ≤ 102 then some (c.toNat - 97 + 10)
    else if 65 ≤ c.toNat ∧ c.toNat ≤ 70 then some (c.toNat - 65 + 10) else none) = some n ↔ _
  split_ifs <;> simp only [Option.some.injEq, false_iff] <;> omega

/-! ### Texts -/

/-- A text without letters differs from every other one in more than case. -/
lemma eq_of_map_toLower_eq (h : text.map Char.toLower = text'.map Char.toLower)
    (htext' : ∀ c ∈ text', c.isAlpha = false) : text = text' := by
  induction text' generalizing text with
  | nil => simpa using h
  | cons d rest ih =>
      obtain ⟨c, before, rfl, hc, hbefore⟩ := List.map_eq_cons_iff.1 h
      obtain ⟨hd, hrest⟩ := List.forall_mem_cons.1 htext'
      rw [eq_of_toLower_eq hc hd, ih hbefore hrest]

/-- A reader that takes no letters does not look at their case. -/
lemma congr_of_no_letters {α : Type} {read : List Char → Option α}
    (hread : ∀ text a, read text = some a → ∀ c ∈ text, c.isAlpha = false)
    (h : text.map Char.toLower = text'.map Char.toLower) : read text = read text' := by
  apply Option.ext
  intro a
  constructor
  · intro ha
    rwa [eq_of_map_toLower_eq h.symm (hread text a ha)]
  · intro ha
    rwa [eq_of_map_toLower_eq h (hread text' a ha)]

lemma dropWhile_isBlank_map_toLower (text : List Char) :
    (text.map Char.toLower).dropWhile isBlank = (text.dropWhile isBlank).map Char.toLower := by
  have hcase : isBlank ∘ Char.toLower = isBlank := funext isBlank_toLower
  rw [List.dropWhile_map, hcase]

/-- Trimming does not look at the case of letters. -/
lemma trim_map_toLower (text : List Char) :
    trim (text.map Char.toLower) = (trim text).map Char.toLower := by
  rw [trim, trim, dropWhile_isBlank_map_toLower, ← List.map_reverse, dropWhile_isBlank_map_toLower,
    List.map_reverse]

lemma trim_congr (h : text.map Char.toLower = text'.map Char.toLower) :
    (trim text).map Char.toLower = (trim text').map Char.toLower := by
  rw [← trim_map_toLower, ← trim_map_toLower, h]

end Radius.Text
