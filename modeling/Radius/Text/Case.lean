/-
# Letter case

Names are compared without regard to the case of their ASCII letters; every other character counts
as it stands.
-/

namespace Radius.Text

/-- The letters of a name with ASCII capitals made small. -/
def fold (name : String) : List Char :=
  name.toList.map Char.toLower

/-- Whether two names differ at most in the case of ASCII letters. -/
def sameName (a b : String) : Bool :=
  fold a == fold b

theorem sameName_iff {a b : String} : sameName a b = true ↔ fold a = fold b := by
  simp [sameName]

@[simp] theorem sameName_refl (a : String) : sameName a a = true :=
  sameName_iff.2 rfl

theorem sameName_comm (a b : String) : sameName a b = sameName b a := by
  rw [Bool.eq_iff_iff, sameName_iff, sameName_iff, eq_comm]

end Radius.Text
