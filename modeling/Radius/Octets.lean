/-
# Octets

Wire data is a list of octets. Where several of them make one number the most significant comes
first: `Octets.ofNat` writes a number into a field of a given width and `Octets.toNat` reads it
back. Writing then reading gives the number modulo the field's capacity (`toNat_ofNat`), and
reading then writing gives the octets themselves (`ofNat_toNat`).
-/

namespace Radius

/-- A run of octets as it travels on the wire. -/
abbrev Octets := List UInt8

namespace Octets

/-- How many numbers a field of the given width can hold. -/
def capacity : (width : Nat) → Nat
  | 0 => 1
  | width + 1 => capacity width * 256

/-- The number that octets spell, most significant first. -/
def toNat : Octets → Nat
  | [] => 0
  | octet :: rest => octet.toNat * capacity rest.length + toNat rest

/-- The lowest `width` octets of a number, most significant first. -/
def ofNat : (width : Nat) → Nat → Octets
  | 0, _ => []
  | width + 1, n => UInt8.ofNat (n / capacity width) :: ofNat width n

theorem capacity_pos (width : Nat) : 0 < capacity width := by
  induction width with
  | zero => exact Nat.one_pos
  | succ width ih => exact Nat.mul_pos ih (by omega)

theorem capacity_add (m n : Nat) : capacity (m + n) = capacity m * capacity n := by
  induction n with
  | zero => rw [Nat.add_zero, capacity, Nat.mul_one]
  | succ n ih => rw [← Nat.add_assoc, capacity, capacity, ih, Nat.mul_assoc]

@[simp] theorem length_ofNat (width n : Nat) : (ofNat width n).length = width := by
  induction width with
  | zero => rfl
  | succ width ih => simp [ofNat, ih]

theorem toNat_lt (octets : Octets) : toNat octets < capacity octets.length := by
  induction octets with
  | nil => exact Nat.one_pos
  | cons octet rest ih =>
    have octetLt : octet.toNat < 256 := octet.toNat_lt
    have scaled : (octet.toNat + 1) * capacity rest.length ≤ 256 * capacity rest.length :=
      Nat.mul_le_mul_right _ (by omega)
    simp only [toNat, List.length_cons, capacity]
    rw [Nat.add_mul, Nat.one_mul] at scaled
    omega

/-- A field keeps the number modulo its capacity. -/
theorem toNat_ofNat (width n : Nat) : toNat (ofNat width n) = n % capacity width := by
  induction width with
  | zero => simp [ofNat, toNat, capacity, Nat.mod_one]
  | succ width ih =>
    simp only [ofNat, toNat, length_ofNat, ih, UInt8.toNat_ofNat', Nat.reducePow]
    have high : n % (capacity width * 256) =
        n % capacity width + capacity width * (n / capacity width % 256) :=
      Nat.mod_mul
    rw [capacity, high, Nat.mul_comm, Nat.add_comm]

/-- Writing a number with more high-order part than the field holds drops that part. -/
theorem ofNat_add_mul (width n k : Nat) :
    ofNat width (n + k * capacity width) = ofNat width n := by
  suffices h : ∀ w, w ≤ width → ofNat w (n + k * capacity width) = ofNat w n from
    h width (Nat.le_refl _)
  intro w hw
  induction w with
  | zero => rfl
  | succ w ih =>
    have split : k * capacity width = 256 * (k * capacity (width - (w + 1))) * capacity w := by
      have : width = (width - (w + 1)) + (w + 1) := by omega
      conv => lhs; rw [this, capacity_add, capacity]
      simp only [Nat.mul_assoc, Nat.mul_comm, Nat.mul_left_comm]
    simp only [ofNat, ih (by omega), List.cons.injEq, and_true]
    rw [split, Nat.add_mul_div_right _ _ (capacity_pos w)]
    apply UInt8.toNat_inj.1
    simp only [UInt8.toNat_ofNat', Nat.add_mul_mod_self_left]

/-- Octets are the field of their number. -/
theorem ofNat_toNat (octets : Octets) : ofNat octets.length (toNat octets) = octets := by
  induction octets with
  | nil => rfl
  | cons octet rest ih =>
    have low : toNat rest < capacity rest.length := toNat_lt rest
    simp only [List.length_cons, ofNat, toNat, List.cons.injEq]
    refine ⟨?_, ?_⟩
    · rw [Nat.add_comm, Nat.add_mul_div_right _ _ (capacity_pos _), Nat.div_eq_of_lt low,
        Nat.zero_add, UInt8.ofNat_toNat]
    · rw [Nat.add_comm, ofNat_add_mul, ih]

end Octets

end Radius
