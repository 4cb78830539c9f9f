import Mathlib.Algebra.Order.Field.Power
import Mathlib.Tactic.Linarith
import Mathlib.Tactic.NormNum
import Mathlib.Tactic.Positivity
import Mathlib.Tactic.Ring
import TestScribe.Proofs.Gateway.CloseCalls

/-!
# The order of floating-point numbers

Floating-point numbers are compared by their exponents first and then by their mantissas.  Since
only the numbers with the least exponent have mantissas below the normal ones, this is the order of
the exact values (`le_iff_value_le`).
-/

namespace TestScribe.Decimal

open Float.Model Float.Model.UnpackedFloat

/-! ## Values -/

namespace Binary

/-- The value without its sign. -/
def magnitude (b : Binary) : ℚ :=
  b.mantissa * 2 ^ b.exponent

theorem ratio_eq_magnitude (b : Binary) : (b.ratio.1 : ℚ) / b.ratio.2 = b.magnitude := by
  unfold ratio magnitude
  split
  · next h =>
    obtain ⟨n, hn⟩ := Int.eq_ofNat_of_zero_le h
    simp [hn]
  · next h =>
    obtain ⟨n, hn⟩ := Int.eq_ofNat_of_zero_le (show 0 ≤ -b.exponent by omega)
    have hexponent : b.exponent = -(n : Int) := by omega
    simp [hexponent, div_eq_mul_inv]

theorem value_eq (b : Binary) :
    b.value = if b.negative then -b.magnitude else b.magnitude := by
  unfold value
  rw [ratio_eq_magnitude]
  cases b.negative <;> simp

theorem magnitude_pos {b : Binary} (h : 0 < b.mantissa) : 0 < b.magnitude := by
  unfold magnitude
  positivity

theorem magnitude_eq_zero {b : Binary} (h : b.mantissa = 0) : b.magnitude = 0 := by
  simp [magnitude, h]

/-- A mantissa has 53 bits, unless the exponent is the least. -/
structure IsNormal (b : Binary) : Prop where
  mantissa_lt : b.mantissa < 2 ^ 53
  exponent_ge : -1074 ≤ b.exponent
  le_mantissa : b.exponent = -1074 ∨ 2 ^ 52 ≤ b.mantissa

/-- The greater exponent belongs to the greater magnitude. -/
theorem magnitude_lt_of_exponent_lt {a b : Binary} (ha : a.IsNormal) (hb : b.IsNormal)
    (h : a.exponent < b.exponent) : a.magnitude < b.magnitude := by
  have hmantissa : (a.mantissa : ℚ) < 2 ^ 53 := by exact_mod_cast ha.mantissa_lt
  have hmantissa' : (2 : ℚ) ^ 52 ≤ b.mantissa := by
    rcases hb.le_mantissa with hleast | hle
    · have := ha.exponent_ge
      omega
    · exact_mod_cast hle
  calc a.magnitude
      < 2 ^ 53 * 2 ^ a.exponent := mul_lt_mul_of_pos_right hmantissa (by positivity)
    _ = 2 ^ 52 * 2 ^ (a.exponent + 1) := by
        rw [zpow_add₀ two_ne_zero, zpow_one]
        ring
    _ ≤ 2 ^ 52 * 2 ^ b.exponent :=
        mul_le_mul_of_nonneg_left (zpow_le_zpow_right₀ one_le_two (by omega)) (by positivity)
    _ ≤ b.magnitude := mul_le_mul_of_nonneg_right hmantissa' (by positivity)

theorem magnitude_le_iff_of_exponent_eq {a b : Binary} (h : a.exponent = b.exponent) :
    a.magnitude ≤ b.magnitude ↔ a.mantissa ≤ b.mantissa := by
  unfold magnitude
  rw [h, mul_le_mul_iff_of_pos_right (by positivity), Nat.cast_le]

/-- Magnitudes are compared by their exponents and then by their mantissas. -/
theorem isLE_then_iff {a b : Binary} (ha : a.IsNormal) (hb : b.IsNormal) :
    ((compare a.exponent b.exponent).then (compare a.mantissa b.mantissa)).isLE = true ↔
      a.magnitude ≤ b.magnitude := by
  rcases lt_trichotomy a.exponent b.exponent with h | h | h
  · rw [compare_lt_iff_lt.2 h]
    exact ⟨fun _ => (magnitude_lt_of_exponent_lt ha hb h).le, fun _ => rfl⟩
  · rw [compare_eq_iff_eq.2 h, magnitude_le_iff_of_exponent_eq h]
    exact Nat.isLE_compare
  · rw [compare_gt_iff_gt.2 h]
    exact ⟨fun hle => absurd hle Bool.false_ne_true,
      fun hle => absurd hle (not_le.2 (magnitude_lt_of_exponent_lt hb ha h))⟩

/-- Of two negative numbers the one with the greater magnitude is the less. -/
theorem isLE_swap_then_iff {a b : Binary} (ha : a.IsNormal) (hb : b.IsNormal) :
    ((compare a.exponent b.exponent).then (compare a.mantissa b.mantissa)).swap.isLE = true ↔
      b.magnitude ≤ a.magnitude := by
  rw [Ordering.swap_then, Int.compare_swap, Nat.compare_swap]
  exact isLE_then_iff hb ha

end Binary

/-! ## Unpacked numbers -/

/-- What an unpacked number stands for. -/
inductive Represents : UnpackedFloat → Binary → Prop
  | zero (sign : Sign) {b : Binary} (hmantissa : b.mantissa = 0) : Represents (.zero sign) b
  | positive {b : Binary} (hsign : b.negative = false) (hnormal : b.IsNormal)
      (hpos : 0 < b.mantissa) : Represents (.finite .positive b.mantissa b.exponent hpos) b
  | negative {b : Binary} (hsign : b.negative = true) (hnormal : b.IsNormal)
      (hpos : 0 < b.mantissa) : Represents (.finite .negative b.mantissa b.exponent hpos) b

theorem represents_finite {b : Binary} {sign : Sign} {m : Nat} {e : Int} {hpos : 0 < m}
    (hsign : sign = if b.negative then .negative else .positive) (hm : m = b.mantissa)
    (he : e = b.exponent) (hnormal : b.IsNormal) : Represents (.finite sign m e hpos) b := by
  subst hm he
  cases hnegative : b.negative with
  | true =>
    rw [hnegative, if_pos rfl] at hsign
    exact hsign ▸ .negative hnegative hnormal hpos
  | false =>
    rw [hnegative, if_neg Bool.false_ne_true] at hsign
    exact hsign ▸ .positive hnegative hnormal hpos

/-- Unpacked numbers are compared as their values. -/
theorem le_iff_of_represents {x y : UnpackedFloat} {a b : Binary} (hx : Represents x a)
    (hy : Represents y b) : x.le y = true ↔ a.value ≤ b.value := by
  rw [Binary.value_eq, Binary.value_eq]
  cases hx with
  | zero s ha =>
    rw [Binary.magnitude_eq_zero ha, neg_zero, ite_self]
    cases hy with
    | zero s' hb =>
      rw [Binary.magnitude_eq_zero hb, neg_zero, ite_self]
      exact iff_of_true rfl le_rfl
    | positive hsign hnormal hpos =>
      rw [hsign]
      exact iff_of_true rfl (Binary.magnitude_pos hpos).le
    | negative hsign hnormal hpos =>
      rw [hsign]
      exact iff_of_false Bool.false_ne_true (not_le.2 (neg_neg_of_pos (Binary.magnitude_pos hpos)))
  | positive hsign hnormal hpos =>
    have ha := Binary.magnitude_pos hpos
    rw [hsign]
    cases hy with
    | zero s' hb =>
      rw [Binary.magnitude_eq_zero hb, neg_zero, ite_self]
      exact iff_of_false Bool.false_ne_true (not_le.2 ha)
    | positive hsign' hnormal' hpos' =>
      rw [hsign']
      exact Binary.isLE_then_iff hnormal hnormal'
    | negative hsign' hnormal' hpos' =>
      rw [hsign']
      exact iff_of_false Bool.false_ne_true
        (not_le.2 ((neg_neg_of_pos (Binary.magnitude_pos hpos')).trans ha))
  | negative hsign hnormal hpos =>
    have ha := neg_neg_of_pos (Binary.magnitude_pos hpos)
    rw [hsign]
    cases hy with
    | zero s' hb =>
      rw [Binary.magnitude_eq_zero hb, neg_zero, ite_self]
      exact iff_of_true rfl ha.le
    | positive hsign' hnormal' hpos' =>
      rw [hsign']
      exact iff_of_true rfl (ha.trans (Binary.magnitude_pos hpos')).le
    | negative hsign' hnormal' hpos' =>
      rw [hsign']
      exact (Binary.isLE_swap_then_iff hnormal hnormal').trans neg_le_neg_iff.symm

/-! ## Bits -/

section Bits

variable (bits : BitVec Format.binary64.numBits)

theorem toNat_unpackMantissa : (unpackMantissa bits).toNat = bits.toNat % 2 ^ 52 := by
  unfold unpackMantissa
  rw [BitVec.toNat_cast, BitVec.extractLsb_toNat, Nat.shiftRight_eq_div_pow, Nat.pow_zero,
    Nat.div_one]
  rfl

theorem toNat_unpackExponent : (unpackExponent bits).toNat = bits.toNat / 2 ^ 52 % 2 ^ 11 := by
  unfold unpackExponent
  rw [BitVec.toNat_cast, BitVec.extractLsb_toNat, Nat.shiftRight_eq_div_pow]
  rfl

theorem toNat_unpackSign : (unpackSign bits).toNat = bits.toNat / 2 ^ 63 := by
  have hlt : bits.toNat < 2 ^ 64 := bits.isLt
  unfold unpackSign
  rw [BitVec.toNat_cast, BitVec.extractLsb_toNat, Nat.shiftRight_eq_div_pow]
  exact Nat.mod_eq_of_lt (by simp; omega)

/-- The sign of a number is its first bit. -/
theorem ofBitVec_unpackSign :
    Sign.ofBitVec (unpackSign bits) =
      if bits.toNat / 2 ^ 63 == 1 then .negative else .positive := by
  have hsign := toNat_unpackSign bits
  rcases BitVec.eq_zero_or_eq_one (unpackSign bits) with h | h
  · rw [h] at hsign ⊢
    rw [← hsign]
    rfl
  · rw [h] at hsign ⊢
    rw [← hsign]
    rfl

/-- The mantissa of a normal number has one bit more than is written. -/
theorem toNat_one_append (m : BitVec 52) : (1#1 ++ m).toNat = 2 ^ 52 + m.toNat := by
  rw [BitVec.toNat_append, ← Nat.shiftLeft_add_eq_or_of_lt m.isLt]
  rfl

/-- Bits that are read as a number are unpacked to it. -/
theorem represents_unpack {b : Binary} (h : Reading.ofBits bits.toNat = .finite b) :
    Represents (UnpackedFloat.unpack Format.binary64 bits) b := by
  have hexponent := toNat_unpackExponent bits
  have hmantissa := toNat_unpackMantissa bits
  have hmantissa_lt : bits.toNat % 2 ^ 52 < 2 ^ 52 := Nat.mod_lt _ (Nat.two_pow_pos 52)
  unfold Reading.ofBits at h
  unfold UnpackedFloat.unpack
  dsimp only at h ⊢
  rw [ofBitVec_unpackSign]
  split at h
  · split at h <;> cases h
  · next hfinite =>
    have hnumber : unpackExponent bits ≠ -1#11 := fun heq =>
      hfinite (beq_iff_eq.2 (hexponent.symm.trans (congrArg BitVec.toNat heq)))
    rw [if_neg hnumber]
    split at h
    · next hleast =>
      obtain rfl := Reading.finite.inj h
      have hzero : unpackExponent bits = 0#11 :=
        BitVec.eq_of_toNat_eq (hexponent.trans (beq_iff_eq.1 hleast))
      rw [if_pos hzero]
      by_cases hnone : unpackMantissa bits = 0#52
      · rw [dif_pos hnone]
        rw [hnone] at hmantissa
        exact .zero _ hmantissa.symm
      · rw [dif_neg hnone]
        refine represents_finite rfl hmantissa (by rw [hzero]; rfl) ⟨?_, le_rfl, .inl rfl⟩
        show bits.toNat % 2 ^ 52 < 2 ^ 53
        omega
    · next hmore =>
      obtain rfl := Reading.finite.inj h
      have hpos : 0 < bits.toNat / 2 ^ 52 % 2 ^ 11 :=
        Nat.pos_of_ne_zero fun heq => hmore (beq_iff_eq.2 heq)
      have hnormal : unpackExponent bits ≠ 0#11 := fun heq =>
        hmore (beq_iff_eq.2 (hexponent.symm.trans (congrArg BitVec.toNat heq)))
      rw [if_neg hnormal]
      refine represents_finite rfl (by rw [toNat_one_append, hmantissa]; rfl)
        (by rw [hexponent]; rfl) ⟨?_, ?_, .inr (Nat.le_add_right _ _)⟩
      · show 2 ^ 52 + bits.toNat % 2 ^ 52 < 2 ^ 53
        omega
      · show (-1074 : Int) ≤ (bits.toNat / 2 ^ 52 % 2 ^ 11 : Nat) - 1075
        omega

end Bits

/-- Numbers are compared as their exact values. -/
theorem le_iff_value_le {x y : Float} {a b : Binary} (hx : Reading.ofFloat x = .finite a)
    (hy : Reading.ofFloat y = .finite b) : x ≤ y ↔ a.value ≤ b.value := by
  have hle : x ≤ y ↔ x.toModel.unpack.le y.toModel.unpack = true := by
    show decide (UnpackedFloat.le _ _ = true) = true ↔ _
    exact decide_eq_true_iff
  rw [hle]
  exact le_iff_of_represents (represents_unpack _ hx) (represents_unpack _ hy)

/-! ## Exact differences -/

section Exact

variable {x y : Float}

theorem exists_reading_of_isFinite (h : isFinite x = true) :
    ∃ b, Reading.ofFloat x = .finite b ∧ exactValue x = (b.value : ℚ) := by
  unfold isFinite at h
  split at h
  · next b hb => exact ⟨b, hb, by rw [exactValue, hb]⟩
  · cases h

theorem le_iff_exactValue_le (hx : isFinite x = true) (hy : isFinite y = true) :
    x ≤ y ↔ exactValue x ≤ exactValue y := by
  obtain ⟨a, ha, hvalue⟩ := exists_reading_of_isFinite hx
  obtain ⟨b, hb, hvalue'⟩ := exists_reading_of_isFinite hy
  rw [le_iff_value_le ha hb, hvalue, hvalue', WithTop.coe_le_coe]

/-- Two numbers are subtracted without rounding. -/
structure IsExactSub (x y : Float) : Prop where
  left : isFinite x = true
  right : isFinite y = true
  difference : isFinite (x - y) = true
  add_eq : exactValue (x - y) + exactValue y = exactValue x

instance (x y : Float) : Decidable (IsExactSub x y) :=
  decidable_of_iff (isFinite x = true ∧ isFinite y = true ∧ isFinite (x - y) = true ∧
      exactValue (x - y) + exactValue y = exactValue x)
    ⟨fun ⟨hx, hy, hsub, hadd⟩ => ⟨hx, hy, hsub, hadd⟩,
      fun h => ⟨h.left, h.right, h.difference, h.add_eq⟩⟩

theorem IsExactSub.exists_values (h : IsExactSub x y) :
    ∃ a b : ℚ, exactValue x = a ∧ exactValue y = b ∧ exactValue (x - y) = (a - b : ℚ) := by
  obtain ⟨a, -, ha⟩ := exists_reading_of_isFinite h.left
  obtain ⟨b, -, hb⟩ := exists_reading_of_isFinite h.right
  obtain ⟨c, -, hc⟩ := exists_reading_of_isFinite h.difference
  have hadd := h.add_eq
  rw [ha, hb, hc, ← WithTop.coe_add, WithTop.coe_inj] at hadd
  exact ⟨a.value, b.value, ha, hb, by rw [hc, ← hadd, add_sub_cancel_right]⟩

end Exact

end TestScribe.Decimal
