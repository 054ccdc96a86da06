import Mathlib

/-! # Shares in binary floating point

A quotient of two counts is rounded three times: each count when it becomes a number, and then the
quotient. Rounding keeps the order and carries into the next binade at most, so that the share that
a count has in one that is no smaller stays between zero and one.
-/

namespace Registry.Binary64

open Float.Model Float.Model.UnpackedFloat

/-- Where a mantissa with its round bit and its sticky bit stands among those of its exponent. -/
def rank (em : ExtendedMantissa) : Nat :=
  4 * em.mantissa + 2 * em.roundBit.toNat + em.stickyBit.toNat

theorem rank_shiftRightOne (em : ExtendedMantissa) :
    rank em.shiftRightOne = 2 * em.mantissa + (em.roundBit || em.stickyBit).toNat := by
  obtain ⟨m, roundBit, stickyBit⟩ := em
  have parts := Nat.div_add_mod m 2
  rcases Nat.mod_two_eq_zero_or_one m with even | odd
  · simp [rank, ExtendedMantissa.shiftRightOne, even]
    omega
  · simp [rank, ExtendedMantissa.shiftRightOne, odd]
    omega

theorem rank_shiftRightOne_le {a b : ExtendedMantissa} (le : rank a ≤ rank b) :
    rank a.shiftRightOne ≤ rank b.shiftRightOne := by
  rw [rank_shiftRightOne, rank_shiftRightOne]
  obtain ⟨m, roundBit, stickyBit⟩ := a
  obtain ⟨n, roundBit', stickyBit'⟩ := b
  cases roundBit <;> cases stickyBit <;> cases roundBit' <;> cases stickyBit' <;>
    simp [rank] at le ⊢ <;> omega

theorem roundedMantissa_le {a b : ExtendedMantissa} (le : rank a ≤ rank b) :
    a.roundedMantissa ≤ b.roundedMantissa := by
  obtain ⟨m, roundBit, stickyBit⟩ := a
  obtain ⟨n, roundBit', stickyBit'⟩ := b
  simp only [rank, ExtendedMantissa.roundedMantissa] at le ⊢
  cases roundBit <;> cases stickyBit <;> cases roundBit' <;> cases stickyBit' <;>
    simp [ExtendedMantissa.accuracy, Accuracy.roundToNearestEven] at le ⊢ <;> omega

theorem rank_shiftRight_le {a b : ExtendedMantissa} (le : rank a ≤ rank b) (n : Nat) :
    rank (a >>> n) ≤ rank (b >>> n) := by
  induction n with
  | zero => exact le
  | succ n ih => exact rank_shiftRightOne_le ih

theorem mantissa_shiftRight (em : ExtendedMantissa) (n : Nat) :
    (em >>> n).mantissa = em.mantissa / 2 ^ n := by
  induction n with
  | zero => exact (Nat.div_one _).symm
  | succ n ih =>
      calc (em >>> (n + 1)).mantissa = (em >>> n).mantissa / 2 := rfl
        _ = em.mantissa / 2 ^ (n + 1) := by rw [ih, Nat.div_div_eq_div_mul, ← Nat.pow_succ]

theorem roundedMantissa_bounds (em : ExtendedMantissa) :
    em.mantissa ≤ em.roundedMantissa ∧ em.roundedMantissa ≤ em.mantissa + 1 := by
  obtain ⟨m, roundBit, stickyBit⟩ := em
  cases roundBit <;> cases stickyBit <;>
    simp [ExtendedMantissa.roundedMantissa, ExtendedMantissa.accuracy,
      Accuracy.roundToNearestEven]
  omega

theorem log2_eq_iff_bits {m : Nat} : m.log2 = 52 ↔ 2 ^ 52 ≤ m ∧ m < 2 ^ 53 := by
  cases m with
  | zero => decide
  | succ m => exact Nat.log2_eq_iff (Nat.succ_ne_zero m)

theorem log2_div_two_pow {m k : Nat} (bits : m.log2 = 52 + k) : (m / 2 ^ k).log2 = 52 := by
  have some : m ≠ 0 := by
    rintro rfl
    rw [Nat.log2_zero] at bits
    omega
  obtain ⟨low, high⟩ := (Nat.log2_eq_iff some).1 bits
  have positive := Nat.two_pow_pos k
  rw [log2_eq_iff_bits, Nat.le_div_iff_mul_le positive, Nat.div_lt_iff_lt_mul positive,
    ← Nat.pow_add, ← Nat.pow_add, Nat.add_right_comm 52 1 k]
  exact ⟨low, high⟩

/-- A positive number with all 53 bits of its mantissa. -/
structure Normal where
  mantissa : Nat
  exponent : Int
  low : 2 ^ 52 ≤ mantissa
  high : mantissa < 2 ^ 53

namespace Normal

variable {x y : Normal}

instance : LE Normal where
  le x y := x.exponent < y.exponent ∨ x.exponent = y.exponent ∧ x.mantissa ≤ y.mantissa

theorem le_iff : x ≤ y ↔
    x.exponent < y.exponent ∨ x.exponent = y.exponent ∧ x.mantissa ≤ y.mantissa :=
  Iff.rfl

theorem positive (x : Normal) : 0 < x.mantissa :=
  Nat.lt_of_lt_of_le (by decide) x.low

def unpacked (x : Normal) : UnpackedFloat :=
  .finite .positive x.mantissa x.exponent x.positive

theorem le_unpacked (le : x ≤ y) : x.unpacked.le y.unpacked = true := by
  simp only [UnpackedFloat.le, UnpackedFloat.compare, unpacked, Option.any_some]
  rcases le with less | ⟨same, le⟩
  · rw [Int.compare_eq_lt.2 less]
    rfl
  · rw [same, Int.compare_eq_eq.2 rfl, Ordering.eq_then, Nat.isLE_compare]
    exact le

/-- A mantissa of 53 bits, or the one after the last of them, which has one bit more. -/
def carried (m : Nat) (e : Int) (bounds : 2 ^ 52 ≤ m ∧ m ≤ 2 ^ 53) : Normal :=
  if carries : m = 2 ^ 53 then
    { mantissa := 2 ^ 52, exponent := e + 1, low := Nat.le_refl _, high := by decide }
  else
    { mantissa := m, exponent := e, low := bounds.1, high := Nat.lt_of_le_of_ne bounds.2 carries }

theorem carried_le {m n : Nat} {e f : Int} {bounds : 2 ^ 52 ≤ m ∧ m ≤ 2 ^ 53}
    {bounds' : 2 ^ 52 ≤ n ∧ n ≤ 2 ^ 53} (le : e < f ∨ e = f ∧ m ≤ n) :
    carried m e bounds ≤ carried n f bounds' := by
  rw [le_iff]
  simp only [carried]
  split <;> split <;> dsimp only <;> omega

end Normal

theorem shiftToTargetExponent_eq {m k : Nat} {e : Int} (acc : Accuracy) (bits : m.log2 = 52 + k)
    (low : -1074 ≤ e + k) :
    shiftToTargetExponent .binary64 m e acc =
      (ExtendedMantissa.ofMantissaAndAccuracy m acc >>> k, e + k) := by
  have target : Format.binary64.targetExponent (totalExponent m e) = e + k := by
    simp only [Format.targetExponent, totalExponent, Format.mantissaBits, Format.minExponent, bits]
    omega
  have amount : (e + k - e).toNat = k := by omega
  rw [shiftToTargetExponent, target, shiftToExponent, amount]

/-- A mantissa that has one bit too many is shifted back. -/
theorem shiftToTargetExponent_carried {m : Nat} {e : Int} (bounds : 2 ^ 52 ≤ m ∧ m ≤ 2 ^ 53)
    (low : -1074 ≤ e) :
    (shiftToTargetExponent .binary64 m e .exact).1.mantissa = (Normal.carried m e bounds).mantissa ∧
      (shiftToTargetExponent .binary64 m e .exact).2 = (Normal.carried m e bounds).exponent := by
  by_cases carries : m = 2 ^ 53
  · subst carries
    rw [shiftToTargetExponent_eq .exact (k := 1) (by decide) (by omega), Normal.carried,
      dif_pos rfl, mantissa_shiftRight]
    exact ⟨rfl, rfl⟩
  · have bits : m.log2 = 52 + 0 :=
      log2_eq_iff_bits.2 ⟨bounds.1, Nat.lt_of_le_of_ne bounds.2 carries⟩
    rw [shiftToTargetExponent_eq .exact bits (by omega), Normal.carried, dif_neg carries]
    exact ⟨rfl, Int.add_zero e⟩

theorem mantissa_ofMantissaAndAccuracy (m : Nat) (acc : Accuracy) :
    (ExtendedMantissa.ofMantissaAndAccuracy m acc).mantissa = m := by
  rcases acc with _ | order
  · rfl
  · cases order <;> rfl

/-- Rounding keeps 53 bits, or carries. -/
theorem roundedMantissa_of_bits {m k : Nat} (acc : Accuracy) (bits : m.log2 = 52 + k) :
    2 ^ 52 ≤ (ExtendedMantissa.ofMantissaAndAccuracy m acc >>> k).roundedMantissa ∧
      (ExtendedMantissa.ofMantissaAndAccuracy m acc >>> k).roundedMantissa ≤ 2 ^ 53 := by
  have kept := mantissa_shiftRight (ExtendedMantissa.ofMantissaAndAccuracy m acc) k
  rw [mantissa_ofMantissaAndAccuracy] at kept
  have ⟨low, high⟩ := log2_eq_iff_bits.1 (log2_div_two_pow bits)
  have ⟨below, above⟩ := roundedMantissa_bounds (ExtendedMantissa.ofMantissaAndAccuracy m acc >>> k)
  rw [kept] at below above
  exact ⟨Nat.le_trans low below, by omega⟩

theorem roundWithAccuracy_eq {m k : Nat} {e : Int} (acc : Accuracy) (bits : m.log2 = 52 + k)
    (low : -1074 ≤ e + k) :
    roundWithAccuracy .binary64 .positive m e acc =
      (Normal.carried _ (e + k) (roundedMantissa_of_bits acc bits)).unpacked := by
  obtain ⟨mantissa, exponent⟩ :=
    shiftToTargetExponent_carried (roundedMantissa_of_bits acc bits) low
  have some := (Normal.carried _ (e + k) (roundedMantissa_of_bits acc bits)).low
  simp only [roundWithAccuracy, shiftToTargetExponent_eq acc bits low, mantissa, exponent]
  rw [dif_neg (by omega)]
  rfl

theorem log2_shiftLeft {n : Nat} (nonzero : n ≠ 0) (a : Nat) :
    (n <<< a).log2 = n.log2 + a := by
  obtain ⟨low, high⟩ := (Nat.log2_eq_iff nonzero).1 rfl
  have positive := Nat.two_pow_pos a
  rw [Nat.shiftLeft_eq, Nat.log2_eq_iff (Nat.mul_ne_zero nonzero positive.ne'), Nat.pow_add,
    Nat.add_right_comm, Nat.pow_add]
  exact ⟨Nat.mul_le_mul_right _ low, (Nat.mul_lt_mul_right positive).2 high⟩

/-- A count is moved to the left until it has 53 bits; one that has more is rounded. -/
theorem log2_aligned {n : Nat} (nonzero : n ≠ 0) :
    (n <<< (52 - n.log2)).log2 = 52 + (n.log2 - 52) := by
  rw [log2_shiftLeft nonzero]
  omega

/-- The number that a count becomes. -/
def ofCount (n : Nat) (nonzero : n ≠ 0) : Normal :=
  .carried _ (n.log2 - 52) (roundedMantissa_of_bits .exact (log2_aligned nonzero))

theorem ofNat_eq {n : Nat} (nonzero : n ≠ 0) :
    UnpackedFloat.ofNat .binary64 n = (ofCount n nonzero).unpacked := by
  have positive : compare (n : Int) 0 = .gt := Int.compare_eq_gt.2 (by omega)
  have target : Format.binary64.targetExponent (totalExponent n 0) = n.log2 - 52 := by
    simp only [Format.targetExponent, totalExponent, Format.mantissaBits, Format.minExponent]
    omega
  have moved : (0 - ((n.log2 : Int) - 52)).toNat = 52 - n.log2 := by omega
  have exponent : (0 : Int) - (52 - n.log2 : Nat) + (n.log2 - 52 : Nat) = n.log2 - 52 := by omega
  simp only [UnpackedFloat.ofNat, UnpackedFloat.ofInt, UnpackedFloat.normalize, positive,
    Int.toNat_natCast, UnpackedFloat.round, target, decreaseExponent, moved]
  rw [roundWithAccuracy_eq .exact (log2_aligned nonzero) (by omega)]
  simp only [exponent, ofCount]

theorem ofCount_le {n m : Nat} (nonzero : n ≠ 0) (nonzero' : m ≠ 0) (le : n ≤ m) :
    ofCount n nonzero ≤ ofCount m nonzero' := by
  have logs : n.log2 ≤ m.log2 :=
    (Nat.le_log2 nonzero').2 (Nat.le_trans (Nat.log2_self_le nonzero) le)
  refine Normal.carried_le ?_
  rcases Nat.lt_or_eq_of_le logs with less | same
  · left
    omega
  · right
    rw [same]
    refine ⟨rfl, roundedMantissa_le (rank_shiftRight_le ?_ _)⟩
    simp only [rank, ExtendedMantissa.ofMantissaAndAccuracy, Nat.shiftLeft_eq]
    have := Nat.mul_le_mul_right (2 ^ (52 - m.log2)) le
    omega

theorem exponent_carried (m : Nat) (e : Int) (bounds : 2 ^ 52 ≤ m ∧ m ≤ 2 ^ 53) :
    (Normal.carried m e bounds).exponent = e ∨ (Normal.carried m e bounds).exponent = e + 1 := by
  rw [Normal.carried]
  split
  · exact .inr rfl
  · exact .inl rfl

theorem exponent_ofCount {n : Nat} (nonzero : n ≠ 0) (small : n < 2 ^ 64) :
    -52 ≤ (ofCount n nonzero).exponent ∧ (ofCount n nonzero).exponent ≤ 12 := by
  have := (Nat.log2_lt nonzero).2 small
  have := exponent_carried _ (n.log2 - 52) (roundedMantissa_of_bits .exact (log2_aligned nonzero))
  rw [ofCount]
  omega

namespace Normal

def one : Normal where
  mantissa := 2 ^ 52
  exponent := -52
  low := by decide
  high := by decide

variable {x y : Normal}

theorem log2_mantissa (x : Normal) : x.mantissa.log2 = 52 :=
  log2_eq_iff_bits.2 ⟨x.low, x.high⟩

/-- The quotient of two mantissas has 53 or 54 bits. -/
theorem log2_quotient (x y : Normal) :
    ∃ k, (x.mantissa <<< 53 / y.mantissa).log2 = 52 + k ∧
      (k = 0 ∨ k = 1 ∧ y.mantissa ≤ x.mantissa) := by
  have := x.low
  have := x.high
  have := y.low
  have := y.high
  rw [Nat.shiftLeft_eq]
  have low : 2 ^ 52 ≤ x.mantissa * 2 ^ 53 / y.mantissa := by
    rw [Nat.le_div_iff_mul_le y.positive]
    omega
  by_cases more : 2 ^ 53 ≤ x.mantissa * 2 ^ 53 / y.mantissa
  · refine ⟨1, (Nat.log2_eq_iff (by omega)).2 ⟨more, ?_⟩, .inr ⟨rfl, ?_⟩⟩
    · rw [Nat.div_lt_iff_lt_mul y.positive]
      omega
    · rw [Nat.le_div_iff_mul_le y.positive] at more
      omega
  · exact ⟨0, log2_eq_iff_bits.2 ⟨low, Nat.not_le.1 more⟩, .inl rfl⟩

theorem divCore_eq (x y : Normal) (near : -1021 ≤ x.exponent - y.exponent) :
    divCore .binary64 x.mantissa x.exponent y.mantissa y.exponent =
      (x.mantissa <<< 53 / y.mantissa, x.exponent - y.exponent - 53,
        accuracyOfFraction (x.mantissa <<< 53 % y.mantissa) y.mantissa) := by
  have target : min (x.exponent - y.exponent) (Format.binary64.targetExponent
      (totalExponent x.mantissa x.exponent - totalExponent y.mantissa y.exponent)) =
        x.exponent - y.exponent - 53 := by
    simp only [Format.targetExponent, totalExponent, Format.mantissaBits, Format.minExponent,
      log2_mantissa]
    omega
  have amount : (x.exponent - y.exponent - (x.exponent - y.exponent - 53)).toNat = 53 := by omega
  simp only [divCore, target, amount]

/-- Of two numbers in order, the quotient is at most one. -/
theorem div_unpacked (le : x ≤ y) (near : -1021 ≤ x.exponent - y.exponent) :
    ∃ z : Normal, UnpackedFloat.div .binary64 x.unpacked y.unpacked = z.unpacked ∧
      z ≤ one ∧ x.exponent - y.exponent - 53 ≤ z.exponent := by
  obtain ⟨k, bits, bit⟩ := log2_quotient x y
  have bounds := roundedMantissa_of_bits
    (accuracyOfFraction (x.mantissa <<< 53 % y.mantissa) y.mantissa) bits
  have divided : UnpackedFloat.div .binary64 x.unpacked y.unpacked =
      (carried _ (x.exponent - y.exponent - 53 + k) bounds).unpacked := by
    simp only [UnpackedFloat.div, unpacked, divCore_eq x y near]
    exact roundWithAccuracy_eq _ bits (by omega)
  refine ⟨_, divided, ?_, ?_⟩
  · have whole : 2 ^ 52 ≤ 2 ^ 52 ∧ 2 ^ 52 ≤ 2 ^ 53 := by decide
    change carried _ _ bounds ≤ carried (2 ^ 52) (-52) whole
    refine carried_le ?_
    rcases le with less | ⟨same, le⟩
    · left
      omega
    · rcases bit with rfl | ⟨rfl, ge⟩
      · left
        omega
      · -- the mantissas are the same, and nothing is left over
        right
        have equal := Nat.le_antisymm le ge
        rw [equal, Nat.shiftLeft_eq, Nat.mul_div_cancel_left _ y.positive, Nat.mul_mod_right]
        rw [accuracyOfFraction, if_pos rfl]
        exact ⟨by omega, by decide⟩
  · have := exponent_carried _ (x.exponent - y.exponent - 53 + k) bounds
    omega

end Normal

theorem toNat_one_append {m : Nat} (low : 2 ^ 52 ≤ m) (high : m < 2 ^ 53) :
    (1#1 ++ BitVec.ofNat 52 m).toNat = m := by
  rw [BitVec.toNat_append, ← Nat.shiftLeft_add_eq_or_of_lt (BitVec.isLt _), BitVec.toNat_ofNat,
    BitVec.toNat_ofNat, Nat.shiftLeft_eq]
  omega

/-- The bits that a number's exponent is packed into. -/
def Normal.exponentBits (x : Normal) : BitVec 11 :=
  BitVec.ofNat 11 (x.exponent + 1075).toNat

theorem pack_unpacked (x : Normal) (high : x.exponent ≤ 971) :
    UnpackedFloat.pack .binary64 x.unpacked =
      packComponents .binary64 .positive x.exponentBits (BitVec.ofNat 52 x.mantissa) := by
  have biased : (x.exponent + Format.binary64.exponentBias +
      Format.binary64.mantissaBitsWithoutImplicit).toNat = (x.exponent + 1075).toNat := by
    change (x.exponent + (1023 : Nat) + (52 : Nat)).toNat = _
    omega
  rw [Normal.unpacked, UnpackedFloat.pack]
  simp only [biased, x.log2_mantissa]
  rw [if_neg (by omega), if_pos (by decide), Normal.exponentBits]

/-- A number within range is read back from its bits. -/
theorem unpack_pack (x : Normal) (low : -1074 ≤ x.exponent) (high : x.exponent ≤ 971) :
    (Float.Model.pack x.unpacked).unpack = x.unpacked := by
  have bits : x.exponentBits.toNat = (x.exponent + 1075).toNat := by
    rw [Normal.exponentBits, BitVec.toNat_ofNat]
    omega
  have other {special : BitVec 11} (outside : special.toNat ≠ (x.exponent + 1075).toNat) :
      x.exponentBits ≠ special := by
    rintro rfl
    exact outside bits
  have notInfinite : x.exponentBits ≠ -1#11 := other (by simp; omega)
  have notSmall : x.exponentBits ≠ 0#11 := other (by simp; omega)
  have exponent : ((x.exponent + 1075).toNat : Int) - ((Format.binary64.exponentBias : Nat) +
      (Format.binary64.mantissaBitsWithoutImplicit : Nat)) = x.exponent := by
    change ((x.exponent + 1075).toNat : Int) - ((1023 : Nat) + (52 : Nat)) = _
    omega
  change UnpackedFloat.unpack .binary64 (UnpackedFloat.pack .binary64 x.unpacked) = x.unpacked
  rw [pack_unpacked x high, UnpackedFloat.unpack]
  simp only [unpackMantissa_packComponents, unpackExponent_packComponents,
    unpackSign_packComponents, notInfinite, notSmall, if_false,
    toNat_one_append x.low x.high, bits, exponent]
  rfl

theorem float_le_iff {a b : Float} :
    a ≤ b ↔ a.toModel.unpack.le b.toModel.unpack = true :=
  decide_eq_true_iff

theorem unpack_toFloat {n : Nat} (nonzero : n ≠ 0) (small : n < 2 ^ 64) :
    n.toUInt64.toFloat.toModel.unpack = (ofCount n nonzero).unpacked := by
  have whole : n.toUInt64.toNat = n := by
    simp only [Nat.toUInt64_eq, UInt64.toNat_ofNat']
    exact Nat.mod_eq_of_lt small
  obtain ⟨low, high⟩ := exponent_ofCount nonzero small
  calc n.toUInt64.toFloat.toModel.unpack
      = (Float.Model.pack (UnpackedFloat.ofNat .binary64 n.toUInt64.toNat)).unpack := rfl
    _ = (Float.Model.pack (ofCount n nonzero).unpacked).unpack := by rw [whole, ofNat_eq nonzero]
    _ = (ofCount n nonzero).unpacked := unpack_pack _ (by omega) (by omega)

theorem unpack_one : (1 : Float).toModel.unpack = Normal.one.unpacked :=
  rfl

/-- A count divided by one that is no smaller gives a number from zero to one. -/
theorem share_bounds {n m : Nat} (le : n ≤ m) (nonzero : m ≠ 0) (small : m < 2 ^ 64) :
    0 ≤ n.toUInt64.toFloat / m.toUInt64.toFloat ∧ n.toUInt64.toFloat / m.toUInt64.toFloat ≤ 1 := by
  have divisor := unpack_toFloat nonzero small
  have divided : (n.toUInt64.toFloat / m.toUInt64.toFloat).toModel.unpack =
      (Float.Model.pack (UnpackedFloat.div .binary64 n.toUInt64.toFloat.toModel.unpack
        m.toUInt64.toFloat.toModel.unpack)).unpack := rfl
  rw [float_le_iff, float_le_iff, divided, divisor, unpack_one]
  by_cases none : n = 0
  · subst none
    have zero : UnpackedFloat.div .binary64 (Nat.toUInt64 0).toFloat.toModel.unpack
        (ofCount m nonzero).unpacked = .zero .positive := rfl
    rw [zero]
    exact ⟨rfl, rfl⟩
  · have := exponent_ofCount none (Nat.lt_of_le_of_lt le small)
    have := exponent_ofCount nonzero small
    obtain ⟨z, quotient, atMost, low⟩ :=
      Normal.div_unpacked (ofCount_le none nonzero le) (by omega)
    have high : z.exponent ≤ -52 := by
      rcases atMost with less | ⟨same, -⟩
      · exact Int.le_of_lt less
      · exact Int.le_of_eq same
    rw [unpack_toFloat none (Nat.lt_of_le_of_lt le small), quotient,
      unpack_pack z (by omega) (by omega)]
    exact ⟨rfl, Normal.le_unpacked atMost⟩

end Registry.Binary64
