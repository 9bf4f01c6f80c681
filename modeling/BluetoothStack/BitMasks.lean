import Mathlib

/-!
# Bit fields packed into bytes

Codec headers pack several fields into one byte under disjoint masks, and split wider fields over
bytes, each byte cut out with a mask and a shift and put back with the opposite shift and the same
mask. Masking an OR of fields gives each field back under its own mask, a byte is the OR of its parts
under masks that cover it, and a little-endian value assembled from bytes gives each byte back.
Nothing here names a Bluetooth structure.
-/

namespace BluetoothStack.BitMasks

/-! ### Fields of one byte -/

/-- `&&&` distributes over `|||`. -/
theorem or_and_distrib (a b m : UInt8) : (a ||| b) &&& m=a &&& m ||| b &&& m := by
  apply UInt8.eq_of_toBitVec_eq
  simp only [UInt8.toBitVec_and,UInt8.toBitVec_or,BitVec.and_or_distrib_right]

/-- A byte cut under two masks is the byte under their union. -/
theorem and_or_and (b m m' : UInt8) : b &&& m ||| b &&& m'=b &&& (m ||| m') := by
  apply UInt8.eq_of_toBitVec_eq
  simp only [UInt8.toBitVec_and,UInt8.toBitVec_or,BitVec.and_or_distrib_left]

/-- Every bit is under the full mask. -/
theorem and_ff (b : UInt8) : b &&& 0xFF=b := by
  have hff : (0xFF : UInt8)= -1 := by decide
  rw [hff,UInt8.and_neg_one]

/-- A byte has no bit outside a mask exactly when it is inside the mask. -/
theorem and_not_eq_zero_iff (b m : UInt8) : b &&& ~~~m=0 ↔ b &&& m=b := by
  constructor
  · intro h
    calc b &&& m=b &&& m ||| b &&& ~~~m := by rw [h,UInt8.or_zero]
      _=b &&& (m ||| ~~~m) := and_or_and b m (~~~m)
      _=b := by rw [UInt8.or_not_self,UInt8.and_neg_one]
  · intro h
    rw [← h,UInt8.and_assoc,UInt8.and_not_self,UInt8.and_zero]

/-- A field inside mask `m'` has no bit of a mask disjoint from `m'`. -/
theorem and_eq_zero_of_within {b m m' : UInt8} (hb : b &&& m'=b) (hm : m' &&& m=0) : b &&& m=0 := by
  rw [← hb,UInt8.and_assoc,hm,UInt8.and_zero]

/-- The first of two fields comes back under its own mask. -/
theorem or_and_of_within_left {a b m : UInt8} (ha : a &&& m=a) (hb : b &&& m=0) : (a ||| b) &&& m=a := by
  rw [or_and_distrib,ha,hb,UInt8.or_zero]

/-- The second of two fields comes back under its own mask. -/
theorem or_and_of_within_right {a b m : UInt8} (ha : a &&& m=0) (hb : b &&& m=b) : (a ||| b) &&& m=b := by
  rw [or_and_distrib,ha,hb,UInt8.zero_or]

/-- A byte whose high nibble shifts out to zero has no bit in the high nibble. -/
theorem and_high_nibble_of_shiftRight {b : UInt8} (h : b >>> 4=0) : b &&& 0xF0=0 := by
  have hbit : ∀ j,j<4 → b.toBitVec.getLsbD (4+j)=false := by
    intro j hj
    have := congrArg (fun v : UInt8 => v.toBitVec.getLsbD j) h
    simpa [UInt8.toBitVec_shiftRight,BitVec.getLsbD_ushiftRight] using this
  apply UInt8.eq_of_toBitVec_eq
  ext i hi
  simp only [UInt8.toBitVec_and,BitVec.getElem_and,UInt8.toBitVec_zero,BitVec.getElem_zero]
  rcases Nat.lt_or_ge i 4 with hlow | hhigh
  · -- the mask clears the low nibble
    interval_cases i <;> simp
  · -- the high nibble of the byte is clear
    obtain ⟨j,hj,rfl⟩ : ∃ j,j<4 ∧ i=4+j := ⟨i-4,by omega,by omega⟩
    rw [← BitVec.getLsbD_eq_getElem,hbit j hj,Bool.false_and]

/-! ### Fields as arithmetic

A mask of `w` ones from bit `k` cuts out the field `n / 2^k % 2^w` in place, and an OR of a field
with anything below it is a sum; a word's `toNat` under such masks is then linear arithmetic with
division and remainder by constants, which `omega` decides. -/

/-- A mask of `w` ones starting at bit `k` keeps that field of `n` in place. -/
theorem and_field (n k w : ℕ) : n &&& (2^w-1)*2^k=n / 2^k % 2^w*2^k := by
  apply Nat.eq_of_testBit_eq
  intro i
  rw [Nat.testBit_and,Nat.testBit_mul_two_pow,Nat.testBit_mul_two_pow,Nat.testBit_two_pow_sub_one,
    Nat.testBit_mod_two_pow,Nat.testBit_div_two_pow]
  -- below bit `k` both sides are clear; from `k` on, bit `i` of the field is bit `i - k + k` of `n`
  by_cases h : k ≤ i
  · have hi : i-k+k=i := by omega
    simp [h,hi,Bool.and_comm]
  · simp [h]

/-- An OR with a value below the low bit of the other operand is a sum. -/
theorem or_field {b k : ℕ} (hb : b<2^k) (a : ℕ) : a*2^k ||| b=a*2^k+b := by
  rw [← Nat.shiftLeft_eq,Nat.shiftLeft_add_eq_or_of_lt hb]

theorem toNat_and_field8 (v : UInt8) {m : UInt8} (k w : ℕ) (hm : m.toNat=(2^w-1)*2^k) :
    (v &&& m).toNat=v.toNat / 2^k % 2^w*2^k := by
  rw [UInt8.toNat_and,hm,and_field]

theorem toNat_and_field16 (v : UInt16) {m : UInt16} (k w : ℕ) (hm : m.toNat=(2^w-1)*2^k) :
    (v &&& m).toNat=v.toNat / 2^k % 2^w*2^k := by
  rw [UInt16.toNat_and,hm,and_field]

theorem toNat_and_field32 (v : UInt32) {m : UInt32} (k w : ℕ) (hm : m.toNat=(2^w-1)*2^k) :
    (v &&& m).toNat=v.toNat / 2^k % 2^w*2^k := by
  rw [UInt32.toNat_and,hm,and_field]

/-! ### Little-endian values assembled from bytes

`A2DP_ParseInfo` assembles an id from its bytes, each shifted into place and masked, and
`A2DP_BuildInfo` writes each byte back as the id masked and shifted down. -/

section LittleEndian

variable (b0 b1 b2 b3 : UInt8)

/-- The value the four bytes assemble to. -/
def le32 : UInt32 :=
  b0.toUInt32 &&& (0x000000FF : UInt32) ||| b1.toUInt32 <<< (8 : UInt32) &&& (0x0000FF00 : UInt32) |||
    b2.toUInt32 <<< (16 : UInt32) &&& (0x00FF0000 : UInt32) ||| b3.toUInt32 <<< (24 : UInt32) &&& (0xFF000000 : UInt32)

/-- The value the two bytes assemble to. -/
def le16 : UInt16 := b0.toUInt16 &&& (0x00FF : UInt16) ||| b1.toUInt16 <<< (8 : UInt16) &&& (0xFF00 : UInt16)

theorem le32_byte0 : (le32 b0 b1 b2 b3 &&& 0x000000FF).toUInt8=b0 := by
  apply UInt8.eq_of_toBitVec_eq
  simp only [le32,UInt32.toBitVec_toUInt8,UInt32.toBitVec_and,UInt32.toBitVec_or,UInt32.toBitVec_shiftLeft,
    UInt8.toBitVec_toUInt32]
  ext i hi
  interval_cases i <;> simp

theorem le32_byte1 : ((le32 b0 b1 b2 b3 &&& 0x0000FF00) >>> 8).toUInt8=b1 := by
  apply UInt8.eq_of_toBitVec_eq
  simp only [le32,UInt32.toBitVec_toUInt8,UInt32.toBitVec_and,UInt32.toBitVec_or,UInt32.toBitVec_shiftLeft,
    UInt8.toBitVec_toUInt32,UInt32.toBitVec_shiftRight]
  ext i hi
  interval_cases i <;> simp

theorem le32_byte2 : ((le32 b0 b1 b2 b3 &&& 0x00FF0000) >>> 16).toUInt8=b2 := by
  apply UInt8.eq_of_toBitVec_eq
  simp only [le32,UInt32.toBitVec_toUInt8,UInt32.toBitVec_and,UInt32.toBitVec_or,UInt32.toBitVec_shiftLeft,
    UInt8.toBitVec_toUInt32,UInt32.toBitVec_shiftRight]
  ext i hi
  interval_cases i <;> simp

theorem le32_byte3 : ((le32 b0 b1 b2 b3 &&& 0xFF000000) >>> 24).toUInt8=b3 := by
  apply UInt8.eq_of_toBitVec_eq
  simp only [le32,UInt32.toBitVec_toUInt8,UInt32.toBitVec_and,UInt32.toBitVec_or,UInt32.toBitVec_shiftLeft,
    UInt8.toBitVec_toUInt32,UInt32.toBitVec_shiftRight]
  ext i hi
  interval_cases i <;> simp

theorem le16_byte0 : (le16 b0 b1 &&& 0x00FF).toUInt8=b0 := by
  apply UInt8.eq_of_toBitVec_eq
  simp only [le16,UInt16.toBitVec_toUInt8,UInt16.toBitVec_and,UInt16.toBitVec_or,UInt16.toBitVec_shiftLeft,
    UInt8.toBitVec_toUInt16]
  ext i hi
  interval_cases i <;> simp

theorem le16_byte1 : ((le16 b0 b1 &&& 0xFF00) >>> 8).toUInt8=b1 := by
  apply UInt8.eq_of_toBitVec_eq
  simp only [le16,UInt16.toBitVec_toUInt8,UInt16.toBitVec_and,UInt16.toBitVec_or,UInt16.toBitVec_shiftLeft,
    UInt8.toBitVec_toUInt16,UInt16.toBitVec_shiftRight]
  ext i hi
  interval_cases i <;> simp

end LittleEndian

end BluetoothStack.BitMasks
