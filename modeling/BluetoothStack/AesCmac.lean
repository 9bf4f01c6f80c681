import BluetoothStack.ByteBuffer

/-!
# AES-CMAC

The message authentication code of RFC 4493 over an arbitrary block cipher `e` on 128-bit blocks.
A message is a byte string in the order the standard writes it, each sixteen bytes a block read
most significant byte first. The subkeys double the cipher of the zero block; the blocks but the
last are chained through the cipher, and the last one, masked with the first subkey when complete
and padded and masked with the second otherwise, gives the tag.

Code that keeps 128-bit numbers least significant byte first reads a block with `leBlock`; XOR byte
by byte is XOR of the blocks it encodes. Nothing here names a Bluetooth structure.
-/

namespace BluetoothStack.AesCmac

open ByteBuffer

/-! ### Byte strings as numbers -/

/-- XOR splits at a byte boundary. -/
theorem xor_add_mul_256 {x y : ℕ} (X Y : ℕ) (hx : x < 256) (hy : y < 256) :
    (x+256*X) ^^^ (y+256*Y)=(x ^^^ y)+256*(X ^^^ Y) := by
  have hx8 : x < 2^8 := hx
  have hy8 : y < 2^8 := hy
  have hxy : x ^^^ y < 2^8 := Nat.xor_lt_two_pow hx8 hy8
  apply Nat.eq_of_testBit_eq
  intro i
  rw [show (256 : ℕ)=2^8 from rfl,add_comm x,add_comm y,add_comm (x ^^^ y),Nat.testBit_xor,
    Nat.testBit_two_pow_mul_add _ hx8,Nat.testBit_two_pow_mul_add _ hy8,Nat.testBit_two_pow_mul_add _ hxy,
    Nat.testBit_xor,Nat.testBit_xor]
  split <;> rfl

/-- XOR byte by byte is XOR of the little-endian values. -/
theorem decodeLE_zipWith_xor {a b : List UInt8} (h : a.length=b.length) :
    decodeLE (List.zipWith (· ^^^ ·) a b)=decodeLE a ^^^ decodeLE b := by
  induction a generalizing b with
  | nil =>
    cases b with
    | nil => rfl
    | cons y ys => cases h
  | cons x xs ih =>
    cases b with
    | nil => cases h
    | cons y ys =>
      rw [List.zipWith_cons_cons,decodeLE_cons,decodeLE_cons,decodeLE_cons,ih (by simpa using h),
        UInt8.toNat_xor,xor_add_mul_256 _ _ x.toNat_lt y.toNat_lt]

/-- A value below `256` stays below a byte boundary of any modulus. -/
theorem add_mul_256_mod {r : ℕ} (Q M : ℕ) (hr : r < 256) : (r+256*Q)%(256*M)=r+256*(Q%M) := by
  rcases Nat.eq_zero_or_pos M with rfl | hM
  · simp
  have hlt : r+256*(Q%M) < 256*M := by
    have := Nat.mod_lt Q hM
    omega
  calc (r+256*Q)%(256*M)=(r+256*(Q%M)+256*M*(Q/M))%(256*M) := by
        conv_lhs => rw [← Nat.mod_add_div Q M]
        ring_nf
    _ = r+256*(Q%M) := by rw [Nat.add_mul_mod_self_left,Nat.mod_eq_of_lt hlt]

/-- Byte `i` of a little-endian encoding. -/
theorem getD_encodeLE : ∀ {w i : ℕ} (n : ℕ),i < w → (encodeLE w n).getD i 0=UInt8.ofNat (n/256^i%256)
  | w+1,0,n,_ => by simp
  | w+1,i+1,n,hi => by
    rw [encodeLE_succ,List.getD_cons_succ,getD_encodeLE (n/256) (by omega),Nat.div_div_eq_div_mul,pow_succ']

/-- Setting the low bit of an even number adds one. -/
theorem two_mul_or_one (y : ℕ) : 2*y ||| 1=2*y+1 := by
  apply Nat.eq_of_testBit_eq
  intro i
  cases i with
  | zero => simp [Nat.testBit_zero,Nat.mul_mod_right]
  | succ i =>
    rw [Nat.testBit_or,Nat.testBit_add_one,Nat.testBit_add_one,Nat.testBit_add_one]
    simp [show (2*y+1)/2=y by omega]

/-- A byte shifted one bit left, with a bit shifted in below. -/
theorem toNat_shiftLeft_one_or (b : UInt8) (c : Bool) :
    (b <<< 1 ||| (if c then 1 else 0)).toNat=2*b.toNat%256+c.toNat := by
  have hshift : (b <<< 1).toNat=2*b.toNat%256 := by
    rw [UInt8.toNat_shiftLeft]
    simp [Nat.shiftLeft_eq,Nat.mul_comm]
  cases c
  · rw [if_neg Bool.false_ne_true,UInt8.or_zero,hshift,Bool.toNat_false,Nat.add_zero]
  · -- the shifted byte is even, so the bit shifted in is added
    rw [if_pos rfl,UInt8.toNat_or,hshift,Bool.toNat_true,show (1 : UInt8).toNat=1 from rfl,
      show 2*b.toNat%256=2*(b.toNat%128) by omega,two_mul_or_one]

/-- The top bit of a byte. -/
theorem and_0x80_ne_zero_iff (b : UInt8) : b &&& 0x80≠0 ↔ 128 ≤ b.toNat := by
  have hb := b.toNat_lt
  rw [Ne,← UInt8.toNat_inj,UInt8.toNat_and,show (0x80 : UInt8).toNat=2^7 from rfl,Nat.and_two_pow,
    UInt8.toNat_zero,Nat.testBit_eq_decide_div_mod_eq]
  by_cases h : 128 ≤ b.toNat
  · rw [decide_eq_true (show b.toNat/2^7%2=1 by omega)]
    simp [h]
  · rw [decide_eq_false (show b.toNat/2^7%2≠1 by omega)]
    simp [h]

/-! ### Blocks -/

/-- A 128-bit block. -/
abbrev Block := BitVec 128

/-- The block of sixteen bytes, most significant first. -/
def blockOf (bs : List UInt8) : Block := BitVec.ofNat 128 (decodeBE bs)

/-- The block of sixteen bytes, least significant first. -/
def leBlock (bs : List UInt8) : Block := BitVec.ofNat 128 (decodeLE bs)

/-- The sixteen bytes of a block, least significant first. -/
def leBytes (x : Block) : List UInt8 := encodeLE 16 x.toNat

@[simp] theorem length_leBytes (x : Block) : (leBytes x).length=16 := length_encodeLE 16 x.toNat

@[simp] theorem leBlock_leBytes (x : Block) : leBlock (leBytes x)=x := by
  have hlt : x.toNat < 256^16 := x.isLt
  rw [leBlock,leBytes,decodeLE_encodeLE_of_lt hlt,BitVec.ofNat_toNat,BitVec.setWidth_eq]

/-- Sixteen bytes are the bytes of the block they encode. -/
theorem leBytes_leBlock {bs : List UInt8} (h : bs.length=16) : leBytes (leBlock bs)=bs := by
  have hlt : decodeLE bs < 2^128 := by
    have := decodeLE_lt bs
    rwa [h] at this
  have henc := encodeLE_decodeLE bs
  rw [h] at henc
  rw [leBytes,leBlock,BitVec.toNat_ofNat,Nat.mod_eq_of_lt hlt,henc]

/-- The top bit of a block is the top bit of its last byte. -/
theorem msb_iff_getD_leBytes (x : Block) : x.msb=true ↔ (leBytes x).getD 15 0 &&& 0x80≠0 := by
  have hlt : x.toNat < 2^128 := x.isLt
  have hbyte : (UInt8.ofNat (x.toNat/256^15%256)).toNat=x.toNat/256^15 := by
    rw [UInt8.toNat_ofNat',Nat.mod_eq_of_lt (by omega),Nat.mod_eq_of_lt (by omega)]
  rw [leBytes,getD_encodeLE _ (by norm_num),and_0x80_ne_zero_iff,hbyte,BitVec.msb_eq_decide,
    decide_eq_true_iff]
  constructor <;> intro h <;> omega

theorem leBlock_reverse (bs : List UInt8) : leBlock bs.reverse=blockOf bs := rfl

theorem leBlock_zipWith_xor {a b : List UInt8} (h : a.length=b.length) :
    leBlock (List.zipWith (· ^^^ ·) a b)=leBlock a ^^^ leBlock b := by
  rw [leBlock,decodeLE_zipWith_xor h,BitVec.ofNat_xor]
  rfl

theorem leBlock_replicate_zero (n : ℕ) : leBlock (List.replicate n 0)=0 := by
  have hzero : decodeLE (List.replicate n 0)=0 := by
    induction n with
    | zero => rfl
    | succ n ih => rw [List.replicate_succ,decodeLE_cons,ih]; rfl
  rw [leBlock,hzero]
  rfl

/-! ### The standard's computation -/

/-- The subkey step: one bit left, and `0x87` added where the top bit falls out. -/
def dbl (l : Block) : Block := if l.msb then (l <<< 1) ^^^ 0x87 else l <<< 1

/-- The padding of a short last block: its bytes, `0x80`, and zeros to sixteen bytes. -/
def pad (m : List UInt8) : List UInt8 := m++0x80::List.replicate (15-m.length) 0

/-- The chain of step 6 over `k` complete blocks of `m` from `x`. -/
def chain (e : Block → Block) (x : Block) (m : List UInt8) : ℕ → Block
  | 0 => x
  | k+1 => chain e (e (x ^^^ blockOf (m.take 16))) (m.drop 16) k

/-- The number of blocks of a message of `len` bytes: the length in blocks rounded up, at least one. -/
def blockCount (len : ℕ) : ℕ := max 1 ((len+15)/16)

/-- AES-CMAC of the message `m` under the key `k`: the tag before truncation. -/
def aesCmac (e : Block → Block → Block) (k : Block) (m : List UInt8) : Block :=
  let k1 := dbl (e k 0)
  let k2 := dbl k1
  let n := blockCount m.length
  let last := m.drop (16*(n-1))
  let mLast := if last.length=16 then blockOf last ^^^ k1 else blockOf (pad last) ^^^ k2
  e k (chain (e k) 0 m (n-1) ^^^ mLast)

/-- The chain over `k` blocks reads the first `16 * k` bytes only. -/
theorem chain_take (e : Block → Block) (x : Block) (m : List UInt8) (k : ℕ) :
    chain e x (m.take (16*k)) k=chain e x m k := by
  induction k generalizing x m with
  | zero => rfl
  | succ k ih =>
    have hfirst : (m.take (16*(k+1))).take 16=m.take 16 := by
      rw [List.take_take,Nat.min_eq_left (by omega)]
    have hrest : (m.take (16*(k+1))).drop 16=(m.drop 16).take (16*k) := by
      rw [List.drop_take,show 16*(k+1)-16=16*k by omega]
    rw [chain,chain,hfirst,hrest,ih]

end BluetoothStack.AesCmac
