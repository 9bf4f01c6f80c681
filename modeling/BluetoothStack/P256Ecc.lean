import BluetoothStack.P256Arith
import BluetoothStack.StepRun

/-!
# The NAF recoding of the scalar in P-256 point multiplication

`ECC_PointMult_Bin_NAF` recodes its scalar `k` with `ECC_NAF` into signed binary digits 0, 1 and
-1, stored as 0, 1 and 3 in two bits each of a `256 / 4 + 1`-byte array, least significant digit
first, and then doubles and adds from the top digit down. `ECC_NAF` works on the words of `k` in
place: while `k` is not zero it reads a digit off the two low bits, makes `k` even by clearing the
low bit (digit 1) or by adding one with a carry along the words (digit -1), and shifts `k` one bit
right.

The carry loop `do { k[j]++; } while (k[j++] == 0)` has no bound on `j`. Words are `UInt32`, the
digit array is bytes, and a write past either is a fault.
-/

namespace BluetoothStack.P256Ecc

open ByteBuffer StepRun P256Arith

/-- `DWORD_BITS`. -/
def dwordBits : ℕ := 32

/-- `DWORD_BITS_SHIFT`. -/
def dwordBitsShift : ℕ := 5

/-- The loop of `multiprecision_dword_bits` from bit `i` on, `a` shifted right `i` times. -/
def dwordBitsLoop (i : ℕ) (a : UInt32) : ℕ :=
  if i<dwordBits then
    if a=0 then i else dwordBitsLoop (i+1) (a >>> 1)
  else i
termination_by dwordBits-i

/-- `multiprecision_dword_bits`: the number of significant bits of a word. -/
def multiprecisionDwordBits (a : UInt32) : ℕ := dwordBitsLoop 0 a

/-- The loop of `multiprecision_most_signdwords` from the top down, at `i + 1` for the word `a[i]`
it looks at next: one more than the index of the first non-zero word it meets, or 0. -/
def mostSigndwordsLoop (a : List UInt32) : ℕ → ℕ
  | 0 => 0
  | i+1 => if a.getD i 0≠0 then i+1 else mostSigndwordsLoop a i

/-- `multiprecision_most_signdwords`. -/
def multiprecisionMostSigndwords (a : List UInt32) : ℕ := mostSigndwordsLoop a a.length

/-- `multiprecision_most_signbits`: the number of significant bits of `a`. -/
def multiprecisionMostSignbits (a : List UInt32) : ℕ :=
  let aMostSignDwords := multiprecisionMostSigndwords a
  if aMostSignDwords=0 then 0
  else ((aMostSignDwords-1) <<< dwordBitsShift)+multiprecisionDwordBits (a.getD (aMostSignDwords-1) 0)

/-- `multiprecision_rshift`: each word shifted one bit right takes the low bit of the word above. -/
def multiprecisionRshift : List UInt32 → List UInt32
  | [] => []
  | w::ws => (w >>> 1 ||| ws.headD 0 <<< 31)::multiprecisionRshift ws

/-- The carry loop of `ECC_NAF`, `do { k[j]++; } while (k[j++] == 0)`, over the words from `k[1]`
on: a word that wraps to zero passes the carry on, and past the last word there is no word. -/
def nafCarry : List UInt32 → Except Fault (List UInt32)
  | [] => .error .outOfRange
  | w::ws =>
    let w := w+1
    if w=0 then nafCarry ws >>= fun ws => .ok (w::ws) else .ok (w::ws)

/-- The digit of one pass of `ECC_NAF` and `k` less that digit: `sign` 0 for an even `k`; for an
odd one `sign = k[0] & 3`, 1 with the low bit cleared, or 3, the digit -1, with one added. -/
def nafDigit : List UInt32 → Except Fault (UInt32×List UInt32)
  | [] => .error .outOfRange
  | k0::ks =>
    if k0 &&& 0x01≠0 then
      let sign := k0 &&& 0x03
      if sign=1 then .ok (sign,(k0 &&& 0xFFFFFFFE)::ks)
      else
        let k0 := k0+1
        if k0=0 then nafCarry ks >>= fun ks => .ok (sign,k0::ks)
        else .ok (sign,k0::ks)
    else .ok (0,k0::ks)

/-- `naf[idx] |= v`, a fault outside the array. -/
def orByte (naf : List UInt8) (idx : ℕ) (v : UInt8) : Except Fault (List UInt8) :=
  if idx<naf.length then .ok (naf.modify idx (· ||| v)) else .error .outOfRange

/-- The loop of `ECC_NAF` from digit `i` on: the digit array, `NumNAF` and the words left in `k`
when `k` is zero. -/
def eccNafLoop (fuel : ℕ) (k : List UInt32) (naf : List UInt8) (i : ℕ) :
    Except Fault (List UInt8×ℕ×List UInt32) :=
  if multiprecisionMostSignbits k<1 then .ok (naf,i,k)
  else match fuel with
    | 0 => .error .noProgress
    | fuel+1 =>
      nafDigit k >>= fun (sign,k) =>
      let k := multiprecisionRshift k
      orByte naf (i/4) (sign <<< UInt32.ofNat ((i%4)*2)).toUInt8 >>= fun naf =>
      eccNafLoop fuel k naf (i+1)

/-- `ECC_NAF(naf, &NumNAF, k, keyLength)` on the words of `k`. A pass halves `k` rounded at most up
to a power of two, so one pass per bit of `k` and one more are enough. -/
def eccNaf (naf : List UInt8) (k : List UInt32) : Except Fault (List UInt8×ℕ×List UInt32) :=
  eccNafLoop (dwordBits*k.length+1) k naf 0

/-- The digit array of `ECC_PointMult_Bin_NAF`, `uint8_t naf[256 / 4 + 1]`, cleared by `memset`. -/
def nafInit : List UInt8 := List.replicate (256/4+1) 0

/-- The NAF digit of `n`: 0 when `n` is even, else 1 or -1, whichever leaves `n` less the digit a
multiple of 4. -/
def nafDigitOf (n : ℕ) : ℤ := if n%2=0 then 0 else if n%4=1 then 1 else -1

/-- The digit a stored `sign` stands for, as `ECC_PointMult_Bin_NAF` reads it back. -/
def nafDigitVal (sign : UInt32) : ℤ := if sign=1 then 1 else if sign=3 then -1 else 0

section Words

/-- An array of `n` words stands for less than `2^(32 n)`. -/
theorem wordsVal_lt : ∀ k : List UInt32,wordsVal k<2^(32*k.length)
  | [] => by simp
  | w::ws => by
    have hw := w.toNat_lt
    have ih := wordsVal_lt ws
    rw [wordsVal_cons,List.length_cons,Nat.mul_succ,pow_add]
    calc w.toNat+2^32*wordsVal ws
        < 2^32+2^32*wordsVal ws := by omega
      _ = 2^32*(wordsVal ws+1) := by ring
      _ ≤ 2^32*2^(32*ws.length) := Nat.mul_le_mul_left _ ih
      _ = 2^(32*ws.length)*2^32 := mul_comm _ _

/-- The words all `0xFFFFFFFF` stand for `2^(32 n) - 1`, and no other words do. -/
theorem wordsVal_add_one_eq_iff :
    ∀ k : List UInt32,wordsVal k+1=2^(32*k.length) ↔ ∀ w ∈ k,w=0xFFFFFFFF
  | [] => by simp
  | w::ws => by
    have hw := w.toNat_lt
    have hlt := wordsVal_lt ws
    have ih := wordsVal_add_one_eq_iff ws
    have hmax : w=0xFFFFFFFF ↔ w.toNat=2^32-1 := by
      rw [← UInt32.toNat_inj]
      rfl
    rw [wordsVal_cons,List.length_cons,Nat.mul_succ,pow_add,List.forall_mem_cons,← ih,hmax]
    -- the low word must be full, and then the words above carry the rest
    constructor
    · intro h
      have hlow : w.toNat=2^32-1 := by omega
      refine ⟨hlow,?_⟩
      have : 2^32*(wordsVal ws+1)=2^32*2^(32*ws.length) := by rw [mul_comm _ (2^32)] at h; omega
      exact Nat.eq_of_mul_eq_mul_left (by norm_num) this
    · rintro ⟨hlow,hhigh⟩
      rw [hlow,← hhigh]
      ring

/-- A value is zero exactly when every word is. -/
theorem wordsVal_eq_zero_iff : ∀ k : List UInt32,wordsVal k=0 ↔ ∀ j,k.getD j 0=0
  | [] => by simp
  | w::ws => by
    have hw : w.toNat=0 ↔ w=0 := by
      rw [← UInt32.toNat_inj]
      rfl
    rw [wordsVal_cons,Nat.add_eq_zero_iff,Nat.mul_eq_zero,or_iff_right (by norm_num : (2:ℕ)^32≠0),
      wordsVal_eq_zero_iff ws,hw]
    constructor
    · rintro ⟨hw,hws⟩ j
      cases j with
      | zero => exact hw
      | succ j => exact hws j
    · intro h
      exact ⟨h 0,fun j => h (j+1)⟩

end Words

section Scan

/-- A non-zero word has a significant bit. -/
theorem dwordBitsLoop_pos {a : UInt32} (h : a≠0) : 0<dwordBitsLoop 0 a := by
  rw [dwordBitsLoop,if_pos (by decide),if_neg h]
  -- the loop never returns less than where it starts
  have hge : ∀ i b,i ≤ dwordBitsLoop i b := by
    intro i b
    induction i,b using dwordBitsLoop.induct with
    | case1 i hi => rw [dwordBitsLoop,if_pos hi,if_pos rfl]
    | case2 i b hi hb ih => rw [dwordBitsLoop,if_pos hi,if_neg hb]; omega
    | case3 i b hi => rw [dwordBitsLoop,if_neg hi]
  exact hge 1 _

/-- The scan from the top finds nothing exactly when the words below are all zero. -/
theorem mostSigndwordsLoop_eq_zero_iff (a : List UInt32) :
    ∀ i,mostSigndwordsLoop a i=0 ↔ ∀ j < i,a.getD j 0=0
  | 0 => by simp [mostSigndwordsLoop]
  | i+1 => by
    rw [mostSigndwordsLoop]
    by_cases h : a.getD i 0≠0
    · rw [if_pos h]
      exact ⟨fun h' => absurd h' (Nat.succ_ne_zero i),fun h' => absurd (h' i (Nat.lt_succ_self i)) h⟩
    · rw [if_neg h,mostSigndwordsLoop_eq_zero_iff a i]
      rw [not_ne_iff] at h
      constructor
      · intro h' j hj
        rcases Nat.lt_succ_iff_lt_or_eq.mp hj with hj|rfl
        · exact h' j hj
        · exact h
      · exact fun h' j hj => h' j (Nat.lt_succ_of_lt hj)

/-- What the scan finds is a non-zero word. -/
theorem getD_mostSigndwordsLoop (a : List UInt32) :
    ∀ i,mostSigndwordsLoop a i≠0 → a.getD (mostSigndwordsLoop a i-1) 0≠0
  | 0 => by simp [mostSigndwordsLoop]
  | i+1 => by
    rw [mostSigndwordsLoop]
    by_cases h : a.getD i 0≠0
    · rw [if_pos h]
      exact fun _ => h
    · rw [if_neg h]
      exact getD_mostSigndwordsLoop a i

/-- `multiprecision_most_signbits` is zero exactly when the value is: the loop of `ECC_NAF` runs
while `k` is not zero. -/
theorem multiprecisionMostSignbits_eq_zero_iff (a : List UInt32) :
    multiprecisionMostSignbits a=0 ↔ wordsVal a=0 := by
  rw [wordsVal_eq_zero_iff,multiprecisionMostSignbits,multiprecisionMostSigndwords]
  -- words past the end read as zero, so the scan over the array sees all of them
  have hall : (∀ j < a.length,a.getD j 0=0) ↔ ∀ j,a.getD j 0=0 :=
    ⟨fun h j => if hj : j<a.length then h j hj else by simp [List.getElem?_eq_none (Nat.le_of_not_lt hj)],
      fun h j _ => h j⟩
  by_cases hm : mostSigndwordsLoop a a.length=0
  · rw [if_pos hm,← hall,← mostSigndwordsLoop_eq_zero_iff]
    exact ⟨fun _ => hm,fun _ => rfl⟩
  · rw [if_neg hm]
    have hpos := dwordBitsLoop_pos (getD_mostSigndwordsLoop a _ hm)
    rw [← hall,← mostSigndwordsLoop_eq_zero_iff]
    simp only [multiprecisionDwordBits,dwordBitsShift]
    omega

/-- One word of `multiprecision_rshift`: its high bits and the low bit of the word above. -/
theorem toNat_rshiftWord (w h : UInt32) : (w >>> 1 ||| h <<< 31).toNat=w.toNat/2+2^31*(h.toNat%2) := by
  have hw := w.toNat_lt
  rw [UInt32.toNat_or,UInt32.toNat_shiftRight,UInt32.toNat_shiftLeft]
  simp only [UInt32.reduceToNat,Nat.reduceMod,Nat.shiftRight_one]
  have hm : h.toNat <<< 31%2^32=(h.toNat%2) <<< 31 := by
    rw [Nat.shiftLeft_eq,Nat.shiftLeft_eq,show 2^32=2*2^31 by norm_num,Nat.mul_mod_mul_right]
  rw [hm,Nat.or_comm,← Nat.shiftLeft_add_eq_or_of_lt (by omega),Nat.shiftLeft_eq]
  ring

@[simp] theorem length_multiprecisionRshift : ∀ a : List UInt32,(multiprecisionRshift a).length=a.length
  | [] => rfl
  | _::ws => by simp [multiprecisionRshift,length_multiprecisionRshift ws]

/-- `multiprecision_rshift` halves the value. -/
theorem wordsVal_multiprecisionRshift : ∀ a : List UInt32,wordsVal (multiprecisionRshift a)=wordsVal a/2
  | [] => rfl
  | w::ws => by
    have ih := wordsVal_multiprecisionRshift ws
    simp only [multiprecisionRshift,wordsVal_cons]
    rw [toNat_rshiftWord,ih]
    -- the low bit of the words above is the low bit of the word above
    have hlow : (ws.headD 0).toNat%2=wordsVal ws%2 := by
      cases ws with
      | nil => rfl
      | cons v vs => simp only [List.headD_cons,wordsVal_cons]; omega
    rw [hlow]
    omega

end Scan

section Digit

theorem add_one_eq_zero_iff (w : UInt32) : w+1=0 ↔ w.toNat=2^32-1 := by
  have hw := w.toNat_lt
  rw [← UInt32.toNat_inj,UInt32.toNat_add]
  simp only [UInt32.reduceToNat]
  omega

theorem toNat_add_one_of_ne {w : UInt32} (h : w+1≠0) : (w+1).toNat=w.toNat+1 := by
  have hw := w.toNat_lt
  have h' := mt (add_one_eq_zero_iff w).mpr h
  rw [UInt32.toNat_add]
  simp only [UInt32.reduceToNat]
  omega

/-- The carry loop runs past the last word exactly when every word it meets is `0xFFFFFFFF`. -/
theorem nafCarry_of_all_max : ∀ ws : List UInt32,(∀ w ∈ ws,w=0xFFFFFFFF) → nafCarry ws=.error .outOfRange
  | [],_ => rfl
  | w::ws,h => by
    rw [List.forall_mem_cons] at h
    rw [nafCarry,h.1]
    simp only [show (0xFFFFFFFF : UInt32)+1=0 from rfl,if_true,nafCarry_of_all_max ws h.2,error_bind]

/-- Otherwise it adds one to the value of the words. -/
theorem nafCarry_ok : ∀ ws : List UInt32,wordsVal ws+1<2^(32*ws.length) →
    ∃ ws',nafCarry ws=.ok ws' ∧ ws'.length=ws.length ∧ wordsVal ws'=wordsVal ws+1
  | [],h => by simp at h
  | w::ws,h => by
    have hw := w.toNat_lt
    rw [wordsVal_cons,List.length_cons,Nat.mul_succ,pow_add] at h
    rw [nafCarry]
    by_cases hz : w+1=0
    · -- the word wraps and the carry goes on to the words above
      have hmax := (add_one_eq_zero_iff w).mp hz
      have hrest : wordsVal ws+1<2^(32*ws.length) := by
        rw [hmax] at h
        have : 2^32*(wordsVal ws+1)<2^32*2^(32*ws.length) := by rw [mul_comm _ (2^32)] at h; omega
        exact Nat.lt_of_mul_lt_mul_left this
      obtain ⟨ws',hok,hlen,hval⟩ := nafCarry_ok ws hrest
      refine ⟨(w+1)::ws',?_,by simp [hlen],?_⟩
      · rw [if_pos hz,hok,ok_bind]
      · rw [wordsVal_cons,wordsVal_cons,hz,hval,hmax]
        simp only [UInt32.reduceToNat]
        ring
    · exact ⟨(w+1)::ws,by rw [if_neg hz],rfl,by rw [wordsVal_cons,wordsVal_cons,toNat_add_one_of_ne hz]; omega⟩

theorem toNat_and_one (w : UInt32) : (w &&& 1).toNat=w.toNat%2 := by
  rw [UInt32.toNat_and]
  exact Nat.and_one_is_mod _

theorem toNat_and_three (w : UInt32) : (w &&& 3).toNat=w.toNat%4 := by
  rw [UInt32.toNat_and]
  exact Nat.and_two_pow_sub_one_eq_mod _ 2

theorem toNat_and_clear_low_bit (w : UInt32) : (w &&& 0xFFFFFFFE).toNat=w.toNat-w.toNat%2 := by
  have hw := w.toNat_lt
  rw [UInt32.toNat_and]
  have hmask : (0xFFFFFFFE : UInt32).toNat=Nat.bit false (2^31-1) := rfl
  rw [hmask,← Nat.bit_testBit_zero_shiftRight_one w.toNat,Nat.land_bit,Nat.and_two_pow_sub_one_eq_mod,
    Nat.bit_testBit_zero_shiftRight_one]
  simp only [Bool.and_false,Nat.bit_false,Nat.shiftRight_one]
  omega

/-- All words `0xFFFFFFFF`: `k` is odd with low bits 3, and adding one carries past the last word. -/
theorem nafDigit_of_all_max {k0 : UInt32} {ks : List UInt32} (h : ∀ w ∈ k0::ks,w=0xFFFFFFFF) :
    nafDigit (k0::ks)=.error .outOfRange := by
  rw [List.forall_mem_cons] at h
  rw [nafDigit,h.1]
  simp only [show (0xFFFFFFFF : UInt32) &&& 3≠1 from by decide,show (0xFFFFFFFF : UInt32)+1=0 from rfl,
    if_true,if_false,nafCarry_of_all_max ks h.2,error_bind]
  rw [if_pos (by decide)]

/-- One pass of `ECC_NAF` on a `k` below `2^(32 n) - 1`: it takes off `k`'s NAF digit and keeps
the number of words. -/
theorem nafDigit_spec {k : List UInt32} (hk : k≠[]) (hmax : wordsVal k+1<2^(32*k.length)) :
    ∃ sign k',nafDigit k=.ok (sign,k') ∧ k'.length=k.length ∧
      nafDigitVal sign=nafDigitOf (wordsVal k) ∧ (wordsVal k' : ℤ)=wordsVal k-nafDigitVal sign := by
  obtain ⟨k0,ks,rfl⟩ := List.exists_cons_of_ne_nil hk
  have h0 := k0.toNat_lt
  have hmod4 : wordsVal (k0::ks)%4=k0.toNat%4 := by rw [wordsVal_cons]; omega
  rw [nafDigit]
  by_cases hodd : k0 &&& 0x01≠0
  · have hodd' : k0.toNat%2=1 := by
      have := toNat_and_one k0
      have hne : (k0 &&& 1).toNat≠0 := fun h => hodd (UInt32.toNat_inj.mp h)
      omega
    rw [if_pos hodd]
    by_cases hone : k0 &&& 0x03=1
    · -- digit 1: the low bit is cleared
      have h1 : k0.toNat%4=1 := by rw [← toNat_and_three,hone]; rfl
      refine ⟨k0 &&& 0x03,(k0 &&& 0xFFFFFFFE)::ks,by rw [if_pos hone],rfl,?_,?_⟩
      · rw [hone,nafDigitVal,if_pos rfl,nafDigitOf,if_neg (by omega),if_pos (by omega)]
      · rw [hone,nafDigitVal,if_pos rfl,wordsVal_cons,wordsVal_cons,toNat_and_clear_low_bit]
        push_cast
        omega
    · -- digit -1: one is added, with the carry into the words above
      have h3 : k0.toNat%4=3 := by
        have := toNat_and_three k0
        have hne : (k0 &&& 3).toNat≠1 := fun h => hone (UInt32.toNat_inj.mp h)
        omega
      have hsign : k0 &&& 0x03=3 := UInt32.toNat_inj.mp (by rw [toNat_and_three,h3]; rfl)
      have hdigit : nafDigitVal (k0 &&& 0x03)=-1 := by rw [hsign]; rfl
      have hof : nafDigitOf (wordsVal (k0::ks))=-1 := by
        rw [nafDigitOf,if_neg (by omega),if_neg (by omega)]
      rw [if_neg hone]
      by_cases hz : k0+1=0
      · have hk0 := (add_one_eq_zero_iff k0).mp hz
        have hrest : wordsVal ks+1<2^(32*ks.length) := by
          rw [wordsVal_cons,List.length_cons,Nat.mul_succ,pow_add,hk0] at hmax
          have : 2^32*(wordsVal ks+1)<2^32*2^(32*ks.length) := by rw [mul_comm _ (2^32)] at hmax; omega
          exact Nat.lt_of_mul_lt_mul_left this
        obtain ⟨ks',hok,hlen,hval⟩ := nafCarry_ok ks hrest
        refine ⟨_,(k0+1)::ks',by rw [if_pos hz,hok,ok_bind],by simp [hlen],by rw [hdigit,hof],?_⟩
        rw [hdigit,wordsVal_cons,wordsVal_cons,hz,hval,hk0]
        push_cast
        ring
      · refine ⟨_,(k0+1)::ks,by rw [if_neg hz],rfl,by rw [hdigit,hof],?_⟩
        rw [hdigit,wordsVal_cons,wordsVal_cons,toNat_add_one_of_ne hz]
        push_cast
        ring
  · -- an even `k` has digit 0
    have heven : k0.toNat%2=0 := by
      have := toNat_and_one k0
      rw [not_ne_iff] at hodd
      rw [hodd] at this
      simp only [UInt32.reduceToNat] at this
      omega
    refine ⟨0,k0::ks,by rw [if_neg hodd],rfl,?_,by simp [nafDigitVal]⟩
    rw [nafDigitOf,if_pos (by omega)]
    rfl

end Digit

section Loop

/-- The loop of `ECC_NAF` stops at once on a zero `k`. -/
theorem eccNafLoop_of_zero (fuel : ℕ) {k : List UInt32} (naf : List UInt8) (i : ℕ) (h : wordsVal k=0) :
    eccNafLoop fuel k naf i=.ok (naf,i,k) := by
  unfold eccNafLoop
  rw [if_pos (by rw [(multiprecisionMostSignbits_eq_zero_iff k).mpr h]; omega)]

theorem length_orByte {naf out : List UInt8} {idx : ℕ} {v : UInt8} (h : orByte naf idx v=.ok out) :
    out.length=naf.length := by
  unfold orByte at h
  split_ifs at h
  cases h
  exact List.length_modify _ _ _

/-- A pass of `ECC_NAF` leaves at most half of `k`, rounded up to the bound `2^fuel / 2` that
the next pass's fuel allows: the digit -1 rounds `k` up only when `k ≥ 3`. -/
theorem half_le_of_nafDigitOf {n m Q : ℕ} (hQ : Q=1 ∨ Q%2=0) (hn : 0<n) (hle : n ≤ Q)
    (hm : (m : ℤ)=n-nafDigitOf n) : m/2 ≤ Q/2 := by
  unfold nafDigitOf at hm
  split_ifs at hm <;> omega

/-- Enough fuel: from a non-empty `k` below `2^(32 n) - 1` and at most `2^fuel / 2`, with room in
the digit array for `fuel` more digits, the loop of `ECC_NAF` ends without a fault. -/
theorem eccNafLoop_ok : ∀ (fuel : ℕ) (k : List UInt32) (naf : List UInt8) (i : ℕ),k≠[] →
    wordsVal k+1<2^(32*k.length) → wordsVal k ≤ 2^fuel/2 → i+fuel ≤ 4*naf.length →
      ∃ r,eccNafLoop fuel k naf i=.ok r := by
  intro fuel
  induction fuel with
  | zero =>
    intro k naf i _ _ hle _
    exact ⟨_,eccNafLoop_of_zero 0 naf i (by simpa using hle)⟩
  | succ fuel ih =>
    intro k naf i hk hmax hle hroom
    by_cases hz : wordsVal k=0
    · exact ⟨_,eccNafLoop_of_zero _ naf i hz⟩
    obtain ⟨sign,k',hdig,hlen,hof,hval⟩ := nafDigit_spec hk hmax
    rw [hof] at hval
    have hidx : i/4<naf.length := by omega
    have hor : orByte naf (i/4) (sign <<< UInt32.ofNat ((i%4)*2)).toUInt8=
        .ok (naf.modify (i/4) (· ||| (sign <<< UInt32.ofNat ((i%4)*2)).toUInt8)) := by
      rw [orByte,if_pos hidx]
    have hk' : k'≠[] := by
      intro h
      rw [h] at hlen
      exact hk (List.length_eq_zero_iff.mp hlen.symm)
    -- the halved `k` keeps both bounds
    have hpos : 0<wordsVal k := Nat.pos_of_ne_zero hz
    have hwords : 2 ≤ 2^(32*k.length) := by
      have : 1 ≤ k.length := List.length_pos_iff.mpr hk
      calc 2=2^1 := rfl
        _ ≤ 2^(32*k.length) := Nat.pow_le_pow_right (by norm_num) (by omega)
    have hpow : 2^(fuel+1)/2=2^fuel := by rw [pow_succ,Nat.mul_div_cancel _ (by norm_num)]
    have hQ : 2^fuel=1 ∨ 2^fuel%2=0 := by
      cases fuel with
      | zero => exact .inl rfl
      | succ f => exact .inr (by rw [pow_succ]; simp)
    have hhalf := half_le_of_nafDigitOf hQ hpos (hpow ▸ hle) hval
    have hdigit : wordsVal k'/2+1<2^(32*k.length) := by
      unfold nafDigitOf at hval
      split_ifs at hval <;> omega
    obtain ⟨r,hr⟩ := ih (multiprecisionRshift k') (naf.modify (i/4) (· ||| (sign <<< UInt32.ofNat ((i%4)*2)).toUInt8))
      (i+1) (by rw [← List.length_pos_iff,length_multiprecisionRshift]; exact List.length_pos_iff.mpr hk') (by rw [wordsVal_multiprecisionRshift,length_multiprecisionRshift,hlen]; exact hdigit)
      (by rw [wordsVal_multiprecisionRshift]; exact hhalf) (by rw [List.length_modify]; omega)
    refine ⟨r,?_⟩
    unfold eccNafLoop
    rw [if_neg (by rw [Nat.lt_one_iff,multiprecisionMostSignbits_eq_zero_iff]; exact hz)]
    simp only [hdig,ok_bind,hor,hr]

/-- `ECC_NAF` writes outside the words of `k` exactly when every word is `0xFFFFFFFF`, for `k` of
any number of words and a digit array with room for `32` digits a word and one more: on
`2^(32 n) - 1` the first pass takes the digit -1 and the carry of adding one runs past the last
word, and on every other `k` the recoding ends inside the arrays. -/
theorem ecc_naf_faults_iff_all_ones (naf : List UInt8) (k : List UInt32) (hk : k≠[])
    (hnaf : 8*k.length<naf.length) :
    eccNaf naf k=.error .outOfRange ↔ ∀ w ∈ k,w=0xFFFFFFFF := by
  constructor
  · intro hfault
    by_contra hall
    have hlt : wordsVal k+1<2^(32*k.length) :=
      lt_of_le_of_ne (wordsVal_lt k) (fun h => hall ((wordsVal_add_one_eq_iff k).mp h))
    have hle : wordsVal k ≤ 2^(dwordBits*k.length+1)/2 := by
      rw [pow_succ,Nat.mul_div_cancel _ (by norm_num)]
      exact (wordsVal_lt k).le
    obtain ⟨r,hr⟩ := eccNafLoop_ok _ k naf 0 hk hlt hle (by simp only [dwordBits]; omega)
    rw [eccNaf,hr] at hfault
    cases hfault
  · intro hall
    obtain ⟨k0,ks,rfl⟩ := List.exists_cons_of_ne_nil hk
    have hnz : wordsVal (k0::ks)≠0 := by
      have := (wordsVal_add_one_eq_iff _).mpr hall
      have := wordsVal_lt (k0::ks)
      simp only [List.length_cons] at *
      intro h0
      have h2 : 2 ≤ 2^(32*(ks.length+1)) :=
        calc 2=2^1 := rfl
          _ ≤ 2^(32*(ks.length+1)) := Nat.pow_le_pow_right (by norm_num) (by omega)
      omega
    rw [eccNaf]
    unfold eccNafLoop
    rw [if_neg (by rw [Nat.lt_one_iff,multiprecisionMostSignbits_eq_zero_iff]; exact hnz)]
    simp only [nafDigit_of_all_max hall,error_bind]

/-- The scalar `2^256 - 1` of `ECC_PointMult_Bin_NAF`: the carry writes the ninth word of an
eight-word `k`. -/
theorem ecc_naf_faults_iff_all_ones_p256 :
    List.replicate keyLengthDwordsP256 (0xFFFFFFFF : UInt32)≠[] ∧
      8*(List.replicate keyLengthDwordsP256 (0xFFFFFFFF : UInt32)).length<nafInit.length ∧
      eccNaf nafInit (List.replicate keyLengthDwordsP256 0xFFFFFFFF)=.error .outOfRange :=
  ⟨by decide,by decide,(ecc_naf_faults_iff_all_ones nafInit _ (by decide) (by decide)).mpr
    fun _ hw => List.eq_of_mem_replicate hw⟩

end Loop

end BluetoothStack.P256Ecc
