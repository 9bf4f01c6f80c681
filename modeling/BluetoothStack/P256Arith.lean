import BluetoothStack.ByteBuffer

/-!
# Multiprecision arithmetic of the P-256 code in SMP

Numbers are arrays of 32-bit words, least significant first; with `keyLength = 8` they hold 256
bits. `multiprecision_add` and `multiprecision_sub` run a carry or borrow along the words,
`multiprecision_mult` is the schoolbook product into sixteen words, and
`multiprecision_fast_mod_P256` reduces a sixteen-word product modulo
p = 2^256 - 2^224 + 2^192 + 2^96 - 1 by the NIST method: it adds and subtracts words of the upper
half into the lower half, tracking the carry of each column in a 32-bit `U` (and the carries of
the partial sums `A` to `G` in 8-bit counters), then settles the final carry by adding or
subtracting p that many times.

Words are `UInt32` and the counters `UInt8`, so every wrap of the C code is kept.
-/

namespace BluetoothStack.P256Arith

/-- `KEY_LENGTH_DWORDS_P256`. -/
def keyLengthDwordsP256 : ℕ := 8

/-- `curve_p256.p`, as `p_256_init_curve` sets it. -/
def curveP256P : List UInt32 :=
  [0xFFFFFFFF,0xFFFFFFFF,0xFFFFFFFF,0x0,0x0,0x0,0x00000001,0xFFFFFFFF]

/-- The number an array of words stands for, least significant word first. -/
def wordsVal : List UInt32 → ℕ
  | [] => 0
  | w::ws => w.toNat+2^32*wordsVal ws

/-- A comparison as C gives it: 1 when it holds, else 0. -/
def ltW (x y : UInt32) : UInt32 := if x<y then 1 else 0

/-- The same comparison stored in an 8-bit counter. -/
def ltB (x y : UInt32) : UInt8 := if x<y then 1 else 0

section Carry

/-- The loop of `multiprecision_add` from the carry `carrier` on: the words of the sum and the
carry out. -/
def multiprecisionAddLoop : List UInt32 → List UInt32 → UInt32 → List UInt32×UInt32
  | a::as,b::bs,carrier =>
    let temp := a+carrier
    let carrier := ltW temp carrier
    let temp := temp+b
    let carrier := carrier ||| ltW temp b
    let (cs,carrier) := multiprecisionAddLoop as bs carrier
    (temp::cs,carrier)
  | _,_,carrier => ([],carrier)

/-- `multiprecision_add`: `c = a + b` and the carry out. -/
def multiprecisionAdd (a b : List UInt32) : List UInt32×UInt32 := multiprecisionAddLoop a b 0

/-- The loop of `multiprecision_sub` from the borrow `borrow` on. -/
def multiprecisionSubLoop : List UInt32 → List UInt32 → UInt32 → List UInt32×UInt32
  | a::as,b::bs,borrow =>
    let temp := a-borrow
    let borrow := if a<temp then (1 : UInt32) else 0
    let c := temp-b
    let borrow := borrow ||| (if temp<c then 1 else 0)
    let (cs,borrow) := multiprecisionSubLoop as bs borrow
    (c::cs,borrow)
  | _,_,borrow => ([],borrow)

/-- `multiprecision_sub`: `c = a - b` and the borrow out. -/
def multiprecisionSub (a b : List UInt32) : List UInt32×UInt32 := multiprecisionSubLoop a b 0

/-- `multiprecision_compare`: from the most significant word down, the first that differs. -/
def multiprecisionCompare (a b : List UInt32) : ℤ :=
  let rec go : List UInt32 → List UInt32 → ℤ
    | x::xs,y::ys => if y<x then 1 else if x<y then -1 else go xs ys
    | _,_ => 0
  go a.reverse b.reverse

@[simp] theorem wordsVal_nil : wordsVal []=0 := rfl

@[simp] theorem wordsVal_cons (w : UInt32) (ws : List UInt32) : wordsVal (w::ws)=w.toNat+2^32*wordsVal ws := rfl

theorem ltW_toNat (x y : UInt32) : (ltW x y).toNat=if x.toNat<y.toNat then 1 else 0 := by
  unfold ltW
  by_cases h : x<y
  · rw [if_pos h,if_pos (UInt32.lt_iff_toNat_lt.mp h)]
    rfl
  · rw [if_neg h,if_neg (fun h' => h (UInt32.lt_iff_toNat_lt.mpr h'))]
    rfl

/-- An `|||` of two C comparisons is their disjunction. -/
theorem ltW_or_ltW (x y z t : UInt32) :
    (ltW x y ||| ltW z t).toNat=if x.toNat<y.toNat ∨ z.toNat<t.toNat then 1 else 0 := by
  unfold ltW
  by_cases h1 : x<y <;> by_cases h2 : z<t
  · rw [if_pos h1,if_pos h2,if_pos (.inl (UInt32.lt_iff_toNat_lt.mp h1))]
    rfl
  · rw [if_pos h1,if_neg h2,if_pos (.inl (UInt32.lt_iff_toNat_lt.mp h1))]
    rfl
  · rw [if_neg h1,if_pos h2,if_pos (.inr (UInt32.lt_iff_toNat_lt.mp h2))]
    rfl
  · rw [if_neg h1,if_neg h2,if_neg (by rw [← UInt32.lt_iff_toNat_lt,← UInt32.lt_iff_toNat_lt]; tauto)]
    rfl

/-- One word of `multiprecision_add`: the word written and the carry out make up the two words and
the carry in, and the carry out is a bit. -/
theorem addStep_val (a b carrier : UInt32) (hc : carrier.toNat ≤ 1) :
    (a+carrier+b).toNat+2^32*(ltW (a+carrier) carrier ||| ltW (a+carrier+b) b).toNat=
      a.toNat+b.toNat+carrier.toNat ∧ (ltW (a+carrier) carrier ||| ltW (a+carrier+b) b).toNat ≤ 1 := by
  have ha := a.toNat_lt
  have hb := b.toNat_lt
  rw [ltW_or_ltW]
  simp only [UInt32.toNat_add]
  -- at most one of the two additions wraps
  split_ifs <;> omega

/-- `multiprecision_add` over words of equal length: the sum and the carry out make up the two
numbers and the carry in. -/
theorem multiprecisionAddLoop_val :
    ∀ (a b : List UInt32) (carrier : UInt32),a.length=b.length → carrier.toNat ≤ 1 →
      wordsVal (multiprecisionAddLoop a b carrier).1+2^(32*a.length)*(multiprecisionAddLoop a b carrier).2.toNat=
        wordsVal a+wordsVal b+carrier.toNat ∧ (multiprecisionAddLoop a b carrier).2.toNat ≤ 1
  | [],[],carrier,_,hc => ⟨by simp [multiprecisionAddLoop],hc⟩
  | [],_::_,_,hlen,_ => by simp at hlen
  | _::_,[],_,hlen,_ => by simp at hlen
  | a::as,b::bs,carrier,hlen,hc => by
    obtain ⟨hstep,hbit⟩ := addStep_val a b carrier hc
    obtain ⟨ih,ihbit⟩ := multiprecisionAddLoop_val as bs _ (by simpa using hlen) hbit
    simp only [multiprecisionAddLoop,wordsVal_cons,List.length_cons]
    refine ⟨?_,ihbit⟩
    -- the carry out of this word is the carry into the next
    have hpow : 2^(32*(as.length+1))=2^32*2^(32*as.length) := by rw [Nat.mul_succ,pow_add,mul_comm]
    rw [hpow]
    nlinarith [ih,hstep]

/-- One word of `multiprecision_sub`: the word written, the subtrahend and the borrow in make up the
minuend and the borrow out. -/
theorem subStep_val (a b borrow : UInt32) (hc : borrow.toNat ≤ 1) :
    let temp := a-borrow
    let out := (if a<temp then (1 : UInt32) else 0) ||| (if temp<temp-b then 1 else 0)
    (temp-b).toNat+b.toNat+borrow.toNat=a.toNat+2^32*out.toNat ∧ out.toNat ≤ 1 := by
  have ha := a.toNat_lt
  have hb := b.toNat_lt
  have hor := ltW_or_ltW a (a-borrow) (a-borrow) (a-borrow-b)
  simp only [ltW] at hor
  simp only [hor,UInt32.toNat_sub]
  -- at most one of the two subtractions wraps
  split_ifs <;> omega

/-- `multiprecision_sub` over words of equal length: the difference, the subtrahend and the borrow
in make up the minuend and the borrow out. -/
theorem multiprecisionSubLoop_val :
    ∀ (a b : List UInt32) (borrow : UInt32),a.length=b.length → borrow.toNat ≤ 1 →
      wordsVal (multiprecisionSubLoop a b borrow).1+wordsVal b+borrow.toNat=
        wordsVal a+2^(32*a.length)*(multiprecisionSubLoop a b borrow).2.toNat ∧
        (multiprecisionSubLoop a b borrow).2.toNat ≤ 1
  | [],[],borrow,_,hc => ⟨by simp [multiprecisionSubLoop],hc⟩
  | [],_::_,_,hlen,_ => by simp at hlen
  | _::_,[],_,hlen,_ => by simp at hlen
  | a::as,b::bs,borrow,hlen,hc => by
    obtain ⟨hstep,hbit⟩ := subStep_val a b borrow hc
    obtain ⟨ih,ihbit⟩ := multiprecisionSubLoop_val as bs _ (by simpa using hlen) hbit
    simp only [multiprecisionSubLoop,wordsVal_cons,List.length_cons]
    refine ⟨?_,ihbit⟩
    -- the borrow out of this word is the borrow into the next
    have hpow : 2^(32*(as.length+1))=2^32*2^(32*as.length) := by rw [Nat.mul_succ,pow_add,mul_comm]
    rw [hpow]
    nlinarith [ih,hstep]

end Carry

section Mult

/-- The inner loop of `multiprecision_mult` for word `ai` of `a`: each word of `b` times `ai`,
added with the carry `U` into `c[i + j]`. -/
def multInner (ai : UInt32) (i : ℕ) : List UInt32 → ℕ → List UInt32×UInt32 → List UInt32×UInt32
  | [],_,cu => cu
  | bj::bs,j,(c,u) =>
    let w := UInt32.ofNat ((ai.toNat*bj.toNat)/2^32)
    let v := ai*bj
    let v := v+u
    let u := ltW v u
    let u := u+w
    let cij := c.getD (i+j) 0
    let v := v+cij
    let u := u+ltW v cij
    multInner ai i bs (j+1) (c.set (i+j) v,u)

/-- The outer loop of `multiprecision_mult` over the words of `a`, from word `i`: after each, the
carry goes to `c[i + keyLength]`. -/
def multOuter (b : List UInt32) : List UInt32 → ℕ → List UInt32 → List UInt32
  | [],_,c => c
  | ai::as,i,c =>
    let (c,u) := multInner ai i b 0 (c,0)
    multOuter b as (i+1) (c.set (i+b.length) u)

/-- `multiprecision_mult`: the `2 * keyLength`-word product of two `keyLength`-word numbers. -/
def multiprecisionMult (a b : List UInt32) : List UInt32 :=
  multOuter b a 0 (List.replicate (2*a.length) 0)

end Mult

section FastMod

/-- Adding `x` to the column word, with the carry it makes counted in `U`. -/
def addW (cu : UInt32×UInt32) (x : UInt32) : UInt32×UInt32 := (cu.1+x,cu.2+ltW (cu.1+x) x)

/-- Subtracting `x` from the column word, with the borrow it makes taken from `U`. -/
def subW (cu : UInt32×UInt32) (x : UInt32) : UInt32×UInt32 := (cu.1-x,cu.2-ltW cu.1 x)

/-- Adding an 8-bit partial carry to `U`. -/
def addU (cu : UInt32×UInt32) (x : UInt8) : UInt32×UInt32 := (cu.1,cu.2+x.toUInt32)

/-- Subtracting an 8-bit partial carry from `U`. -/
def subU (cu : UInt32×UInt32) (x : UInt8) : UInt32×UInt32 := (cu.1,cu.2-x.toUInt32)

/-- The start of column `i`: the carry `U` of the column below goes into `a[i]`. A negative `U`
(its top bit set) is subtracted as `UU = -U`, and the new `U` is then `a[i] < UU`. -/
def carryIn (u ai : UInt32) : UInt32×UInt32 :=
  if u &&& 0x80000000≠0 then
    let uu := 0-u
    (ai-uu,ltW ai uu)
  else (ai+u,ltW (ai+u) ai)

/-- `c = c + p` (or `- p`) `n` times, as the final loops of `multiprecision_fast_mod_P256` do. -/
def repeatAdd (modp : List UInt32) : ℕ → List UInt32 → List UInt32
  | 0,c => c
  | n+1,c => repeatAdd modp n (multiprecisionAdd c modp).1

/-- See `repeatAdd`. -/
def repeatSub (modp : List UInt32) : ℕ → List UInt32 → List UInt32
  | 0,c => c
  | n+1,c => repeatSub modp n (multiprecisionSub c modp).1

/-- `multiprecision_fast_mod_P256`: the sixteen words `a` reduced modulo p into eight. -/
def multiprecisionFastModP256 (a : List UInt32) : List UInt32 :=
  let w := fun i => a.getD i 0
  -- the partial sums of the upper words, each with an 8-bit carry
  let c := w 13+w 14
  let uc := ltB c (w 14)
  let c := c+w 15
  let uc := uc+ltB c (w 15)
  let e := w 8+w 9
  let ue := ltB e (w 9)
  let f := w 9+w 10
  let uf := ltB f (w 10)
  let g := w 10+w 11
  let ug := ltB g (w 11)
  let b := c+w 12
  let ub := uc+ltB b (w 12)
  let a' := b+w 11
  let ua := ub+ltB a' (w 11)
  let ua := ua-ltB a' (w 15)
  let a' := a'-w 15
  let d := a'+w 10
  let ud := ua+ltB d (w 10)
  let ud := ud-ltB d (w 14)
  let d := d-w 14
  -- the columns, each from the carry of the one below
  let (c0,u) := subU (subW (addU (addW (w 0,0) e) ue) a') ua
  let (c1,u) := subU (subW (addU (addW (carryIn u (w 1)) f) uf) b) ub
  let (c2,u) := subU (subW (addU (addW (carryIn u (w 2)) g) ug) c) uc
  let (c3,u) := subU (subW (subW (subW (addW (addW (addU (addW (carryIn u (w 3)) a') ua) (w 11)) (w 12))
    (w 14)) (w 15)) e) ue
  let (c4,u) := subU (subW (addW (addW (subW (addU (addW (carryIn u (w 4)) b) ub) (w 15)) (w 12)) (w 13)) f) uf
  let (c5,u) := subU (subW (addW (addW (addU (addW (carryIn u (w 5)) c) uc) (w 13)) (w 14)) g) ug
  let (c6,u) := subU (subW (addW (addW (addW (addU (addW (carryIn u (w 6)) c) uc) (w 14)) (w 14)) (w 15)) e) ue
  let (c7,u) := subU (subW (addW (addW (addW (addW (carryIn u (w 7)) (w 15)) (w 15)) (w 15)) (w 8)) d) ud
  let r := [c0,c1,c2,c3,c4,c5,c6,c7]
  -- `|U|` times p, then one conditional subtraction
  let r :=
    if u &&& 0x80000000≠0 then repeatAdd curveP256P (0-u).toNat r
    else repeatSub curveP256P u.toNat r
  if 0 ≤ multiprecisionCompare r curveP256P then (multiprecisionSub r curveP256P).1 else r

/-- `multiprecision_mersenns_mult_mod` with `keyLength = 8`. -/
def multiprecisionMersennsMultMod (a b : List UInt32) : List UInt32 :=
  multiprecisionFastModP256 (multiprecisionMult a b)

/-- `multiprecision_mersenns_squa_mod` with `keyLength = 8`. -/
def multiprecisionMersennsSquaMod (a : List UInt32) : List UInt32 := multiprecisionMersennsMultMod a a

/-- A column started from a non-negative carry `U` is exact: the word and the new carry make up
`a[i] + U`. -/
theorem carryIn_of_nonneg {u ai : UInt32} (h : u &&& 0x80000000=0) :
    (carryIn u ai).1.toNat+2^32*(carryIn u ai).2.toNat=ai.toNat+u.toNat := by
  have ha := ai.toNat_lt
  have hu := u.toNat_lt
  rw [carryIn,if_neg (by simp [h]),ltW_toNat,UInt32.toNat_add]
  split_ifs <;> omega

/-- A column started from a negative carry `U` is off by `2^33` when `a[i] < -U`: the word is
`a[i] - (-U)` plus `2^32`, a borrow, but the new carry is `+1` where the borrow needs `-1`. -/
theorem carryIn_of_neg {u ai : UInt32} (h : u &&& 0x80000000≠0) :
    ((carryIn u ai).1.toNat : ℤ)+2^32*(carryIn u ai).2.toNat=
      ai.toNat-(0-u).toNat+if ai.toNat<(0-u).toNat then 2^33 else 0 := by
  have ha := ai.toNat_lt
  have huu := (0-u).toNat_lt
  rw [carryIn,if_pos h,ltW_toNat,UInt32.toNat_sub]
  split_ifs <;> omega

/-- The reduction of `2^256`, a product below `p^2`, is not `2^256 mod p`: its second column
starts from a negative carry with a borrow. -/
theorem multiprecisionFastModP256_two_pow_256 :
    wordsVal (List.replicate 8 0++[1]++List.replicate 7 0)<wordsVal curveP256P^2 ∧
      wordsVal (multiprecisionFastModP256 (List.replicate 8 0++[1]++List.replicate 7 0))≠
        wordsVal (List.replicate 8 0++[1]++List.replicate 7 0)%wordsVal curveP256P := by
  -- the multiprecision word loops nest past the default depth
  set_option maxRecDepth 20000 in
  decide

/-- `multiprecision_mersenns_squa_mod` of `2^128`, which is below p, is not `2^256 mod p`. -/
theorem multiprecision_mersenns_squa_mod_not_reduced :
    wordsVal [0,0,0,0,1,0,0,0]<wordsVal curveP256P ∧
      wordsVal (multiprecisionMersennsSquaMod [0,0,0,0,1,0,0,0])≠
        wordsVal [0,0,0,0,1,0,0,0]*wordsVal [0,0,0,0,1,0,0,0]%wordsVal curveP256P := by
  -- the multiprecision word loops nest past the default depth
  set_option maxRecDepth 20000 in
  decide

end FastMod

end BluetoothStack.P256Arith
