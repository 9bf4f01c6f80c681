import BluetoothStack.ByteBuffer
import BluetoothStack.StepRun
import BluetoothStack.AesCmac

/-!
# AES-CMAC of the SMP signing code

`aes_cipher_msg_auth_code` computes the CMAC of RFC 4493 over a message given least significant
byte first, as SMP keeps its numbers. It copies the message into a buffer of `n` sixteen-byte
blocks with the message's last byte at the top, so that the highest block holds the first sixteen
bytes of the message read most significant first and block 0 holds its last, possibly partial,
block. The subkeys come from the cipher of the zero block; the last block is masked with K1 when
it is complete and padded and masked with K2 otherwise; the blocks are chained from the top down,
and the MAC is the top `tlen` bytes of the last cipher output.

The cipher is a parameter: `SMP_Encrypt` with a 16-byte key never fails, and what it computes is
the caller's `enc`, a function of the key and the block in the stack's byte order. The block
count `n`, the buffer size `n * 16` and the offset `len - length` are `uint16_t`; a copy or read
outside the buffer is a fault.

The loop of `cmac_aes_k_calculate` counts its passes in a `uint8_t`. Up to 254 blocks the code
computes the standard's MAC; from 255 blocks on, the counter wraps from 255 to 0 while the loop
condition still holds, and the next pass reads the block above the buffer.
-/

namespace BluetoothStack.SmpCmac

open ByteBuffer StepRun

/-- `BT_OCTET16_LEN`. -/
def btOctet16Len : ℕ := 16

/-- `const_Rb`, least significant byte first. -/
def constRb : List UInt8 := 0x87::List.replicate 15 0

/-- A block cipher in the stack's byte order: the output block for a key and a block. -/
abbrev BlockCipher := List UInt8 → List UInt8 → List UInt8

/-- `smp_xor_128`. -/
def smpXor128 (a b : List UInt8) : List UInt8 := List.zipWith (· ^^^ ·) a b

/-- `padding`: counted from the top of the block, byte `length` becomes `0x80` and the bytes
after it zero. -/
def padding (dest : List UInt8) (length : ℕ) : List UInt8 :=
  (List.range' length (btOctet16Len-length)).foldl
    (fun p i => p.set (btOctet16Len-i-1) (if i=length then 0x80 else 0)) dest

/-- The loop of `leftshift_onebit` with the bit shifted out of the byte below. -/
def leftshiftOnebitLoop : List UInt8 → UInt8 → List UInt8
  | [],_ => []
  | b::bs,overflow => (b <<< 1 ||| overflow)::leftshiftOnebitLoop bs (if b &&& 0x80≠0 then 1 else 0)

/-- `leftshift_onebit`: a 128-bit value one bit left, least significant byte first. -/
def leftshiftOnebit (input : List UInt8) : List UInt8 := leftshiftOnebitLoop input 0

/-- One subkey step of `cmac_subkey_cont`: the value one bit left, masked with `Rb` when its top
bit was set. -/
def subkeyDouble (l : List UInt8) : List UInt8 :=
  if l.getD (btOctet16Len-1) 0 &&& 0x80≠0 then smpXor128 (leftshiftOnebit l) constRb
  else leftshiftOnebit l

/-- `cmac_cb`: the text buffer, the message length and the number of blocks. -/
structure CmacCb where
  text : List UInt8
  len : ℕ
  round : ℕ

/-- `cmac_prepare_last_block`: block 0 of the buffer masked with K1 when the message ends on a
complete block, and padded after its `len % 16` bytes and masked with K2 otherwise. -/
def cmacPrepareLastBlock (cb : CmacCb) (k1 k2 : List UInt8) : Except Fault CmacCb :=
  inRange (readBytes cb.text 0 btOctet16Len) >>= fun last =>
  let last :=
    if cb.len%btOctet16Len=0 ∧ cb.len≠0 then smpXor128 last k1
    else smpXor128 (padding last (cb.len%16)) k2
  inRange (writeBytes cb.text 0 last) >>= fun text =>
  .ok {cb with text}

/-- `cmac_subkey_cont` on `L`, the cipher of the zero block: K1 and K2 by doubling. -/
def cmacSubkeyCont (cb : CmacCb) (l : List UInt8) : Except Fault CmacCb :=
  let k1 := subkeyDouble l
  let k2 := subkeyDouble k1
  cmacPrepareLastBlock cb k1 k2

/-- `cmac_generate_subkey`. -/
def cmacGenerateSubkey (enc : BlockCipher) (cb : CmacCb) (key : List UInt8) : Except Fault CmacCb :=
  cmacSubkeyCont cb (enc key (List.replicate btOctet16Len 0))

/-- The loop of `cmac_aes_k_calculate`, with its `uint8_t` counter `i` and the last cipher output
`x`. While `i <= round` it masks block `round - i` of the buffer with `x` in place
(`Mi' := Mi (+) X`) and enciphers it. `i++` wraps from 255 to 0, and block `round` is the one above
the buffer. Each pass spends one unit of `fuel`, and running out of it is `noProgress`. -/
def cmacAesKLoop (enc : BlockCipher) (key : List UInt8) (round : ℕ) :
    ℕ → UInt8 → List UInt8 → List UInt8 → Except Fault (List UInt8)
  | 0,_,_,_ => .error .noProgress
  | fuel+1,i,text,x =>
    if i.toNat ≤ round then
      inRange (readBytes text ((round-i.toNat)*btOctet16Len) btOctet16Len) >>= fun m =>
      inRange (writeBytes text ((round-i.toNat)*btOctet16Len) (smpXor128 m x)) >>= fun text =>
      cmacAesKLoop enc key round fuel (i+1) text (enc key (smpXor128 m x))
    else .ok x

/-- `cmac_aes_k_calculate`: the loop from `i = 1` and `x = 0`, then the `tlen` bytes at
`output + (BT_OCTET16_LEN - tlen)`. The loop gets a pass per block and one more, which is all it
can make on a buffer of `round` blocks: a counter that does not wrap stops after `round` passes, and
one that wraps reads above the buffer on its 256th. -/
def cmacAesKCalculate (enc : BlockCipher) (cb : CmacCb) (key : List UInt8) (tlen : ℕ) :
    Except Fault (List UInt8) :=
  cmacAesKLoop enc key cb.round (cb.round+1) 1 cb.text (List.replicate btOctet16Len 0) >>= fun output =>
  if tlen ≤ btOctet16Len then inRange (readBytes output (btOctet16Len-tlen) tlen) else .error .outOfRange

/-- `aes_cipher_msg_auth_code` of the `length` bytes of `input`: the `tlen` bytes of the MAC. -/
def aesCipherMsgAuthCode (enc : BlockCipher) (key input : List UInt8) (length tlen : ℕ) :
    Except Fault (List UInt8) :=
  let n := (length+btOctet16Len-1)/btOctet16Len%65536
  let n := if n=0 then 1 else n
  let len := n*btOctet16Len%65536
  let text := List.replicate len 0
  let diff := (len+65536-length)%65536
  (if 0<length then
    inRange (copyBytes text diff input 0 length) >>= fun text => .ok (⟨text,length,n⟩ : CmacCb)
  else .ok ⟨text,0,n⟩) >>= fun cb =>
  cmacGenerateSubkey enc cb key >>= fun cb =>
  cmacAesKCalculate enc cb key tlen

/-- A message of more than 65520 bytes: `n * 16` is 65536, which `len` holds as 0, so the buffer
is empty and the copy of the message at the wrapped offset `len - length` falls outside it. -/
theorem aes_cipher_msg_auth_code_buffer_wraps (enc : BlockCipher) (key input : List UInt8) (tlen : ℕ)
    (hlong : 65520 < input.length) (hmax : input.length ≤ 65535) :
    aesCipherMsgAuthCode enc key input input.length tlen=.error .outOfRange := by
  have hn : (input.length+btOctet16Len-1)/btOctet16Len%65536=4096 := by
    simp only [btOctet16Len]
    omega
  have hcopy : copyBytes (List.replicate (4096*btOctet16Len%65536) 0)
      ((4096*btOctet16Len%65536+65536-input.length)%65536) input 0 input.length=none :=
    copyBytes_eq_none_of_lt (by simp only [btOctet16Len,List.length_replicate]; omega)
  simp only [aesCipherMsgAuthCode,hn,show (4096 : ℕ)≠0 from by decide,if_false]
  rw [if_pos (by omega),hcopy,inRange_none,error_bind,error_bind]

theorem aes_cipher_msg_auth_code_buffer_wraps_65535 :
    65520 < (List.replicate 65535 (0 : UInt8)).length ∧ (List.replicate 65535 (0 : UInt8)).length ≤ 65535 ∧
      aesCipherMsgAuthCode (fun _ b => b) (List.replicate 16 0) (List.replicate 65535 0)
        (List.replicate 65535 (0 : UInt8)).length 16=.error .outOfRange :=
  ⟨by rw [List.length_replicate]; decide,by rw [List.length_replicate],
    aes_cipher_msg_auth_code_buffer_wraps _ _ _ 16 (by rw [List.length_replicate]; decide) (by rw [List.length_replicate])⟩

/-! ### The code computes AES-CMAC -/

section Refinement

open AesCmac

/-- `SMP_Encrypt` (`smp_encrypt_data`) with a sixteen-byte key: the key and the block are reversed
into the order `aes_encrypt` reads and the output is reversed back, so it is the cipher `e` on the
blocks the bytes encode least significant first. -/
def leCipher (e : Block → Block → Block) : BlockCipher := fun key b => leBytes (e (leBlock key) (leBlock b))

theorem length_leftshiftOnebitLoop (bs : List UInt8) (o : UInt8) : (leftshiftOnebitLoop bs o).length=bs.length := by
  induction bs generalizing o with
  | nil => rfl
  | cons b bs ih => rw [leftshiftOnebitLoop,List.length_cons,List.length_cons,ih]

/-- The loop of `leftshift_onebit` doubles the little-endian value and adds the bit shifted in,
dropping the bit shifted out at the top. -/
theorem decodeLE_leftshiftOnebitLoop (bs : List UInt8) (c : Bool) :
    decodeLE (leftshiftOnebitLoop bs (if c then 1 else 0))=(2*decodeLE bs+c.toNat)%256^bs.length := by
  induction bs generalizing c with
  | nil => rw [leftshiftOnebitLoop,decodeLE_nil,List.length_nil,pow_zero,Nat.mod_one]
  | cons b bs ih =>
    have hcarry : (if b &&& 0x80≠0 then (1 : UInt8) else 0)=if decide (b &&& 0x80≠0) then 1 else 0 := by
      simp only [decide_eq_true_eq]
    have htop : (decide (b &&& 0x80≠0)).toNat=b.toNat/128 := by
      have hb := b.toNat_lt
      by_cases h : 128 ≤ b.toNat
      · rw [decide_eq_true ((and_0x80_ne_zero_iff b).mpr h)]
        simp only [Bool.toNat_true]
        omega
      · rw [decide_eq_false (fun hne => h ((and_0x80_ne_zero_iff b).mp hne))]
        simp only [Bool.toNat_false]
        omega
    have hc := c.toNat_le
    have hsplit : 2*(b.toNat+256*decodeLE bs)+c.toNat=(2*b.toNat%256+c.toNat)+256*(2*decodeLE bs+b.toNat/128) := by
      omega
    rw [leftshiftOnebitLoop,decodeLE_cons,hcarry,ih,toNat_shiftLeft_one_or,decodeLE_cons,List.length_cons,
      pow_succ',htop,hsplit,add_mul_256_mod _ _ (by omega)]

/-- `leftshift_onebit` is the block shifted one bit left. -/
theorem leftshiftOnebit_leBytes (x : Block) : leftshiftOnebit (leBytes x)=leBytes (x <<< 1) := by
  have hlen : (leftshiftOnebit (leBytes x)).length=16 := by
    rw [leftshiftOnebit,length_leftshiftOnebitLoop,length_leBytes]
  have hloop := decodeLE_leftshiftOnebitLoop (leBytes x) false
  rw [← leBytes_leBlock hlen]
  refine congrArg leBytes (BitVec.eq_of_toNat_eq ?_)
  have hdec : decodeLE (leBytes x)=x.toNat := by
    rw [leBytes,decodeLE_encodeLE_of_lt x.isLt]
  simp only [Bool.false_eq_true,if_false,Bool.toNat_false,add_zero,length_leBytes,hdec] at hloop
  rw [leBlock,BitVec.toNat_ofNat,leftshiftOnebit,hloop,BitVec.toNat_shiftLeft,Nat.shiftLeft_eq]
  norm_num [Nat.mul_comm]

theorem smpXor128_leBytes (x y : Block) : smpXor128 (leBytes x) (leBytes y)=leBytes (x ^^^ y) := by
  have hlen : (smpXor128 (leBytes x) (leBytes y)).length=16 := by simp [smpXor128]
  rw [← leBytes_leBlock hlen,smpXor128,leBlock_zipWith_xor (by simp),leBlock_leBytes,leBlock_leBytes]

theorem constRb_eq_leBytes : constRb=leBytes 0x87 := by decide

/-- `cmac_subkey_cont`'s doubling is the standard's. -/
theorem subkeyDouble_leBytes (l : Block) : subkeyDouble (leBytes l)=leBytes (dbl l) := by
  have h15 : btOctet16Len-1=15 := rfl
  unfold subkeyDouble dbl
  rw [h15]
  by_cases hm : l.msb=true
  · rw [if_pos ((msb_iff_getD_leBytes l).mp hm),if_pos hm,leftshiftOnebit_leBytes,constRb_eq_leBytes,
      smpXor128_leBytes]
  · rw [if_neg (fun h => hm ((msb_iff_getD_leBytes l).mpr h)),if_neg hm,leftshiftOnebit_leBytes]

/-- The passes of `padding` after the first write zeros from the top down. -/
theorem foldl_padding_zero (length : ℕ) (c : ℕ) :
    ∀ (s : ℕ) (A B : List UInt8),A.length=c → s+c=btOctet16Len → length < s →
      (List.range' s c).foldl (fun p i => p.set (btOctet16Len-i-1) (if i=length then 0x80 else 0)) (A++B)=
        List.replicate c 0++B := by
  induction c with
  | zero =>
    intro s A B hA _ _
    rw [List.length_eq_zero_iff.mp hA]
    rfl
  | succ c ih =>
    intro s A B hA hs hlt
    obtain ⟨A',a,rfl⟩ : ∃ A' a,A=A'++[a] := ⟨A.dropLast,A.getLast (List.ne_nil_of_length_eq_add_one hA),
      (List.dropLast_append_getLast _).symm⟩
    have hA' : A'.length=c := by simpa using hA
    have hpos : btOctet16Len-s-1=A'.length := by omega
    have hset : (A'++[a]++B).set (btOctet16Len-s-1) (if s=length then 0x80 else 0)=A'++(0::B) := by
      rw [hpos,if_neg (by omega),List.append_assoc,List.singleton_append,List.set_append_right _ _ le_rfl,
        Nat.sub_self,List.set_cons_zero]
    rw [List.range'_succ,List.foldl_cons,hset,ih (s+1) A' (0::B) hA' (by omega) (by omega),
      List.replicate_succ',List.append_assoc,List.singleton_append]

/-- `padding` of a block whose top `length` bytes hold the message: `0x80` right below them, and
zeros under it. -/
theorem padding_replicate_append {d : List UInt8} (hd : d.length < 16) :
    padding (List.replicate (16-d.length) 0++d) d.length=List.replicate (15-d.length) 0++0x80::d := by
  have hcount : btOctet16Len-d.length=(15-d.length)+1 := by
    simp only [btOctet16Len]
    omega
  have hfirst : (List.replicate (16-d.length) 0++d).set (btOctet16Len-d.length-1) (if d.length=d.length then 0x80 else 0)=
      List.replicate (15-d.length) 0++(0x80::d) := by
    rw [show 16-d.length=(15-d.length)+1 by omega,List.replicate_succ',List.append_assoc,List.singleton_append,
      show btOctet16Len-d.length-1=(List.replicate (15-d.length) (0 : UInt8)).length by simp [btOctet16Len]; omega,
      List.set_append_right _ _ le_rfl,Nat.sub_self,List.set_cons_zero,if_pos rfl]
  rw [padding,hcount,List.range'_succ,List.foldl_cons,hfirst,
    foldl_padding_zero d.length (15-d.length) (d.length+1) _ _ (List.length_replicate) (by simp [btOctet16Len]; omega)
      (by omega)]

/-- The standard's padding, in the stack's byte order. -/
theorem reverse_pad (m : List UInt8) : (pad m).reverse=List.replicate (15-m.length) 0++0x80::m.reverse := by
  simp [pad]

/-- The loop as it runs while its counter does not wrap: the `r` blocks below block `r`, from the
top down, each masked with the last output and enciphered. -/
def blockChain (enc : BlockCipher) (key text : List UInt8) : ℕ → List UInt8 → Except Fault (List UInt8)
  | 0,x => .ok x
  | r+1,x =>
    inRange (readBytes text (r*btOctet16Len) btOctet16Len) >>= fun m =>
    blockChain enc key text r (enc key (smpXor128 m x))

theorem length_smpXor128_le (a b : List UInt8) : (smpXor128 a b).length ≤ a.length := by
  simp [smpXor128]

/-- A write at block `r` or above leaves the chain below it as it was. -/
theorem blockChain_writeBytes {enc : BlockCipher} {key text src text' : List UInt8} {pos r : ℕ}
    (hw : writeBytes text pos src=some text') (hpos : r*btOctet16Len ≤ pos) (x : List UInt8) :
    blockChain enc key text' r x=blockChain enc key text r x := by
  induction r generalizing x with
  | zero => rfl
  | succ r ih =>
    have hread := readBytes_writeBytes_of_le (a := r*btOctet16Len) (k := btOctet16Len) hw
      (by rw [Nat.succ_mul] at hpos; exact hpos)
    simp only [blockChain,hread]
    cases readBytes text (r*btOctet16Len) btOctet16Len with
    | none => rfl
    | some m => exact ih (by rw [Nat.succ_mul] at hpos; omega) _

/-- The counter `round + 1 - r`, below 256, as a byte. -/
theorem toNat_ofNat_counter {round r : ℕ} (hround : round ≤ 254) :
    (UInt8.ofNat (round+1-r)).toNat=round+1-r := by
  rw [UInt8.toNat_ofNat',Nat.mod_eq_of_lt (by omega)]

theorem ofNat_add_one (n : ℕ) : UInt8.ofNat n+1=UInt8.ofNat (n+1) := by
  rw [UInt8.ofNat_add]
  rfl

/-- While the counter has not wrapped, the loop with `r` blocks to go is the chain over them: from
`i = round + 1 - r`, a round of at most 254 keeps `i` below 256 up to the exit, and what the loop
writes back lies above the blocks still to be read. -/
theorem cmacAesKLoop_eq_blockChain (enc : BlockCipher) (key : List UInt8) {round : ℕ} (hround : round ≤ 254) :
    ∀ (r fuel : ℕ) (text x : List UInt8),r ≤ round → r < fuel →
      cmacAesKLoop enc key round fuel (UInt8.ofNat (round+1-r)) text x=blockChain enc key text r x
  | 0,fuel+1,text,x,_,_ => by
    -- `i = round + 1` ends the loop
    rw [cmacAesKLoop,if_neg (by rw [toNat_ofNat_counter hround]; omega)]
    rfl
  | r+1,fuel+1,text,x,hr,hfuel => by
    have hblock : round-(UInt8.ofNat (round+1-(r+1))).toNat=r := by
      rw [toNat_ofNat_counter hround]
      omega
    have hnext : UInt8.ofNat (round+1-(r+1))+1=UInt8.ofNat (round+1-r) := by
      rw [ofNat_add_one,show round+1-(r+1)+1=round+1-r by omega]
    rw [cmacAesKLoop,if_pos (by rw [toNat_ofNat_counter hround]; omega),hblock,blockChain]
    cases hm : readBytes text (r*btOctet16Len) btOctet16Len with
    | none => rfl
    | some m =>
      -- the block read is in the buffer, so the write of its mask is too
      obtain ⟨hmlen,hle⟩ := readBytes_length hm
      have hw := @writeBytes_eq_some text (smpXor128 m x) (r*btOctet16Len)
        (by have := length_smpXor128_le m x; omega)
      rw [inRange_some,ok_bind,hw,inRange_some,ok_bind,hnext,
        cmacAesKLoop_eq_blockChain enc key hround r fuel _ _ (by omega) (by omega),blockChain_writeBytes hw le_rfl]
      rfl

/-- On a buffer of `round` blocks, `round` being 255 or more, the loop from `i = 256 - r` runs the
counter up to 255, reading blocks inside the buffer, then wraps it to 0 and reads block `round`,
above the buffer. -/
theorem cmacAesKLoop_wraps (enc : BlockCipher) (key : List UInt8) {round : ℕ} (hround : 255 ≤ round) :
    ∀ (r fuel : ℕ) (text x : List UInt8),r ≤ 255 → r < fuel → text.length=round*btOctet16Len →
      cmacAesKLoop enc key round fuel (UInt8.ofNat (256-r)) text x=.error .outOfRange
  | 0,fuel+1,text,x,_,_,hlen => by
    rw [cmacAesKLoop,show (UInt8.ofNat (256-0)).toNat=0 from rfl,if_pos (Nat.zero_le _),Nat.sub_zero,
      readBytes_eq_none (by rw [hlen]; simp [btOctet16Len]),inRange_none,error_bind]
  | r+1,fuel+1,text,x,hr,hfuel,hlen => by
    have hi : (UInt8.ofNat (256-(r+1))).toNat=255-r := by
      rw [UInt8.toNat_ofNat',Nat.mod_eq_of_lt (by omega)]
      omega
    have hnext : UInt8.ofNat (256-(r+1))+1=UInt8.ofNat (256-r) := by
      rw [ofNat_add_one,show 256-(r+1)+1=256-r by omega]
    -- blocks `round - 255` up to `round - 1` lie inside the buffer
    have hin : (round-(255-r))*btOctet16Len+btOctet16Len ≤ text.length := by
      rw [hlen]
      simp only [btOctet16Len]
      omega
    obtain ⟨hmlen,-⟩ := readBytes_length (readBytes_eq_some hin)
    have hw := @writeBytes_eq_some text
      (smpXor128 ((text.drop ((round-(255-r))*btOctet16Len)).take btOctet16Len) x) ((round-(255-r))*btOctet16Len)
      (by have := length_smpXor128_le ((text.drop ((round-(255-r))*btOctet16Len)).take btOctet16Len) x; omega)
    obtain ⟨hlen',-⟩ := writeBytes_length hw
    rw [cmacAesKLoop,hi,if_pos (by omega),readBytes_eq_some hin,inRange_some,ok_bind,hw,inRange_some,ok_bind,
      hnext]
    exact cmacAesKLoop_wraps enc key hround r fuel _ _ (by omega) (by omega) (hlen'.trans hlen)

/-- The chain reads the blocks below `r` only. -/
theorem blockChain_append (enc : BlockCipher) (key : List UInt8) {text : List UInt8} (tail : List UInt8)
    (r : ℕ) (x : List UInt8) (hr : r*btOctet16Len ≤ text.length) :
    blockChain enc key (text++tail) r x=blockChain enc key text r x := by
  induction r generalizing x with
  | zero => rfl
  | succ r ih =>
    have hread : readBytes (text++tail) (r*btOctet16Len) btOctet16Len=readBytes text (r*btOctet16Len) btOctet16Len := by
      have htake := @readBytes_take (text++tail) (r*btOctet16Len) btOctet16Len text.length
        (by rw [Nat.succ_mul] at hr; exact hr)
      rw [List.take_left' rfl] at htake
      exact htake.symm
    simp only [blockChain,hread]
    cases readBytes text (r*btOctet16Len) btOctet16Len with
    | none => rfl
    | some m => exact ih _ (by rw [Nat.succ_mul] at hr; omega)

/-- Above `j` blocks of `low`, the buffer holds the blocks of `m` from the top down, each in the
stack's byte order: the chain over them is the standard's chain over `m`. -/
theorem blockChain_chain (e : Block → Block → Block) (key low : List UInt8) (j : ℕ) (hlow : low.length=16*j)
    (k : ℕ) : ∀ (m : List UInt8) (x : Block),m.length=16*k →
      blockChain (leCipher e) key (low++m.reverse) (j+k) (leBytes x)=
        blockChain (leCipher e) key low j (leBytes (chain (e (leBlock key)) x m k)) := by
  induction k with
  | zero =>
    intro m x hm
    rw [List.length_eq_zero_iff.mp hm,List.reverse_nil,List.append_nil,Nat.add_zero]
    rfl
  | succ k ih =>
    intro m x hm
    have hsplit : m.reverse=(m.drop 16).reverse++(m.take 16).reverse := by
      rw [← List.reverse_append,List.take_append_drop]
    have hlen1 : (m.take 16).reverse.length=btOctet16Len := by simp [btOctet16Len]; omega
    have hpre : (low++(m.drop 16).reverse).length=(j+k)*btOctet16Len := by
      simp [hlow,btOctet16Len]
      omega
    have hread : readBytes (low++(m.drop 16).reverse++(m.take 16).reverse) ((j+k)*btOctet16Len) btOctet16Len=
        some (m.take 16).reverse := by
      have := readBytes_append_middle (low++(m.drop 16).reverse) (m.take 16).reverse []
      rwa [List.append_nil,hpre,hlen1] at this
    have hxor : leCipher e key (smpXor128 (m.take 16).reverse (leBytes x))=
        leBytes (e (leBlock key) (x ^^^ blockOf (m.take 16))) := by
      rw [leCipher,smpXor128,leBlock_zipWith_xor (by simp; omega),leBlock_reverse,leBlock_leBytes,BitVec.xor_comm]
    rw [hsplit,← List.append_assoc,← Nat.add_assoc,blockChain,hread,inRange_some,ok_bind,
      blockChain_append _ _ _ _ _ (by rw [hpre]),hxor,ih (m.drop 16) _ (by simp [hm]; omega),chain]

/-- Sixteen bytes in the standard's order, reversed, are the bytes of their block in the stack's. -/
theorem reverse_eq_leBytes {bs : List UInt8} (h : bs.length=16) : bs.reverse=leBytes (blockOf bs) := by
  rw [← leBlock_reverse,leBytes_leBlock (by rw [List.length_reverse,h])]

/-- `cmac_generate_subkey` with `SMP_Encrypt`: K1 and K2 are the standard's subkeys. -/
theorem cmacGenerateSubkey_leCipher (e : Block → Block → Block) (cb : CmacCb) (key : List UInt8) :
    cmacGenerateSubkey (leCipher e) cb key=
      cmacPrepareLastBlock cb (leBytes (dbl (e (leBlock key) 0))) (leBytes (dbl (dbl (e (leBlock key) 0)))) := by
  rw [cmacGenerateSubkey,cmacSubkeyCont,leCipher,leBlock_replicate_zero,subkeyDouble_leBytes,subkeyDouble_leBytes]

/-- `cmac_prepare_last_block` on a buffer whose lowest block holds the message's last block `Lst`
at its top: the block the standard masks, in the stack's byte order. -/
theorem cmacPrepareLastBlock_eq (k1 k2 : Block) {Lst rest : List UInt8} {len n : ℕ} (hL : Lst.length ≤ 16)
    (hmod : len%16=Lst.length%16) (hfull : (len%16=0 ∧ len≠0) ↔ Lst.length=16) :
    cmacPrepareLastBlock ⟨List.replicate (16-Lst.length) 0++Lst.reverse++rest,len,n⟩ (leBytes k1) (leBytes k2)=
      .ok ⟨leBytes (if Lst.length=16 then blockOf Lst ^^^ k1 else blockOf (pad Lst) ^^^ k2)++rest,len,n⟩ := by
  have hfirst : (List.replicate (16-Lst.length) 0++Lst.reverse).length=btOctet16Len := by
    simp [btOctet16Len]
    omega
  have hread : readBytes (List.replicate (16-Lst.length) 0++Lst.reverse++rest) 0 btOctet16Len=
      some (List.replicate (16-Lst.length) 0++Lst.reverse) := by
    have := readBytes_append_middle [] (List.replicate (16-Lst.length) 0++Lst.reverse) rest
    rwa [List.nil_append,List.length_nil,hfirst] at this
  -- the block the code builds is the masked block of the standard
  have hlast : (if len%btOctet16Len=0 ∧ len≠0 then smpXor128 (List.replicate (16-Lst.length) 0++Lst.reverse) (leBytes k1)
      else smpXor128 (padding (List.replicate (16-Lst.length) 0++Lst.reverse) (len%16)) (leBytes k2))=
      leBytes (if Lst.length=16 then blockOf Lst ^^^ k1 else blockOf (pad Lst) ^^^ k2) := by
    rw [show btOctet16Len=16 from rfl]
    by_cases hc : Lst.length=16
    · rw [if_pos (hfull.mpr hc),if_pos hc,hc,Nat.sub_self,List.replicate_zero,List.nil_append,reverse_eq_leBytes hc,
        smpXor128_leBytes]
    · have hlt : Lst.length < 16 := by omega
      have hpad : (pad Lst).length=16 := by simp [pad]; omega
      rw [if_neg (fun h => hc (hfull.mp h)),if_neg hc,hmod,Nat.mod_eq_of_lt hlt,
        ← @List.length_reverse _ Lst,padding_replicate_append (by rwa [List.length_reverse]),
        List.length_reverse,← reverse_pad,reverse_eq_leBytes hpad,smpXor128_leBytes]
  have hwrite : writeBytes (List.replicate (16-Lst.length) 0++Lst.reverse++rest) 0
      (leBytes (if Lst.length=16 then blockOf Lst ^^^ k1 else blockOf (pad Lst) ^^^ k2))=
      some (leBytes (if Lst.length=16 then blockOf Lst ^^^ k1 else blockOf (pad Lst) ^^^ k2)++rest) := by
    have := writeBytes_replace [] (List.replicate (16-Lst.length) 0++Lst.reverse)
      (leBytes (if Lst.length=16 then blockOf Lst ^^^ k1 else blockOf (pad Lst) ^^^ k2)) rest
      (by rw [hfirst,length_leBytes]; rfl)
    rwa [List.nil_append,List.length_nil,List.nil_append] at this
  rw [cmacPrepareLastBlock,hread,inRange_some,ok_bind]
  simp only
  rw [hlast,hwrite,inRange_some,ok_bind]

/-- `cmac_aes_k_calculate` over the masked last block and the complete blocks `F` above it: the
standard's chain, and the top `tlen` bytes of the tag. -/
theorem cmacAesKCalculate_eq (e : Block → Block → Block) (key : List UInt8) (last : Block) {F : List UInt8}
    {len n tlen : ℕ} (hF : F.length=16*(n-1)) (hn : 0 < n) (hn254 : n ≤ 254) (htlen : tlen ≤ 16) :
    cmacAesKCalculate (leCipher e) ⟨leBytes last++F.reverse,len,n⟩ key tlen=
      .ok ((leBytes (e (leBlock key) (chain (e (leBlock key)) 0 F (n-1) ^^^ last))).drop (16-tlen)) := by
  have hzero : List.replicate btOctet16Len (0 : UInt8)=leBytes 0 := by decide
  -- from `i = 1` the counter stays below 256, and the loop is the chain over the `n` blocks
  have hloop := cmacAesKLoop_eq_blockChain (leCipher e) key hn254 n (n+1) (leBytes last++F.reverse)
    (leBytes 0) le_rfl (by omega)
  rw [show n+1-n=1 by omega] at hloop
  have hchain := blockChain_chain e key (leBytes last) 1 (length_leBytes last) (n-1) F 0 hF
  rw [show 1+(n-1)=n by omega] at hchain
  have hread : readBytes (leBytes last) (0*btOctet16Len) btOctet16Len=some (leBytes last) := by
    rw [readBytes_eq_some (by simp [btOctet16Len]),Nat.zero_mul,List.drop_zero,
      List.take_of_length_le (by simp [btOctet16Len])]
  have hout : ∀ x : Block,readBytes (leBytes x) (btOctet16Len-tlen) tlen=some ((leBytes x).drop (16-tlen)) := by
    intro x
    rw [readBytes_eq_some (by simp [btOctet16Len]; omega),List.take_of_length_le (by simp [btOctet16Len]; omega)]
    rfl
  rw [cmacAesKCalculate,hzero,show (1 : UInt8)=UInt8.ofNat 1 from rfl,hloop,hchain,blockChain,hread,inRange_some,
    ok_bind,blockChain,ok_bind,if_pos (show tlen ≤ btOctet16Len from htlen),leCipher,smpXor128_leBytes,
    leBlock_leBytes,BitVec.xor_comm,hout,inRange_some]

/-- On a buffer of 255 blocks or more the loop wraps its counter and reads above the buffer. -/
theorem cmacAesKCalculate_wraps (enc : BlockCipher) (cb : CmacCb) (key : List UInt8) (tlen : ℕ)
    (hround : 255 ≤ cb.round) (hlen : cb.text.length=cb.round*btOctet16Len) :
    cmacAesKCalculate enc cb key tlen=.error .outOfRange := by
  rw [cmacAesKCalculate,show (1 : UInt8)=UInt8.ofNat (256-255) from rfl,
    cmacAesKLoop_wraps enc key hround 255 (cb.round+1) cb.text _ le_rfl (by omega) hlen,error_bind]

theorem length_padding (dest : List UInt8) (length : ℕ) : (padding dest length).length=dest.length := by
  unfold padding
  generalize List.range' length (btOctet16Len-length)=is
  induction is generalizing dest with
  | nil => rfl
  | cons i is ih => rw [List.foldl_cons,ih,List.length_set]

/-- `cmac_generate_subkey` on a buffer of a block or more succeeds, and keeps the buffer's length
and the round count. -/
theorem cmacGenerateSubkey_ok (enc : BlockCipher) (cb : CmacCb) (key : List UInt8)
    (hlen : btOctet16Len ≤ cb.text.length) :
    ∃ cb',cmacGenerateSubkey enc cb key=.ok cb' ∧ cb'.text.length=cb.text.length ∧ cb'.round=cb.round := by
  have hread := @readBytes_eq_some cb.text 0 btOctet16Len (by omega)
  obtain ⟨hblock,-⟩ := readBytes_length hread
  -- a block no longer than the one read is written back at the bottom of the buffer
  have hwrite : ∀ src : List UInt8,src.length ≤ btOctet16Len →
      ∃ cb',(inRange (writeBytes cb.text 0 src) >>= fun text => Except.ok {cb with text})=.ok cb' ∧
        cb'.text.length=cb.text.length ∧ cb'.round=cb.round := by
    intro src hsrc
    obtain ⟨out,hw⟩ : ∃ out,writeBytes cb.text 0 src=some out := ⟨_,writeBytes_eq_some (by omega)⟩
    exact ⟨{cb with text := out},by rw [hw,inRange_some,ok_bind],(writeBytes_length hw).1,rfl⟩
  rw [cmacGenerateSubkey,cmacSubkeyCont,cmacPrepareLastBlock,hread,inRange_some,ok_bind]
  dsimp only
  split_ifs
  · exact hwrite _ ((length_smpXor128_le _ _).trans hblock.le)
  · exact hwrite _ ((length_smpXor128_le _ _).trans (by rw [length_padding]; exact hblock.le))

/-- A message of at most 65520 bytes: no count wraps, and the buffer holds the message at its top with
zeros below. -/
theorem aesCipherMsgAuthCode_layout (enc : BlockCipher) (key input : List UInt8) (tlen : ℕ)
    (hlen : input.length ≤ 65520) :
    aesCipherMsgAuthCode enc key input input.length tlen=
      (cmacGenerateSubkey enc ⟨List.replicate (16*blockCount input.length-input.length) 0++input,input.length,
        blockCount input.length⟩ key >>= fun cb => cmacAesKCalculate enc cb key tlen) := by
  have hn : (input.length+btOctet16Len-1)/btOctet16Len%65536=(input.length+15)/16 := by
    simp only [btOctet16Len]
    omega
  have hcount : (if (input.length+15)/16=0 then 1 else (input.length+15)/16)=blockCount input.length := by
    unfold blockCount
    split <;> omega
  have hbuf : blockCount input.length*btOctet16Len%65536=16*blockCount input.length := by
    unfold blockCount
    simp only [btOctet16Len]
    omega
  have hdiff : (16*blockCount input.length+65536-input.length)%65536=16*blockCount input.length-input.length := by
    unfold blockCount
    omega
  simp only [aesCipherMsgAuthCode,hn,hcount,hbuf,hdiff]
  by_cases hpos : 0 < input.length
  · -- the copy of `memcpy(&cmac_cb.text[diff], input, length)` lands at the top
    have hsplit : List.replicate (16*blockCount input.length) (0 : UInt8)=
        List.replicate (16*blockCount input.length-input.length) 0++List.replicate input.length 0++[] := by
      rw [List.append_nil,← List.replicate_add]
      congr 1
      unfold blockCount
      omega
    have hcopy : copyBytes (List.replicate (16*blockCount input.length) 0) (16*blockCount input.length-input.length)
        input 0 input.length=some (List.replicate (16*blockCount input.length-input.length) 0++input) := by
      have hw := writeBytes_replace (List.replicate (16*blockCount input.length-input.length) (0 : UInt8))
        (List.replicate input.length 0) input [] (List.length_replicate)
      rw [← hsplit,List.length_replicate,List.append_nil] at hw
      rw [copyBytes,readBytes_eq_some (by omega),List.drop_zero,List.take_length,Option.bind_some,hw]
    rw [if_pos hpos,hcopy,inRange_some,ok_bind]
    rfl
  · have hnil : input=[] := List.length_eq_zero_iff.mp (by omega)
    subst hnil
    rfl

/-- A message of at most 254 blocks: the signature is the top `tlen` bytes of the standard's tag over
the message in the standard's order. -/
theorem aesCipherMsgAuthCode_eq_cmac (e : Block → Block → Block) (key input : List UInt8) (tlen : ℕ)
    (hlen : input.length ≤ 4064) (htlen : tlen ≤ 16) :
    aesCipherMsgAuthCode (leCipher e) key input input.length tlen=
      .ok ((leBytes (aesCmac e (leBlock key) input.reverse)).drop (16-tlen)) := by
  have hcount : 0 < blockCount input.length := by
    unfold blockCount
    omega
  have hcover : 16*(blockCount input.length-1) ≤ input.length ∧ input.length ≤ 16*blockCount input.length := by
    unfold blockCount
    omega
  -- the message in the standard's order: its complete blocks, and the last block
  have hM : input.reverse.length=input.length := List.length_reverse
  have hF : (input.reverse.take (16*(blockCount input.length-1))).length=16*(blockCount input.length-1) := by
    rw [List.length_take,hM]
    omega
  have hL : (input.reverse.drop (16*(blockCount input.length-1))).length=
      input.length-16*(blockCount input.length-1) := by
    rw [List.length_drop,hM]
  have htext : List.replicate (16*blockCount input.length-input.length) 0++input=
      List.replicate (16-(input.reverse.drop (16*(blockCount input.length-1))).length) 0++
        (input.reverse.drop (16*(blockCount input.length-1))).reverse++
        (input.reverse.take (16*(blockCount input.length-1))).reverse := by
    rw [hL,List.append_assoc,← List.reverse_append,List.take_append_drop,List.reverse_reverse]
    congr 2
    omega
  have hlast := @cmacPrepareLastBlock_eq (dbl (e (leBlock key) 0)) (dbl (dbl (e (leBlock key) 0)))
    (input.reverse.drop (16*(blockCount input.length-1))) (input.reverse.take (16*(blockCount input.length-1))).reverse
    input.length (blockCount input.length) (by rw [hL]; omega) (by rw [hL]; omega)
    (by rw [hL]; unfold blockCount; omega)
  rw [aesCipherMsgAuthCode_layout _ _ _ _ (by omega),htext,cmacGenerateSubkey_leCipher,hlast,ok_bind,
    cmacAesKCalculate_eq e key _ hF hcount (by unfold blockCount; omega) htlen,aesCmac,hM,chain_take]

/-- A message of 255 blocks or more, up to 65520 bytes: the buffer holds it, but the loop's
`uint8_t` counter wraps on the 256th pass and reads the block above the buffer. -/
theorem aesCipherMsgAuthCode_counter_wraps (enc : BlockCipher) (key input : List UInt8) (tlen : ℕ)
    (hlong : 4064 < input.length) (hlen : input.length ≤ 65520) :
    aesCipherMsgAuthCode enc key input input.length tlen=.error .outOfRange := by
  have hcount : 255 ≤ blockCount input.length := by
    unfold blockCount
    omega
  have htext : (List.replicate (16*blockCount input.length-input.length) (0 : UInt8)++input).length=
      blockCount input.length*btOctet16Len := by
    rw [List.length_append,List.length_replicate]
    unfold blockCount
    simp only [btOctet16Len]
    omega
  obtain ⟨cb,hcb,hcblen,hround⟩ := cmacGenerateSubkey_ok enc
    ⟨List.replicate (16*blockCount input.length-input.length) 0++input,input.length,blockCount input.length⟩ key
    (by simp only at htext ⊢; rw [htext]; simp only [btOctet16Len]; omega)
  simp only at hcblen hround
  rw [aesCipherMsgAuthCode_layout _ _ _ _ hlen,hcb,ok_bind,
    cmacAesKCalculate_wraps enc cb key tlen (hround ▸ hcount) (by rw [hcblen,hround,htext])]

/-- `aes_cipher_msg_auth_code` with `SMP_Encrypt`, for every cipher, key, message of at most 65520
bytes given least significant byte first, and MAC length up to sixteen: up to 254 blocks the
signature is the top `tlen` bytes of the standard's tag over the message in the standard's order;
from 255 blocks on, the block counter of `cmac_aes_k_calculate` wraps and the loop reads above the
buffer. -/
theorem aes_cipher_msg_auth_code_computes_cmac_until_counter_wraps (e : Block → Block → Block)
    (key input : List UInt8) (tlen : ℕ) (hlen : input.length ≤ 65520) (htlen : tlen ≤ 16) :
    (input.length ≤ 4064 → aesCipherMsgAuthCode (leCipher e) key input input.length tlen=
      .ok ((leBytes (aesCmac e (leBlock key) input.reverse)).drop (16-tlen))) ∧
    (4064 < input.length → aesCipherMsgAuthCode (leCipher e) key input input.length tlen=.error .outOfRange) :=
  ⟨fun hshort => aesCipherMsgAuthCode_eq_cmac e key input tlen hshort htlen,
    fun hlong => aesCipherMsgAuthCode_counter_wraps _ key input tlen hlong hlen⟩

theorem aes_cipher_msg_auth_code_computes_cmac_three_bytes :
    [(1 : UInt8),2,3].length ≤ 65520 ∧ 8 ≤ 16 ∧
      aesCipherMsgAuthCode (leCipher fun k b => k ^^^ b) (List.replicate 16 7) [1,2,3] [(1 : UInt8),2,3].length 8=
        .ok ((leBytes (aesCmac (fun k b => k ^^^ b) (leBlock (List.replicate 16 7)) [(1 : UInt8),2,3].reverse)).drop (16-8)) :=
  ⟨by decide,by decide,
    (aes_cipher_msg_auth_code_computes_cmac_until_counter_wraps _ _ _ 8 (by decide) (by decide)).1 (by decide)⟩

end Refinement

end BluetoothStack.SmpCmac
