import Mathlib

/-!
# Byte fields and bounds-checked byte buffers

A buffer is the list of its allocated bytes. Multi-byte fields are read and
written little-endian (the stream macros of the stack) or big-endian (a byte
swap before a little-endian write). Every access is bounds checked: a read or
a write that leaves the allocation returns `none`, which the models above
report as an out-of-range fault. Nothing here names a Bluetooth structure.
-/

namespace BluetoothStack.ByteBuffer

/-- The `w` little-endian bytes of `n`; bits above `8*w` are dropped. -/
def encodeLE : ℕ → ℕ → List UInt8
  | 0,_ => []
  | w+1,n => UInt8.ofNat (n%256)::encodeLE w (n/256)

/-- The natural value of little-endian bytes. -/
def decodeLE : List UInt8 → ℕ
  | [] => 0
  | b::bs => b.toNat+256*decodeLE bs

/-- The `w` big-endian bytes of `n`, most significant first. -/
def encodeBE (w n : ℕ) : List UInt8 := (encodeLE w n).reverse

/-- The natural value of big-endian bytes. -/
def decodeBE (bs : List UInt8) : ℕ := decodeLE bs.reverse

@[simp] theorem encodeLE_zero (n : ℕ) : encodeLE 0 n=[] := rfl

@[simp] theorem encodeLE_succ (w n : ℕ) :
    encodeLE (w+1) n=UInt8.ofNat (n%256)::encodeLE w (n/256) := rfl

@[simp] theorem decodeLE_nil : decodeLE []=0 := rfl

@[simp] theorem decodeLE_cons (b : UInt8) (bs : List UInt8) :
    decodeLE (b::bs)=b.toNat+256*decodeLE bs := rfl

@[simp] theorem length_encodeLE (w n : ℕ) : (encodeLE w n).length=w := by
  induction w generalizing n with
  | zero => rfl
  | succ w ih => simp only [encodeLE_succ,List.length_cons,ih]

@[simp] theorem length_encodeBE (w n : ℕ) : (encodeBE w n).length=w := by
  simp only [encodeBE,List.length_reverse,length_encodeLE]

/-- Decoding the encoding keeps the value modulo the field width. -/
theorem decodeLE_encodeLE (w n : ℕ) : decodeLE (encodeLE w n)=n%256^w := by
  induction w generalizing n with
  | zero => simp only [encodeLE_zero,decodeLE_nil,pow_zero,Nat.mod_one]
  | succ w ih =>
    have hb : (UInt8.ofNat (n%256)).toNat=n%256 := by
      rw [UInt8.toNat_ofNat']
      omega
    rw [encodeLE_succ,decodeLE_cons,ih,hb,pow_succ',Nat.mod_mul]

/-- A value that fits the field is recovered exactly. -/
theorem decodeLE_encodeLE_of_lt {w n : ℕ} (h : n<256^w) : decodeLE (encodeLE w n)=n := by
  rw [decodeLE_encodeLE,Nat.mod_eq_of_lt h]

/-- Big-endian fields round trip like little-endian ones. -/
theorem decodeBE_encodeBE_of_lt {w n : ℕ} (h : n<256^w) : decodeBE (encodeBE w n)=n := by
  rw [decodeBE,encodeBE,List.reverse_reverse,decodeLE_encodeLE_of_lt h]

/-- Every decoded value fits the width of its bytes. -/
theorem decodeLE_lt (bs : List UInt8) : decodeLE bs<256^bs.length := by
  induction bs with
  | nil => simp only [decodeLE_nil,List.length_nil,pow_zero,Nat.lt_one_iff]
  | cons b bs ih =>
    have hb : b.toNat<256 := b.toNat_lt
    rw [decodeLE_cons,List.length_cons,pow_succ]
    omega

/-- Encoding the decoded value gives the bytes back. -/
theorem encodeLE_decodeLE (bs : List UInt8) : encodeLE bs.length (decodeLE bs)=bs := by
  induction bs with
  | nil => rfl
  | cons b bs ih =>
    have hb : b.toNat<256 := b.toNat_lt
    rw [List.length_cons,encodeLE_succ,decodeLE_cons]
    congr 1
    · rw [Nat.add_mul_mod_self_left,Nat.mod_eq_of_lt hb,UInt8.ofNat_toNat]
    · rw [Nat.add_mul_div_left _ _ (by norm_num),Nat.div_eq_of_lt hb,Nat.zero_add,ih]

/-- Encoding the decoded value gives the bytes back, big-endian. -/
theorem encodeBE_decodeBE (bs : List UInt8) : encodeBE bs.length (decodeBE bs)=bs := by
  rw [encodeBE,decodeBE,← List.length_reverse,encodeLE_decodeLE,List.reverse_reverse]

/-- Big-endian fields keep the value modulo the field width. -/
theorem decodeBE_encodeBE (w n : ℕ) : decodeBE (encodeBE w n)=n%256^w := by
  rw [decodeBE,encodeBE,List.reverse_reverse,decodeLE_encodeLE]

/-- The bytes after a little-endian prefix weigh `256` per prefix byte. -/
theorem decodeLE_append (xs ys : List UInt8) :
    decodeLE (xs++ys)=decodeLE xs+256^xs.length*decodeLE ys := by
  induction xs with
  | nil => simp only [List.nil_append,decodeLE_nil,List.length_nil,pow_zero,Nat.one_mul,Nat.zero_add]
  | cons x xs ih =>
    rw [List.cons_append,decodeLE_cons,decodeLE_cons,ih,List.length_cons,pow_succ]
    ring

/-- The first byte of a big-endian field is its most significant. -/
theorem decodeBE_cons (b : UInt8) (bs : List UInt8) :
    decodeBE (b::bs)=b.toNat*256^bs.length+decodeBE bs := by
  rw [decodeBE,List.reverse_cons,decodeLE_append,decodeLE_cons,decodeLE_nil,List.length_reverse,decodeBE]
  ring

/-- Bounds-checked read of the `n` bytes starting at `pos`. -/
def readBytes (buf : List UInt8) (pos n : ℕ) : Option (List UInt8) :=
  if pos+n ≤ buf.length then some ((buf.drop pos).take n) else none

/-- Bounds-checked read of a `w`-byte little-endian field at `pos`. -/
def readLE (buf : List UInt8) (pos w : ℕ) : Option ℕ := (readBytes buf pos w).map decodeLE

/-- Bounds-checked read of a `w`-byte big-endian field at `pos`. -/
def readBE (buf : List UInt8) (pos w : ℕ) : Option ℕ := (readBytes buf pos w).map decodeBE

/-- Bounds-checked overwrite of the bytes at `pos` by `src`, keeping the length. -/
def writeBytes (buf : List UInt8) (pos : ℕ) (src : List UInt8) : Option (List UInt8) :=
  if pos+src.length ≤ buf.length then some (buf.take pos++src++buf.drop (pos+src.length)) else none

/-- Bounds-checked `memcpy` of `n` bytes from `src` at `srcPos` into `dst` at `dstPos`. -/
def copyBytes (dst : List UInt8) (dstPos : ℕ) (src : List UInt8) (srcPos n : ℕ) :
    Option (List UInt8) :=
  (readBytes src srcPos n).bind (writeBytes dst dstPos)

/-- How a model of C code stops: a failed `CHECK`, an access outside an
allocation, or a loop that makes no progress. -/
inductive Fault
  | checkFailed
  | outOfRange
  | noProgress
  deriving DecidableEq,Repr

/-- A bounds-checked access as a step of a fallible computation. -/
def inRange {α : Type} : Option α → Except Fault α
  | some a => .ok a
  | none => .error .outOfRange

@[simp] theorem inRange_some {α : Type} (a : α) : inRange (some a)=.ok a := rfl

@[simp] theorem inRange_none {α : Type} : inRange (none : Option α)=.error .outOfRange := rfl

@[simp] theorem inRange_eq_ok {α : Type} {o : Option α} {a : α} : inRange o=.ok a ↔ o=some a := by
  cases o <;> simp only [inRange_some,inRange_none,reduceCtorEq,Except.ok.injEq,Option.some.injEq]

/-- An `int` stored into a `uint16_t`: the two's-complement low sixteen bits. -/
def toUint16 (n : ℤ) : ℕ := (n%65536).toNat

/-- An `int` converted to `size_t`, as a `memcpy` length is. -/
def toSizeT (n : ℤ) : ℕ := (n%2^64).toNat

theorem toUint16_of_lt {n : ℕ} (h : n<65536) : toUint16 n=n := by
  unfold toUint16
  omega

/-- A negative length becomes a size of at least `2^63` bytes. -/
theorem toSizeT_of_neg {n : ℤ} (h : n<0) (hn : -2^63 ≤ n) : 2^63 ≤ toSizeT n := by
  unfold toSizeT
  omega

theorem toSizeT_of_nonneg {n : ℕ} (h : n<2^64) : toSizeT n=n := by
  unfold toSizeT
  omega

example : readLE [0x34,0x12,0xff] 0 2=some 0x1234 := by decide
example : writeBytes [1,2,3] 2 [7,7]=none := by decide

theorem readBytes_eq_some {buf : List UInt8} {pos n : ℕ} (h : pos+n ≤ buf.length) :
    readBytes buf pos n=some ((buf.drop pos).take n) := by
  simp only [readBytes,if_pos h]

theorem readBytes_eq_none {buf : List UInt8} {pos n : ℕ} (h : buf.length<pos+n) :
    readBytes buf pos n=none := by
  simp only [readBytes,if_neg (Nat.not_le.mpr h)]

theorem writeBytes_eq_some {buf src : List UInt8} {pos : ℕ} (h : pos+src.length ≤ buf.length) :
    writeBytes buf pos src=some (buf.take pos++src++buf.drop (pos+src.length)) := by
  simp only [writeBytes,if_pos h]

theorem writeBytes_eq_none {buf src : List UInt8} {pos : ℕ} (h : buf.length<pos+src.length) :
    writeBytes buf pos src=none := by
  simp only [writeBytes,if_neg (Nat.not_le.mpr h)]

/-- A write either leaves the allocation or succeeds and keeps its length. -/
theorem writeBytes_length {buf src out : List UInt8} {pos : ℕ}
    (h : writeBytes buf pos src=some out) : out.length=buf.length ∧ pos+src.length ≤ buf.length := by
  unfold writeBytes at h
  split at h
  · case isTrue hle =>
    cases h
    simp only [List.length_append,List.length_take,List.length_drop]
    omega
  · case isFalse => cases h

/-- A read succeeds exactly inside the allocation. -/
theorem readBytes_isSome_iff (buf : List UInt8) (pos n : ℕ) :
    (readBytes buf pos n).isSome ↔ pos+n ≤ buf.length := by
  unfold readBytes
  split <;> simp_all

/-- A copy succeeds exactly when both the source and the destination range fit. -/
theorem copyBytes_isSome_iff (dst : List UInt8) (dstPos : ℕ) (src : List UInt8) (srcPos n : ℕ) :
    (copyBytes dst dstPos src srcPos n).isSome ↔
      srcPos+n ≤ src.length ∧ dstPos+n ≤ dst.length := by
  unfold copyBytes
  by_cases hs : srcPos+n ≤ src.length
  · have hlen : ((src.drop srcPos).take n).length=n := by
      simp only [List.length_take,List.length_drop]
      omega
    rw [readBytes_eq_some hs,Option.bind_some]
    unfold writeBytes
    rw [hlen]
    split <;> simp_all
  · rw [readBytes_eq_none (by omega)]
    simp only [Option.bind_none,Option.isSome_none,Bool.false_eq_true,false_iff]
    omega

/-- A copy past the end of its destination fails. -/
theorem copyBytes_eq_none_of_lt {dst src : List UInt8} {dstPos srcPos n : ℕ}
    (h : dst.length<dstPos+n) : copyBytes dst dstPos src srcPos n=none := by
  apply Option.not_isSome_iff_eq_none.mp
  intro hs
  have hfit := ((copyBytes_isSome_iff dst dstPos src srcPos n).mp hs).2
  omega

/-- A successful read has the requested length. -/
theorem readBytes_length {buf r : List UInt8} {pos n : ℕ} (h : readBytes buf pos n=some r) :
    r.length=n ∧ pos+n ≤ buf.length := by
  unfold readBytes at h
  split at h
  · case isTrue hle =>
    cases h
    simp only [List.length_take,List.length_drop]
    omega
  · case isFalse => cases h

/-- Reading a sub-range of a successful read. -/
theorem readBytes_sub {buf r : List UInt8} {pos n i k : ℕ} (h : readBytes buf pos n=some r)
    (hik : i+k ≤ n) : readBytes buf (pos+i) k=some ((r.drop i).take k) := by
  obtain ⟨-,hle⟩ := readBytes_length h
  rw [readBytes_eq_some hle] at h
  cases h
  rw [readBytes_eq_some (by omega),List.drop_take,List.take_take,List.drop_drop]
  congr 2
  omega

/-- Adjacent reads join into one read. -/
theorem readBytes_append {buf a b : List UInt8} {pos n m : ℕ} (ha : readBytes buf pos n=some a)
    (hb : readBytes buf (pos+n) m=some b) : readBytes buf pos (n+m)=some (a++b) := by
  obtain ⟨hal,-⟩ := readBytes_length ha
  obtain ⟨-,hle⟩ := readBytes_length hb
  rw [readBytes_eq_some (by omega) ] at ha hb ⊢
  cases ha
  cases hb
  rw [← List.drop_drop,List.take_add]

/-- A write puts its bytes where it writes them. -/
theorem readBytes_writeBytes_self {buf src out : List UInt8} {pos : ℕ}
    (h : writeBytes buf pos src=some out) : readBytes out pos src.length=some src := by
  obtain ⟨hlen,hle⟩ := writeBytes_length h
  rw [writeBytes_eq_some hle] at h
  cases h
  have hp : (buf.take pos).length=pos := by simp only [List.length_take]; omega
  rw [readBytes_eq_some (by omega),List.append_assoc,List.drop_left' hp,List.take_left' rfl]

/-- A write leaves the bytes before it alone. -/
theorem readBytes_writeBytes_of_le {buf src out : List UInt8} {pos a k : ℕ}
    (h : writeBytes buf pos src=some out) (hak : a+k ≤ pos) :
    readBytes out a k=readBytes buf a k := by
  obtain ⟨hlen,hle⟩ := writeBytes_length h
  rw [writeBytes_eq_some hle] at h
  cases h
  rw [readBytes_eq_some (by omega),readBytes_eq_some (by omega),List.append_assoc,
    List.drop_append_of_le_length (by simp only [List.length_take]; omega),
    List.take_append_of_le_length (by simp only [List.length_drop,List.length_take]; omega),
    List.drop_take,List.take_take,Nat.min_eq_left (by omega)]

/-- A write leaves the bytes after it alone. -/
theorem readBytes_writeBytes_of_ge {buf src out : List UInt8} {pos a k : ℕ}
    (h : writeBytes buf pos src=some out) (hak : pos+src.length ≤ a) :
    readBytes out a k=readBytes buf a k := by
  obtain ⟨hlen,hle⟩ := writeBytes_length h
  rw [writeBytes_eq_some hle] at h
  cases h
  have hp : (buf.take pos++src).length=pos+src.length := by
    simp only [List.length_append,List.length_take]; omega
  unfold readBytes
  rw [hlen,List.drop_append,List.drop_eq_nil_of_le (by omega),List.nil_append,hp,List.drop_drop]
  congr 4
  omega


/-- Reading inside a written range gives the written bytes. -/
theorem readBytes_writeBytes_inside {buf src out : List UInt8} {pos a k : ℕ}
    (h : writeBytes buf pos src=some out) (ha : pos ≤ a) (hk : a+k ≤ pos+src.length) :
    readBytes out a k=some ((src.drop (a-pos)).take k) := by
  have hself := readBytes_writeBytes_self h
  have hsub := readBytes_sub hself (show a-pos+k ≤ src.length by omega)
  rwa [Nat.add_sub_cancel' ha] at hsub

/-- A successful copy keeps the destination's length and fits both buffers. -/
theorem copyBytes_length {dst src out : List UInt8} {dstPos srcPos n : ℕ}
    (h : copyBytes dst dstPos src srcPos n=some out) :
    out.length=dst.length ∧ srcPos+n ≤ src.length ∧ dstPos+n ≤ dst.length := by
  unfold copyBytes at h
  cases hr : readBytes src srcPos n with
  | none => rw [hr] at h; cases h
  | some r =>
    rw [hr,Option.bind_some] at h
    obtain ⟨hrl,hrs⟩ := readBytes_length hr
    obtain ⟨hol,hw⟩ := writeBytes_length h
    exact ⟨hol,hrs,hrl ▸ hw⟩

/-- A copy succeeds when both ranges fit. -/
theorem copyBytes_isSome_of_le {dst src : List UInt8} {dstPos srcPos n : ℕ}
    (hs : srcPos+n ≤ src.length) (hd : dstPos+n ≤ dst.length) :
    ∃ out,copyBytes dst dstPos src srcPos n=some out :=
  Option.isSome_iff_exists.mp ((copyBytes_isSome_iff dst dstPos src srcPos n).mpr ⟨hs,hd⟩)

/-- Inside the copied range the destination holds the source bytes. -/
theorem readBytes_copyBytes_inside {dst src out : List UInt8} {dstPos srcPos n a k : ℕ}
    (h : copyBytes dst dstPos src srcPos n=some out) (ha : dstPos ≤ a) (hk : a+k ≤ dstPos+n) :
    readBytes out a k=readBytes src (srcPos+(a-dstPos)) k := by
  unfold copyBytes at h
  cases hr : readBytes src srcPos n with
  | none => rw [hr] at h; cases h
  | some r =>
    rw [hr,Option.bind_some] at h
    obtain ⟨hrl,-⟩ := readBytes_length hr
    rw [readBytes_writeBytes_inside h ha (by omega),readBytes_sub hr (by omega)]

/-- Outside the copied range the destination keeps its bytes. -/
theorem readBytes_copyBytes_outside {dst src out : List UInt8} {dstPos srcPos n a k : ℕ}
    (h : copyBytes dst dstPos src srcPos n=some out) (hk : a+k ≤ dstPos ∨ dstPos+n ≤ a) :
    readBytes out a k=readBytes dst a k := by
  unfold copyBytes at h
  cases hr : readBytes src srcPos n with
  | none => rw [hr] at h; cases h
  | some r =>
    rw [hr,Option.bind_some] at h
    obtain ⟨hrl,-⟩ := readBytes_length hr
    rcases hk with hk | hk
    · exact readBytes_writeBytes_of_le h hk
    · exact readBytes_writeBytes_of_ge h (by omega)

/-- The bytes between a known prefix and suffix are read back as they are. -/
theorem readBytes_append_middle (pre src post : List UInt8) :
    readBytes (pre++src++post) pre.length src.length=some src := by
  rw [readBytes_eq_some (by simp only [List.length_append]; omega),List.append_assoc,
    List.drop_left' rfl,List.take_left' rfl]

/-- A write right after a known prefix replaces the start of what follows it. -/
theorem writeBytes_append_length {pre tail src : List UInt8} (h : src.length ≤ tail.length) :
    writeBytes (pre++tail) pre.length src=some (pre++src++tail.drop src.length) := by
  rw [writeBytes_eq_some (by simp only [List.length_append]; omega),List.take_left' rfl,
    List.drop_append,List.drop_eq_nil_of_le (by omega),List.nil_append,Nat.add_sub_cancel_left]

/-- A read inside a prefix reads the whole buffer. -/
theorem readBytes_take {buf : List UInt8} {pos n k : ℕ} (h : pos+n ≤ k) :
    readBytes (buf.take k) pos n=readBytes buf pos n := by
  unfold readBytes
  rw [List.length_take,List.drop_take,List.take_take,Nat.min_eq_left (show n ≤ k-pos by omega)]
  by_cases hle : pos+n ≤ buf.length
  · rw [if_pos (by omega),if_pos hle]
  · rw [if_neg (by omega),if_neg hle]

/-- Overwriting a field of known length replaces exactly that field. -/
theorem writeBytes_replace (pre old src tail : List UInt8) (h : old.length=src.length) :
    writeBytes (pre++old++tail) pre.length src=some (pre++src++tail) := by
  rw [List.append_assoc,writeBytes_append_length (by simp only [List.length_append]; omega),
    List.drop_left' h]

/-- A field inside the buffer can be read. -/
theorem exists_readLE {buf : List UInt8} {pos w : ℕ} (h : pos+w ≤ buf.length) :
    ∃ v,readLE buf pos w=some v :=
  ⟨decodeLE ((buf.drop pos).take w),by simp only [readLE,readBytes_eq_some h,Option.map_some]⟩

/-- A little-endian field is read from the bytes that hold it. -/
theorem readLE_eq_of_readBytes {buf bs : List UInt8} {pos w : ℕ}
    (h : readBytes buf pos w=some bs) : readLE buf pos w=some (decodeLE bs) := by
  simp only [readLE,h,Option.map_some]


end BluetoothStack.ByteBuffer
