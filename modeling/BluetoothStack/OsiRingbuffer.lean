import BluetoothStack.StepRun
import BluetoothStack.CyclicQueue

/-!
# The osi ring buffer

`ringbuffer_t` keeps a queue of bytes in an allocation of `total` cells at `base`: the queue runs
from `head`, `ringbuffer_size` bytes on, wrapping at `base + total`, and `tail` is where the next
byte goes. Insert and pop move byte by byte and wrap each pointer when it passes the end, delete and
pop move the head in one step and pull it back once, and peek finds its first byte with a modulo.

Seen through `toQueue`, each call is the bounded queue operation of the same name, so every run of
calls is a run of the queue. The one exception is peek's clamp: it compares `offset + length` with
the size as a `size_t`, and a sum that wraps past `SIZE_MAX` lets it copy `length` bytes.
-/

namespace BluetoothStack.OsiRingbuffer

open StepRun CyclicQueue

/-- `ringbuffer_t`. The pointers `head` and `tail` are kept as their distance from `base`, and the
allocation at `base` as its cells. -/
structure Ringbuffer where
  total : ℕ
  available : ℕ
  buf : ℕ → UInt8
  head : ℕ
  tail : ℕ

/-- `ringbuffer_init`: a zeroed allocation, both pointers at its start, all of it available. -/
def ringbufferInit (size : ℕ) : Ringbuffer := ⟨size,size,fun _ => 0,0,0⟩

/-- `ringbuffer_available`. -/
def ringbufferAvailable (rb : Ringbuffer) : ℕ := rb.available

/-- `ringbuffer_size`. -/
def ringbufferSize (rb : Ringbuffer) : ℕ := rb.total-rb.available

/-- One pass of `ringbuffer_insert`'s loop: byte `i` of `p` goes to the tail, which moves on. -/
def insertByte (total : ℕ) (p : ℕ → UInt8) (bt : (ℕ → UInt8)×ℕ) (i : ℕ) : (ℕ → UInt8)×ℕ :=
  (Function.update bt.1 bt.2 (p i),stepPointer total bt.2)

/-- `ringbuffer_insert`: as many bytes of `p` as are available, and how many. -/
def ringbufferInsert (rb : Ringbuffer) (p : ℕ → UInt8) (length : ℕ) : Ringbuffer×ℕ :=
  let length := if length > ringbufferAvailable rb then ringbufferAvailable rb else length
  let r := (List.range length).foldl (insertByte rb.total p) (rb.buf,rb.tail)
  ({rb with buf := r.1,tail := r.2,available := rb.available-length},length)

/-- `ringbuffer_delete`: as many bytes as are queued, and how many. -/
def ringbufferDelete (rb : Ringbuffer) (length : ℕ) : Ringbuffer×ℕ :=
  let length := if length > ringbufferSize rb then ringbufferSize rb else length
  ({rb with head := advancePointer rb.total rb.head length,available := rb.available+length},length)

/-- One pass of `ringbuffer_peek`'s loop: the byte at `b` is copied out and `b` moves on. -/
def copyByte (buf : ℕ → UInt8) (total : ℕ) (ob : List UInt8×ℕ) (_ : ℕ) : List UInt8×ℕ :=
  (ob.1++[buf ob.2],stepPointer total ob.2)

/-- `bytes_to_copy` of `ringbuffer_peek`. The sum `offset + length` is a `size_t`. -/
def bytesToCopy (rb : Ringbuffer) (offset length : ℕ) : ℕ :=
  if (offset+length) % 2^64 > ringbufferSize rb then ringbufferSize rb-offset else length

/-- `ringbuffer_peek`: the count and the bytes written to `p`; `none` where a `CHECK` on the
offset fails. -/
def ringbufferPeek (rb : Ringbuffer) (offset : ℤ) (length : ℕ) : Option (ℕ×List UInt8) :=
  if offset<0 ∨ offset.toNat > ringbufferSize rb then none
  else
    let b := (rb.head+offset.toNat) % rb.total
    let n := bytesToCopy rb offset.toNat length
    some (n,((List.range n).foldl (copyByte rb.buf rb.total) ([],b)).1)

/-- `ringbuffer_pop`: a peek at offset zero, then the head moves past what was copied. -/
def ringbufferPop (rb : Ringbuffer) (length : ℕ) : Option (Ringbuffer×ℕ×List UInt8) :=
  (ringbufferPeek rb 0 length).map fun r =>
    ({rb with head := advancePointer rb.total rb.head r.1,available := rb.available+r.1},r.1,r.2)

/-! ### Calls -/

/-- The calls that change or read a ring buffer, with the bytes behind `p` for an insert. Lengths
are `size_t` and offsets `off_t`. -/
inductive Call where
  | insert (p : ℕ → UInt8) (length : UInt64)
  | delete (length : UInt64)
  | peek (offset : ℤ) (length : UInt64)
  | pop (length : UInt64)

/-- A call: the new ring buffer, and the count returned with the bytes written to `p`. A failed
`CHECK` aborts. -/
def ringbufferStep (rb : Ringbuffer) : Call → Except Unit (Ringbuffer×List (ℕ×List UInt8))
  | .insert p length =>
    let r := ringbufferInsert rb p length.toNat
    .ok (r.1,[(r.2,[])])
  | .delete length =>
    let r := ringbufferDelete rb length.toNat
    .ok (r.1,[(r.2,[])])
  | .peek offset length =>
    match ringbufferPeek rb offset length.toNat with
    | none => .error ()
    | some r => .ok (rb,[r])
  | .pop length =>
    match ringbufferPop rb length.toNat with
    | none => .error ()
    | some r => .ok (r.1,[r.2])

/-- The same calls on a bounded queue of bytes. -/
def queueStep (q : BoundedQueue UInt8) : Call → Except Unit (BoundedQueue UInt8×List (ℕ×List UInt8))
  | .insert p length =>
    let r := q.insert p length.toNat
    .ok (r.1,[(r.2,[])])
  | .delete length =>
    let r := q.delete length.toNat
    .ok (r.1,[(r.2,[])])
  | .peek offset length =>
    if offset<0 ∨ q.items.length<offset.toNat then .error ()
    else
      let out := q.peek offset.toNat length.toNat
      .ok (q,[(out.length,out)])
  | .pop length =>
    let r := q.pop length.toNat
    .ok (r.1,[(r.2.length,r.2)])

/-- A peek whose `size_t` sum `offset + length` does not wrap; every other call. -/
def Call.NoWrap : Call → Prop
  | .peek offset length => offset.toNat+length.toNat<2^64
  | _ => True

/-! ### The invariant and the queue a ring buffer holds -/

/-- What every call keeps: both pointers inside the allocation, no more available than allocated,
and the tail `ringbuffer_size` cells after the head. -/
structure Ringbuffer.Inv (rb : Ringbuffer) : Prop where
  total_pos : 0<rb.total
  available_le : rb.available ≤ rb.total
  head_lt : rb.head<rb.total
  tail_eq : rb.tail=(rb.head+ringbufferSize rb) % rb.total

theorem ringbufferSize_le (rb : Ringbuffer) : ringbufferSize rb ≤ rb.total := Nat.sub_le _ _

theorem Ringbuffer.Inv.tail_lt {rb : Ringbuffer} (h : rb.Inv) : rb.tail<rb.total := by
  rw [h.tail_eq]
  exact Nat.mod_lt _ h.total_pos

/-- The queue a ring buffer holds: its `ringbuffer_size` bytes from the head on. -/
def toQueue (rb : Ringbuffer) : BoundedQueue UInt8 :=
  ⟨rb.total,window rb.buf rb.total rb.head (ringbufferSize rb),by
    rw [length_window]
    exact ringbufferSize_le rb⟩

@[simp] theorem toQueue_capacity (rb : Ringbuffer) : (toQueue rb).capacity=rb.total := rfl

@[simp] theorem length_toQueue_items (rb : Ringbuffer) : (toQueue rb).items.length=ringbufferSize rb :=
  length_window _ _ _ _

theorem ringbufferInit_inv {size : ℕ} (h : 0<size) : (ringbufferInit size).Inv where
  total_pos := h
  available_le := le_refl size
  head_lt := h
  tail_eq := by simp [ringbufferInit,ringbufferSize]

theorem toQueue_ringbufferInit (size : ℕ) : toQueue (ringbufferInit size)=BoundedQueue.empty size := by
  ext1
  · rfl
  · simp [toQueue,ringbufferInit,ringbufferSize,BoundedQueue.empty]


/-! ### The loops -/

section Loops

variable {total : ℕ} (htotal : 0<total)
include htotal

/-- `ringbuffer_insert`'s loop, started at the cell after a window of `size` cells, appends the
bytes it copies to the window and leaves the tail after them. -/
theorem foldl_insertByte (p : ℕ → UInt8) (buf : ℕ → UInt8) (head size : ℕ) :
    ∀ n,size+n ≤ total →
      window ((List.range n).foldl (insertByte total p) (buf,(head+size) % total)).1 total head (size+n)=
          window buf total head size++(List.range n).map p ∧
        ((List.range n).foldl (insertByte total p) (buf,(head+size) % total)).2=(head+size+n) % total
  | 0,_ => by simp
  | n+1,hn => by
    obtain ⟨hwin,htail⟩ := foldl_insertByte p buf head size n (by omega)
    -- the last pass writes at the cell after the window so far
    rw [List.range_succ,List.foldl_append,List.foldl_cons,List.foldl_nil]
    simp only [insertByte]
    generalize (List.range n).foldl (insertByte total p) (buf,(head+size) % total)=r at hwin htail
    rw [htail,stepPointer_eq_mod (Nat.mod_lt _ htotal),Nat.mod_add_mod]
    have hpos : head+size+n=head+(size+n) := by omega
    rw [hpos,← Nat.add_assoc size n 1,window_update_end (show size+n<total by omega),hwin,List.map_append,List.map_singleton,
      List.append_assoc]
    exact ⟨rfl,congrArg (· % total) (by omega)⟩

/-- `ringbuffer_peek`'s loop copies the window from where it starts. -/
theorem foldl_copyByte (buf : ℕ → UInt8) (out : List UInt8) {b : ℕ} (hb : b<total) :
    ∀ n,(List.range n).foldl (copyByte buf total) (out,b)=(out++window buf total b n,(b+n) % total)
  | 0 => by simp [Nat.mod_eq_of_lt hb]
  | n+1 => by
    rw [List.range_succ,List.foldl_append,foldl_copyByte buf out hb n,List.foldl_cons,List.foldl_nil]
    simp only [copyByte,window_succ,List.append_assoc,Prod.mk.injEq,true_and]
    rw [stepPointer_eq_mod (Nat.mod_lt _ htotal),Nat.mod_add_mod,Nat.add_assoc]

end Loops


/-! ### The clamp of `ringbuffer_peek` -/

/-- The count `ringbuffer_peek` copies, where `offset + length` does not wrap: up to the end of the
queue. -/
theorem bytesToCopy_of_lt {rb : Ringbuffer} {offset length : ℕ} (hoff : offset ≤ ringbufferSize rb) (hfit : offset+length<2^64) :
    bytesToCopy rb offset length=min length (ringbufferSize rb-offset) := by
  unfold bytesToCopy
  rw [Nat.mod_eq_of_lt hfit]
  split_ifs <;> omega

/-- Where `offset + length` wraps, the sum left is below `offset`, so the clamp lets all of
`length` through. -/
theorem bytesToCopy_of_wrap {rb : Ringbuffer} {offset length : ℕ} (hoff : offset ≤ ringbufferSize rb)
    (hoff64 : offset<2^64) (hlen : length<2^64) (hwrap : 2^64 ≤ offset+length) :
    bytesToCopy rb offset length=length := by
  unfold bytesToCopy
  rw [Nat.mod_eq_sub_mod hwrap,Nat.mod_eq_of_lt (by omega),if_neg (by omega)]

/-! ### One call -/

section Calls

variable {rb : Ringbuffer} (hinv : rb.Inv)
include hinv

/-- What `ringbuffer_insert` does: it copies as many bytes as are available to the cells after the
queue, and the tail moves past them. -/
theorem ringbufferInsert_spec (p : ℕ → UInt8) (length : ℕ) :
    let r := ringbufferInsert rb p length
    r.2=min length rb.available ∧ r.1.total=rb.total ∧ r.1.head=rb.head ∧ r.1.available=rb.available-r.2 ∧
      r.1.tail=(rb.head+(ringbufferSize rb+r.2)) % rb.total ∧
      window r.1.buf rb.total rb.head (ringbufferSize rb+r.2)=
        window rb.buf rb.total rb.head (ringbufferSize rb)++(List.range r.2).map p := by
  have hcount : (if length > ringbufferAvailable rb then ringbufferAvailable rb else length)=min length rb.available := by
    unfold ringbufferAvailable
    split_ifs <;> omega
  have hroom : ringbufferSize rb+min length rb.available ≤ rb.total := by
    unfold ringbufferSize
    have := hinv.available_le
    omega
  obtain ⟨hwin,htail⟩ := foldl_insertByte hinv.total_pos p rb.buf rb.head (ringbufferSize rb) _ hroom
  rw [← hinv.tail_eq] at hwin htail
  simp only [ringbufferInsert,hcount,true_and]
  exact ⟨by rw [htail,Nat.add_assoc],hwin⟩

theorem ringbufferInsert_inv (p : ℕ → UInt8) (length : ℕ) : (ringbufferInsert rb p length).1.Inv := by
  obtain ⟨hn,htotal,hhead,havail,htail,-⟩ := ringbufferInsert_spec hinv p length
  have hsize : ringbufferSize (ringbufferInsert rb p length).1=ringbufferSize rb+(ringbufferInsert rb p length).2 := by
    unfold ringbufferSize
    have := hinv.available_le
    omega
  constructor
  · rw [htotal]
    exact hinv.total_pos
  · rw [havail,htotal]
    have := hinv.available_le
    omega
  · rw [hhead,htotal]
    exact hinv.head_lt
  · rw [htail,hhead,htotal,hsize]

/-- `ringbuffer_insert` is the queue's insert. -/
theorem toQueue_ringbufferInsert (p : ℕ → UInt8) (length : ℕ) :
    toQueue (ringbufferInsert rb p length).1=((toQueue rb).insert p length).1 ∧
      (ringbufferInsert rb p length).2=((toQueue rb).insert p length).2 := by
  obtain ⟨hn,htotal,hhead,havail,-,hwin⟩ := ringbufferInsert_spec hinv p length
  -- the room the queue sees is what the ring buffer has available
  have hroom : min length (rb.total-ringbufferSize rb)=min length rb.available := by
    unfold ringbufferSize
    have := hinv.available_le
    omega
  have hsize : ringbufferSize (ringbufferInsert rb p length).1=ringbufferSize rb+(ringbufferInsert rb p length).2 := by
    unfold ringbufferSize
    have := hinv.available_le
    omega
  rw [hn] at hwin hsize
  refine ⟨?_,by simp only [BoundedQueue.insert,toQueue_capacity,length_toQueue_items,hroom,hn]⟩
  ext1
  · simp only [toQueue_capacity,htotal,BoundedQueue.insert]
  · simp only [toQueue,BoundedQueue.insert,htotal,hhead,hsize,hwin,length_window,hroom]

/-- What `ringbuffer_delete` does: the head moves past as many bytes as are queued. -/
theorem ringbufferDelete_spec (length : ℕ) :
    let r := ringbufferDelete rb length
    r.2=min length (ringbufferSize rb) ∧ r.1.total=rb.total ∧ r.1.buf=rb.buf ∧ r.1.tail=rb.tail ∧
      r.1.head=(rb.head+r.2) % rb.total ∧ r.1.available=rb.available+r.2 := by
  have hcount : (if length > ringbufferSize rb then ringbufferSize rb else length)=min length (ringbufferSize rb) := by
    split_ifs <;> omega
  simp only [ringbufferDelete,hcount,true_and,and_true]
  exact advancePointer_eq_mod hinv.head_lt (le_trans (Nat.min_le_right _ _) (ringbufferSize_le rb))

theorem ringbufferDelete_inv (length : ℕ) : (ringbufferDelete rb length).1.Inv := by
  obtain ⟨hn,htotal,-,htail,hhead,havail⟩ := ringbufferDelete_spec hinv length
  have hsize : ringbufferSize (ringbufferDelete rb length).1=ringbufferSize rb-(ringbufferDelete rb length).2 := by
    unfold ringbufferSize at hn ⊢
    omega
  constructor
  · rw [htotal]
    exact hinv.total_pos
  · rw [havail,htotal]
    unfold ringbufferSize at hn
    have := hinv.available_le
    omega
  · rw [hhead,htotal]
    exact Nat.mod_lt _ hinv.total_pos
  · -- the tail stays where it was, the head and the size move by the same count
    rw [htail,hhead,htotal,hsize,Nat.mod_add_mod,hinv.tail_eq,Nat.add_assoc]
    congr 2
    omega

/-- `ringbuffer_delete` is the queue's delete. -/
theorem toQueue_ringbufferDelete (length : ℕ) :
    toQueue (ringbufferDelete rb length).1=((toQueue rb).delete length).1 ∧
      (ringbufferDelete rb length).2=((toQueue rb).delete length).2 := by
  obtain ⟨hn,htotal,hbuf,-,hhead,havail⟩ := ringbufferDelete_spec hinv length
  have hsize : ringbufferSize (ringbufferDelete rb length).1=ringbufferSize rb-(ringbufferDelete rb length).2 := by
    unfold ringbufferSize at hn ⊢
    omega
  have hsplit : ringbufferSize rb=(ringbufferDelete rb length).2+ringbufferSize (ringbufferDelete rb length).1 := by
    rw [hsize]
    omega
  refine ⟨?_,by simp only [BoundedQueue.delete,length_toQueue_items,hn]⟩
  ext1
  · simp only [toQueue_capacity,htotal,BoundedQueue.delete]
  · -- the queue drops its first bytes where the head moved past them
    simp only [toQueue,BoundedQueue.delete,htotal,hbuf,hhead,window_mod_head,length_window,← hn]
    conv_rhs => rw [hsplit,drop_window]

/-- What `ringbuffer_peek` does at an offset inside the queue: it copies `bytes_to_copy` bytes from
that offset on. -/
theorem ringbufferPeek_eq {offset : ℕ} (hoff : offset ≤ ringbufferSize rb) (length : ℕ) :
    ringbufferPeek rb offset length=
      some (bytesToCopy rb offset length,window rb.buf rb.total (rb.head+offset) (bytesToCopy rb offset length)) := by
  have hcheck : ¬((offset : ℤ)<0 ∨ (offset : ℤ).toNat > ringbufferSize rb) := by
    simp only [Int.toNat_natCast,not_or,not_lt,Int.natCast_nonneg,true_and,gt_iff_lt]
    exact hoff
  unfold ringbufferPeek
  rw [if_neg hcheck]
  dsimp only
  rw [Int.toNat_natCast,foldl_copyByte hinv.total_pos rb.buf [] (Nat.mod_lt _ hinv.total_pos),
    List.nil_append,window_mod_head]

/-- `ringbuffer_peek` is the queue's peek where `offset + length` does not wrap. -/
theorem ringbufferPeek_eq_queue {offset length : ℕ} (hoff : offset ≤ ringbufferSize rb)
    (hfit : offset+length<2^64) :
    ringbufferPeek rb offset length=some (((toQueue rb).peek offset length).length,(toQueue rb).peek offset length) := by
  have hsplit : ringbufferSize rb=offset+(ringbufferSize rb-offset) := by omega
  have hq : (toQueue rb).peek offset length=window rb.buf rb.total (rb.head+offset) (min length (ringbufferSize rb-offset)) := by
    simp only [BoundedQueue.peek,toQueue]
    rw [hsplit,drop_window,take_window,← hsplit]
  rw [ringbufferPeek_eq hinv hoff,bytesToCopy_of_lt hoff hfit,hq,length_window]

/-- What `ringbuffer_pop` does with a `size_t` length: it copies the front of the queue and deletes
what it copied. -/
theorem ringbufferPop_eq {length : ℕ} (hlen : length<2^64) :
    ringbufferPop rb length=some ((ringbufferDelete rb (min length (ringbufferSize rb))).1,
      min length (ringbufferSize rb),window rb.buf rb.total rb.head (min length (ringbufferSize rb))) := by
  have hpeek := ringbufferPeek_eq hinv (Nat.zero_le (ringbufferSize rb)) length
  rw [bytesToCopy_of_lt (Nat.zero_le _) (by omega),Nat.sub_zero,Nat.add_zero,Nat.cast_zero] at hpeek
  -- a delete of a count within the size deletes exactly that count
  have hdelete : (ringbufferDelete rb (min length (ringbufferSize rb))).1=
      { rb with head := advancePointer rb.total rb.head (min length (ringbufferSize rb)),
                available := rb.available+min length (ringbufferSize rb) } := by
    simp only [ringbufferDelete]
    rw [if_neg (by omega)]
  rw [ringbufferPop,hpeek,Option.map_some,hdelete]

/-- `ringbuffer_pop` is the queue's pop. -/
theorem toQueue_ringbufferPop {length : ℕ} (hlen : length<2^64) :
    (ringbufferPop rb length).map (fun r => (toQueue r.1,r.2))=
      some (((toQueue rb).pop length).1,(((toQueue rb).pop length).2.length,((toQueue rb).pop length).2)) := by
  have hout : (toQueue rb).peek 0 length=window rb.buf rb.total rb.head (min length (ringbufferSize rb)) := by
    simp only [BoundedQueue.peek,toQueue,List.drop_zero,take_window]
  rw [ringbufferPop_eq hinv hlen,Option.map_some]
  simp only [BoundedQueue.pop,hout,length_window,(toQueue_ringbufferDelete hinv _).1]

/-- Where `offset + length` wraps, `ringbuffer_peek` returns `length` and copies `length` bytes,
going round the allocation past the end of the queue. -/
theorem ringbufferPeek_of_wrap {offset length : ℕ} (hoff : offset ≤ ringbufferSize rb) (hoff64 : offset<2^64)
    (hlen : length<2^64) (hwrap : 2^64 ≤ offset+length) :
    ringbufferPeek rb offset length=some (length,window rb.buf rb.total (rb.head+offset) length) := by
  rw [ringbufferPeek_eq hinv hoff,bytesToCopy_of_wrap hoff hoff64 hlen hwrap]

end Calls

/-- A ring buffer of one cell holding one byte, peeked at offset 1 (its end) for `SIZE_MAX` bytes:
the queue has nothing after offset 1, but `1 + SIZE_MAX` wraps to 0, which passes the clamp, and
`ringbuffer_peek` returns `SIZE_MAX` and writes `SIZE_MAX` bytes to `p`. -/
theorem ringbuffer_peek_copies_past_queue :
    (toQueue (ringbufferInsert (ringbufferInit 1) (fun _ => 0x2A) 1).1).items=[0x2A] ∧
      (toQueue (ringbufferInsert (ringbufferInit 1) (fun _ => 0x2A) 1).1).peek 1 (2^64-1)=[] ∧
      ∃ out,ringbufferPeek (ringbufferInsert (ringbufferInit 1) (fun _ => 0x2A) 1).1 1 (2^64-1)=some (2^64-1,out) ∧
        out.length=2^64-1 := by
  set rb := (ringbufferInsert (ringbufferInit 1) (fun _ => 0x2A) 1).1 with hrb
  have hinv : rb.Inv := ringbufferInsert_inv (ringbufferInit_inv Nat.one_pos) _ _
  have hitems : (toQueue rb).items=[0x2A] := by
    rw [hrb]
    decide
  have hsize : ringbufferSize rb=1 := rfl
  have hpeek := @ringbufferPeek_of_wrap rb hinv 1 (2^64-1) (by rw [hsize]) (by norm_num) (by norm_num) (by norm_num)
  rw [Nat.cast_one] at hpeek
  refine ⟨hitems,?_,_,hpeek,length_window _ _ _ _⟩
  simp only [BoundedQueue.peek,hitems,List.drop_succ_cons,List.drop_zero,List.take_nil]

/-! ### Runs -/

theorem ringbufferStep_inv {rb rb' : Ringbuffer} {call : Call} {out : List (ℕ×List UInt8)} (hinv : rb.Inv)
    (h : ringbufferStep rb call=.ok (rb',out)) : rb'.Inv := by
  cases call with
  | insert p length =>
    cases h
    exact ringbufferInsert_inv hinv p length.toNat
  | delete length =>
    cases h
    exact ringbufferDelete_inv hinv length.toNat
  | peek offset length =>
    -- a peek leaves the ring buffer as it was
    simp only [ringbufferStep] at h
    split at h
    · cases h
    · cases h
      exact hinv
  | pop length =>
    simp only [ringbufferStep,ringbufferPop_eq hinv length.toNat_lt] at h
    cases h
    exact ringbufferDelete_inv hinv _

/-- Each call is the queue's call, seen through `toQueue`, where no peek's sum wraps. -/
theorem ringbufferStep_simulates {rb : Ringbuffer} (hinv : rb.Inv) {call : Call} (hcall : call.NoWrap) :
    (ringbufferStep rb call).map (fun r => (toQueue r.1,r.2))=queueStep (toQueue rb) call := by
  cases call with
  | insert p length =>
    obtain ⟨hq,hn⟩ := toQueue_ringbufferInsert hinv p length.toNat
    simp only [ringbufferStep,queueStep,Except.map,hq,hn]
  | delete length =>
    obtain ⟨hq,hn⟩ := toQueue_ringbufferDelete hinv length.toNat
    simp only [ringbufferStep,queueStep,Except.map,hq,hn]
  | peek offset length =>
    simp only [Call.NoWrap] at hcall
    by_cases hcheck : offset<0 ∨ ringbufferSize rb<offset.toNat
    · -- the `CHECK`s on the offset abort on both levels
      have hnone : ringbufferPeek rb offset length.toNat=none := by
        unfold ringbufferPeek
        rw [if_pos hcheck]
      simp only [ringbufferStep,queueStep,hnone,length_toQueue_items,if_pos hcheck,Except.map]
    · have hoff : offset=(offset.toNat : ℤ) := by
        simp only [not_or,not_lt] at hcheck
        exact (Int.toNat_of_nonneg hcheck.1).symm
      have hpeek := ringbufferPeek_eq_queue hinv (le_of_not_gt (not_or.mp hcheck).2) hcall
      rw [← hoff] at hpeek
      simp only [ringbufferStep,queueStep,hpeek,length_toQueue_items,if_neg hcheck,Except.map]
  | pop length =>
    have hpop := toQueue_ringbufferPop hinv length.toNat_lt
    simp only [ringbufferStep,queueStep]
    cases h : ringbufferPop rb length.toNat with
    | none =>
      rw [h] at hpop
      cases hpop
    | some r =>
      rw [h,Option.map_some,Option.some.injEq,Prod.mk.injEq] at hpop
      simp only [Except.map]
      rw [hpop.1,hpop.2]

/-- Every ring buffer a run of calls reaches from `ringbuffer_init` keeps the invariant. -/
theorem ringbuffer_run_inv {total : ℕ} (htotal : 0<total) {calls : List Call} {rb : Ringbuffer}
    {out : List (ℕ×List UInt8)} (h : runSteps ringbufferStep (ringbufferInit total) calls=.ok (rb,out)) :
    rb.Inv :=
  runSteps_invariant (fun _ _ _ _ hs hstep => ringbufferStep_inv hs hstep) (ringbufferInit_inv htotal) h

/-- A run of calls on a fresh ring buffer, seen through `toQueue`, is the same run on an empty
bounded queue: the same faults, the same counts, the same bytes copied out, and the queue it ends
with, as long as no peek's sum wraps. -/
theorem ringbuffer_run_refines_queue {total : ℕ} (htotal : 0<total) (calls : List Call)
    (hcalls : ∀ call ∈ calls,call.NoWrap) :
    (runSteps ringbufferStep (ringbufferInit total) calls).map (fun r => (toQueue r.1,r.2))=
      runSteps queueStep (BoundedQueue.empty total) calls := by
  rw [← toQueue_ringbufferInit]
  exact runSteps_map_of_simulates toQueue (fun _ _ _ _ hs hstep => ringbufferStep_inv hs hstep)
    (fun _ _ hs hcall => ringbufferStep_simulates hs hcall) calls _ (ringbufferInit_inv htotal) hcalls

theorem ringbuffer_run_refines_queue_wrapping :
    0 < 4 ∧ (∀ call ∈ [Call.insert (fun i => UInt8.ofNat i) 3,Call.pop 2,Call.insert (fun i => UInt8.ofNat (i+7)) 3,
        Call.peek 1 3],call.NoWrap) ∧
      (runSteps ringbufferStep (ringbufferInit 4) [Call.insert (fun i => UInt8.ofNat i) 3,Call.pop 2,
          Call.insert (fun i => UInt8.ofNat (i+7)) 3,Call.peek 1 3]).map (fun r => (toQueue r.1,r.2))=
        runSteps queueStep (BoundedQueue.empty 4) [Call.insert (fun i => UInt8.ofNat i) 3,Call.pop 2,
          Call.insert (fun i => UInt8.ofNat (i+7)) 3,Call.peek 1 3] := by
  have hcalls : ∀ call ∈ [Call.insert (fun i => UInt8.ofNat i) 3,Call.pop 2,Call.insert (fun i => UInt8.ofNat (i+7)) 3,
      Call.peek 1 3],call.NoWrap := by
    simp [Call.NoWrap]
  exact ⟨by decide,hcalls,ringbuffer_run_refines_queue (by decide) _ hcalls⟩

end BluetoothStack.OsiRingbuffer
