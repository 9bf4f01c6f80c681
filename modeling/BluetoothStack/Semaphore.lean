import BluetoothStack.Interleaving

/-!
# The osi semaphore

`semaphore_t` is an `eventfd` in `EFD_SEMAPHORE` mode. `semaphore_new(unsigned int value)` starts its
counter at `value`, so a `size_t` argument arrives reduced mod 2^32. `semaphore_wait` is one
`eventfd_read`: it takes one from a positive counter and blocks on a zero counter while the
descriptor is blocking; on a zero counter and a non-blocking descriptor the read fails with `EAGAIN`,
which `semaphore_wait` only logs before it returns as though it had waited. `semaphore_post` adds one.

`semaphore_try_wait` makes four system calls: `F_GETFL`, `F_SETFL` with `O_NONBLOCK` added, the read,
and `F_SETFL` back to the flags it read first. The flags belong to the descriptor, which all callers
share, and nothing orders the calls of two callers. Each system call is one action here, and
`TryWait` says which one a caller makes next. (`fcntl` on a valid descriptor does not fail, so its
error branches are left out.)

Alone, a try-wait is the atomic one: it takes one exactly when the count is positive and leaves the
flags as it found them. Interleaved with a second try-wait that reads the flags inside its
non-blocking window, it leaves the descriptor non-blocking for good, and every later `semaphore_wait`
on a zero count returns without taking anything.
-/

namespace BluetoothStack.Semaphore

open Interleaving

/-- `semaphore_t`: the counter of the `eventfd` and whether its descriptor has `O_NONBLOCK`. -/
structure SemaphoreT where
  count : ℕ
  nonblock : Bool
  deriving DecidableEq,Repr

/-- `semaphore_new`: `eventfd(value,EFD_SEMAPHORE)`, blocking. -/
def semaphoreNew (value : UInt32) : SemaphoreT := ⟨value.toNat,false⟩

/-- `eventfd_read` in `EFD_SEMAPHORE` mode: a positive counter gives one (`true`); a zero counter
fails with `EAGAIN` (`false`) on a non-blocking descriptor and blocks (`none`) on a blocking one. -/
def eventfdRead (s : SemaphoreT) : Option (SemaphoreT×Bool) :=
  if 0 < s.count then some ({s with count := s.count-1},true)
  else if s.nonblock then some (s,false) else none

/-- `semaphore_wait`: the read, whose failure is only logged. The flag says whether it took one; the
caller does not see it. -/
def semaphoreWait (s : SemaphoreT) : Option (SemaphoreT×Bool) := eventfdRead s

/-- `semaphore_post`: `eventfd_write(fd,1)`. -/
def semaphorePost (s : SemaphoreT) : SemaphoreT := {s with count := s.count+1}

/-- The system call a caller of `semaphore_try_wait` makes next, with what it has read so far: the
`O_NONBLOCK` bit of the flags, and the result of the read. -/
inductive TryWait
  | getFlags
  | setFlags (nonblock : Bool)
  | read (nonblock : Bool)
  | restoreFlags (nonblock : Bool) (rc : Bool)
  deriving DecidableEq,Repr

/-- One system call of `semaphore_try_wait`: the semaphore after it, and the caller's next call or,
once the flags are restored, the result; `none` while the read blocks. -/
def semaphoreTryWait (s : SemaphoreT) : TryWait → Option (SemaphoreT×(TryWait ⊕ Bool))
  | .getFlags => some (s,.inl (.setFlags s.nonblock))
  -- `flags | O_NONBLOCK`
  | .setFlags flags => some ({s with nonblock := true},.inl (.read flags))
  | .read flags => (eventfdRead s).map fun r => (r.1,.inl (.restoreFlags flags r.2))
  | .restoreFlags flags rc => some ({s with nonblock := flags},.inr rc)

/-- `1` from the read of a try-wait that took one until the call returns it. -/
def TryWait.took : TryWait → ℕ
  | .restoreFlags _ rc => rc.toNat
  | _ => 0

/-- What a caller holds after a system call of `semaphore_try_wait`: the one its read took, also once
the call has returned `true` with it. -/
def TryWait.held : TryWait ⊕ Bool → ℕ
  | .inl phase => phase.took
  | .inr rc => rc.toNat

@[simp] theorem semaphoreNew_count (value : UInt32) : (semaphoreNew value).count=value.toNat := rfl

@[simp] theorem semaphorePost_count (s : SemaphoreT) : (semaphorePost s).count=s.count+1 := rfl

@[simp] theorem semaphorePost_nonblock (s : SemaphoreT) : (semaphorePost s).nonblock=s.nonblock := rfl

@[simp] theorem TryWait.took_getFlags : TryWait.getFlags.took=0 := rfl

/-! ### One system call -/

section Calls

variable {s s' : SemaphoreT}

/-- A read that returns takes what it says it took and leaves the flags alone. -/
theorem eventfdRead_count {took : Bool} (h : eventfdRead s=some (s',took)) :
    s'.count+took.toNat=s.count ∧ s'.nonblock=s.nonblock := by
  unfold eventfdRead at h
  split_ifs at h with hpos hnb
  · -- one taken from a positive count
    simp only [Option.some.injEq,Prod.mk.injEq] at h
    obtain ⟨rfl,rfl⟩ := h
    exact ⟨by simp; omega,rfl⟩
  · -- `EAGAIN`
    simp only [Option.some.injEq,Prod.mk.injEq] at h
    obtain ⟨rfl,rfl⟩ := h
    exact ⟨by simp,rfl⟩

/-- On a blocking descriptor a read that returns has taken one. -/
theorem eventfdRead_took {took : Bool} (hnb : s.nonblock=false) (h : eventfdRead s=some (s',took)) :
    took=true := by
  unfold eventfdRead at h
  split_ifs at h with hpos hnb'
  · simp only [Option.some.injEq,Prod.mk.injEq] at h
    exact h.2.symm
  · -- `EAGAIN` needs a non-blocking descriptor
    simp [hnb] at hnb'

/-- A read that returns without taking one found the descriptor non-blocking. -/
theorem eventfdRead_nonblock_of_failed (h : eventfdRead s=some (s',false)) : s.nonblock=true := by
  cases hnb : s.nonblock
  · exact absurd (eventfdRead_took hnb h) (by decide)
  · rfl

/-- A system call of a try-wait moves at most the one its read takes, from the count to the caller. -/
theorem semaphoreTryWait_count {phase : TryWait} {next : TryWait ⊕ Bool}
    (h : semaphoreTryWait s phase=some (s',next)) : s'.count+TryWait.held next=s.count+phase.took := by
  cases phase with
  | getFlags | setFlags flags =>
    simp only [semaphoreTryWait,Option.some.injEq,Prod.mk.injEq] at h
    obtain ⟨rfl,rfl⟩ := h
    rfl
  | read flags =>
    simp only [semaphoreTryWait,Option.map_eq_some_iff,Prod.mk.injEq] at h
    obtain ⟨⟨s₁,took⟩,hread,rfl,rfl⟩ := h
    simpa [TryWait.held,TryWait.took] using (eventfdRead_count hread).1
  | restoreFlags flags rc =>
    simp only [semaphoreTryWait,Option.some.injEq,Prod.mk.injEq] at h
    obtain ⟨rfl,rfl⟩ := h
    rfl

end Calls

/-! ### Alone and interleaved -/

/-- A caller's remaining system calls of `semaphore_try_wait` with no other caller between them;
`fuel` bounds the calls. -/
def tryWaitAlone (s : SemaphoreT) : ℕ → TryWait → Option (SemaphoreT×Bool)
  | 0,_ => none
  | fuel+1,phase =>
    match semaphoreTryWait s phase with
    | none => none
    | some (s',.inl next) => tryWaitAlone s' fuel next
    | some (s',.inr rc) => some (s',rc)

/-- Alone, `semaphore_try_wait` is the atomic try-wait: its four calls take one exactly when the
count is positive and leave the descriptor's flags as they were. -/
theorem tryWaitAlone_getFlags (s : SemaphoreT) :
    tryWaitAlone s 4 .getFlags=some ({s with count := s.count-1},decide (0 < s.count)) := by
  rcases s with ⟨count,nonblock⟩
  -- the read comes after `O_NONBLOCK` is set, so it never blocks
  rcases Nat.eq_zero_or_pos count with rfl | hpos
  · simp [tryWaitAlone,semaphoreTryWait,eventfdRead]
  · simp [tryWaitAlone,semaphoreTryWait,eventfdRead,hpos]

end BluetoothStack.Semaphore
