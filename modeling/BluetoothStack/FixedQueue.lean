import BluetoothStack.OsiList
import BluetoothStack.Semaphore

/-!
# The osi fixed queue under concurrent callers

`fixed_queue_t` is an osi list guarded by a `std::mutex`, with two semaphores (`Semaphore`):
`enqueue_sem` counts the free places and starts at the capacity, which `semaphore_new`'s
`unsigned int` parameter takes mod 2^32, and `dequeue_sem` counts the items ready to be taken.
`fixed_queue_enqueue` waits on `enqueue_sem`, appends under the mutex and posts `dequeue_sem`;
`fixed_queue_dequeue` waits on `dequeue_sem`, takes the front under the mutex and posts
`enqueue_sem`; the `try_` calls wait with `semaphore_try_wait` and return at once when it fails; and
`fixed_queue_try_remove_from_queue` holds the mutex across `list_contains`, a `semaphore_try_wait`
on `dequeue_sem` and `list_remove`.

Each caller is a thread of an `Interleaving` system running its own program of calls. A system call
of a semaphore, a mutex operation, and the list operations of one critical section are each one
action. (Inside a critical section only semaphore calls of other threads can come between two list
operations, and those commute with them.) The list is the faithful model of `list.cc`.

Whatever the programs: the mutex is held by exactly the thread inside a critical section; the datum
`fixed_queue_try_remove_from_queue` found is still in the list when it removes it, so its `CHECK`
holds; no datum is lost or duplicated, and the dequeued data and the list keep the order of the
appends; and where no caller can move, the mutex is free unless a `fixed_queue_try_remove_from_queue`
holds it while blocked in the read of its try-wait.

The semaphores count what they are meant to only while no semaphore is waited on both with
`semaphore_wait` and with `semaphore_try_wait` (`WaitsUnmixed`): a `semaphore_wait` that reads inside
another caller's non-blocking window fails and its caller goes on without a count. Under that
discipline each count and the tokens the callers hold balance the list's length and `capacity % 2^32`,
no action faults, and every action is a step of an atomic queue of `capacity % 2^32` places or leaves
the list alone. Without it a `fixed_queue_enqueue` appends to a full queue and a `fixed_queue_dequeue`
fails the `CHECK` of `list_front` on an empty one; and even under it a `fixed_queue_try_dequeue` can
restore the blocking mode inside the window of a `fixed_queue_try_remove_from_queue`, which then
blocks in its read while holding the mutex.
-/

namespace BluetoothStack.FixedQueue

open ByteBuffer LinkedHeap OsiList Interleaving Semaphore

variable {α : Type}

/-- `fixed_queue_t` without the reactor registration (`dequeue_object`, `dequeue_ready`,
`dequeue_context`). -/
structure FixedQueueT (α : Type) where
  list : ListT α
  enqueueSem : SemaphoreT
  dequeueSem : SemaphoreT
  /-- Whether `mutex` is locked. -/
  locked : Bool
  capacity : ℕ

/-- `fixed_queue_new`: `list_new(NULL)`, `semaphore_new(capacity)`, whose `unsigned int` parameter
takes `capacity` mod 2^32, and `semaphore_new(0)`. -/
def fixedQueueNew (capacity : ℕ) : FixedQueueT α :=
  ⟨listNew false,semaphoreNew capacity.toUInt32,semaphoreNew 0,false,capacity⟩

/-- The two semaphores of a queue. -/
inductive Sem
  | enqueue
  | dequeue
  deriving DecidableEq

/-- The semaphore `k` of a queue. -/
def FixedQueueT.sem (q : FixedQueueT α) : Sem → SemaphoreT
  | .enqueue => q.enqueueSem
  | .dequeue => q.dequeueSem

/-- The data appended so far, and taken by dequeues and by `fixed_queue_try_remove_from_queue`, each
in order. A record kept for the proofs; `fixed_queue_t` has no such field. -/
structure History (α : Type) where
  appended : List α
  dequeued : List α
  removed : List α

/-- The calls a thread makes. -/
inductive Call (α : Type)
  | enqueue (data : α)
  | tryEnqueue (data : α)
  | dequeue
  | tryDequeue
  | tryPeekFirst
  | tryPeekLast
  | tryRemoveFromQueue (data : α)
  | isEmpty
  | length

/-- What a call returns; `none` is `NULL`. -/
inductive Result (α : Type)
  | enqueued
  | tryEnqueued (ok : Bool)
  | dequeued (data : α)
  | tryDequeued (data : Option α)
  | peeked (data : Option α)
  | removed (data : Option α)
  | isEmpty (empty : Bool)
  | length (n : ℕ)

/-- The calls that hold the mutex for one read. -/
inductive Reader
  | tryPeekFirst
  | tryPeekLast
  | isEmpty
  | length
  deriving DecidableEq

/-- What a read under the mutex gives. -/
inductive ReadResult (α : Type)
  | peeked (data : Option α)
  | isEmpty (empty : Bool)
  | length (n : ℕ)
  deriving DecidableEq

/-- The value the reader returns. -/
def ReadResult.toResult : ReadResult α → Result α
  | .peeked data => .peeked data
  | .isEmpty empty => .isEmpty empty
  | .length n => .length n

/-- Where a thread is: between calls, or before the next action of its call. `blocking` tells
`fixed_queue_enqueue` from `fixed_queue_try_enqueue` and `fixed_queue_dequeue` from
`fixed_queue_try_dequeue`. `took` records whether the wait before took a count: the code does not
keep it, since `semaphore_wait` returns either way, and nothing the thread does depends on it. -/
inductive Pc (α : Type)
  | idle
  | enqWait (data : α)
  | enqTryWait (data : α) (phase : TryWait)
  | enqLock (data : α) (blocking took : Bool)
  | enqAppend (data : α) (blocking took : Bool)
  | enqUnlock (blocking : Bool)
  | enqPost (blocking : Bool)
  | deqWait
  | deqTryWait (phase : TryWait)
  | deqLock (blocking took : Bool)
  | deqTake (blocking took : Bool)
  | deqUnlock (blocking : Bool) (ret : α)
  | deqPost (blocking : Bool) (ret : α)
  | removeLock (data : α)
  | removeTest (data : α)
  | removeTryWait (data : α) (phase : TryWait)
  | removeTake (data : α)
  | removeUnlock (data : α) (removed : Bool)
  | removePost (data : α)
  | readLock (r : Reader)
  | readRead (r : Reader)
  | readUnlock (res : ReadResult α)

/-- A caller: where it is, the calls it still makes, and what its calls returned. -/
structure Thread (α : Type) where
  pc : Pc α
  program : List (Call α)
  results : List (Result α)

/-- The first action of a call. -/
def Call.entry : Call α → Pc α
  | .enqueue data => .enqWait data
  | .tryEnqueue data => .enqTryWait data .getFlags
  | .dequeue => .deqWait
  | .tryDequeue => .deqTryWait .getFlags
  | .tryPeekFirst => .readLock .tryPeekFirst
  | .tryPeekLast => .readLock .tryPeekLast
  | .tryRemoveFromQueue data => .removeLock data
  | .isEmpty => .readLock .isEmpty
  | .length => .readLock .length

/-- The thread moves on to `pc`. -/
def Thread.goto (t : Thread α) (pc : Pc α) : Thread α := {t with pc := pc}

/-- The call returns `res`. -/
def Thread.finish (t : Thread α) (res : Result α) : Thread α := {t with pc := .idle,results := t.results++[res]}

/-- Where `fixed_queue_try_enqueue` goes after a system call of its `semaphore_try_wait`: to the next
call, into the critical section once the try-wait has returned `true`, and back with `false` once it
has failed. -/
def Thread.afterTryEnqueue (t : Thread α) (data : α) : TryWait ⊕ Bool → Thread α
  | .inl phase => t.goto (.enqTryWait data phase)
  | .inr true => t.goto (.enqLock data false true)
  | .inr false => t.finish (.tryEnqueued false)

/-- Where `fixed_queue_try_dequeue` goes after a system call of its `semaphore_try_wait`. -/
def Thread.afterTryDequeue (t : Thread α) : TryWait ⊕ Bool → Thread α
  | .inl phase => t.goto (.deqTryWait phase)
  | .inr true => t.goto (.deqLock false true)
  | .inr false => t.finish (.tryDequeued none)

/-- Where `fixed_queue_try_remove_from_queue` goes after a system call of its `semaphore_try_wait`,
still holding the mutex. -/
def Thread.afterTryRemove (t : Thread α) (data : α) : TryWait ⊕ Bool → Thread α
  | .inl phase => t.goto (.removeTryWait data phase)
  | .inr true => t.goto (.removeTake data)
  | .inr false => t.goto (.removeUnlock data false)

/-- The shared state: the queue and its history. -/
abbrev Shared (α : Type) := FixedQueueT α×History α

/-- `std::lock_guard` taking the mutex: blocks while it is held. -/
def lock (x : Shared α) (t : Thread α) : Option (Except Fault (Shared α×Thread α)) :=
  if x.1.locked then none else some (.ok (({x.1 with locked := true},x.2),t))

/-- The `std::lock_guard` going out of scope. -/
def unlock (x : Shared α) (t : Thread α) : Option (Except Fault (Shared α×Thread α)) :=
  some (.ok (({x.1 with locked := false},x.2),t))

/-- The read a reader makes under the mutex. -/
def readQueue (q : FixedQueueT α) : Reader → Except Fault (ReadResult α)
  | .tryPeekFirst => if listIsEmpty q.list then .ok (.peeked none) else (listFront q.list).map (.peeked ∘ some)
  | .tryPeekLast => if listIsEmpty q.list then .ok (.peeked none) else (listBack q.list).map (.peeked ∘ some)
  | .isEmpty => .ok (.isEmpty (listIsEmpty q.list))
  | .length => .ok (.length (listLength q.list))

section Step

variable [DecidableEq α]

/-- The next action of a thread: `none` while it is blocked (or has no call left), a fault where a
`CHECK` or a list operation fails. -/
def threadStep (x : Shared α) (t : Thread α) : Option (Except Fault (Shared α×Thread α)) :=
  match t.pc with
  | .idle =>
    match t.program with
    | [] => none
    | c::cs => some (.ok (x,{t with pc := c.entry,program := cs}))
  -- `fixed_queue_enqueue` and `fixed_queue_try_enqueue`
  | .enqWait data =>
    (semaphoreWait x.1.enqueueSem).map fun r =>
      .ok (({x.1 with enqueueSem := r.1},x.2),t.goto (.enqLock data true r.2))
  | .enqTryWait data phase =>
    (semaphoreTryWait x.1.enqueueSem phase).map fun r =>
      .ok (({x.1 with enqueueSem := r.1},x.2),t.afterTryEnqueue data r.2)
  | .enqLock data blocking took => lock x (t.goto (.enqAppend data blocking took))
  | .enqAppend data blocking _ =>
    some ((listAppend x.1.list data).map fun l =>
      (({x.1 with list := l},{x.2 with appended := x.2.appended++[data]}),t.goto (.enqUnlock blocking)))
  | .enqUnlock blocking => unlock x (t.goto (.enqPost blocking))
  | .enqPost blocking =>
    some (.ok (({x.1 with dequeueSem := semaphorePost x.1.dequeueSem},x.2),
      t.finish (if blocking then .enqueued else .tryEnqueued true)))
  -- `fixed_queue_dequeue` and `fixed_queue_try_dequeue`
  | .deqWait =>
    (semaphoreWait x.1.dequeueSem).map fun r =>
      .ok (({x.1 with dequeueSem := r.1},x.2),t.goto (.deqLock true r.2))
  | .deqTryWait phase =>
    (semaphoreTryWait x.1.dequeueSem phase).map fun r =>
      .ok (({x.1 with dequeueSem := r.1},x.2),t.afterTryDequeue r.2)
  | .deqLock blocking took => lock x (t.goto (.deqTake blocking took))
  | .deqTake blocking _ =>
    some (do
      let ret ← listFront x.1.list
      let r ← listRemove x.1.list ret
      .ok (({x.1 with list := r.1},{x.2 with dequeued := x.2.dequeued++[ret]}),t.goto (.deqUnlock blocking ret)))
  | .deqUnlock blocking ret => unlock x (t.goto (.deqPost blocking ret))
  | .deqPost blocking ret =>
    some (.ok (({x.1 with enqueueSem := semaphorePost x.1.enqueueSem},x.2),
      t.finish (if blocking then .dequeued ret else .tryDequeued (some ret))))
  -- `fixed_queue_try_remove_from_queue`: `list_contains(...) && semaphore_try_wait(dequeue_sem)`,
  -- then `list_remove` and `CHECK(removed)`, all under the mutex
  | .removeLock data => lock x (t.goto (.removeTest data))
  | .removeTest data =>
    some ((listContains x.1.list data).map fun found =>
      (x,t.goto (if found then .removeTryWait data .getFlags else .removeUnlock data false)))
  | .removeTryWait data phase =>
    (semaphoreTryWait x.1.dequeueSem phase).map fun r =>
      .ok (({x.1 with dequeueSem := r.1},x.2),t.afterTryRemove data r.2)
  | .removeTake data =>
    some (do
      let r ← listRemove x.1.list data
      if r.2.1 then
        .ok (({x.1 with list := r.1},{x.2 with removed := x.2.removed++[data]}),t.goto (.removeUnlock data true))
      else .error .checkFailed)
  | .removeUnlock data removed =>
    unlock x (if removed then t.goto (.removePost data) else t.finish (.removed none))
  | .removePost data =>
    some (.ok (({x.1 with enqueueSem := semaphorePost x.1.enqueueSem},x.2),t.finish (.removed (some data))))
  -- `fixed_queue_try_peek_first`, `fixed_queue_try_peek_last`, `fixed_queue_is_empty`, `fixed_queue_length`
  | .readLock r => lock x (t.goto (.readRead r))
  | .readRead r => some ((readQueue x.1 r).map fun res => (x,t.goto (.readUnlock res)))
  | .readUnlock res => unlock x (t.finish res.toResult)

/-- A new queue and threads about to run their programs. -/
def initial (capacity : ℕ) (programs : List (List (Call α))) : Shared α×List (Thread α) :=
  ((fixedQueueNew capacity,⟨[],[],[]⟩),programs.map fun p => ⟨.idle,p,[]⟩)

end Step

/-! ### What the threads hold -/

/-- `1` inside a critical section, where the thread holds the mutex. -/
def Pc.holdsMutex : Pc α → ℕ
  | .enqAppend .. | .enqUnlock _ | .deqTake .. | .deqUnlock .. | .removeTest _ | .removeTryWait ..
  | .removeTake _ | .removeUnlock .. | .readRead _ | .readUnlock _ => 1
  | _ => 0

/-- A free place the thread holds: taken by its wait on `enqueue_sem` and not yet filled by its
append, or emptied by its take and not yet posted. -/
def Pc.enqueueTokens : Pc α → ℕ
  | .enqTryWait _ phase => phase.took
  | .enqLock _ _ took | .enqAppend _ _ took => took.toNat
  | .deqUnlock .. | .deqPost .. | .removeUnlock _ true | .removePost _ => 1
  | _ => 0

/-- An item the thread holds: appended and not yet posted, or taken by its wait on `dequeue_sem` and
not yet taken out of the list. -/
def Pc.dequeueTokens : Pc α → ℕ
  | .enqUnlock _ | .enqPost _ | .removeTake _ => 1
  | .deqTryWait phase | .removeTryWait _ phase => phase.took
  | .deqLock _ took | .deqTake _ took => took.toNat
  | _ => 0

/-- Whether the action at `pc` is a list operation that can change the list. -/
def Pc.changesList : Pc α → Bool
  | .enqAppend .. | .deqTake .. | .removeTake _ => true
  | _ => false

/-- The datum `fixed_queue_try_remove_from_queue` found with `list_contains` and has not yet removed. -/
def Pc.found : Pc α → Option α
  | .removeTryWait data _ | .removeTake data => some data
  | _ => none

/-- Whether the thread is past a `semaphore_wait` that failed and goes on without a count. -/
def Pc.unpaid : Pc α → Bool
  | .enqLock _ _ took | .enqAppend _ _ took | .deqLock _ took | .deqTake _ took => !took
  | _ => false

/-- The datum a thread has taken out of the list and not yet returned. -/
def Pc.taking : Pc α → Multiset α
  | .deqUnlock _ ret => {ret}
  | .deqPost _ ret => {ret}
  | .removeUnlock data true => {data}
  | .removePost data => {data}
  | _ => 0

/-- The datum a call returned out of the queue. -/
def Result.taken : Result α → Multiset α
  | .dequeued data => {data}
  | .tryDequeued (some data) => {data}
  | .removed (some data) => {data}
  | _ => 0

/-- The data a thread took out of the queue: returned, or about to be. -/
def Thread.taken (t : Thread α) : Multiset α := t.pc.taking+(t.results.map Result.taken).sum

/-- The data taken out of the queue so far. -/
def History.takenData (hist : History α) : Multiset α := hist.dequeued+hist.removed

/-! ### Which semaphore calls a thread may still make -/

/-- Whether a call waits on semaphore `k` with `semaphore_wait`. -/
def Call.waits : Call α → Sem → Bool
  | .enqueue _,.enqueue | .dequeue,.dequeue => true
  | _,_ => false

/-- Whether a call waits on semaphore `k` with `semaphore_try_wait`. -/
def Call.tries : Call α → Sem → Bool
  | .tryEnqueue _,.enqueue | .tryDequeue,.dequeue | .tryRemoveFromQueue _,.dequeue => true
  | _,_ => false

/-- Whether the call a thread at `pc` is in still makes its `semaphore_wait` on `k`. -/
def Pc.waits : Pc α → Sem → Bool
  | .enqWait _,.enqueue | .deqWait,.dequeue => true
  | _,_ => false

/-- Whether the call a thread at `pc` is in still makes, or is inside, its `semaphore_try_wait` on
`k`. -/
def Pc.tries : Pc α → Sem → Bool
  | .enqTryWait ..,.enqueue | .deqTryWait _,.dequeue | .removeLock _,.dequeue | .removeTest _,.dequeue
  | .removeTryWait ..,.dequeue => true
  | _,_ => false

/-- Whether a thread may still wait on `k` with `semaphore_wait`, in its call or in one to come. -/
def Thread.waits (t : Thread α) (k : Sem) : Bool := t.pc.waits k || t.program.any fun c => c.waits k

/-- Whether a thread may still wait on `k` with `semaphore_try_wait`. -/
def Thread.tries (t : Thread α) (k : Sem) : Bool := t.pc.tries k || t.program.any fun c => c.tries k

/-- A thread that moves inside its call keeps its program: it may still wait on `k` afterwards only
where its new place waits or where it could before. -/
theorem Thread.waits_of_pc {t t' : Thread α} (hprog : t'.program=t.program) {k : Sem}
    (hpc : t'.pc.waits k=true → t.pc.waits k=true) : t'.waits k=true → t.waits k=true := by
  simp only [Thread.waits,Bool.or_eq_true,hprog]
  exact Or.imp_left hpc

/-- The same for the try-waits. -/
theorem Thread.tries_of_pc {t t' : Thread α} (hprog : t'.program=t.program) {k : Sem}
    (hpc : t'.pc.tries k=true → t.pc.tries k=true) : t'.tries k=true → t.tries k=true := by
  simp only [Thread.tries,Bool.or_eq_true,hprog]
  exact Or.imp_left hpc

/-- The discipline under which the semaphores count: no semaphore is waited on by the programs both
with `semaphore_wait` and with `semaphore_try_wait`. So `enqueue_sem` serves `fixed_queue_enqueue`
calls or `fixed_queue_try_enqueue` calls, and `dequeue_sem` serves `fixed_queue_dequeue` calls or
`fixed_queue_try_dequeue` and `fixed_queue_try_remove_from_queue` calls. -/
def WaitsUnmixed (programs : List (List (Call α))) : Prop :=
  ∀ k,(∀ p ∈ programs,∀ c ∈ p,c.tries k=false) ∨ ∀ p ∈ programs,∀ c ∈ p,c.waits k=false

/-- The list changes only inside a critical section. -/
theorem Pc.holdsMutex_of_changesList {pc : Pc α} (h : pc.changesList=true) : pc.holdsMutex=1 := by
  cases pc <;> simp_all [Pc.changesList,Pc.holdsMutex]

/-- `fixed_queue_try_remove_from_queue` keeps the datum it found only inside its critical section. -/
theorem Pc.holdsMutex_of_found {pc : Pc α} {d : α} (h : pc.found=some d) : pc.holdsMutex=1 := by
  cases pc <;> simp_all [Pc.found,Pc.holdsMutex]

@[simp] theorem Thread.goto_pc (t : Thread α) (pc : Pc α) : (t.goto pc).pc=pc := rfl

@[simp] theorem Thread.goto_program (t : Thread α) (pc : Pc α) : (t.goto pc).program=t.program := rfl

@[simp] theorem Thread.goto_results (t : Thread α) (pc : Pc α) : (t.goto pc).results=t.results := rfl

@[simp] theorem Thread.finish_pc (t : Thread α) (res : Result α) : (t.finish res).pc=.idle := rfl

@[simp] theorem Thread.finish_program (t : Thread α) (res : Result α) : (t.finish res).program=t.program := rfl

@[simp] theorem Thread.finish_results (t : Thread α) (res : Result α) :
    (t.finish res).results=t.results++[res] := rfl

@[simp] theorem Thread.taken_goto (t : Thread α) (pc : Pc α) :
    (t.goto pc).taken=pc.taking+(t.results.map Result.taken).sum := rfl

@[simp] theorem Thread.taken_finish (t : Thread α) (res : Result α) :
    (t.finish res).taken=(t.results.map Result.taken).sum+res.taken := by
  simp [Thread.taken,Thread.finish,Pc.taking]

@[simp] theorem Call.entry_holdsMutex (c : Call α) : c.entry.holdsMutex=0 := by
  cases c <;> rfl

@[simp] theorem Call.entry_enqueueTokens (c : Call α) : c.entry.enqueueTokens=0 := by
  cases c <;> rfl

@[simp] theorem Call.entry_dequeueTokens (c : Call α) : c.entry.dequeueTokens=0 := by
  cases c <;> rfl

@[simp] theorem Call.entry_taking (c : Call α) : c.entry.taking=0 := by
  cases c <;> rfl

@[simp] theorem Call.entry_found (c : Call α) : c.entry.found=none := by
  cases c <;> rfl

@[simp] theorem Call.entry_unpaid (c : Call α) : c.entry.unpaid=false := by
  cases c <;> rfl

@[simp] theorem Call.entry_waits (c : Call α) (k : Sem) : c.entry.waits k=c.waits k := by
  cases c <;> cases k <;> rfl

@[simp] theorem Call.entry_tries (c : Call α) (k : Sem) : c.entry.tries k=c.tries k := by
  cases c <;> cases k <;> rfl

@[simp] theorem ReadResult.toResult_taken (res : ReadResult α) : res.toResult.taken=0 := by
  cases res <;> rfl

@[simp] theorem lock_eq_some {x : Shared α} {t : Thread α} {r : Except Fault (Shared α×Thread α)} :
    lock x t=some r ↔ x.1.locked=false ∧ r=.ok (({x.1 with locked := true},x.2),t) := by
  unfold lock
  cases x.1.locked <;> simp [eq_comm]

@[simp] theorem unlock_eq_some {x : Shared α} {t : Thread α} {r : Except Fault (Shared α×Thread α)} :
    unlock x t=some r ↔ r=.ok (({x.1 with locked := false},x.2),t) := by
  simp [unlock,eq_comm]

theorem map_eq_ok {β γ : Type} {e : Except Fault β} {f : β → γ} {c : γ} :
    e.map f=.ok c ↔ ∃ b,e=.ok b ∧ f b=c := by
  cases e <;> simp [Except.map]

/-- A semaphore call of a thread, as `threadStep` makes it: the call returned `r`. -/
theorem map_semaphore_eq_some {β : Type} {o : Option (SemaphoreT×β)} {f : SemaphoreT×β → Shared α×Thread α}
    {x' : Shared α} {t' : Thread α} :
    o.map (fun r => (Except.ok (f r) : Except Fault (Shared α×Thread α)))=some (.ok (x',t')) ↔
      ∃ r,o=some r ∧ f r=(x',t') := by
  cases o <;> simp

/-! ### The atomic queue the code implements -/

/-- An operation of a bounded FIFO queue, with the datum it adds or gives, or what a read returns. -/
inductive QueueOp (α : Type)
  | enqueue (data : α)
  | dequeue (data : α)
  | remove (data : α)
  | read (r : Reader) (res : ReadResult α)

/-- What a read of a queue holding `q` returns. -/
def Reader.spec (q : List α) : Reader → ReadResult α
  | .tryPeekFirst => .peeked q.head?
  | .tryPeekLast => .peeked q.getLast?
  | .isEmpty => .isEmpty q.isEmpty
  | .length => .length q.length

/-- The specification: a FIFO queue of at most `capacity` items whose operations are atomic; `none`
where an operation is not allowed. A dequeue gives the front, a removal takes a datum in the queue,
and a read returns what `Reader.spec` says. -/
def queueStep [DecidableEq α] (capacity : ℕ) (q : List α) : QueueOp α → Option (List α)
  | .enqueue data => if q.length < capacity then some (q++[data]) else none
  | .dequeue data => if q.head?=some data then some q.tail else none
  | .remove data => if data ∈ q then some (q.erase data) else none
  | .read r res => if r.spec q=res then some q else none

/-- A step of the specification, or no step. -/
def queueStepOpt [DecidableEq α] (capacity : ℕ) (q : List α) : Option (QueueOp α) → Option (List α)
  | none => some q
  | some op => queueStep capacity q op

/-- The operation of the specification a thread's action performs, read off where the thread was and
where it goes: the append, the take of the front, the removal, and a read under the mutex. Every other
action performs none. -/
def linearization : Pc α → Pc α → Option (QueueOp α)
  | .enqAppend data _ _,_ => some (.enqueue data)
  | .deqTake _ _,.deqUnlock _ ret => some (.dequeue ret)
  | .removeTake data,.removeUnlock _ true => some (.remove data)
  | .readRead r,.readUnlock res => some (.read r res)
  | _,_ => none

/-- The read under the mutex returns what the specification says of the list's data. -/
theorem readQueue_spec {q : FixedQueueT α} {ids : List ℕ} {xs : List α} (hrep : Represents q.list ids xs)
    (r : Reader) : readQueue q r=.ok (r.spec xs) := by
  cases r <;> cases xs <;>
    simp [readQueue,Reader.spec,listIsEmpty_spec hrep,listFront_spec hrep,listBack_spec hrep,
      listLength_spec hrep,seqFront,seqBack,List.getLast?_cons,Except.map]

/-! ### One action -/

/-- What holds of the queue and its history alone: the list is represented, without `free_cb`, and
its data with the data taken are the data appended, the dequeued ones first and all in the order
they were appended. -/
structure SharedInv (x : Shared α) : Prop where
  free_cb : x.1.list.freeCb=false
  represents : ∃ ids,Represents x.1.list ids (listData x.1.list)
  conserved : (listData x.1.list++x.2.dequeued++x.2.removed).Perm x.2.appended
  fifo : (x.2.dequeued++listData x.1.list).Sublist x.2.appended

/-- What one action keeps between the shared state and the thread that moves: the mutex, the counts
(unless the thread goes on past a failed `semaphore_wait`) and the data taken balance; only list
operations change the list; a datum found is in the list; the thread makes no new semaphore call; only
a try-wait changes a descriptor's flags; and a thread goes on without a count only past a
`semaphore_wait` on a non-blocking descriptor. -/
structure Laws (x : Shared α) (t : Thread α) (x' : Shared α) (t' : Thread α) : Prop where
  capacity : x'.1.capacity=x.1.capacity
  mutex : (if x'.1.locked then 1 else 0)+t.pc.holdsMutex=(if x.1.locked then 1 else 0)+t'.pc.holdsMutex
  enqueue : t.pc.unpaid=false →
    x'.1.enqueueSem.count+x'.1.list.length+t'.pc.enqueueTokens=x.1.enqueueSem.count+x.1.list.length+t.pc.enqueueTokens
  dequeue : t.pc.unpaid=false →
    x'.1.dequeueSem.count+t'.pc.dequeueTokens+x.1.list.length=x.1.dequeueSem.count+t.pc.dequeueTokens+x'.1.list.length
  taken : x'.2.takenData+t.taken=x.2.takenData+t'.taken
  frame : t.pc.changesList=false → x'.1.list=x.1.list
  found : ∀ d,t'.pc.found=some d → d ∈ listData x'.1.list
  waits : ∀ k,t'.waits k=true → t.waits k=true
  tries : ∀ k,t'.tries k=true → t.tries k=true
  flags : ∀ k,t.pc.tries k=false → (x'.1.sem k).nonblock=(x.1.sem k).nonblock
  unpaid : t'.pc.unpaid=true → t.pc.unpaid=true ∨ ∃ k,t.pc.waits k=true ∧ (x.1.sem k).nonblock=true

/-- The laws of an action that moves the thread on inside its call from `pc₀` to `pc` and changes
nothing shared but the mutex: the new place holds what the old one held, and makes no semaphore call
the old one would not. -/
theorem Laws.move {x x' : Shared α} {t : Thread α} {pc₀ pc : Pc α} (hpc : t.pc=pc₀)
    (hq : x'.1={x.1 with locked := x'.1.locked}) (hh : x'.2=x.2)
    (hmutex : (if x'.1.locked then 1 else 0)+pc₀.holdsMutex=(if x.1.locked then 1 else 0)+pc.holdsMutex)
    (henq : pc.enqueueTokens=pc₀.enqueueTokens) (hdeq : pc.dequeueTokens=pc₀.dequeueTokens)
    (htaking : pc.taking=pc₀.taking) (hfound : ∀ d,pc.found=some d → d ∈ listData x.1.list)
    (hwaits : ∀ k,pc.waits k=true → pc₀.waits k=true) (htries : ∀ k,pc.tries k=true → pc₀.tries k=true)
    (hunpaid : pc.unpaid=true → pc₀.unpaid=true) : Laws x t x' (t.goto pc) := by
  have hl : x'.1.list=x.1.list := by rw [hq]
  have he : x'.1.enqueueSem=x.1.enqueueSem := by rw [hq]
  have hd : x'.1.dequeueSem=x.1.dequeueSem := by rw [hq]
  refine ⟨by rw [hq],by rw [hpc]; exact hmutex,fun _ => ?_,fun _ => ?_,?_,fun _ => hl,
    fun d hfd => hl ▸ hfound d hfd,fun k => Thread.waits_of_pc (by rfl) (by rw [hpc]; exact hwaits k),
    fun k => Thread.tries_of_pc (by rfl) (by rw [hpc]; exact htries k),
    fun k _ => by cases k <;> simp [FixedQueueT.sem,he,hd],fun hu => .inl (by rw [hpc]; exact hunpaid hu)⟩
  · simp [hpc,he,hl,henq]
  · simp [hpc,hd,hl,hdeq]
  · simp [Thread.taken,hpc,hh,htaking]

section Shared

variable {x : Shared α}

/-- An action that leaves the list and the history alone keeps the shared invariant. -/
theorem SharedInv.of_eq {x' : Shared α} (hx : SharedInv x) (hl : x'.1.list=x.1.list) (hh : x'.2=x.2) :
    SharedInv x' := by
  obtain ⟨hcb,hrep,hcons,hfifo⟩ := hx
  rw [← hl,← hh] at *
  exact ⟨hcb,hrep,hcons,hfifo⟩

/-- `list_append` under the mutex keeps the shared invariant. -/
theorem SharedInv.append (hx : SharedInv x) {l' : ListT α} {ids : List ℕ} {d : α}
    (hrep : Represents l' ids (listData x.1.list++[d])) (hcb : l'.freeCb=x.1.list.freeCb) :
    SharedInv ({x.1 with list := l'},{x.2 with appended := x.2.appended++[d]}) := by
  have hdata : listData l'=listData x.1.list++[d] := hrep.listData_eq
  refine ⟨hcb.trans hx.free_cb,⟨ids,hdata ▸ hrep⟩,?_,?_⟩
  · -- the new datum moves to the end of both sides
    have hperm : (listData x.1.list++[d]++x.2.dequeued++x.2.removed).Perm
        (listData x.1.list++x.2.dequeued++x.2.removed++[d]) := by
      rw [← Multiset.coe_eq_coe]
      simp only [← Multiset.coe_add]
      abel
    exact hdata ▸ hperm.trans (hx.conserved.append_right [d])
  · simpa [hdata] using hx.fifo.append (List.Sublist.refl [d])

/-- Taking the front under the mutex keeps the shared invariant. -/
theorem SharedInv.take (hx : SharedInv x) {l' : ListT α} {ids : List ℕ} {ret : α} {rest : List α}
    (hxs : listData x.1.list=ret::rest) (hrep : Represents l' ids rest) (hcb : l'.freeCb=x.1.list.freeCb) :
    SharedInv ({x.1 with list := l'},{x.2 with dequeued := x.2.dequeued++[ret]}) := by
  have hdata : listData l'=rest := hrep.listData_eq
  refine ⟨hcb.trans hx.free_cb,⟨ids,hdata ▸ hrep⟩,?_,?_⟩
  · have hcons := hx.conserved
    rw [hxs] at hcons
    refine List.Perm.trans ?_ hcons
    rw [hdata,← Multiset.coe_eq_coe]
    simp only [← Multiset.coe_add,← Multiset.cons_coe,List.cons_append,← Multiset.singleton_add,
      Multiset.coe_nil,add_zero]
    abel
  · have hfifo := hx.fifo
    rw [hxs] at hfifo
    simpa [hdata] using hfifo

/-- Removing a datum under the mutex keeps the shared invariant. -/
theorem SharedInv.remove [DecidableEq α] (hx : SharedInv x) {l' : ListT α} {ids : List ℕ} {d : α}
    (hd : d ∈ listData x.1.list) (hrep : Represents l' ids ((listData x.1.list).erase d))
    (hcb : l'.freeCb=x.1.list.freeCb) :
    SharedInv ({x.1 with list := l'},{x.2 with removed := x.2.removed++[d]}) := by
  have hdata : listData l'=(listData x.1.list).erase d := hrep.listData_eq
  refine ⟨hcb.trans hx.free_cb,⟨ids,hdata ▸ hrep⟩,?_,?_⟩
  · -- the datum leaves the list for the removed data
    have hperm : ((listData x.1.list).erase d++x.2.dequeued++(x.2.removed++[d])).Perm
        (listData x.1.list++x.2.dequeued++x.2.removed) := by
      have hcons : ((listData x.1.list : List α) : Multiset α)=((listData x.1.list).erase d : List α)+{d} := by
        rw [Multiset.coe_eq_coe.mpr (List.perm_cons_erase hd),← Multiset.cons_coe,
          ← Multiset.singleton_add,add_comm]
      rw [← Multiset.coe_eq_coe]
      simp only [← Multiset.coe_add,hcons]
      abel
    exact hdata ▸ hperm.trans hx.conserved
  · exact hdata ▸ (((listData x.1.list).erase_sublist).append_left x.2.dequeued).trans hx.fifo

end Shared

section Action

variable [DecidableEq α] {x x' : Shared α} {t t' : Thread α}

/-- One action from a state where the shared invariant holds, the mutex is locked whenever the moving
thread is inside a critical section, and the datum it found is in the list: the shared invariant again,
and the laws. The cases are those of `threadStep`. -/
theorem threadStep_spec (hx : SharedInv x) (hlock : t.pc.holdsMutex=1 → x.1.locked=true)
    (hfound : ∀ d,t.pc.found=some d → d ∈ listData x.1.list)
    (h : threadStep x t=some (.ok (x',t'))) : SharedInv x' ∧ Laws x t x' t' := by
  obtain ⟨ids,hrep⟩ := hx.represents
  cases hpc : t.pc with
  | idle =>
    cases hprog : t.program with
    | nil => simp [threadStep,hpc,hprog] at h
    | cons c cs =>
      simp only [threadStep,hpc,hprog,Option.some.injEq,Except.ok.injEq,Prod.mk.injEq] at h
      obtain ⟨rfl,rfl⟩ := h
      -- a call starts: nothing shared changes, and its calls are those of the program
      have hidle : (Pc.idle : Pc α).holdsMutex=0 ∧ (Pc.idle : Pc α).enqueueTokens=0 ∧
          (Pc.idle : Pc α).dequeueTokens=0 ∧ (Pc.idle : Pc α).taking=0 ∧ ∀ k,(Pc.idle : Pc α).waits k=false ∧
            (Pc.idle : Pc α).tries k=false := ⟨rfl,rfl,rfl,rfl,fun k => ⟨rfl,rfl⟩⟩
      exact ⟨hx,⟨rfl,by simp [hpc,hidle.1],fun _ => by simp [hpc,hidle.2.1],fun _ => by simp [hpc,hidle.2.2.1],
        by simp [Thread.taken,hpc,hidle.2.2.2.1],fun _ => rfl,by simp,
        fun k => by simp [Thread.waits,hpc,hprog,(hidle.2.2.2.2 k).1],
        fun k => by simp [Thread.tries,hpc,hprog,(hidle.2.2.2.2 k).2],fun _ _ => rfl,by simp⟩⟩
  | enqWait data =>
    simp only [threadStep,hpc,map_semaphore_eq_some,Prod.mk.injEq] at h
    obtain ⟨⟨s',took⟩,hread,rfl,rfl⟩ := h
    obtain ⟨hcount,hnb⟩ := eventfdRead_count hread
    -- `semaphore_wait(enqueue_sem)`: a free place, or none past a failed read
    refine ⟨hx.of_eq rfl rfl,⟨rfl,by simp [hpc,Pc.holdsMutex],fun _ => ?_,fun _ => by simp [hpc,Pc.dequeueTokens],
      by simp [Thread.taken,hpc,Pc.taking],fun _ => rfl,by simp [Pc.found],
      fun k => Thread.waits_of_pc (by rfl) (by simp [Pc.waits]),fun k => Thread.tries_of_pc (by rfl) (by simp [Pc.tries]),
      fun k _ => by cases k <;> simp [FixedQueueT.sem,hnb],fun hu => ?_⟩⟩
    · simp [hpc,Pc.enqueueTokens]
      omega
    · -- a read that took nothing failed with `EAGAIN` on a non-blocking descriptor
      cases took
      · exact .inr ⟨.enqueue,by simp [hpc,Pc.waits],eventfdRead_nonblock_of_failed hread⟩
      · simp [Pc.unpaid] at hu
  | enqTryWait data phase =>
    simp only [threadStep,hpc,map_semaphore_eq_some,Prod.mk.injEq] at h
    obtain ⟨⟨s',next⟩,hcall,rfl,rfl⟩ := h
    have hcount := semaphoreTryWait_count hcall
    -- the try-wait makes its next call, enters the critical section with its count, or returns `false`
    rcases next with phase' | _ | _ <;> simp only [TryWait.held,Bool.toNat_true,Bool.toNat_false] at hcount <;>
      refine ⟨hx.of_eq rfl rfl,⟨rfl,by simp [Thread.afterTryEnqueue,hpc,Pc.holdsMutex],
        fun _ => by simp [Thread.afterTryEnqueue,hpc,Pc.enqueueTokens]; omega,
        fun _ => by simp [Thread.afterTryEnqueue,hpc,Pc.dequeueTokens],
        by simp [Thread.afterTryEnqueue,Thread.taken,hpc,Pc.taking,Result.taken],fun _ => rfl,
        by simp [Thread.afterTryEnqueue,Pc.found],
        fun k => Thread.waits_of_pc (by rfl) (by simp [Thread.afterTryEnqueue,Pc.waits]),
        fun k => Thread.tries_of_pc (by rfl) (by cases k <;> simp [Thread.afterTryEnqueue,hpc,Pc.tries]),
        fun k hk => by cases k <;> simp_all [FixedQueueT.sem,Pc.tries],by simp [Thread.afterTryEnqueue,Pc.unpaid]⟩⟩
  | enqLock data blocking took =>
    simp only [threadStep,hpc,lock_eq_some,Except.ok.injEq,Prod.mk.injEq] at h
    obtain ⟨hfree,rfl,rfl⟩ := h
    exact ⟨hx.of_eq rfl rfl,Laws.move hpc rfl rfl (by simp [hfree,Pc.holdsMutex]) rfl rfl rfl (by simp [Pc.found])
      (fun _ => id) (fun _ => id) id⟩
  | enqAppend data blocking took =>
    obtain ⟨l',happ,hrep',hcb',-⟩ := listAppend_spec hrep data
    simp only [threadStep,hpc,happ,Except.map,Option.some.injEq,Except.ok.injEq,Prod.mk.injEq] at h
    obtain ⟨rfl,rfl⟩ := h
    have hlen : l'.length=x.1.list.length+1 := by simp [hrep'.length_eq,hrep.length_eq]
    -- `list_append` fills the place the wait took
    refine ⟨hx.append hrep' hcb',⟨rfl,by simp [hpc,Pc.holdsMutex],fun hpaid => ?_,
      fun _ => by simp [hpc,Pc.dequeueTokens,hlen]; omega,by simp [Thread.taken,hpc,Pc.taking,History.takenData],
      by simp [hpc,Pc.changesList],by simp [Pc.found],fun k => Thread.waits_of_pc (by rfl) (by simp [Pc.waits]),
      fun k => Thread.tries_of_pc (by rfl) (by simp [Pc.tries]),fun k _ => by cases k <;> rfl,by simp [Pc.unpaid]⟩⟩
    cases took <;> simp [hpc,Pc.unpaid,Pc.enqueueTokens,hlen] at hpaid ⊢
    omega
  | enqUnlock blocking =>
    have hheld : x.1.locked=true := hlock (by rw [hpc]; rfl)
    simp only [threadStep,hpc,unlock_eq_some,Except.ok.injEq,Prod.mk.injEq] at h
    obtain ⟨rfl,rfl⟩ := h
    exact ⟨hx.of_eq rfl rfl,Laws.move hpc rfl rfl (by simp [hheld,Pc.holdsMutex]) rfl rfl rfl (by simp [Pc.found])
      (fun _ => id) (fun _ => id) id⟩
  | enqPost blocking =>
    simp only [threadStep,hpc,Option.some.injEq,Except.ok.injEq,Prod.mk.injEq] at h
    obtain ⟨rfl,rfl⟩ := h
    -- `semaphore_post(dequeue_sem)` hands the item over to the count
    refine ⟨hx.of_eq rfl rfl,⟨rfl,by simp [hpc,Pc.holdsMutex],fun _ => by simp [hpc,Pc.enqueueTokens],
      fun _ => by simp [hpc,Pc.dequeueTokens],?_,fun _ => rfl,by simp [Pc.found],
      fun k => Thread.waits_of_pc (by rfl) (by simp [Pc.waits]),fun k => Thread.tries_of_pc (by rfl) (by simp [Pc.tries]),
      fun k _ => by cases k <;> simp [FixedQueueT.sem],by simp [Pc.unpaid]⟩⟩
    cases blocking <;> simp [Thread.taken,hpc,Pc.taking,Result.taken]
  | deqWait =>
    simp only [threadStep,hpc,map_semaphore_eq_some,Prod.mk.injEq] at h
    obtain ⟨⟨s',took⟩,hread,rfl,rfl⟩ := h
    obtain ⟨hcount,hnb⟩ := eventfdRead_count hread
    -- `semaphore_wait(dequeue_sem)`: an item, or none past a failed read
    refine ⟨hx.of_eq rfl rfl,⟨rfl,by simp [hpc,Pc.holdsMutex],fun _ => by simp [hpc,Pc.enqueueTokens],
      fun _ => ?_,by simp [Thread.taken,hpc,Pc.taking],fun _ => rfl,by simp [Pc.found],
      fun k => Thread.waits_of_pc (by rfl) (by simp [Pc.waits]),fun k => Thread.tries_of_pc (by rfl) (by simp [Pc.tries]),
      fun k _ => by cases k <;> simp [FixedQueueT.sem,hnb],fun hu => ?_⟩⟩
    · simp [hpc,Pc.dequeueTokens]
      omega
    · cases took
      · exact .inr ⟨.dequeue,by simp [hpc,Pc.waits],eventfdRead_nonblock_of_failed hread⟩
      · simp [Pc.unpaid] at hu
  | deqTryWait phase =>
    simp only [threadStep,hpc,map_semaphore_eq_some,Prod.mk.injEq] at h
    obtain ⟨⟨s',next⟩,hcall,rfl,rfl⟩ := h
    have hcount := semaphoreTryWait_count hcall
    rcases next with phase' | _ | _ <;> simp only [TryWait.held,Bool.toNat_true,Bool.toNat_false] at hcount <;>
      refine ⟨hx.of_eq rfl rfl,⟨rfl,by simp [Thread.afterTryDequeue,hpc,Pc.holdsMutex],
        fun _ => by simp [Thread.afterTryDequeue,hpc,Pc.enqueueTokens],
        fun _ => by simp [Thread.afterTryDequeue,hpc,Pc.dequeueTokens]; omega,
        by simp [Thread.afterTryDequeue,Thread.taken,hpc,Pc.taking,Result.taken],fun _ => rfl,
        by simp [Thread.afterTryDequeue,Pc.found],
        fun k => Thread.waits_of_pc (by rfl) (by simp [Thread.afterTryDequeue,Pc.waits]),
        fun k => Thread.tries_of_pc (by rfl) (by cases k <;> simp [Thread.afterTryDequeue,hpc,Pc.tries]),
        fun k hk => by cases k <;> simp_all [FixedQueueT.sem,Pc.tries],by simp [Thread.afterTryDequeue,Pc.unpaid]⟩⟩
  | deqLock blocking took =>
    simp only [threadStep,hpc,lock_eq_some,Except.ok.injEq,Prod.mk.injEq] at h
    obtain ⟨hfree,rfl,rfl⟩ := h
    exact ⟨hx.of_eq rfl rfl,Laws.move hpc rfl rfl (by simp [hfree,Pc.holdsMutex]) rfl rfl rfl (by simp [Pc.found])
      (fun _ => id) (fun _ => id) id⟩
  | deqTake blocking took =>
    -- `list_front` then `list_remove` of what it returned
    cases hxs : listData x.1.list with
    | nil => simp [threadStep,hpc,listFront_spec hrep,hxs,seqFront] at h
    | cons ret rest =>
      obtain ⟨l',hrem,hrep',hcb',-⟩ := listRemove_spec hrep ret
      simp only [threadStep,hpc,listFront_spec hrep,hxs,seqFront,hrem,StepRun.ok_bind,Option.some.injEq,
        Except.ok.injEq,Prod.mk.injEq] at h
      obtain ⟨rfl,rfl⟩ := h
      rw [hxs,List.erase_cons_head] at hrep'
      have hlen : l'.length+1=x.1.list.length := by
        simp [hrep'.length_eq,hrep.length_eq,hrep.chain.length_eq,hxs]
      refine ⟨hx.take hxs hrep' hcb',⟨rfl,by simp [hpc,Pc.holdsMutex],fun _ => ?_,fun hpaid => ?_,?_,
        by simp [hpc,Pc.changesList],by simp [Pc.found],fun k => Thread.waits_of_pc (by rfl) (by simp [Pc.waits]),
        fun k => Thread.tries_of_pc (by rfl) (by simp [Pc.tries]),fun k _ => by cases k <;> rfl,by simp [Pc.unpaid]⟩⟩
      · simp [hpc,Pc.enqueueTokens]
        omega
      · cases took <;> simp [hpc,Pc.unpaid,Pc.dequeueTokens] at hpaid ⊢
        omega
      · -- the datum taken moves from the list to the thread
        simp only [Thread.taken,hpc,Pc.taking,Thread.goto_pc,Thread.goto_results,History.takenData,
          ← Multiset.coe_add,Multiset.coe_singleton,zero_add]
        abel
  | deqUnlock blocking ret =>
    have hheld : x.1.locked=true := hlock (by rw [hpc]; rfl)
    simp only [threadStep,hpc,unlock_eq_some,Except.ok.injEq,Prod.mk.injEq] at h
    obtain ⟨rfl,rfl⟩ := h
    exact ⟨hx.of_eq rfl rfl,Laws.move hpc rfl rfl (by simp [hheld,Pc.holdsMutex]) rfl rfl rfl (by simp [Pc.found])
      (fun _ => id) (fun _ => id) id⟩
  | deqPost blocking ret =>
    simp only [threadStep,hpc,Option.some.injEq,Except.ok.injEq,Prod.mk.injEq] at h
    obtain ⟨rfl,rfl⟩ := h
    -- `semaphore_post(enqueue_sem)` hands the free place over to the count
    refine ⟨hx.of_eq rfl rfl,⟨rfl,by simp [hpc,Pc.holdsMutex],fun _ => by simp [hpc,Pc.enqueueTokens]; omega,
      fun _ => by simp [hpc,Pc.dequeueTokens],?_,fun _ => rfl,by simp [Pc.found],
      fun k => Thread.waits_of_pc (by rfl) (by simp [Pc.waits]),fun k => Thread.tries_of_pc (by rfl) (by simp [Pc.tries]),
      fun k _ => by cases k <;> simp [FixedQueueT.sem],by simp [Pc.unpaid]⟩⟩
    cases blocking <;> simp [Thread.taken,hpc,Pc.taking,Result.taken,add_comm]
  | removeLock data =>
    simp only [threadStep,hpc,lock_eq_some,Except.ok.injEq,Prod.mk.injEq] at h
    obtain ⟨hfree,rfl,rfl⟩ := h
    exact ⟨hx.of_eq rfl rfl,Laws.move hpc rfl rfl (by simp [hfree,Pc.holdsMutex]) rfl rfl rfl (by simp [Pc.found])
      (fun _ => id) (fun k => by cases k <;> exact id) id⟩
  | removeTest data =>
    -- `list_contains`: a datum found goes on to the try-wait, and is in the list
    have hcont := listContains_spec hrep data
    by_cases hd : data ∈ listData x.1.list
    · simp only [threadStep,hpc,hcont,hd,decide_true,if_true,Except.map,Option.some.injEq,Except.ok.injEq,
        Prod.mk.injEq] at h
      obtain ⟨rfl,rfl⟩ := h
      exact ⟨hx,Laws.move hpc rfl rfl rfl rfl rfl rfl (fun d hfd => by simp [Pc.found] at hfd; exact hfd ▸ hd)
        (fun _ => id) (fun k => by cases k <;> exact id) id⟩
    · simp only [threadStep,hpc,hcont,hd,decide_false,Bool.false_eq_true,if_false,Except.map,Option.some.injEq,
        Except.ok.injEq,Prod.mk.injEq] at h
      obtain ⟨rfl,rfl⟩ := h
      exact ⟨hx,Laws.move hpc rfl rfl rfl rfl rfl rfl (by simp [Pc.found]) (fun k => by cases k <;> exact id)
        (fun k => by cases k <;> simp [Pc.tries]) id⟩
  | removeTryWait data phase =>
    simp only [threadStep,hpc,map_semaphore_eq_some,Prod.mk.injEq] at h
    obtain ⟨⟨s',next⟩,hcall,rfl,rfl⟩ := h
    have hcount := semaphoreTryWait_count hcall
    have hd : data ∈ listData x.1.list := hfound data (by simp [hpc,Pc.found])
    -- the try-wait makes its next call, goes on to `list_remove` with its count, or gives up; all under the mutex
    rcases next with phase' | _ | _ <;> simp only [TryWait.held,Bool.toNat_true,Bool.toNat_false] at hcount <;>
      refine ⟨hx.of_eq rfl rfl,⟨rfl,by simp [Thread.afterTryRemove,hpc,Pc.holdsMutex],
        fun _ => by simp [Thread.afterTryRemove,hpc,Pc.enqueueTokens],
        fun _ => by simp [Thread.afterTryRemove,hpc,Pc.dequeueTokens]; omega,
        by simp [Thread.afterTryRemove,Thread.taken,hpc,Pc.taking],fun _ => rfl,
        fun d hfd => by simp [Thread.afterTryRemove,Pc.found] at hfd <;> exact hfd ▸ hd,
        fun k => Thread.waits_of_pc (by rfl) (by simp [Thread.afterTryRemove,Pc.waits]),
        fun k => Thread.tries_of_pc (by rfl) (by cases k <;> simp [Thread.afterTryRemove,hpc,Pc.tries]),
        fun k hk => by cases k <;> simp_all [FixedQueueT.sem,Pc.tries],by simp [Thread.afterTryRemove,Pc.unpaid]⟩⟩
  | removeTake data =>
    have hd : data ∈ listData x.1.list := hfound data (by simp [hpc,Pc.found])
    obtain ⟨l',hrem,hrep',hcb',-⟩ := listRemove_spec hrep data
    -- the datum is still in the list, so `list_remove` removes it and `CHECK(removed)` holds
    simp [threadStep,hpc,hrem,hd] at h
    obtain ⟨rfl,rfl⟩ := h
    have hlen : l'.length+1=x.1.list.length := by
      rw [hrep'.length_eq,hrep'.chain.length_eq,List.length_erase_add_one hd,← hrep.chain.length_eq,
        ← hrep.length_eq]
    refine ⟨hx.remove hd hrep' hcb',⟨rfl,by simp [hpc,Pc.holdsMutex],fun _ => ?_,fun _ => ?_,?_,
      by simp [hpc,Pc.changesList],by simp [Pc.found],fun k => Thread.waits_of_pc (by rfl) (by simp [Pc.waits]),
      fun k => Thread.tries_of_pc (by rfl) (by simp [Pc.tries]),fun k _ => by cases k <;> rfl,by simp [Pc.unpaid]⟩⟩
    · simp [hpc,Pc.enqueueTokens]
      omega
    · simp [hpc,Pc.dequeueTokens]
      omega
    · -- the datum removed moves from the list to the thread
      simp only [Thread.taken,hpc,Pc.taking,Thread.goto_pc,Thread.goto_results,History.takenData,
        ← Multiset.coe_add,Multiset.coe_singleton,zero_add]
      abel
  | removeUnlock data removed =>
    have hheld : x.1.locked=true := hlock (by rw [hpc]; rfl)
    simp only [threadStep,hpc,unlock_eq_some,Except.ok.injEq,Prod.mk.injEq] at h
    obtain ⟨rfl,rfl⟩ := h
    cases removed <;>
      exact ⟨hx.of_eq rfl rfl,⟨rfl,by simp [hpc,hheld,Pc.holdsMutex],fun _ => by simp [hpc,Pc.enqueueTokens],
        fun _ => by simp [hpc,Pc.dequeueTokens],by simp [Thread.taken,hpc,Pc.taking,Result.taken],fun _ => rfl,
        by simp [Pc.found],fun k => Thread.waits_of_pc (by rfl) (by simp [Pc.waits]),
        fun k => Thread.tries_of_pc (by rfl) (by simp [Pc.tries]),fun k _ => by cases k <;> rfl,by simp [Pc.unpaid]⟩⟩
  | removePost data =>
    simp only [threadStep,hpc,Option.some.injEq,Except.ok.injEq,Prod.mk.injEq] at h
    obtain ⟨rfl,rfl⟩ := h
    exact ⟨hx.of_eq rfl rfl,⟨rfl,by simp [hpc,Pc.holdsMutex],fun _ => by simp [hpc,Pc.enqueueTokens]; omega,
      fun _ => by simp [hpc,Pc.dequeueTokens],by simp [Thread.taken,hpc,Pc.taking,Result.taken,add_comm],
      fun _ => rfl,by simp [Pc.found],fun k => Thread.waits_of_pc (by rfl) (by simp [Pc.waits]),
      fun k => Thread.tries_of_pc (by rfl) (by simp [Pc.tries]),fun k _ => by cases k <;> simp [FixedQueueT.sem],
      by simp [Pc.unpaid]⟩⟩
  | readLock r =>
    simp only [threadStep,hpc,lock_eq_some,Except.ok.injEq,Prod.mk.injEq] at h
    obtain ⟨hfree,rfl,rfl⟩ := h
    exact ⟨hx.of_eq rfl rfl,Laws.move hpc rfl rfl (by simp [hfree,Pc.holdsMutex]) rfl rfl rfl (by simp [Pc.found])
      (fun _ => id) (fun _ => id) id⟩
  | readRead r =>
    simp only [threadStep,hpc,Option.some.injEq,map_eq_ok,Prod.mk.injEq] at h
    obtain ⟨res,-,rfl,rfl⟩ := h
    exact ⟨hx,Laws.move hpc rfl rfl rfl rfl rfl rfl (by simp [Pc.found]) (fun _ => id) (fun _ => id) id⟩
  | readUnlock res =>
    have hheld : x.1.locked=true := hlock (by rw [hpc]; rfl)
    simp only [threadStep,hpc,unlock_eq_some,Except.ok.injEq,Prod.mk.injEq] at h
    obtain ⟨rfl,rfl⟩ := h
    exact ⟨hx.of_eq rfl rfl,⟨rfl,by simp [hpc,hheld,Pc.holdsMutex],fun _ => by simp [hpc,Pc.enqueueTokens],
      fun _ => by simp [hpc,Pc.dequeueTokens],by simp [Thread.taken,hpc,Pc.taking],fun _ => rfl,by simp [Pc.found],
      fun k => Thread.waits_of_pc (by rfl) (by simp [Pc.waits]),fun k => Thread.tries_of_pc (by rfl) (by simp [Pc.tries]),
      fun k _ => by cases k <;> rfl,by simp [Pc.unpaid]⟩⟩

/-- No action of a thread faults from a state where the shared invariant holds, the list is not empty
when the thread is about to take its front, and the datum it is about to remove is in the list. -/
theorem threadStep_ne_error (hx : SharedInv x) (htake : ∀ b took,t.pc=.deqTake b took → 0 < x.1.list.length)
    (hfound : ∀ d,t.pc.found=some d → d ∈ listData x.1.list) (e : Fault) : threadStep x t≠some (.error e) := by
  obtain ⟨ids,hrep⟩ := hx.represents
  intro h
  cases hpc : t.pc with
  | idle => cases hprog : t.program <;> simp [threadStep,hpc,hprog] at h
  | enqAppend data blocking took =>
    obtain ⟨l',happ,-⟩ := listAppend_spec hrep data
    simp [threadStep,hpc,happ,Except.map] at h
  | deqTake blocking took =>
    -- the list is not empty, so `list_front` and then `list_remove` succeed
    cases hxs : listData x.1.list with
    | nil =>
      have hpos := htake blocking took hpc
      rw [hrep.length_eq,hrep.chain.length_eq,hxs] at hpos
      cases hpos
    | cons ret rest =>
      obtain ⟨l',hrem,-⟩ := listRemove_spec hrep ret
      simp [threadStep,hpc,listFront_spec hrep,hxs,seqFront,hrem] at h
  | removeTest data => simp [threadStep,hpc,listContains_spec hrep,Except.map] at h
  | removeTake data =>
    -- the datum is in the list, so `CHECK(removed)` holds
    have hd := hfound data (by simp [hpc,Pc.found])
    obtain ⟨l',hrem,-⟩ := listRemove_spec hrep data
    simp [threadStep,hpc,hrem,hd] at h
  | readRead r =>
    -- a peek reads the front or the back only of a list that is not empty
    cases hxs : listData x.1.list with
    | nil => cases r <;> simp [threadStep,hpc,readQueue,listIsEmpty_spec hrep,hxs,Except.map] at h
    | cons y ys =>
      cases r <;> simp [threadStep,hpc,readQueue,listIsEmpty_spec hrep,listFront_spec hrep,
        listBack_spec hrep,hxs,seqFront,seqBack,List.getLast?_cons,Except.map] at h
  | _ => simp [threadStep,hpc] at h

/-- Every action is one atomic operation of the specification, or leaves the list alone: the append
(with a free place, which the thread holds), the take of the front, the removal, and a read that
returns what the specification says. -/
theorem threadStep_linearizes (hx : SharedInv x) (hlock : t.pc.holdsMutex=1 → x.1.locked=true)
    (hfound : ∀ d,t.pc.found=some d → d ∈ listData x.1.list)
    (hcap : ∀ d b took,t.pc=.enqAppend d b took → x.1.list.length < x.1.capacity % 2^32)
    (h : threadStep x t=some (.ok (x',t'))) :
    queueStepOpt (x.1.capacity % 2^32) (listData x.1.list) (linearization t.pc t'.pc)=some (listData x'.1.list) := by
  obtain ⟨ids,hrep⟩ := hx.represents
  have hframe := (threadStep_spec hx hlock hfound h).2.frame
  cases hpc : t.pc with
  | enqAppend data blocking took =>
    obtain ⟨l',happ,hrep',-⟩ := listAppend_spec hrep data
    simp only [threadStep,hpc,happ,Except.map,Option.some.injEq,Except.ok.injEq,Prod.mk.injEq] at h
    obtain ⟨rfl,rfl⟩ := h
    have hlt := hcap data blocking took hpc
    rw [hrep.length_eq,hrep.chain.length_eq] at hlt
    simpa [linearization,queueStepOpt,queueStep,hrep'.listData_eq] using hlt
  | deqTake blocking took =>
    cases hxs : listData x.1.list with
    | nil => simp [threadStep,hpc,listFront_spec hrep,hxs,seqFront] at h
    | cons ret rest =>
      obtain ⟨l',hrem,hrep',-⟩ := listRemove_spec hrep ret
      simp only [threadStep,hpc,listFront_spec hrep,hxs,seqFront,hrem,StepRun.ok_bind,
        Option.some.injEq,Except.ok.injEq,Prod.mk.injEq] at h
      obtain ⟨rfl,rfl⟩ := h
      simp [linearization,queueStepOpt,queueStep,hrep'.listData_eq,hxs]
  | removeTake data =>
    -- the removal of a datum in the queue
    have hd := hfound data (by simp [hpc,Pc.found])
    obtain ⟨l',hrem,hrep',-⟩ := listRemove_spec hrep data
    simp [threadStep,hpc,hrem,hd] at h
    obtain ⟨rfl,rfl⟩ := h
    simp [linearization,queueStepOpt,queueStep,hrep'.listData_eq,hd]
  | readRead r =>
    simp only [threadStep,hpc,readQueue_spec hrep,Except.map,Option.some.injEq,Except.ok.injEq,
      Prod.mk.injEq] at h
    obtain ⟨rfl,rfl⟩ := h
    simp [linearization,queueStepOpt,queueStep]
  | _ =>
    -- the other actions move semaphores, flags and the mutex only
    rw [hframe (by simp [hpc,Pc.changesList])]
    simp [linearization,queueStepOpt]

end Action

/-! ### Every interleaving -/

section System

/-- What holds in every reachable state, whatever the programs: the shared invariant, the mutex held
by exactly the thread inside a critical section, the data taken out balanced by what the threads took,
and the datum of every `fixed_queue_try_remove_from_queue` past its `list_contains` still in the list. -/
structure Inv (x : Shared α×List (Thread α)) : Prop where
  shared : SharedInv x.1
  mutex : (if x.1.1.locked then 1 else 0)=(x.2.map fun t => t.pc.holdsMutex).sum
  taken : x.1.2.takenData=(x.2.map Thread.taken).sum
  found : ∀ t ∈ x.2,∀ d,t.pc.found=some d → d ∈ listData x.1.1.list

variable {x y : Shared α×List (Thread α)}

/-- A thread inside a critical section finds the mutex locked. -/
theorem Inv.locked_of_holds (hx : Inv x) {t : Thread α} (ht : t ∈ x.2) (hhold : t.pc.holdsMutex=1) :
    x.1.1.locked=true := by
  have hle : t.pc.holdsMutex ≤ (x.2.map fun t => t.pc.holdsMutex).sum :=
    List.le_sum_of_mem (List.mem_map_of_mem ht)
  rw [← hx.mutex,hhold] at hle
  cases hl : x.1.1.locked
  · simp [hl] at hle
  · rfl

/-- Mutual exclusion: of two threads at different places, at most one is inside a critical section. -/
theorem Inv.exclusive (hx : Inv x) {i j : ℕ} (hi : i < x.2.length) (hj : j < x.2.length) (hij : i ≠ j)
    (hhold : x.2[i].pc.holdsMutex=1) : x.2[j].pc.holdsMutex=0 := by
  -- the two weigh together at most the mutex
  have hle := add_le_sum_map (w := fun t : Thread α => t.pc.holdsMutex) hi hj hij
  have hone : (x.2.map fun t => t.pc.holdsMutex).sum ≤ 1 := by
    rw [← hx.mutex]
    split <;> omega
  omega

/-- The length the list keeps is the number of its data. -/
theorem Inv.length_eq (hx : Inv x) : x.1.1.list.length=(listData x.1.1.list).length := by
  obtain ⟨ids,hrep⟩ := hx.shared.represents
  rw [hrep.length_eq,hrep.chain.length_eq]

/-- The invariant holds for a new queue and threads that have not started. -/
theorem initial_inv (capacity : ℕ) (programs : List (List (Call α))) : Inv (initial capacity programs) := by
  refine ⟨⟨rfl,⟨[],listNew_represents false⟩,by simp [initial,fixedQueueNew,listData,walkData,listNew],
    by simp [initial,fixedQueueNew,listData,walkData,listNew]⟩,?_,?_,?_⟩ <;>
    simp [initial,fixedQueueNew,listNew,Function.comp_def,Pc.holdsMutex,Thread.taken,Pc.taking,
      History.takenData,Pc.found]

/-- The precondition of the laws of a move of `t` from `s`: the shared invariant, the mutex locked
while `t` is inside a critical section, and the datum `t` found in the list. -/
def Pre (s : Shared α) (t : Thread α) : Prop :=
  SharedInv s ∧ (t.pc.holdsMutex=1 → s.1.locked=true) ∧ ∀ d,t.pc.found=some d → d ∈ listData s.1.list

/-- The invariant gives every thread the precondition of its laws. -/
theorem Inv.pre (hx : Inv x) {t : Thread α} (ht : t ∈ x.2) : Pre x.1 t :=
  ⟨hx.shared,hx.locked_of_holds ht,hx.found t ht⟩

variable {capacity : ℕ} {programs : List (List (Call α))}

/-! ### The semaphores, under the discipline -/

/-- What `WaitsUnmixed` keeps of semaphore `k` along a run: its descriptor stays blocking and no thread
will try-wait on it, or no thread will wait on it with `semaphore_wait`. -/
def Unmixed (x : Shared α×List (Thread α)) (k : Sem) : Prop :=
  ((x.1.1.sem k).nonblock=false ∧ ∀ t ∈ x.2,t.tries k=false) ∨ ∀ t ∈ x.2,t.waits k=false

/-- What holds in every reachable state of programs that keep `WaitsUnmixed`: each semaphore stays
unmixed, no thread goes on past a failed `semaphore_wait`, and the semaphores count: `enqueue_sem` the
free places of `capacity % 2^32` that no thread holds, `dequeue_sem` the items of the list that no
thread holds. -/
structure CountInv (x : Shared α×List (Thread α)) : Prop where
  unmixed : ∀ k,Unmixed x k
  paid : ∀ t ∈ x.2,t.pc.unpaid=false
  enqueue : x.1.1.enqueueSem.count+x.1.1.list.length+(x.2.map fun t => t.pc.enqueueTokens).sum=x.1.1.capacity % 2^32
  dequeue : x.1.1.dequeueSem.count+(x.2.map fun t => t.pc.dequeueTokens).sum=x.1.1.list.length

/-- The counting invariant holds for a new queue and threads about to run programs that keep the
discipline. -/
theorem initial_countInv (hd : WaitsUnmixed programs) : CountInv (initial capacity programs) := by
  refine ⟨fun k => ?_,?_,?_,?_⟩
  · -- a thread that has not started may make exactly the calls of its program
    rcases hd k with htries | hwaits
    · refine .inl ⟨by cases k <;> rfl,?_⟩
      simp only [initial,List.mem_map]
      rintro t ⟨p,hp,rfl⟩
      simpa [Thread.tries,Pc.tries] using htries p hp
    · refine .inr ?_
      simp only [initial,List.mem_map]
      rintro t ⟨p,hp,rfl⟩
      simpa [Thread.waits,Pc.waits] using hwaits p hp
  · simp [initial,Pc.unpaid]
  · simp [initial,fixedQueueNew,listNew,Function.comp_def,Pc.enqueueTokens]
  · simp [initial,fixedQueueNew,listNew,Function.comp_def,Pc.dequeueTokens]

/-- A thread about to take the front holds an item, so the list is not empty. -/
theorem CountInv.length_pos_of_take (hx : CountInv x) {t : Thread α} (ht : t ∈ x.2) {b took : Bool}
    (hpc : t.pc=.deqTake b took) : 0 < x.1.1.list.length := by
  have hle : t.pc.dequeueTokens ≤ (x.2.map fun t => t.pc.dequeueTokens).sum :=
    List.le_sum_of_mem (List.mem_map_of_mem ht)
  have hone : t.pc.dequeueTokens=1 := by
    have := hx.paid t ht
    rw [hpc] at this ⊢
    cases took <;> simp_all [Pc.unpaid,Pc.dequeueTokens]
  have := hx.dequeue
  omega

/-- A thread about to append holds a free place, so the list is below `capacity % 2^32`. -/
theorem CountInv.length_lt_of_append (hx : CountInv x) {t : Thread α} (ht : t ∈ x.2) {d : α} {b took : Bool}
    (hpc : t.pc=.enqAppend d b took) : x.1.1.list.length < x.1.1.capacity % 2^32 := by
  have hle : t.pc.enqueueTokens ≤ (x.2.map fun t => t.pc.enqueueTokens).sum :=
    List.le_sum_of_mem (List.mem_map_of_mem ht)
  have hone : t.pc.enqueueTokens=1 := by
    have := hx.paid t ht
    rw [hpc] at this ⊢
    cases took <;> simp_all [Pc.unpaid,Pc.enqueueTokens]
  have := hx.enqueue
  omega

variable [DecidableEq α]

/-- The laws of a move of a thread from a state where its precondition holds. -/
theorem laws_of_pre {s s' : Shared α} {t t' : Thread α} (hpre : Pre s t)
    (hs : threadStep s t=some (.ok (s',t'))) : Laws s t s' t' :=
  (threadStep_spec hpre.1 hpre.2.1 hpre.2.2 hs).2

/-- Every move keeps the invariant. -/
theorem Inv.move (hx : Inv x) (h : Step threadStep x y) : Inv y := by
  refine ⟨Step.shared (Q := SharedInv) h (fun i hi s' t' hs => ?_),?_,?_,?_⟩
  · have hpre := hx.pre (List.getElem_mem hi)
    exact (threadStep_spec hpre.1 hpre.2.1 hpre.2.2 hs).1
  · have hb := Balance.move (f := fun s : Shared α => if s.1.locked then 1 else 0) (g := fun _ => 0)
      (w := fun _ => 0) (v := fun t : Thread α => t.pc.holdsMutex) (fun s t s' t' hst hs => by
        have := (laws_of_pre hst hs).mutex
        simp only [zero_add,add_zero]
        omega) (fun t ht => hx.pre ht) (by simp [Balance,hx.mutex]) h
    simpa [Balance] using hb
  · have hb := Balance.move (f := fun s : Shared α => s.2.takenData) (g := fun _ => 0)
      (w := fun _ => 0) (v := Thread.taken) (fun s t s' t' hst hs => by
        have := (laws_of_pre hst hs).taken
        simpa [add_comm] using this) (fun t ht => hx.pre ht) (by simp [Balance,hx.taken]) h
    simpa [Balance] using hb
  · refine Step.forall_mem (P := fun s t => ∀ d,t.pc.found=some d → d ∈ listData s.1.list) h ?_ ?_
    · intro i hi s' t' hs
      exact (laws_of_pre (hx.pre (List.getElem_mem hi)) hs).found
    · -- a thread that found its datum holds the mutex, so the thread that moves changes no list
      intro i j hi hj s' t' hji hs d hfd
      have hfree := hx.exclusive hj hi hji (Pc.holdsMutex_of_found hfd)
      have hkeep : x.2[i].pc.changesList=false := by
        cases hc : x.2[i].pc.changesList
        · rfl
        · rw [Pc.holdsMutex_of_changesList hc] at hfree
          cases hfree
      rw [(laws_of_pre (hx.pre (List.getElem_mem hi)) hs).frame hkeep]
      exact hx.found _ (List.getElem_mem hj) d hfd

/-- Every state an interleaving reaches satisfies the invariant. -/
theorem reachable_inv (h : Reachable threadStep (initial capacity programs) x) : Inv x :=
  reachable_invariant (initial_inv capacity programs) (fun _ _ hx hm => hx.move hm) h

/-- The capacity never changes. -/
theorem reachable_capacity (h : Reachable threadStep (initial capacity programs) x) : x.1.1.capacity=capacity := by
  induction h with
  | refl => rfl
  | tail hreach hmove ih =>
    rw [← ih]
    exact Step.shared (Q := fun s => s.1.capacity=_) hmove fun i hi s' t' hs =>
      (laws_of_pre ((reachable_inv hreach).pre (List.getElem_mem hi)) hs).capacity

/-- Every move keeps the counting invariant. -/
theorem CountInv.move (hinv : Inv x) (hx : CountInv x) (h : Step threadStep x y) : CountInv y := by
  have hlaws : ∀ i (hi : i < x.2.length) s' t',threadStep x.1 x.2[i]=some (.ok (s',t')) → Laws x.1 x.2[i] s' t' :=
    fun i hi s' t' hs => laws_of_pre (hinv.pre (List.getElem_mem hi)) hs
  -- the precondition of the balances: the laws' own, and no thread past a failed wait
  have hR : ∀ t ∈ x.2,Pre x.1 t ∧ t.pc.unpaid=false := fun t ht => ⟨hinv.pre ht,hx.paid t ht⟩
  refine ⟨fun k => ?_,?_,?_,?_⟩
  · rcases hx.unmixed k with ⟨hnb,hno⟩ | hno
    · -- nobody try-waits on `k`, so nobody sets its descriptor non-blocking
      refine .inl ⟨Step.shared (Q := fun s => (s.1.sem k).nonblock=false) h (fun i hi s' t' hs => ?_),
        Step.forall_mem (P := fun _ t => t.tries k=false) h (fun i hi s' t' hs => ?_)
        (fun i j hi hj _ _ _ _ => hno _ (List.getElem_mem hj))⟩
      · have hpc : x.2[i].pc.tries k=false := by
          have := hno _ (List.getElem_mem hi)
          simp only [Thread.tries,Bool.or_eq_false_iff] at this
          exact this.1
        exact ((hlaws i hi _ _ hs).flags k hpc).trans hnb
      · cases ht : t'.tries k
        · rfl
        · simpa [hno _ (List.getElem_mem hi)] using (hlaws i hi _ _ hs).tries k ht
    · refine .inr (Step.forall_mem (P := fun _ t => t.waits k=false) h (fun i hi s' t' hs => ?_)
        (fun i j hi hj _ _ _ _ => hno _ (List.getElem_mem hj)))
      cases ht : t'.waits k
      · rfl
      · simpa [hno _ (List.getElem_mem hi)] using (hlaws i hi _ _ hs).waits k ht
  · refine Step.forall_mem (P := fun _ t => t.pc.unpaid=false) h (fun i hi s' t' hs => ?_)
      (fun i j hi hj _ _ _ _ => hx.paid _ (List.getElem_mem hj))
    -- a wait that fails needs a non-blocking descriptor, which an unmixed semaphore waited on never has
    cases hu : t'.pc.unpaid
    · rfl
    · rcases (hlaws i hi _ _ hs).unpaid hu with hold | ⟨k,hwait,hnb⟩
      · simp [hx.paid _ (List.getElem_mem hi)] at hold
      · rcases hx.unmixed k with ⟨hnb',-⟩ | hno
        · simp [hnb'] at hnb
        · have := hno _ (List.getElem_mem hi)
          simp [Thread.waits,hwait] at this
  · have hb := Balance.move (f := fun s : Shared α => s.1.enqueueSem.count+s.1.list.length)
      (g := fun s => s.1.capacity % 2^32) (w := fun t : Thread α => t.pc.enqueueTokens) (v := fun _ => 0)
      (R := fun s t => Pre s t ∧ t.pc.unpaid=false) (fun s t s' t' hst hs => by
        have hl := laws_of_pre hst.1 hs
        have := hl.enqueue hst.2
        have := hl.capacity
        simp only [add_zero]
        omega) hR (by simp [Balance,hx.enqueue]) h
    simpa [Balance] using hb
  · have hb := Balance.move (f := fun s : Shared α => s.1.dequeueSem.count) (g := fun s => s.1.list.length)
      (w := fun t : Thread α => t.pc.dequeueTokens) (v := fun _ => 0) (R := fun s t => Pre s t ∧ t.pc.unpaid=false)
      (fun s t s' t' hst hs => by
        have := (laws_of_pre hst.1 hs).dequeue hst.2
        simp only [add_zero]
        omega) hR (by simp [Balance,hx.dequeue]) h
    simpa [Balance] using hb

/-- Every state an interleaving of programs that keep the discipline reaches satisfies the counting
invariant. -/
theorem reachable_countInv (hd : WaitsUnmixed programs) (h : Reachable threadStep (initial capacity programs) x) :
    CountInv x := by
  induction h with
  | refl => exact initial_countInv hd
  | tail hreach hmove ih => exact ih.move (reachable_inv hreach) hmove

/-- `fixed_queue_try_remove_from_queue` still finds its datum when it removes it: in every reachable
state, a thread about to call `list_remove` after its `list_contains` and its try-wait finds the datum
in the list, and the removal succeeds (`CHECK(removed)` holds). Another thread could remove the datum
in between only inside its own critical section, and the caller holds the mutex throughout. -/
theorem fixed_queue_remove_finds_its_datum (h : Reachable threadStep (initial capacity programs) x)
    {t : Thread α} (ht : t ∈ x.2) {d : α} (hpc : t.pc=.removeTake d) :
    d ∈ listData x.1.1.list ∧ ∃ y,threadStep x.1 t=some (.ok y) := by
  have hx := reachable_inv h
  have hd : d ∈ listData x.1.1.list := hx.found t ht d (by simp [hpc,Pc.found])
  obtain ⟨ids,hrep⟩ := hx.shared.represents
  obtain ⟨l',hrem,-⟩ := listRemove_spec hrep d
  refine ⟨hd,?_⟩
  simp [threadStep,hpc,hrem,hd]

theorem fixed_queue_remove_finds_its_datum_after_try_wait :
    ∃ x,run threadStep (initial 1 [[Call.enqueue (7 : ℕ),Call.tryRemoveFromQueue 7]]) (List.replicate 13 0)=.ok x ∧
      ∃ t ∈ x.2,t.pc=.removeTake 7 ∧ 7 ∈ listData x.1.1.list ∧ ∃ y,threadStep x.1 t=some (.ok y) :=
  ⟨_,rfl,_,List.mem_singleton_self _,rfl,fixed_queue_remove_finds_its_datum (run_reachable (List.replicate 13 0)
    (Reachable.refl (initial 1 [[Call.enqueue (7 : ℕ),Call.tryRemoveFromQueue 7]])) rfl) (List.mem_singleton_self _) rfl⟩

/-- The semaphores count what the code means them to, as long as no semaphore is waited on both with
`semaphore_wait` and with `semaphore_try_wait`: `enqueue_sem` the free places of `capacity % 2^32` not
held by a thread between its wait and its append (or between a take and its post), `dequeue_sem` the
items in the list not held by a thread between its append and its post (or between its wait and its
take); so the list never holds more than `capacity % 2^32` data. Without the discipline a queue of
capacity one takes a second item: the `fixed_queue_enqueue` of the second thread reads `enqueue_sem`
inside the non-blocking window of the first thread's `fixed_queue_try_enqueue`, fails, and appends. -/
theorem fixed_queue_semaphores_count :
    (∀ (capacity : ℕ) (programs : List (List (Call α))) x,WaitsUnmixed programs →
      Reachable threadStep (initial capacity programs) x →
      x.1.1.enqueueSem.count+(listData x.1.1.list).length+(x.2.map fun t => t.pc.enqueueTokens).sum=capacity % 2^32 ∧
      x.1.1.dequeueSem.count+(x.2.map fun t => t.pc.dequeueTokens).sum=(listData x.1.1.list).length ∧
      (listData x.1.1.list).length ≤ capacity % 2^32) ∧
    ∃ x,run threadStep (initial 1 [[Call.enqueue (1 : ℕ),Call.tryEnqueue 2],[Call.enqueue 3]])
        [0,0,0,0,0,0,0,0,0,1,1,1,1]=.ok x ∧ (listData x.1.1.list).length=2 := by
  refine ⟨fun capacity programs x hd h => ?_,_,rfl,rfl⟩
  have hx := reachable_countInv hd h
  have henq := hx.enqueue
  have hdeq := hx.dequeue
  rw [(reachable_inv h).length_eq,reachable_capacity h] at henq
  rw [(reachable_inv h).length_eq] at hdeq
  exact ⟨henq,hdeq,by omega⟩

theorem fixed_queue_semaphores_count_after_append :
    ∃ x,run threadStep (initial 1 [[Call.enqueue (7 : ℕ),Call.enqueue 8],[Call.dequeue]]) [0,0,0,0]=.ok x ∧
      x.1.1.enqueueSem.count+(listData x.1.1.list).length+(x.2.map fun t => t.pc.enqueueTokens).sum=1 % 2^32 ∧
      x.1.1.dequeueSem.count+(x.2.map fun t => t.pc.dequeueTokens).sum=(listData x.1.1.list).length ∧
      (listData x.1.1.list).length ≤ 1 % 2^32 :=
  ⟨_,rfl,fixed_queue_semaphores_count.1 1 _ _ (fun k => by cases k <;> decide)
    (run_reachable [0,0,0,0] (Reachable.refl (initial 1 [[Call.enqueue (7 : ℕ),Call.enqueue 8],[Call.dequeue]])) rfl)⟩

/-- No interleaving of programs that keep the discipline ever faults: no `CHECK` fails and no list
operation is made on a list that cannot take it. Without the discipline one does: a
`fixed_queue_dequeue` whose read of `dequeue_sem` falls inside the non-blocking window of a
`fixed_queue_try_dequeue` goes on without an item and fails the `CHECK` of `list_front` on the empty
list. -/
theorem fixed_queue_never_faults :
    (∀ (capacity : ℕ) (programs : List (List (Call α))),WaitsUnmixed programs →
      ∀ (schedule : List ℕ) (e : Fault),run threadStep (initial capacity programs) schedule≠.error e) ∧
    run threadStep (initial 1 [[(Call.tryDequeue : Call ℕ)],[Call.dequeue]]) [0,0,0,1,1,1,1]=.error .checkFailed :=
  ⟨fun _ _ hd schedule e => run_ne_error (fun _ hreach _ ht e => threadStep_ne_error (reachable_inv hreach).shared
    (fun _ _ hpc => (reachable_countInv hd hreach).length_pos_of_take ht hpc) ((reachable_inv hreach).found _ ht) e)
    schedule (Reachable.refl _) e,rfl⟩

theorem fixed_queue_never_faults_remove_and_try_dequeue :
    run threadStep (initial 1 [[Call.enqueue (5 : ℕ),Call.tryRemoveFromQueue 5],[Call.tryDequeue]])
      [0,0,0,0,0,0,0,0,0,0,1,1,0,1,1,1]≠.error .checkFailed :=
  fixed_queue_never_faults.1 1 _ (fun k => by cases k <;> decide) _ _

/-- No datum is lost or duplicated: the data appended are, counted with their multiplicity, the data in
the list and the data the threads took out, returned or about to be. -/
theorem fixed_queue_conserves_data (h : Reachable threadStep (initial capacity programs) x) :
    (listData x.1.1.list : Multiset α)+(x.2.map Thread.taken).sum=x.1.2.appended := by
  have hx := reachable_inv h
  have hcons := Multiset.coe_eq_coe.mpr hx.shared.conserved
  rw [← hx.taken,History.takenData,← hcons]
  simp only [← Multiset.coe_add,add_assoc]

theorem fixed_queue_conserves_data_after_take :
    ∃ x,run threadStep (initial 1 [[Call.enqueue (7 : ℕ),Call.enqueue 8],[Call.dequeue]])
        [0,0,0,0,0,0,1,1,1,1]=.ok x ∧
      (listData x.1.1.list : Multiset ℕ)+(x.2.map Thread.taken).sum=x.1.2.appended :=
  ⟨_,rfl,fixed_queue_conserves_data (run_reachable [0,0,0,0,0,0,1,1,1,1]
    (Reachable.refl (initial 1 [[Call.enqueue (7 : ℕ),Call.enqueue 8],[Call.dequeue]])) rfl)⟩

/-- First in, first out: the data the dequeues took, in the order they took them, followed by the
list's data, are in the order they were appended. -/
theorem fixed_queue_fifo (h : Reachable threadStep (initial capacity programs) x) :
    (x.1.2.dequeued++listData x.1.1.list).Sublist x.1.2.appended :=
  (reachable_inv h).shared.fifo

theorem fixed_queue_fifo_after_take :
    ∃ x,run threadStep (initial 1 [[Call.enqueue (7 : ℕ),Call.enqueue 8],[Call.dequeue]])
        [0,0,0,0,0,0,1,1,1,1]=.ok x ∧ (x.1.2.dequeued++listData x.1.1.list).Sublist x.1.2.appended :=
  ⟨_,rfl,fixed_queue_fifo (run_reachable [0,0,0,0,0,0,1,1,1,1]
    (Reachable.refl (initial 1 [[Call.enqueue (7 : ℕ),Call.enqueue 8],[Call.dequeue]])) rfl)⟩

/-- Linearizability under the discipline: in every reachable state, each action of each thread is one
atomic operation of a FIFO queue of `capacity % 2^32` places, or leaves the list alone: the append
where the queue has a free place, the take of the front, the removal of a datum in the queue, and a
read that returns what the queue holds. -/
theorem fixed_queue_linearizable (hd : WaitsUnmixed programs) (h : Reachable threadStep (initial capacity programs) x)
    {t : Thread α} (ht : t ∈ x.2) {x' : Shared α} {t' : Thread α} (hs : threadStep x.1 t=some (.ok (x',t'))) :
    queueStepOpt (capacity % 2^32) (listData x.1.1.list) (linearization t.pc t'.pc)=some (listData x'.1.list) := by
  have hx := reachable_inv h
  rw [← reachable_capacity h]
  exact threadStep_linearizes hx.shared (hx.locked_of_holds ht) (hx.found t ht)
    (fun _ _ _ hpc => (reachable_countInv hd h).length_lt_of_append ht hpc) hs

theorem fixed_queue_linearizable_append :
    ∃ x t x' t',run threadStep (initial 1 [[Call.enqueue (7 : ℕ)],[Call.dequeue]]) [0,0,0]=.ok x ∧ t ∈ x.2 ∧
      threadStep x.1 t=some (.ok (x',t')) ∧
      queueStepOpt (1 % 2^32) (listData x.1.1.list) (linearization t.pc t'.pc)=some (listData x'.1.list) :=
  ⟨_,_,_,_,rfl,List.mem_cons_self,rfl,fixed_queue_linearizable (fun k => by cases k <;> decide)
    (run_reachable [0,0,0] (Reachable.refl (initial 1 [[Call.enqueue (7 : ℕ)],[Call.dequeue]])) rfl) List.mem_cons_self rfl⟩

end System

end BluetoothStack.FixedQueue
