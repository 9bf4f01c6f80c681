import Mathlib.Data.Nat.ModEq
import Mathlib.Logic.Function.Basic

/-!
# Queues kept in a cyclic buffer

A cyclic buffer of `total` cells keeps a queue as the `n` cells read from a head position on,
wrapping modulo `total`. A write at the cell after the last appends to the queue, moving the head
drops from its front, and reading from an offset takes a slice. The queue itself is a bounded list:
appends are cut at the capacity, removals at the length. Nothing here names a Bluetooth structure.
-/

namespace BluetoothStack.CyclicQueue

variable {α : Type}

/-! ### Pointers that wrap -/

/-- A pointer moved one cell on, back to the first cell when it passes the last. -/
def stepPointer (total ptr : ℕ) : ℕ :=
  if total ≤ ptr+1 then 0 else ptr+1

/-- A pointer moved `length` cells on, pulled back by `total` once when it passes the last. -/
def advancePointer (total ptr length : ℕ) : ℕ :=
  if total ≤ ptr+length then ptr+length-total else ptr+length

theorem stepPointer_eq_mod {total ptr : ℕ} (h : ptr<total) : stepPointer total ptr=(ptr+1) % total := by
  unfold stepPointer
  split_ifs with hwrap
  · -- the pointer was on the last cell
    have hlast : ptr+1=total := by omega
    rw [hlast,Nat.mod_self]
  · rw [Nat.mod_eq_of_lt (by omega)]

/-- One subtraction is enough for a move of at most one turn. -/
theorem advancePointer_eq_mod {total ptr length : ℕ} (h : ptr<total) (hl : length ≤ total) :
    advancePointer total ptr length=(ptr+length) % total := by
  unfold advancePointer
  split_ifs with hwrap
  · rw [Nat.mod_eq_sub_mod hwrap,Nat.mod_eq_of_lt (by omega)]
  · rw [Nat.mod_eq_of_lt (by omega)]

/-- Cells `j` and `n` after a head are different cells while `j < n < total`. -/
theorem mod_ne_of_lt {head j n total : ℕ} (hj : j<n) (hn : n<total) : (head+j) % total≠(head+n) % total := by
  intro h
  have hdvd : total ∣ (head+n)-(head+j) := (Nat.modEq_iff_dvd' (by omega)).mp h
  have hdiff : (head+n)-(head+j)=n-j := by omega
  rw [hdiff] at hdvd
  have hle := Nat.le_of_dvd (by omega) hdvd
  omega

/-! ### The window a queue occupies -/

/-- The `n` cells of `buf` from `head` on, wrapping modulo `total`. -/
def window (buf : ℕ → α) (total head n : ℕ) : List α :=
  (List.range n).map fun j => buf ((head+j) % total)

section Window

variable (buf : ℕ → α) (total head : ℕ)

@[simp] theorem length_window (n : ℕ) : (window buf total head n).length=n := by
  simp only [window,List.length_map,List.length_range]

@[simp] theorem window_zero : window buf total head 0=[] := rfl

theorem window_succ (n : ℕ) : window buf total head (n+1)=window buf total head n++[buf ((head+n) % total)] := by
  simp only [window,List.range_succ,List.map_append,List.map_cons,List.map_nil]

theorem window_add (m n : ℕ) :
    window buf total head (m+n)=window buf total head m++window buf total (head+m) n := by
  simp only [window,List.range_add,List.map_append,List.map_map]
  congr 2
  funext j
  simp only [Function.comp_apply,Nat.add_assoc]

/-- Only the head's cell matters, not how many turns it has made. -/
theorem window_mod_head (n : ℕ) : window buf total (head % total) n=window buf total head n := by
  simp only [window]
  congr 1
  funext j
  rw [Nat.mod_add_mod]

/-- Dropping the first `m` cells moves the head on by `m`. -/
theorem drop_window (m n : ℕ) : (window buf total head (m+n)).drop m=window buf total (head+m) n := by
  rw [window_add,List.drop_left' (length_window buf total head m)]

theorem take_window (k n : ℕ) : (window buf total head n).take k=window buf total head (min k n) := by
  simp only [window,← List.map_take,List.take_range]

end Window

section Update

variable {buf : ℕ → α} {total head n : ℕ}

/-- A write outside the window leaves it alone. -/
theorem window_update_of_ne {t : ℕ} (x : α) (h : ∀ j,j<n → (head+j) % total≠t) :
    window (Function.update buf t x) total head n=window buf total head n := by
  apply List.map_congr_left
  intro j hj
  exact Function.update_of_ne (h j (List.mem_range.mp hj)) x buf

/-- A write at the cell after the window appends to it. -/
theorem window_update_end (hn : n<total) (x : α) :
    window (Function.update buf ((head+n) % total) x) total head (n+1)=window buf total head n++[x] := by
  rw [window_succ,window_update_of_ne x (fun j hj => mod_ne_of_lt hj hn),Function.update_self]

end Update

/-! ### Bounded queues -/

/-- A queue of at most `capacity` items, the first at the front. -/
@[ext] structure BoundedQueue (α : Type) where
  capacity : ℕ
  items : List α
  length_le : items.length ≤ capacity

namespace BoundedQueue

/-- The empty queue. -/
def empty (capacity : ℕ) : BoundedQueue α := ⟨capacity,[],Nat.zero_le _⟩

/-- Append the first `length` items of `p`, as many as there is room for, and say how many. -/
def insert (q : BoundedQueue α) (p : ℕ → α) (length : ℕ) : BoundedQueue α×ℕ :=
  let n := min length (q.capacity-q.items.length)
  (⟨q.capacity,q.items++(List.range n).map p,by
    simp only [List.length_append,List.length_map,List.length_range]
    have := q.length_le
    omega⟩,n)

/-- Remove `length` items from the front, as many as there are, and say how many. -/
def delete (q : BoundedQueue α) (length : ℕ) : BoundedQueue α×ℕ :=
  let n := min length q.items.length
  (⟨q.capacity,q.items.drop n,by
    simp only [List.length_drop]
    have := q.length_le
    omega⟩,n)

/-- The items from `offset` on, at most `length` of them. -/
def peek (q : BoundedQueue α) (offset length : ℕ) : List α := (q.items.drop offset).take length

/-- Peek at the front and remove what was read. -/
def pop (q : BoundedQueue α) (length : ℕ) : BoundedQueue α×List α :=
  let out := q.peek 0 length
  ((q.delete out.length).1,out)

theorem length_peek (q : BoundedQueue α) (offset length : ℕ) :
    (q.peek offset length).length=min (offset+length) q.items.length-offset := by
  simp only [peek,List.length_take,List.length_drop]
  omega

end BoundedQueue

end BluetoothStack.CyclicQueue
