import BluetoothStack.StepRun
import BluetoothStack.LinkedHeap

/-!
# The osi list

`list_t` keeps a singly linked list of `list_node_t` cells: `head`, `tail` and `length` are fields
of their own, each operation updates them separately, and `list_free_node_` calls `free_cb` on the
datum of every cell it frees. The cells live in the heap `osi_calloc` allocates from; its `CHECK`
means an allocation never fails, so the `if (!node) return false` branches are never taken.

Under the representation invariant `Represents` the cells reachable from `head` are a list in the
sense of `LinkedHeap.Seg`: distinct, exactly `length` of them, the last one `tail`, and no other
cell allocated. Every call keeps it and acts on the data as the sequence operation of the same name
acts on a list of pointers, calling `free_cb` on exactly the data it drops; so every run of calls
is a run of the sequence model.
-/

namespace BluetoothStack.OsiList

open ByteBuffer StepRun LinkedHeap

variable {α : Type}

/-- `list_t` over the heap of its `list_node_t` cells. -/
structure ListT (α : Type) where
  /-- The cells by address; `none` where nothing is allocated. -/
  nodes : ℕ → Option (Cell α)
  head : Option ℕ
  tail : Option ℕ
  length : ℕ
  /-- Whether `free_cb` is set. -/
  freeCb : Bool
  /-- The address the allocator hands out next. -/
  nextAddr : ℕ

/-- `list_new`: no cells, empty. -/
def listNew (freeCb : Bool) : ListT α := ⟨fun _ => none,none,none,0,freeCb,0⟩

/-- `list->allocator->alloc(sizeof(list_node_t))` with the node's fields written: a cell at a
fresh address. -/
def allocNode (l : ListT α) (cell : Cell α) : ListT α×ℕ :=
  ({l with nodes := Function.update l.nodes l.nextAddr (some cell),nextAddr := l.nextAddr+1},l.nextAddr)

/-- `p->next = next` for the cell at `p`. -/
def setNext (l : ListT α) (p : ℕ) (next : Option ℕ) : Except Fault (ListT α) :=
  match l.nodes p with
  | none => .error .outOfRange
  | some c => .ok {l with nodes := Function.update l.nodes p (some {c with next := next})}

/-- `list_free_node_`: the cell freed, `free_cb` called on its datum if set; the list, the cell's
`next`, and the data `free_cb` was called on. -/
def listFreeNode (l : ListT α) (node : ℕ) : Except Fault (ListT α×Option ℕ×List α) :=
  match l.nodes node with
  | none => .error .outOfRange
  | some c =>
    .ok ({l with nodes := Function.update l.nodes node none,length := l.length-1},c.next,
      if l.freeCb then [c.data] else [])

/-- `list_append`. -/
def listAppend (l : ListT α) (data : α) : Except Fault (ListT α) :=
  let (l,node) := allocNode l ⟨none,data⟩
  match l.tail with
  | none => .ok {l with head := some node,tail := some node,length := l.length+1}
  | some t => do
    let l ← setNext l t (some node)
    .ok {l with tail := some node,length := l.length+1}

/-- `list_prepend`. -/
def listPrepend (l : ListT α) (data : α) : ListT α :=
  let (l,node) := allocNode l ⟨l.head,data⟩
  let l := {l with head := some node}
  {l with tail := if l.tail=none then l.head else l.tail,length := l.length+1}

/-- `list_insert_after`. -/
def listInsertAfter (l : ListT α) (prevNode : Option ℕ) (data : α) : Except Fault (ListT α) :=
  match prevNode with
  | none => .error .checkFailed
  | some prev =>
    match l.nodes prev with
    | none => .error .outOfRange
    | some p => do
      let (l,node) := allocNode l ⟨p.next,data⟩
      let l ← setNext l prev (some node)
      .ok {l with tail := if l.tail=some prev then some node else l.tail,length := l.length+1}

/-- The loop of `list_remove` past the head, `prev` trailing `node`; `fuel` bounds the cells it
visits. -/
def removeScan [DecidableEq α] (data : α) : ℕ → ListT α → ℕ → Option ℕ → Except Fault (ListT α×Bool×List α)
  | _,l,_,none => .ok (l,false,[])
  | 0,_,_,some _ => .error .noProgress
  | fuel+1,l,prev,some node =>
    match l.nodes node with
    | none => .error .outOfRange
    | some c =>
      if c.data=data then do
        let (l,next,calls) ← listFreeNode l node
        let l ← setNext l prev next
        .ok ({l with tail := if l.tail=some node then some prev else l.tail},true,calls)
      else removeScan data fuel l node c.next

/-- `list_remove`: the list, whether a cell was removed, and the data `free_cb` was called on. -/
def listRemove [DecidableEq α] (l : ListT α) (data : α) : Except Fault (ListT α×Bool×List α) :=
  if l.length=0 then .ok (l,false,[])
  else
    match l.head with
    | none => .error .outOfRange
    | some h =>
      match l.nodes h with
      | none => .error .outOfRange
      | some c =>
        if c.data=data then do
          let (l',next,calls) ← listFreeNode l h
          .ok ({l' with tail := if l'.tail=some h then next else l'.tail,head := next},true,calls)
        else removeScan data l.length l h c.next

/-- The loop of `list_clear`: every cell from `node` on freed. -/
def clearLoop : ℕ → ListT α → Option ℕ → Except Fault (ListT α×List α)
  | _,l,none => .ok (l,[])
  | 0,_,some _ => .error .noProgress
  | fuel+1,l,some node => do
    let (l,next,calls) ← listFreeNode l node
    let (l,calls') ← clearLoop fuel l next
    .ok (l,calls++calls')

/-- `list_clear`: the list and the data `free_cb` was called on. -/
def listClear (l : ListT α) : Except Fault (ListT α×List α) := do
  let (l',calls) ← clearLoop l.length l l.head
  .ok ({l' with head := none,tail := none,length := 0},calls)

/-- `list_next`. -/
def listNext (l : ListT α) (node : Option ℕ) : Except Fault (Option ℕ) :=
  match node with
  | none => .error .checkFailed
  | some n =>
    match l.nodes n with
    | none => .error .outOfRange
    | some c => .ok c.next

/-- The node a caller reaches from `list_begin` with `k` calls of `list_next`. -/
def listWalk (l : ListT α) : ℕ → Option ℕ → Except Fault (Option ℕ)
  | 0,node => .ok node
  | k+1,node => do
    let next ← listNext l node
    listWalk l k next

/-- `list_is_empty`. -/
def listIsEmpty (l : ListT α) : Bool := l.length=0

/-- `list_length`. -/
def listLength (l : ListT α) : ℕ := l.length

/-- The datum of the cell at a node `list_node` reads, `CHECK(node != NULL)` first. -/
def listNode (l : ListT α) : Option ℕ → Except Fault α
  | none => .error .checkFailed
  | some n =>
    match l.nodes n with
    | none => .error .outOfRange
    | some c => .ok c.data

/-- `list_front`: `CHECK(!list_is_empty(list))`, then the head's datum. -/
def listFront (l : ListT α) : Except Fault α :=
  if l.length=0 then .error .checkFailed else listNode l l.head

/-- `list_back`: `CHECK(!list_is_empty(list))`, then the tail's datum. -/
def listBack (l : ListT α) : Except Fault α :=
  if l.length=0 then .error .checkFailed else listNode l l.tail

/-- `list_back_node`. -/
def listBackNode (l : ListT α) : Except Fault (Option ℕ) :=
  if l.length=0 then .error .checkFailed else .ok l.tail

/-- The loop of `list_contains` from `node` to `list_end`; `fuel` bounds the cells it visits. -/
def containsLoop [DecidableEq α] (data : α) : ℕ → ListT α → Option ℕ → Except Fault Bool
  | _,_,none => .ok false
  | 0,_,some _ => .error .noProgress
  | fuel+1,l,some n =>
    match l.nodes n with
    | none => .error .outOfRange
    | some c => if c.data=data then .ok true else containsLoop data fuel l c.next

/-- `list_contains`. -/
def listContains [DecidableEq α] (l : ListT α) (data : α) : Except Fault Bool :=
  containsLoop data l.length l l.head

/-- The loop of `list_foreach`: the node whose datum `callback` refuses first, or null. -/
def foreachLoop (callback : α → Bool) : ℕ → ListT α → Option ℕ → Except Fault (Option ℕ)
  | _,_,none => .ok none
  | 0,_,some _ => .error .noProgress
  | fuel+1,l,some n =>
    match l.nodes n with
    | none => .error .outOfRange
    | some c => if callback c.data then foreachLoop callback fuel l c.next else .ok (some n)

/-- `list_foreach` with a callback that reads only the datum. -/
def listForeach (l : ListT α) (callback : α → Bool) : Except Fault (Option ℕ) :=
  foreachLoop callback l.length l l.head

/-- The calls on a list; `insertAfter k` inserts after the node `k` steps from `list_begin`. -/
inductive ListCall (α : Type)
  | append (data : α)
  | prepend (data : α)
  | insertAfter (k : ℕ) (data : α)
  | remove (data : α)
  | clear

/-- One call, with the data `free_cb` was called on. -/
def listStep [DecidableEq α] (l : ListT α) : ListCall α → Except Fault (ListT α×List α)
  | .append data => (listAppend l data).map (·,[])
  | .prepend data => .ok (listPrepend l data,[])
  | .insertAfter k data => do
    let prev ← listWalk l k l.head
    let l ← listInsertAfter l prev data
    .ok (l,[])
  | .remove data => (listRemove l data).map fun r => (r.1,r.2.2)
  | .clear => listClear l

/-- The data of the cells reachable from `head`, as `list_foreach` visits them. -/
def listData (l : ListT α) : List α := walkData l.nodes l.length l.head

/-- The same calls on a list of pointers: append at the end, prepend at the front, insert after the
given element, remove the first element equal to the datum, clear; with the data `free_cb` is called
on when it is set. -/
def seqStep [DecidableEq α] (freeCb : Bool) (xs : List α) : ListCall α → Except Fault (List α×List α)
  | .append data => .ok (xs++[data],[])
  | .prepend data => .ok (data::xs,[])
  | .insertAfter k data => if k < xs.length then .ok (xs.insertIdx (k+1) data,[]) else .error .checkFailed
  | .remove data => .ok (xs.erase data,if freeCb ∧ data ∈ xs then [data] else [])
  | .clear => .ok ([],if freeCb then xs else [])

/-- `list_front` on a list of pointers: the first one; an empty list fails the `CHECK`. -/
def seqFront : List α → Except Fault α
  | [] => .error .checkFailed
  | x::_ => .ok x

/-- `list_back` on a list of pointers: the last one; an empty list fails the `CHECK`. -/
def seqBack (xs : List α) : Except Fault α :=
  match xs.getLast? with
  | none => .error .checkFailed
  | some x => .ok x

/-! ### The representation invariant -/

/-- The cells from `head` are the list `ids` holding `xs`: distinct, `length` of them, the last one
`tail`, every allocated cell among them, all below the next address the allocator hands out. -/
structure Represents (l : ListT α) (ids : List ℕ) (xs : List α) : Prop where
  chain : Seg l.nodes l.head ids xs none
  nodup : ids.Nodup
  tail_eq : l.tail=ids.getLast?
  length_eq : l.length=ids.length
  allocated : ∀ a,(l.nodes a).isSome ↔ a ∈ ids
  below : ∀ a ∈ ids,a < l.nextAddr

theorem listNew_represents (freeCb : Bool) : Represents (listNew freeCb : ListT α) [] [] :=
  ⟨rfl,List.nodup_nil,rfl,rfl,fun _ => by simp [listNew],fun _ h => absurd h List.not_mem_nil⟩

section Represents

variable {l : ListT α} {ids : List ℕ} {xs : List α}

/-- Walking from `head` for `length` cells reads the data. -/
theorem Represents.listData_eq (h : Represents l ids xs) : listData l=xs :=
  h.chain.walkData_eq l.length (h.length_eq ▸ le_refl _)

/-- The allocator's next address is free. -/
theorem Represents.nodes_nextAddr (h : Represents l ids xs) : l.nodes l.nextAddr=none := by
  have hnot : l.nextAddr ∉ ids := fun hm => lt_irrefl _ (h.below _ hm)
  exact Option.not_isSome_iff_eq_none.mp fun hs => hnot ((h.allocated _).mp hs)

/-- The shape of a represented list: `head`, `tail` and `length` are null and zero together, and
the tail's `next` is null. -/
theorem Represents.shape (h : Represents l ids xs) :
    (l.head=none ↔ l.length=0) ∧ (l.tail=none ↔ l.length=0) ∧ ∀ t,l.tail=some t → ∃ d,l.nodes t=some ⟨none,d⟩ := by
  refine ⟨?_,?_,fun t ht => h.chain.getLast_next (h.tail_eq ▸ ht)⟩
  · rw [h.chain.eq_none_iff,h.length_eq,List.length_eq_zero_iff]
  · rw [h.tail_eq,h.length_eq,List.getLast?_eq_none_iff,List.length_eq_zero_iff]

end Represents

/-! ### Inserting -/

section Insert

variable {l : ListT α} {ids : List ℕ} {xs : List α}

/-- A fresh address put right after `q` keeps the addresses distinct. -/
theorem nodup_insert_after {pre post : List ℕ} {q n : ℕ} (h : (pre++q::post).Nodup) (hn : n ∉ pre++q::post) :
    (pre++q::n::post).Nodup := by
  -- the fresh address moved to the front
  have hperm : ((pre++[q])++n::post).Perm (n::((pre++[q])++post)) := List.perm_middle
  have hnodup : ((pre++[q])++n::post).Nodup :=
    hperm.nodup_iff.mpr (List.nodup_cons.mpr ⟨by simpa using hn,by simpa using h⟩)
  simpa using hnodup

/-- The tail moves to a cell inserted after it and stays put otherwise. -/
theorem getLast?_insert_after {pre post : List ℕ} {q n : ℕ} (hq : q ∉ post) :
    (if (pre++q::post).getLast?=some q then some n else (pre++q::post).getLast?)=(pre++q::n::post).getLast? := by
  cases post using List.reverseRecOn with
  | nil => simp
  | append_singleton post t _ =>
    have htq : t ≠ q := fun h => hq (by simp [h])
    rw [show pre++q::(post++[t])=(pre++q::post)++[t] by simp,
      show pre++q::n::(post++[t])=(pre++q::n::post)++[t] by simp,List.getLast?_concat,List.getLast?_concat,
      if_neg (by simpa using htq)]

/-- `list_insert_after` on the node `k` steps from the head puts the datum after the `k`-th
element, in a cell at a fresh address. -/
theorem listInsertAfter_spec (h : Represents l ids xs) {k : ℕ} (hk : k < ids.length) (d : α) :
    ∃ l',listInsertAfter l (some ids[k]) d=.ok l' ∧
      Represents l' (ids.insertIdx (k+1) l.nextAddr) (xs.insertIdx (k+1) d) ∧ l'.freeCb=l.freeCb ∧
      l'.nextAddr=l.nextAddr+1 := by
  obtain ⟨pre,q,post,a,y,b,nx,hids,hxs,hk',hpre,hq,hpost⟩ := h.chain.split hk
  subst hids hxs hk'
  have hget : (pre++q::post)[pre.length]=q := by simp
  have hn : l.nextAddr ∉ pre++q::post := fun hm => lt_irrefl _ (h.below _ hm)
  have hnq : q ≠ l.nextAddr := fun he => hn (by simp [he])
  have hqpost : q ∉ post := (List.nodup_cons.mp (List.nodup_middle.mp h.nodup)).1 ∘ List.mem_append_right pre
  have hlen_a : pre.length=a.length := hpre.length_eq
  -- the cell before gets the new link, the new cell the link it had
  let nodes' := Function.update (Function.update l.nodes q (some ⟨some l.nextAddr,y⟩)) l.nextAddr (some ⟨nx,d⟩)
  refine ⟨{l with nodes := nodes',nextAddr := l.nextAddr+1,
                  tail := if l.tail=some q then some l.nextAddr else l.tail,length := l.length+1},?_,?_,rfl,rfl⟩
  · -- the new cell is written first, then the link of the cell before it
    simp only [listInsertAfter,hget,hq,allocNode,setNext,Function.update_of_ne hnq]
    rw [Function.update_comm hnq.symm]
    rfl
  rw [insertIdx_append_cons q l.nextAddr post pre,hlen_a,insertIdx_append_cons y d b a]
  refine ⟨seg_insert_after hpre hpost h.nodup hn,nodup_insert_after h.nodup hn,?_,?_,?_,?_⟩
  · rw [h.tail_eq]
    exact getLast?_insert_after hqpost
  · simp only [h.length_eq,List.length_append,List.length_cons]
    omega
  · intro c
    by_cases hcn : c=l.nextAddr
    · subst hcn
      simp [nodes']
    by_cases hcq : c=q
    · subst hcq
      simp [nodes',Function.update_of_ne hnq]
    simp only [nodes',Function.update_of_ne hcn,Function.update_of_ne hcq,h.allocated c,List.mem_append,
      List.mem_cons,hcn,hcq,false_or]
  · intro c hc
    have hc' : c=l.nextAddr ∨ c ∈ pre++q::post := by
      simp only [List.mem_append,List.mem_cons] at hc ⊢
      tauto
    rcases hc' with rfl | hc'
    · exact Nat.lt_succ_self _
    · exact Nat.lt_succ_of_lt (h.below c hc')

/-- Appending to a list with a tail is inserting after the tail. -/
theorem listAppend_eq_insertAfter {t : ℕ} {y : α} (ht : l.tail=some t) (hcell : l.nodes t=some ⟨none,y⟩) (d : α) :
    listAppend l d=listInsertAfter l (some t) d := by
  simp only [listAppend,allocNode,ht,listInsertAfter,hcell,setNext]
  split <;> simp

/-- `list_append` puts the datum last, in a cell at a fresh address. -/
theorem listAppend_spec (h : Represents l ids xs) (d : α) :
    ∃ l',listAppend l d=.ok l' ∧ Represents l' (ids++[l.nextAddr]) (xs++[d]) ∧ l'.freeCb=l.freeCb ∧
      l'.nextAddr=l.nextAddr+1 := by
  cases ht : l.tail with
  | none =>
    -- the empty list: the new cell is head and tail
    have hids : ids=[] := by rw [h.tail_eq] at ht; exact List.getLast?_eq_none_iff.mp ht
    subst hids
    have hxs : xs=[] := List.length_eq_zero_iff.mp h.chain.length_eq.symm
    subst hxs
    have hlen : l.length=0 := h.length_eq
    refine ⟨{l with nodes := Function.update l.nodes l.nextAddr (some ⟨none,d⟩),nextAddr := l.nextAddr+1,
                    head := some l.nextAddr,tail := some l.nextAddr,length := l.length+1},?_,?_,rfl,rfl⟩
    · simp only [listAppend,allocNode,ht]
    refine ⟨seg_cons.mpr ⟨rfl,none,Function.update_self ..,rfl⟩,List.nodup_singleton _,rfl,by simp [hlen],?_,?_⟩
    · intro c
      by_cases hc : c=l.nextAddr
      · subst hc
        simp
      · simp only [Function.update_of_ne hc,h.allocated c,List.nil_append,List.mem_singleton,hc]
        simp
    · intro c hc
      rw [List.nil_append,List.mem_singleton] at hc
      rw [hc]
      exact Nat.lt_succ_self _
  | some t =>
    -- a tail whose link is null: insert after it
    obtain ⟨y,hcell⟩ := h.chain.getLast_next (h.tail_eq ▸ ht)
    have hne : ids≠[] := fun he => by rw [h.tail_eq,he] at ht; cases ht
    have hk : ids.length-1 < ids.length := Nat.sub_lt (List.length_pos_iff.mpr hne) Nat.one_pos
    have hlast : ids[ids.length-1]=t := by
      rw [h.tail_eq,List.getLast?_eq_getElem?] at ht
      simpa [List.getElem?_eq_getElem hk] using ht
    have hlen : ids.length-1+1=ids.length := Nat.sub_add_cancel (List.length_pos_iff.mpr hne)
    obtain ⟨l',hins,hrep,hcb,hnext⟩ := listInsertAfter_spec h hk d
    rw [hlast,hlen,List.insertIdx_length_self,h.chain.length_eq,List.insertIdx_length_self] at *
    exact ⟨l',(listAppend_eq_insertAfter ht hcell d).trans hins,hrep,hcb,hnext⟩

/-- `list_prepend` puts the datum first, in a cell at a fresh address. -/
theorem listPrepend_spec (h : Represents l ids xs) (d : α) :
    Represents (listPrepend l d) (l.nextAddr::ids) (d::xs) ∧ (listPrepend l d).freeCb=l.freeCb ∧
      (listPrepend l d).nextAddr=l.nextAddr+1 := by
  have hn : l.nextAddr ∉ ids := fun hm => lt_irrefl _ (h.below _ hm)
  refine ⟨⟨seg_prepend h.chain hn,List.nodup_cons.mpr ⟨hn,h.nodup⟩,?_,?_,?_,?_⟩,rfl,rfl⟩
  · -- the tail moves only when the list was empty
    simp only [listPrepend,allocNode]
    cases ids with
    | nil => simp [h.tail_eq]
    | cons i ids =>
      simp only [h.tail_eq]
      exact (List.getLast?_cons_cons ..).symm
  · simp [listPrepend,allocNode,h.length_eq]
  · intro c
    simp only [listPrepend,allocNode]
    by_cases hc : c=l.nextAddr
    · subst hc
      simp
    · simp [h.allocated c,hc]
  · intro c hc
    simp only [listPrepend,allocNode]
    rcases List.mem_cons.mp hc with rfl | hc
    · exact Nat.lt_succ_self _
    · exact Nat.lt_succ_of_lt (h.below c hc)

/-- `k` calls of `list_next` from the head reach the `k`-th node, or null after the last one; one
more faults on `CHECK(node != NULL)`. -/
theorem listWalk_seg : ∀ {p : Option ℕ} {ids : List ℕ} {xs : List α} (k : ℕ),Seg l.nodes p ids xs none →
    listWalk l k p=if k ≤ ids.length then .ok ids[k]? else .error .checkFailed
  | _,[],[],0,h => by simp [listWalk,seg_nil.mp h]
  | _,[],[],k+1,h => by simp [listWalk,seg_nil.mp h,listNext]
  | _,i::ids,x::xs,0,h => by simp [listWalk,(seg_cons.mp h).1]
  | _,i::ids,x::xs,k+1,h => by
    obtain ⟨rfl,nx,hi,hrest⟩ := seg_cons.mp h
    rw [listWalk,listNext]
    simp only [hi,StepRun.ok_bind,listWalk_seg k hrest,List.length_cons,Nat.add_le_add_iff_right,
      List.getElem?_cons_succ]
  | _,[],_::_,_,h | _,_::_,[],_,h => absurd h id

end Insert


/-! ### Removal -/

section Remove

variable {l : ListT α} {ids : List ℕ} {xs : List α}

/-- A represented list cut at a cell: the cells before it, and the link it holds to the rest. -/
theorem Represents.seg_split {pre post : List ℕ} {a b : List α} {q : ℕ} {y : α}
    (h : Represents l (pre++q::post) (a++y::b)) (hl : pre.length=a.length) :
    Seg l.nodes l.head pre a (some q) ∧ ∃ nx,l.nodes q=some ⟨nx,y⟩ ∧ Seg l.nodes nx post b none := by
  obtain ⟨r,hpre,hrest⟩ := (seg_append hl).mp h.chain
  obtain ⟨rfl,hq⟩ := seg_cons.mp hrest
  exact ⟨hpre,hq⟩

/-- The cell `m` after `q` unlinked and freed as the loop of `list_remove` does it: `q` takes over
its link, and the tail moves back to `q` when `m` was the tail. -/
theorem Represents.unlink_after {pre post : List ℕ} {a b : List α} {q m : ℕ} {y x : α} {nx : Option ℕ}
    (h : Represents l (pre++q::m::post) (a++y::x::b)) (hl : pre.length=a.length)
    (hm : l.nodes m=some ⟨nx,x⟩) :
    Represents
      {l with nodes := Function.update (Function.update l.nodes m none) q (some ⟨nx,y⟩),
              length := l.length-1,tail := if l.tail=some m then some q else l.tail}
      (pre++q::post) (a++y::b) := by
  obtain ⟨hpre,nq,-,hmid⟩ := h.seg_split hl
  obtain ⟨-,nx',hm',hpost⟩ := seg_cons.mp hmid
  rw [hm,Option.some.injEq,Cell.mk.injEq] at hm'
  rw [← hm'.1] at hpost
  have hsub : List.Sublist (pre++q::post) (pre++q::m::post) :=
    ((List.sublist_cons_self m post).cons_cons q).append_left pre
  have hmnot : m ∉ pre++q::post := by
    have h' : ((pre++[q])++m::post).Nodup := by simpa using h.nodup
    simpa using (List.nodup_cons.mp (List.nodup_middle.mp h')).1
  have hmq : m ≠ q := fun he => hmnot (by simp [he])
  -- the tail moves only when the freed cell was the last one
  have htail : (if l.tail=some m then some q else l.tail)=(pre++q::post).getLast? := by
    rw [h.tail_eq]
    cases post with
    | nil => simp
    | cons p ps =>
      have hne : (p::ps).getLast? ≠ some m := fun he =>
        hmnot (List.mem_append_right _ (List.mem_cons_of_mem q (List.mem_of_getLast? he)))
      simp [List.getLast?_append,hne]
  refine ⟨seg_unlink_after hpre hpost h.nodup,h.nodup.sublist hsub,htail,by simp [h.length_eq],?_,
    fun c hc => h.below c (hsub.subset hc)⟩
  intro c
  by_cases hcq : c=q
  · subst hcq
    simp
  by_cases hcm : c=m
  · subst hcm
    simp [Function.update_of_ne hmq,hmnot]
  simp [Function.update_of_ne hcq,h.allocated c,hcm]

/-- The head cell unlinked and freed as `list_remove` does it: the head moves to its link, and so
does the tail when the list had one cell. -/
theorem Represents.unlink_head {i : ℕ} {x : α} {nx : Option ℕ} (h : Represents l (i::ids) (x::xs))
    (hi : l.nodes i=some ⟨nx,x⟩) :
    Represents
      {l with nodes := Function.update l.nodes i none,length := l.length-1,head := nx,
              tail := if l.tail=some i then nx else l.tail} ids xs := by
  obtain ⟨hhead,nx',hi',hrest⟩ := seg_cons.mp h.chain
  rw [hi,Option.some.injEq,Cell.mk.injEq] at hi'
  rw [← hi'.1] at hrest
  have hin : i ∉ ids := (List.nodup_cons.mp h.nodup).1
  have htail : (if l.tail=some i then nx else l.tail)=ids.getLast? := by
    rw [h.tail_eq]
    cases ids with
    | nil =>
      have hxs : xs=[] := List.length_eq_zero_iff.mp (by simpa using h.chain.length_eq.symm)
      subst hxs
      simpa using (seg_nil.mp hrest)
    | cons p ps =>
      have hne : (p::ps).getLast? ≠ some i := fun he => hin (List.mem_of_getLast? he)
      simp [hne]
  refine ⟨(seg_update_of_not_mem none hin).mpr hrest,(List.nodup_cons.mp h.nodup).2,htail,
    by simp [h.length_eq],?_,fun c hc => h.below c (List.mem_cons_of_mem i hc)⟩
  intro c
  by_cases hci : c=i
  · subst hci
    simp [hin]
  simp [h.allocated c,hci]

variable [DecidableEq α]

/-- The loop of `list_remove` from `prev`, holding `y`, over the cells `post` after it: the first of
them holding the datum is unlinked and freed, with `free_cb` called on it; if none does, nothing
changes. The loop reads the list and writes it only once, so `l` stays fixed through the
induction on `post`. -/
theorem removeScan_spec (d : α) : ∀ (post : List ℕ) {pre : List ℕ} {a b : List α} {prev : ℕ} {y : α}
    {node : Option ℕ} {fuel : ℕ},Represents l (pre++prev::post) (a++y::b) → pre.length=a.length →
    l.nodes prev=some ⟨node,y⟩ → post.length ≤ fuel →
    ∃ l',removeScan d fuel l prev node=.ok (l',decide (d ∈ b),if l.freeCb ∧ d ∈ b then [d] else []) ∧
      Represents l' (pre++prev::post.eraseIdx (b.idxOf d)) (a++y::b.erase d) ∧ l'.freeCb=l.freeCb ∧
      l'.nextAddr=l.nextAddr := by
  intro post
  induction post with
  | nil =>
    intro pre a b prev y node fuel h hl hprev _
    obtain ⟨-,nx,hprev',hseg⟩ := h.seg_split hl
    rw [hprev,Option.some.injEq,Cell.mk.injEq] at hprev'
    rw [← hprev'.1] at hseg
    obtain ⟨rfl,rfl⟩ : node=none ∧ b=[] := by
      cases b with
      | nil => exact ⟨seg_nil.mp hseg,rfl⟩
      | cons => exact absurd hseg id
    refine ⟨l,?_,by simpa using h,rfl,rfl⟩
    cases fuel <;> simp [removeScan]
  | cons i post ih =>
    intro pre a b prev y node fuel h hl hprev hfuel
    obtain ⟨-,nx,hprev',hseg⟩ := h.seg_split hl
    rw [hprev,Option.some.injEq,Cell.mk.injEq] at hprev'
    rw [← hprev'.1] at hseg
    cases b with
    | nil => exact absurd hseg id
    | cons x b =>
    obtain ⟨rfl,nx',hi,hpost⟩ := seg_cons.mp hseg
    obtain ⟨f,rfl⟩ : ∃ f,fuel=f+1 := ⟨fuel-1,by simp at hfuel; omega⟩
    have hpi : prev ≠ i := fun he => by
      have := (List.nodup_cons.mp (List.nodup_middle.mp h.nodup)).1
      simp [he] at this
    by_cases hx : x=d
    · -- found: `prev->next = list_free_node_(list, node)`
      subst hx
      refine ⟨{l with nodes := Function.update (Function.update l.nodes i none) prev (some ⟨nx',y⟩),
                      length := l.length-1,tail := if l.tail=some i then some prev else l.tail},?_,
        by simpa using h.unlink_after hl hi,rfl,rfl⟩
      simp [removeScan,hi,listFreeNode,setNext,Function.update_of_ne hpi,hprev]
    · -- passed over: the loop moves on with `prev = node`
      have h' : Represents l ((pre++[prev])++i::post) ((a++[y])++x::b) := by simpa using h
      obtain ⟨l',heq,hrep,hcb,hnext⟩ := ih h' (by simp [hl]) hi (by simpa using hfuel)
      refine ⟨l',?_,?_,hcb,hnext⟩
      · simp [removeScan,hi,hx,heq,Ne.symm hx]
      · rw [List.idxOf_cons_ne _ hx,Nat.succ_eq_add_one,List.eraseIdx_cons_succ,List.erase_cons_tail (by simpa using hx)]
        simpa using hrep

/-- `list_remove` unlinks and frees the first cell holding the datum, calling `free_cb` on it; a
list without the datum is left as it is. -/
theorem listRemove_spec (h : Represents l ids xs) (d : α) :
    ∃ l',listRemove l d=.ok (l',decide (d ∈ xs),if l.freeCb ∧ d ∈ xs then [d] else []) ∧
      Represents l' (ids.eraseIdx (xs.idxOf d)) (xs.erase d) ∧ l'.freeCb=l.freeCb ∧ l'.nextAddr=l.nextAddr := by
  cases ids with
  | nil =>
    have hxs : xs=[] := List.length_eq_zero_iff.mp h.chain.length_eq.symm
    subst hxs
    exact ⟨l,by simp [listRemove,h.length_eq],by simpa using h,rfl,rfl⟩
  | cons i ids =>
    cases xs with
    | nil => exact absurd h.chain.length_eq (by simp)
    | cons x xs =>
    obtain ⟨hhead,nx,hi,-⟩ := seg_cons.mp h.chain
    have hlen : l.length ≠ 0 := by simp [h.length_eq]
    by_cases hx : x=d
    · -- the head case
      subst hx
      refine ⟨{l with nodes := Function.update l.nodes i none,length := l.length-1,head := nx,
                      tail := if l.tail=some i then nx else l.tail},?_,by simpa using h.unlink_head hi,rfl,rfl⟩
      simp [listRemove,hlen,hhead,hi,listFreeNode]
    · have h' : Represents l ([]++i::ids) ([]++x::xs) := by simpa using h
      obtain ⟨l',heq,hrep,hcb,hnext⟩ := removeScan_spec d ids h' rfl hi
        (show ids.length ≤ l.length by simp [h.length_eq])
      refine ⟨l',?_,?_,hcb,hnext⟩
      · simp [listRemove,hlen,hhead,hi,hx,heq,Ne.symm hx]
      · rw [List.idxOf_cons_ne _ hx,Nat.succ_eq_add_one,List.eraseIdx_cons_succ,List.erase_cons_tail (by simpa using hx)]
        simpa using hrep

end Remove

/-! ### Clearing -/

section Clear

variable {l : ListT α} {ids : List ℕ} {xs : List α}

/-- The loop of `list_clear` frees every cell from `node` on, calling `free_cb` on their data in
order, and touches no other cell. Each freed cell is outside the rest of the list, so the rest is
still a list in the heap the loop goes on with. -/
theorem clearLoop_spec : ∀ (ids : List ℕ) {l : ListT α} {node : Option ℕ} {xs : List α} {fuel : ℕ},
    Seg l.nodes node ids xs none → ids.Nodup → ids.length ≤ fuel →
    ∃ l',clearLoop fuel l node=.ok (l',if l.freeCb then xs else []) ∧ l'.freeCb=l.freeCb ∧
      l'.nextAddr=l.nextAddr ∧ ∀ a,l'.nodes a=if a ∈ ids then none else l.nodes a
  | [],l,node,xs,fuel,h,_,_ => by
    obtain ⟨rfl,rfl⟩ : node=none ∧ xs=[] := by
      cases xs with
      | nil => exact ⟨seg_nil.mp h,rfl⟩
      | cons => exact absurd h id
    refine ⟨l,?_,rfl,rfl,by simp⟩
    cases fuel <;> simp [clearLoop]
  | i::ids,l,node,xs,fuel,h,hnodup,hfuel => by
    cases xs with
    | nil => exact absurd h id
    | cons x xs =>
    obtain ⟨rfl,nx,hi,hrest⟩ := seg_cons.mp h
    obtain ⟨f,rfl⟩ : ∃ f,fuel=f+1 := ⟨fuel-1,by simp at hfuel; omega⟩
    have hin : i ∉ ids := (List.nodup_cons.mp hnodup).1
    -- the rest of the list in the heap `list_free_node_` leaves
    let l₁ : ListT α := {l with nodes := Function.update l.nodes i none,length := l.length-1}
    have hrest₁ : Seg l₁.nodes nx ids xs none := (seg_update_of_not_mem none hin).mpr hrest
    obtain ⟨l',heq,hcb,hnext,hnodes⟩ :=
      clearLoop_spec ids hrest₁ (List.nodup_cons.mp hnodup).2 (by simpa using hfuel)
    refine ⟨l',?_,hcb,hnext,fun a => ?_⟩
    · have hcalls : ((if l.freeCb then [x] else [])++if l.freeCb then xs else [])=
          if l.freeCb then x::xs else [] := by
        cases l.freeCb <;> rfl
      simp only [clearLoop,listFreeNode,hi,StepRun.ok_bind]
      rw [show (if l.freeCb then [x] else [])=if l.freeCb then [x] else [] from rfl]
      simp [l₁] at heq
      simp [heq,hcalls]
    · by_cases hai : a=i
      · subst hai
        simp [hnodes,hin,l₁]
      · simp [hnodes,l₁,hai]

/-- `list_clear` frees every cell and calls `free_cb` on all the data, in order, leaving the empty
list. -/
theorem listClear_spec (h : Represents l ids xs) :
    ∃ l',listClear l=.ok (l',if l.freeCb then xs else []) ∧ Represents l' [] [] ∧ l'.freeCb=l.freeCb ∧
      l'.nextAddr=l.nextAddr := by
  obtain ⟨l₁,heq,hcb,hnext,hnodes⟩ := clearLoop_spec ids h.chain h.nodup h.length_eq.ge
  refine ⟨{l₁ with head := none,tail := none,length := 0},by simp [listClear,heq],
    ⟨rfl,List.nodup_nil,rfl,rfl,fun a => ?_,by simp⟩,hcb,hnext⟩
  -- a cell not of the list was not allocated before either
  by_cases ha : a ∈ ids
  · simp [hnodes,ha]
  · simpa [hnodes,ha] using (h.allocated a).not.mpr ha

end Clear

/-! ### Reading a list -/

section Read

variable {l : ListT α} {ids : List ℕ} {xs : List α}

theorem listIsEmpty_spec (h : Represents l ids xs) : listIsEmpty l=xs.isEmpty := by
  simp only [listIsEmpty,h.length_eq,h.chain.length_eq]
  cases xs <;> simp

theorem listLength_spec (h : Represents l ids xs) : listLength l=xs.length :=
  h.length_eq.trans h.chain.length_eq

/-- `list_front` reads the head's datum; an empty list fails its `CHECK`. -/
theorem listFront_spec (h : Represents l ids xs) : listFront l=seqFront xs := by
  cases ids with
  | nil =>
    have hxs : xs=[] := List.length_eq_zero_iff.mp h.chain.length_eq.symm
    simp [listFront,h.length_eq,hxs,seqFront]
  | cons i ids =>
    cases xs with
    | nil => exact absurd h.chain.length_eq (by simp)
    | cons x xs =>
    obtain ⟨hhead,nx,hi,-⟩ := seg_cons.mp h.chain
    simp [listFront,h.length_eq,hhead,listNode,hi,seqFront]

/-- `list_back` reads the tail's datum, the last one; an empty list fails its `CHECK`. -/
theorem listBack_spec (h : Represents l ids xs) : listBack l=seqBack xs := by
  cases ht : l.tail with
  | none =>
    have hids : ids=[] := List.getLast?_eq_none_iff.mp (h.tail_eq ▸ ht)
    have hxs : xs=[] := List.length_eq_zero_iff.mp (by rw [← h.chain.length_eq,hids]; rfl)
    simp [listBack,h.length_eq,hids,hxs,seqBack]
  | some t =>
    obtain ⟨x,hx,hcell⟩ := h.chain.getLast_cell (h.tail_eq ▸ ht)
    have hne : ids ≠ [] := fun he => by rw [h.tail_eq,he] at ht; cases ht
    simp [listBack,h.length_eq,hne,ht,listNode,hcell,seqBack,hx]

/-- The loop of `list_contains` over a list from `p` answers whether the datum is among its data. -/
theorem containsLoop_seg [DecidableEq α] (d : α) : ∀ {p : Option ℕ} {ids : List ℕ} {xs : List α} (fuel : ℕ),
    Seg l.nodes p ids xs none → ids.length ≤ fuel → containsLoop d fuel l p=.ok (decide (d ∈ xs))
  | _,[],[],fuel,h,_ => by
    rw [seg_nil.mp h]
    cases fuel <;> simp [containsLoop]
  | _,i::ids,x::xs,fuel+1,h,hfuel => by
    obtain ⟨rfl,nx,hi,hrest⟩ := seg_cons.mp h
    have ih := containsLoop_seg d fuel hrest (by simp at hfuel; omega)
    by_cases hx : x=d
    · simp [containsLoop,hi,hx]
    · simp [containsLoop,hi,hx,ih,Ne.symm hx]
  | _,_::_,_::_,0,_,hfuel => by simp at hfuel
  | _,[],_::_,_,h,_ | _,_::_,[],_,h,_ => absurd h id

theorem listContains_spec [DecidableEq α] (h : Represents l ids xs) (d : α) :
    listContains l d=.ok (decide (d ∈ xs)) :=
  containsLoop_seg d l.length h.chain h.length_eq.ge

/-- The loop of `list_foreach` over a list from `p` stops at the first node whose datum the callback
refuses. -/
theorem foreachLoop_seg (callback : α → Bool) : ∀ {p : Option ℕ} {ids : List ℕ} {xs : List α} (fuel : ℕ),
    Seg l.nodes p ids xs none → ids.length ≤ fuel →
      foreachLoop callback fuel l p=.ok (((ids.zip xs).find? fun e => !callback e.2).map Prod.fst)
  | _,[],[],fuel,h,_ => by
    rw [seg_nil.mp h]
    cases fuel <;> simp [foreachLoop]
  | _,i::ids,x::xs,fuel+1,h,hfuel => by
    obtain ⟨rfl,nx,hi,hrest⟩ := seg_cons.mp h
    have ih := foreachLoop_seg callback fuel hrest (by simp at hfuel; omega)
    by_cases hx : callback x
    · simp [foreachLoop,hi,hx,ih]
    · simp [foreachLoop,hi,hx]
  | _,_::_,_::_,0,_,hfuel => by simp at hfuel
  | _,[],_::_,_,h,_ | _,_::_,[],_,h,_ => absurd h id

/-- The node `list_foreach` returns holds the first datum the callback refuses. -/
theorem listForeach_data (h : Represents l ids xs) (callback : α → Bool) :
    (listForeach l callback).map (fun o => o.bind fun n => (l.nodes n).map Cell.data)=
      .ok (xs.find? fun x => !callback x) := by
  rw [listForeach,foreachLoop_seg callback l.length h.chain h.length_eq.ge]
  -- the node found holds the datum found
  have hcell : ∀ e ∈ ids.zip xs,(l.nodes e.1).map Cell.data=some e.2 := fun e he => by
    obtain ⟨nx,hn⟩ := h.chain.cell_of_mem_zip e he
    simp [hn]
  rw [← find?_zip_map_snd _ ids xs h.chain.length_eq]
  cases hf : (ids.zip xs).find? fun e => !callback e.2 with
  | none => rfl
  | some e => simp [Except.map,hcell e (List.mem_of_find?_eq_some hf)]

end Read

/-! ### Every call, every run -/

section Step

variable [DecidableEq α] {l : ListT α} {ids : List ℕ} {xs : List α}

/-- What a successful call on a represented list gives: the sequence operation's result, seen through
`listData`, and a represented list with the same `free_cb`. -/
theorem listStep_spec_of_ok {c : ListCall α} {l' : ListT α} {ids' : List ℕ} {ys out : List α}
    (hstep : listStep l c=.ok (l',out)) (hseq : seqStep l.freeCb xs c=.ok (ys,out))
    (hrep : Represents l' ids' ys) (hcb : l'.freeCb=l.freeCb) :
    (listStep l c).map (fun r => (listData r.1,r.2))=seqStep l.freeCb xs c ∧
      ∀ r,listStep l c=.ok r → r.1.freeCb=l.freeCb ∧ ∃ ids',Represents r.1 ids' (listData r.1) := by
  refine ⟨by simp [hstep,hseq,Except.map,hrep.listData_eq],fun r hr => ?_⟩
  rw [hstep,Except.ok.injEq] at hr
  subst hr
  exact ⟨hcb,ids',hrep.listData_eq.symm ▸ hrep⟩

/-- One call on a represented list moves its data as the sequence operation of the same name moves
a list, calls `free_cb` on the same data, faults exactly where the sequence operation does, and
leaves a represented list with the same `free_cb`. -/
theorem listStep_spec (h : Represents l ids xs) (c : ListCall α) :
    (listStep l c).map (fun r => (listData r.1,r.2))=seqStep l.freeCb xs c ∧
      ∀ r,listStep l c=.ok r → r.1.freeCb=l.freeCb ∧ ∃ ids',Represents r.1 ids' (listData r.1) := by
  cases c with
  | append d =>
    obtain ⟨l',heq,hrep,hcb,-⟩ := listAppend_spec h d
    exact listStep_spec_of_ok (by simp [listStep,heq,Except.map]) rfl hrep hcb
  | prepend d =>
    obtain ⟨hrep,hcb,-⟩ := listPrepend_spec h d
    exact listStep_spec_of_ok rfl rfl hrep hcb
  | insertAfter k d =>
    have hwalk := listWalk_seg k h.chain
    have hlen := h.chain.length_eq
    by_cases hk : k < ids.length
    · obtain ⟨l',heq,hrep,hcb,-⟩ := listInsertAfter_spec h hk d
      have hstep : listStep l (.insertAfter k d)=.ok (l',[]) := by
        simp [listStep,hwalk,hk.le,List.getElem?_eq_getElem hk,heq]
      exact listStep_spec_of_ok hstep (by simp [seqStep,← hlen,hk]) hrep hcb
    · -- `list_next` past the end, or `list_insert_after` given the null the walk ends at
      have hseq : seqStep l.freeCb xs (.insertAfter k d)=.error .checkFailed := by simp [seqStep,← hlen,hk]
      have hstep : listStep l (.insertAfter k d)=.error .checkFailed := by
        rcases Nat.lt_or_eq_of_le (Nat.not_lt.mp hk) with hgt | rfl
        · simp [listStep,hwalk,Nat.not_le.mpr hgt]
        · simp [listStep,hwalk,listInsertAfter]
      refine ⟨by rw [hstep,hseq]; rfl,fun r hr => ?_⟩
      rw [hstep] at hr
      cases hr
  | remove d =>
    obtain ⟨l',heq,hrep,hcb,-⟩ := listRemove_spec h d
    have hstep : listStep l (.remove d)=.ok (l',if l.freeCb ∧ d ∈ xs then [d] else []) := by
      simp [listStep,heq,Except.map]
    exact listStep_spec_of_ok hstep (by simp [seqStep]) hrep hcb
  | clear =>
    obtain ⟨l',heq,hrep,hcb,-⟩ := listClear_spec h
    exact listStep_spec_of_ok heq rfl hrep hcb

/-- Every call keeps the invariant of a list made with `free_cb` set as `fc`: `free_cb` unchanged and
the list represented. -/
theorem listStep_inv {fc : Bool} (l : ListT α) (c : ListCall α) (l' : ListT α) (out : List α)
    (hl : l.freeCb=fc ∧ ∃ ids,Represents l ids (listData l)) (hs : listStep l c=.ok (l',out)) :
    l'.freeCb=fc ∧ ∃ ids,Represents l' ids (listData l') := by
  obtain ⟨hcb,ids,hrep⟩ := hl
  obtain ⟨hcb',hrep'⟩ := (listStep_spec hrep c).2 (l',out) hs
  exact ⟨hcb'.trans hcb,hrep'⟩

/-- From any list made by `list_new` and any run of calls on it: the data and the `free_cb` calls are
those of the same run on a list of pointers, and the list reached is represented, with `head`,
`tail` and `length` agreeing and the tail's `next` null. -/
theorem osi_list_refines_sequence (fc : Bool) (calls : List (ListCall α)) :
    (runSteps listStep (listNew fc) calls).map (fun r => (listData r.1,r.2))=runSteps (seqStep fc) [] calls ∧
      ∀ l out,runSteps listStep (listNew fc) calls=.ok (l,out) →
        ∃ ids,Represents l ids (listData l) ∧ (l.head=none ↔ l.length=0) ∧ (l.tail=none ↔ l.length=0) ∧
          ∀ t,l.tail=some t → ∃ d,l.nodes t=some ⟨none,d⟩ := by
  have h0 : (listNew fc : ListT α).freeCb=fc ∧ ∃ ids,Represents (listNew fc : ListT α) ids (listData (listNew fc)) :=
    ⟨rfl,[],listNew_represents fc⟩
  -- one call on each level from a represented list, with `free_cb` as the run started
  have hsim : ∀ (l : ListT α) c,(l.freeCb=fc ∧ ∃ ids,Represents l ids (listData l)) → True →
      (listStep l c).map (fun r => (listData r.1,r.2))=seqStep fc (listData l) c := by
    rintro l c ⟨hcb,ids,hrep⟩ -
    rw [← hcb]
    exact (listStep_spec hrep c).1
  refine ⟨runSteps_map_of_simulates listData listStep_inv hsim calls _ h0 (fun _ _ => trivial),fun l out hrun => ?_⟩
  obtain ⟨-,ids,hrep⟩ := runSteps_invariant listStep_inv h0 hrun
  exact ⟨ids,hrep,hrep.shape⟩

/-- Every run of calls from `list_new` is the same run on a list of pointers, seen through
`listData`. -/
theorem listRun_simulates (fc : Bool) (calls : List (ListCall α)) :
    (runSteps listStep (listNew fc) calls).map (fun r => (listData r.1,r.2))=runSteps (seqStep fc) [] calls := by
  have h0 : (listNew fc : ListT α).freeCb=fc ∧ ∃ ids,Represents (listNew fc : ListT α) ids (listData (listNew fc)) :=
    ⟨rfl,[],listNew_represents fc⟩
  refine runSteps_map_of_simulates listData listStep_inv ?_ calls _ h0 (fun _ _ => trivial)
  rintro l c ⟨hcb,ids,hrep⟩ -
  rw [← hcb]
  exact (listStep_spec hrep c).1

/-- Every list a run of calls from `list_new` reaches is represented. -/
theorem listRun_represents {fc : Bool} {calls : List (ListCall α)} {l : ListT α} {out : List α}
    (h : runSteps listStep (listNew fc) calls=.ok (l,out)) : ∃ ids,Represents l ids (listData l) :=
  (runSteps_invariant listStep_inv ⟨rfl,[],listNew_represents fc⟩ h).2

/-- After any run of calls from `list_new`, each reader of the list answers as the same reader of the
sequence the run gives: `list_is_empty`, `list_length`, `list_front` and `list_back` (with their
`CHECK` on an empty list), `list_contains`, and the datum at the node `list_foreach` stops at. -/
theorem osi_list_readers_refine_sequence (fc : Bool) (calls : List (ListCall α)) (d : α) (callback : α → Bool) :
    (runSteps listStep (listNew fc) calls).map (fun r => (listIsEmpty r.1,listLength r.1,listFront r.1,
        listBack r.1,listContains r.1 d,(listForeach r.1 callback).map fun o => o.bind fun n => (r.1.nodes n).map Cell.data))=
      (runSteps (seqStep fc) [] calls).map (fun r => (r.1.isEmpty,r.1.length,seqFront r.1,seqBack r.1,
        Except.ok (decide (d ∈ r.1)),Except.ok (r.1.find? fun x => !callback x))) := by
  rw [← listRun_simulates fc calls]
  cases hrun : runSteps listStep (listNew fc) calls with
  | error e => rfl
  | ok r =>
    -- the list reached is represented, so each reader meets its spec
    obtain ⟨ids,hrep⟩ := listRun_represents hrun
    have hforeach := listForeach_data hrep callback
    simp only [Except.map] at hforeach ⊢
    simp only [listIsEmpty_spec hrep,listLength_spec hrep,listFront_spec hrep,listBack_spec hrep,
      listContains_spec hrep,hforeach]

end Step

end BluetoothStack.OsiList
