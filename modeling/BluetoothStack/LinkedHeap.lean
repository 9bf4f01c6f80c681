import Mathlib.Data.List.Nodup
import Mathlib.Logic.Function.Basic

/-!
# Singly linked lists in a heap

A heap maps addresses to cells, each holding the link to the next cell and a datum. A segment from
a link `p` to a link `q` is a list of addresses whose cells follow each other from `p`, the last
linking to `q`, together with the data they hold; a list is a segment that ends at the null link.
Writing a cell outside a segment leaves it alone, segments split and join at any address, and the
usual in-place edits (a cell spliced in after another, a cell unlinked after another or at the
front) turn a segment into the segment of the edited list. Walking the links reads the data back.
Nothing here names a Bluetooth structure.
-/

namespace BluetoothStack.LinkedHeap

/-- A heap cell: the link to the next cell and the datum. -/
structure Cell (α : Type) where
  next : Option ℕ
  data : α
  deriving DecidableEq,Repr

variable {α : Type}

/-- The cells at `ids`, holding `xs`, lead from the link `p` to the link `q`. -/
def Seg (heap : ℕ → Option (Cell α)) : Option ℕ → List ℕ → List α → Option ℕ → Prop
  | p,[],[],q => p=q
  | p,i::ids,x::xs,q => p=some i ∧ ∃ nx,heap i=some ⟨nx,x⟩ ∧ Seg heap nx ids xs q
  | _,_,_,_ => False

section Seg

variable {heap : ℕ → Option (Cell α)}

@[simp] theorem seg_nil {p q : Option ℕ} : Seg heap p [] [] q ↔ p=q := Iff.rfl

@[simp] theorem seg_cons {p q : Option ℕ} {i : ℕ} {ids : List ℕ} {x : α} {xs : List α} :
    Seg heap p (i::ids) (x::xs) q ↔ p=some i ∧ ∃ nx,heap i=some ⟨nx,x⟩ ∧ Seg heap nx ids xs q := Iff.rfl

@[simp] theorem seg_nil_cons {p q : Option ℕ} {x : α} {xs : List α} : ¬Seg heap p [] (x::xs) q := id

@[simp] theorem seg_cons_nil {p q : Option ℕ} {i : ℕ} {ids : List ℕ} : ¬Seg heap p (i::ids) [] q := id

theorem Seg.length_eq : ∀ {p q : Option ℕ} {ids : List ℕ} {xs : List α},Seg heap p ids xs q → ids.length=xs.length
  | _,_,[],[],_ => rfl
  | _,_,_::_,_::_,h => by
    obtain ⟨-,nx,-,hrest⟩ := seg_cons.mp h
    rw [List.length_cons,List.length_cons,hrest.length_eq]

/-- Every address of a segment holds a cell. -/
theorem Seg.isSome : ∀ {p q : Option ℕ} {ids : List ℕ} {xs : List α},Seg heap p ids xs q → ∀ a ∈ ids,(heap a).isSome
  | _,_,[],[],_,_,ha => absurd ha List.not_mem_nil
  | _,_,i::_,_::_,h,a,ha => by
    obtain ⟨-,nx,hi,hrest⟩ := seg_cons.mp h
    rcases List.mem_cons.mp ha with rfl | ha
    · simp [hi]
    · exact hrest.isSome a ha

/-- A list starts at null exactly when it has no cells. -/
theorem Seg.eq_none_iff {p : Option ℕ} {ids : List ℕ} {xs : List α} (h : Seg heap p ids xs none) :
    p=none ↔ ids=[] := by
  cases ids with
  | nil =>
    cases xs with
    | nil => simp [seg_nil.mp h]
    | cons x xs => exact absurd h seg_nil_cons
  | cons i ids =>
    cases xs with
    | nil => exact absurd h seg_cons_nil
    | cons x xs => simp [(seg_cons.mp h).1]

/-- A segment splits at any address into a segment up to it and one from it. -/
theorem seg_append {p r : Option ℕ} :
    ∀ {ids₁ : List ℕ} {xs₁ : List α} {ids₂ : List ℕ} {xs₂ : List α},ids₁.length=xs₁.length →
      (Seg heap p (ids₁++ids₂) (xs₁++xs₂) r ↔ ∃ q,Seg heap p ids₁ xs₁ q ∧ Seg heap q ids₂ xs₂ r)
  | [],[],_,_,_ => by simp
  | i::ids₁,x::xs₁,ids₂,xs₂,hl => by
    simp only [List.length_cons,Nat.add_right_cancel_iff] at hl
    simp only [List.cons_append,seg_cons]
    constructor
    · rintro ⟨hp,nx,hi,hrest⟩
      obtain ⟨q,h₁,h₂⟩ := (seg_append (p := nx) hl).mp hrest
      exact ⟨q,⟨hp,nx,hi,h₁⟩,h₂⟩
    · rintro ⟨q,⟨hp,nx,hi,h₁⟩,h₂⟩
      exact ⟨hp,nx,hi,(seg_append hl).mpr ⟨q,h₁,h₂⟩⟩
  | [],_::_,_,_,hl | _::_,[],_,_,hl => by simp at hl

/-- A write at an address outside a segment leaves the segment as it is. -/
theorem seg_update_of_not_mem {a : ℕ} (v : Option (Cell α)) :
    ∀ {p q : Option ℕ} {ids : List ℕ} {xs : List α},a ∉ ids →
      (Seg (Function.update heap a v) p ids xs q ↔ Seg heap p ids xs q)
  | _,_,[],[],_ => Iff.rfl
  | _,_,i::ids,x::xs,ha => by
    have hai : i ≠ a := fun h => ha (h ▸ List.mem_cons_self)
    have hrest : a ∉ ids := fun h => ha (List.mem_cons_of_mem i h)
    simp only [seg_cons,Function.update_of_ne hai]
    exact and_congr_right fun _ => exists_congr fun nx => and_congr_right fun _ => seg_update_of_not_mem v hrest
  | _,_,[],_::_,_ | _,_,_::_,[],_ => Iff.rfl

/-- The last cell of a list holds its last datum and links to null. -/
theorem Seg.getLast_cell {p : Option ℕ} {ids : List ℕ} {xs : List α} (h : Seg heap p ids xs none) {t : ℕ}
    (ht : ids.getLast?=some t) : ∃ x,xs.getLast?=some x ∧ heap t=some ⟨none,x⟩ := by
  obtain ⟨pre,rfl⟩ := List.getLast?_eq_some_iff.mp ht
  rcases List.eq_nil_or_concat xs with rfl | ⟨front,y,rfl⟩
  · have := h.length_eq
    simp at this
  have hl : pre.length=front.length := by
    have := h.length_eq
    simpa using this
  rw [List.concat_eq_append] at h
  obtain ⟨q,-,hlast⟩ := (seg_append hl).mp h
  obtain ⟨-,nx,hcell,hnil⟩ := seg_cons.mp hlast
  rw [seg_nil.mp hnil] at hcell
  exact ⟨y,by simp,hcell⟩

/-- The last cell of a list links to null. -/
theorem Seg.getLast_next {p : Option ℕ} {ids : List ℕ} {xs : List α} (h : Seg heap p ids xs none) {t : ℕ}
    (ht : ids.getLast?=some t) : ∃ d,heap t=some ⟨none,d⟩ := by
  obtain ⟨x,-,hx⟩ := h.getLast_cell ht
  exact ⟨x,hx⟩

/-- Every cell of a segment holds the datum at its place. -/
theorem Seg.cell_of_mem_zip : ∀ {p q : Option ℕ} {ids : List ℕ} {xs : List α},Seg heap p ids xs q →
    ∀ e ∈ ids.zip xs,∃ nx,heap e.1=some ⟨nx,e.2⟩
  | _,_,[],_,_,_,he => absurd he List.not_mem_nil
  | _,_,_::_,[],_,_,he => absurd he List.not_mem_nil
  | _,_,i::ids,x::xs,h,e,he => by
    obtain ⟨-,nx,hi,hrest⟩ := seg_cons.mp h
    rcases List.mem_cons.mp he with rfl | he
    · exact ⟨nx,hi⟩
    · exact hrest.cell_of_mem_zip e he

/-- A cell spliced in after the cell at `q`, taking over the link `nx` it had. -/
theorem seg_insert_after {p r nx : Option ℕ} {pre post : List ℕ} {a b : List α} {q n : ℕ} {y d : α}
    (hpre : Seg heap p pre a (some q)) (hpost : Seg heap nx post b r) (hnodup : (pre++q::post).Nodup)
    (hn : n ∉ pre++q::post) :
    Seg (Function.update (Function.update heap q (some ⟨some n,y⟩)) n (some ⟨nx,d⟩)) p
      (pre++q::n::post) (a++y::d::b) r := by
  have hq := List.nodup_cons.mp (List.nodup_middle.mp hnodup)
  have hnq : n ≠ q := fun h => hn (by simp [h])
  have hqpre : q ∉ pre := fun h => hq.1 (List.mem_append_left _ h)
  have hqpost : q ∉ post := fun h => hq.1 (List.mem_append_right _ h)
  have hnpre : n ∉ pre := fun h => hn (List.mem_append_left _ h)
  have hnpost : n ∉ post := fun h => hn (List.mem_append_right _ (List.mem_cons_of_mem q h))
  rw [seg_append hpre.length_eq]
  refine ⟨some q,?_,?_⟩
  · rw [seg_update_of_not_mem _ hnpre,seg_update_of_not_mem _ hqpre]
    exact hpre
  · -- the cell at `q` now links to `n`, which links on to `nx`
    have hpost' : Seg (Function.update (Function.update heap q (some ⟨some n,y⟩)) n (some ⟨nx,d⟩)) nx post b r := by
      rw [seg_update_of_not_mem _ hnpost,seg_update_of_not_mem _ hqpost]
      exact hpost
    exact seg_cons.mpr ⟨rfl,some n,by rw [Function.update_of_ne hnq.symm,Function.update_self],
      seg_cons.mpr ⟨rfl,nx,Function.update_self ..,hpost'⟩⟩

/-- The cell `m` after the one at `q` unlinked and freed, `q` taking over the link `nx` it had. -/
theorem seg_unlink_after {p r nx : Option ℕ} {pre post : List ℕ} {a b : List α} {q m : ℕ} {y : α}
    (hpre : Seg heap p pre a (some q)) (hpost : Seg heap nx post b r) (hnodup : (pre++q::m::post).Nodup) :
    Seg (Function.update (Function.update heap m none) q (some ⟨nx,y⟩)) p (pre++q::post) (a++y::b) r := by
  have hq := List.nodup_cons.mp (List.nodup_middle.mp hnodup)
  have hm := List.nodup_cons.mp (List.nodup_middle.mp hq.2)
  have hqpre : q ∉ pre := fun h => hq.1 (List.mem_append_left _ h)
  have hqpost : q ∉ post := fun h => hq.1 (List.mem_append_right _ (List.mem_cons_of_mem m h))
  have hmpre : m ∉ pre := fun h => hm.1 (List.mem_append_left _ h)
  have hmpost : m ∉ post := fun h => hm.1 (List.mem_append_right _ h)
  rw [seg_append hpre.length_eq]
  refine ⟨some q,?_,?_⟩
  · rw [seg_update_of_not_mem _ hqpre,seg_update_of_not_mem _ hmpre]
    exact hpre
  · have hpost' : Seg (Function.update (Function.update heap m none) q (some ⟨nx,y⟩)) nx post b r := by
      rw [seg_update_of_not_mem _ hqpost,seg_update_of_not_mem _ hmpost]
      exact hpost
    exact seg_cons.mpr ⟨rfl,nx,Function.update_self ..,hpost'⟩

/-- A cell put in front, linking to the old first cell. -/
theorem seg_prepend {p r : Option ℕ} {ids : List ℕ} {xs : List α} {n : ℕ} {d : α} (h : Seg heap p ids xs r)
    (hn : n ∉ ids) : Seg (Function.update heap n (some ⟨p,d⟩)) (some n) (n::ids) (d::xs) r := by
  simp only [seg_cons,Function.update_self,Option.some.injEq,true_and]
  exact ⟨_,rfl,(seg_update_of_not_mem _ hn).mpr h⟩

/-- The first cell unlinked and freed. -/
theorem seg_unlink_head {r nx : Option ℕ} {i : ℕ} {ids : List ℕ} {x : α} {xs : List α}
    (h : Seg heap (some i) (i::ids) (x::xs) r) (hi : heap i=some ⟨nx,x⟩) (hnodup : (i::ids).Nodup) :
    Seg (Function.update heap i none) nx ids xs r := by
  obtain ⟨-,nx',hi',hrest⟩ := seg_cons.mp h
  rw [hi] at hi'
  cases hi'
  exact (seg_update_of_not_mem _ (List.nodup_cons.mp hnodup).1).mpr hrest

end Seg

/-- A segment cut at its `k`-th cell: the cells before, that cell, and the cells after. -/
theorem Seg.split {heap : ℕ → Option (Cell α)} {p r : Option ℕ} {ids : List ℕ} {xs : List α}
    (h : Seg heap p ids xs r) {k : ℕ} (hk : k < ids.length) :
    ∃ pre q post a y b nx,ids=pre++q::post ∧ xs=a++y::b ∧ pre.length=k ∧ Seg heap p pre a (some q) ∧
      heap q=some ⟨nx,y⟩ ∧ Seg heap nx post b r := by
  have hl := h.length_eq
  obtain ⟨q,post,hdrop⟩ := List.exists_cons_of_ne_nil (l := ids.drop k) (by simp; omega)
  obtain ⟨y,b,hdropx⟩ := List.exists_cons_of_ne_nil (l := xs.drop k) (by simp; omega)
  have hids : ids=ids.take k++q::post := by rw [← hdrop,List.take_append_drop]
  have hxs : xs=xs.take k++y::b := by rw [← hdropx,List.take_append_drop]
  have hlen : (ids.take k).length=k := by simp; omega
  rw [hids,hxs] at h
  obtain ⟨q',hpre,hrest⟩ := (seg_append (by simp; omega)).mp h
  obtain ⟨rfl,nx,hq,hpost⟩ := seg_cons.mp hrest
  exact ⟨_,q,post,_,y,b,nx,hids,hxs,hlen,hpre,hq,hpost⟩

/-- Inserting after the cell that ends a prefix puts the new cell right after it. -/
theorem insertIdx_append_cons {β : Type} (q n : β) (post : List β) :
    ∀ pre : List β,(pre++q::post).insertIdx (pre.length+1) n=pre++q::n::post
  | [] => rfl
  | x::pre => by
    rw [List.cons_append,List.length_cons,List.insertIdx_succ_cons,insertIdx_append_cons q n post pre,
      List.cons_append]

/-- The data met following links from `p`, at most `fuel` cells of them. -/
def walkData (heap : ℕ → Option (Cell α)) : ℕ → Option ℕ → List α
  | 0,_ => []
  | _,none => []
  | fuel+1,some p =>
    match heap p with
    | none => []
    | some c => c.data::walkData heap fuel c.next

/-- Walking a list with fuel for each of its cells reads its data. -/
theorem Seg.walkData_eq {heap : ℕ → Option (Cell α)} :
    ∀ {p : Option ℕ} {ids : List ℕ} {xs : List α} (fuel : ℕ),Seg heap p ids xs none → ids.length ≤ fuel →
      walkData heap fuel p=xs
  | _,[],[],fuel,h,_ => by
    rw [seg_nil.mp h]
    cases fuel <;> rfl
  | _,i::ids,x::xs,fuel+1,h,hfuel => by
    obtain ⟨rfl,nx,hi,hrest⟩ := seg_cons.mp h
    rw [walkData,hi]
    exact congrArg (x::·) (hrest.walkData_eq fuel (by simp at hfuel; omega))
  | _,_::_,_::_,0,_,hfuel => by simp at hfuel
  | _,[],_::_,_,h,_ | _,_::_,[],_,h,_ => absurd h id

/-- Searching pairs by their second component finds the first such second component. -/
theorem find?_zip_map_snd {β γ : Type} (p : γ → Bool) :
    ∀ (as : List β) (bs : List γ),as.length=bs.length →
      ((as.zip bs).find? fun e => p e.2).map Prod.snd=bs.find? p
  | [],[],_ => rfl
  | a::as,b::bs,hl => by
    by_cases hb : p b
    · simp [hb]
    · simp only [List.length_cons,Nat.add_right_cancel_iff] at hl
      simp [hb,find?_zip_map_snd p as bs hl]

end BluetoothStack.LinkedHeap
