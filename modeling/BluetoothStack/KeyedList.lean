import Mathlib.Data.List.Nodup

/-!
# Lists of keyed items updated in place

A list whose items carry keys is changed at the first item with a given key: `upsert` changes that
item or appends a new one when there is none, `modifyFirst` changes it or leaves the list alone. Both
keep the order of the other items and the keys unique when the change keeps the key. Nothing here
names a Bluetooth structure.
-/

namespace BluetoothStack.KeyedList

variable {α κ : Type} [DecidableEq κ] (key : α → κ)

/-- Change the first item with key `k` by `f`, or append `new` when no item has it. -/
def upsert (k : κ) (f : α → α) (new : α) : List α → List α
  | [] => [new]
  | x::xs => if key x=k then f x::xs else x::upsert k f new xs

/-- Change the first item with key `k` by `f`, if there is one. -/
def modifyFirst (k : κ) (f : α → α) : List α → List α
  | [] => []
  | x::xs => if key x=k then f x::xs else x::modifyFirst k f xs

variable {key} {k : κ} {f : α → α} {new : α}

/-- With no item of key `k`, an upsert appends. -/
theorem upsert_of_not_mem : ∀ {l : List α},k ∉ l.map key → upsert key k f new l=l++[new]
  | [],_ => rfl
  | x::xs,h => by
    have hx : key x≠k := fun hx => h (hx ▸ List.mem_map_of_mem List.mem_cons_self)
    have hxs : k ∉ xs.map key := fun hk => h (List.mem_cons_of_mem _ hk)
    rw [upsert,if_neg hx,upsert_of_not_mem hxs,List.cons_append]

/-- When the last item is the only one of key `k`, an upsert changes it. -/
theorem upsert_append_of_not_mem {x : α} (hx : key x=k) :
    ∀ {l : List α},k ∉ l.map key → upsert key k f new (l++[x])=l++[f x]
  | [],_ => by simp [upsert,hx]
  | y::ys,h => by
    have hy : key y≠k := fun hy => h (hy ▸ List.mem_map_of_mem List.mem_cons_self)
    have hys : k ∉ ys.map key := fun hk => h (List.mem_cons_of_mem _ hk)
    rw [List.cons_append,upsert,if_neg hy,upsert_append_of_not_mem hx hys,List.cons_append]

/-- The keys after an upsert that keeps keys: the same, with `k` added at the end when it was not
there. -/
theorem map_upsert (hf : ∀ x,key (f x)=key x) (hnew : key new=k) :
    ∀ l : List α,(upsert key k f new l).map key=if k ∈ l.map key then l.map key else l.map key++[k]
  | [] => by simp [upsert,hnew]
  | x::xs => by
    by_cases hx : key x=k
    · simp [upsert,hx,hf]
    · have hmem : k ∈ (x::xs).map key ↔ k ∈ xs.map key := by
        simp only [List.map_cons,List.mem_cons]
        exact ⟨fun h => h.resolve_left (Ne.symm hx),Or.inr⟩
      rw [upsert,if_neg hx,List.map_cons,map_upsert hf hnew xs,if_congr hmem rfl rfl,List.map_cons]
      split_ifs <;> rfl

theorem nodup_map_upsert (hf : ∀ x,key (f x)=key x) (hnew : key new=k) {l : List α} (h : (l.map key).Nodup) :
    ((upsert key k f new l).map key).Nodup := by
  rw [map_upsert hf hnew]
  split_ifs with hk
  · exact h
  · exact List.nodup_append.mpr ⟨h,List.nodup_singleton k,by simpa using hk⟩

/-- An item after an upsert is `new`, an item from before, or one changed by `f`. -/
theorem mem_upsert {y : α} : ∀ {l : List α},y ∈ upsert key k f new l → y=new ∨ y ∈ l ∨ ∃ x ∈ l,y=f x
  | [],h => by simpa [upsert] using h
  | x::xs,h => by
    unfold upsert at h
    split_ifs at h with hx
    · rcases List.mem_cons.mp h with rfl | hy
      · exact Or.inr (Or.inr ⟨x,List.mem_cons_self,rfl⟩)
      · exact Or.inr (Or.inl (List.mem_cons_of_mem x hy))
    · rcases List.mem_cons.mp h with rfl | hy
      · exact Or.inr (Or.inl List.mem_cons_self)
      · rcases mem_upsert hy with h1 | h2 | ⟨x',hx',rfl⟩
        · exact Or.inl h1
        · exact Or.inr (Or.inl (List.mem_cons_of_mem x h2))
        · exact Or.inr (Or.inr ⟨x',List.mem_cons_of_mem x hx',rfl⟩)

theorem map_modifyFirst (hf : ∀ x,key (f x)=key x) : ∀ l : List α,(modifyFirst key k f l).map key=l.map key
  | [] => rfl
  | x::xs => by
    unfold modifyFirst
    split_ifs
    · simp [hf]
    · simp [map_modifyFirst hf xs]

/-- An item after `modifyFirst` is one from before or one changed by `f`. -/
theorem mem_modifyFirst {y : α} : ∀ {l : List α},y ∈ modifyFirst key k f l → y ∈ l ∨ ∃ x ∈ l,y=f x
  | [],h => by simp [modifyFirst] at h
  | x::xs,h => by
    unfold modifyFirst at h
    split_ifs at h with hx
    · rcases List.mem_cons.mp h with rfl | hy
      · exact Or.inr ⟨x,List.mem_cons_self,rfl⟩
      · exact Or.inl (List.mem_cons_of_mem x hy)
    · rcases List.mem_cons.mp h with rfl | hy
      · exact Or.inl List.mem_cons_self
      · rcases mem_modifyFirst hy with h1 | ⟨x',hx',rfl⟩
        · exact Or.inl (List.mem_cons_of_mem x h1)
        · exact Or.inr ⟨x',List.mem_cons_of_mem x hx',rfl⟩

end BluetoothStack.KeyedList
