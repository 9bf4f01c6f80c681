import Mathlib

/-!
# Finite maps as lists of entries

An ordered map of the C++ library (`std::map`) as the list of its entries, each key at most once:
`find`, `size`, `clear` and an `insert` that, like `std::map::insert`, leaves the map as it is when
the key is already there. The order of the entries is the order of insertion; nothing here depends
on it. The lemmas say what `find` and `size` give after each operation.
-/

namespace BluetoothStack

/-- A map from `κ` to `ν`: its entries, no key twice. -/
structure AssocMap (κ ν : Type) where
  entries : List (κ×ν)
  nodup : (entries.map Prod.fst).Nodup

namespace AssocMap

variable {κ ν : Type}

/-- The empty map, also what `clear` leaves. -/
def empty : AssocMap κ ν := ⟨[],List.nodup_nil⟩

/-- `size`: the number of keys. -/
def size (m : AssocMap κ ν) : ℕ := m.entries.length

@[simp] theorem size_empty : (empty : AssocMap κ ν).size=0 := rfl

variable [DecidableEq κ]

/-- `find`: the value under a key. -/
def find (m : AssocMap κ ν) (k : κ) : Option ν := m.entries.lookup k

theorem nodup_append_of_find_eq_none {m : AssocMap κ ν} {k : κ} (v : ν) (h : m.find k=none) :
    ((m.entries++[(k,v)]).map Prod.fst).Nodup := by
  rw [List.map_append,List.nodup_append]
  refine ⟨m.nodup,List.nodup_singleton _,fun a ha b hb => ?_⟩
  rw [List.map_singleton,List.mem_singleton] at hb
  obtain ⟨p,hp,rfl⟩ := List.mem_map.mp ha
  have hne := List.lookup_eq_none_iff.mp h p hp
  rw [hb]
  intro heq
  rw [heq] at hne
  simp at hne

/-- `insert`: a new entry when the key is absent, the map unchanged when it is there. -/
def insert (m : AssocMap κ ν) (k : κ) (v : ν) : AssocMap κ ν :=
  if h : m.find k=none then ⟨m.entries++[(k,v)],nodup_append_of_find_eq_none v h⟩ else m

@[simp] theorem find_empty (k : κ) : (empty : AssocMap κ ν).find k=none := rfl

theorem insert_of_find_eq_some {m : AssocMap κ ν} {k : κ} {w : ν} (h : m.find k=some w) (v : ν) :
    m.insert k v=m := by
  rw [insert,dif_neg (by rw [h]; exact Option.some_ne_none w)]

theorem find_insert_of_find_eq_none {m : AssocMap κ ν} {k : κ} (h : m.find k=none) (v : ν) (k' : κ) :
    (m.insert k v).find k'=if k'=k then some v else m.find k' := by
  rw [insert,dif_pos h,find,List.lookup_append]
  by_cases hk : k'=k
  · subst hk
    rw [find] at h
    simp [List.lookup,h]
  · have hbeq : (k'==k)=false := beq_false_of_ne hk
    simp [List.lookup,hk,hbeq,find]

theorem size_insert_of_find_eq_none {m : AssocMap κ ν} {k : κ} (h : m.find k=none) (v : ν) :
    (m.insert k v).size=m.size+1 := by
  rw [insert,dif_pos h,size,size,List.length_append,List.length_singleton]

end AssocMap

end BluetoothStack
