import BluetoothStack.AssocMap

/-!
# MediaIdMap: media ids and the UIDs given to them

`MediaIdMap` gives each media id (a string from the media interface) a UID for the connected
devices and keeps two `std::map`s, one each way. A new media id gets the current size of the first
map plus one. The representation invariant `Rep` says that the two maps hold exactly the media ids
inserted since the last `clear`, the `i`-th of them under UID `i + 1`, in both directions; every
operation keeps it, so it holds after every run (`rep_run`).

UIDs are `uint64_t` and are kept as natural numbers: a map cannot hold the `2^64 - 1` entries after
which `size() + 1` would wrap.
-/

namespace BluetoothStack

/-- The two maps of `MediaIdMap`. -/
structure MediaIdMap where
  mediaIdToUid : AssocMap String ℕ
  uidToMediaId : AssocMap ℕ String

namespace MediaIdMap

open AssocMap

/-- A map with nothing in it, as a new `MediaIdMap` starts. -/
def init : MediaIdMap := ⟨empty,empty⟩

/-- `clear`. -/
def clear (_m : MediaIdMap) : MediaIdMap := ⟨empty,empty⟩

/-- `get_media_id`: the media id of a UID, or the empty string. -/
def getMediaId (m : MediaIdMap) (uid : ℕ) : String := (m.uidToMediaId.find uid).getD ""

/-- `get_uid`: the UID of a media id, or 0. -/
def getUid (m : MediaIdMap) (mediaId : String) : ℕ := (m.mediaIdToUid.find mediaId).getD 0

/-- `insert`: the UID already given to the media id, or the next one, entered in both maps. -/
def insert (m : MediaIdMap) (mediaId : String) : MediaIdMap×ℕ :=
  match m.mediaIdToUid.find mediaId with
  | some uid => (m,uid)
  | none =>
    let uid := m.mediaIdToUid.size+1
    (⟨m.mediaIdToUid.insert mediaId uid,m.uidToMediaId.insert uid mediaId⟩,uid)

/-- The operations that change a `MediaIdMap`. -/
inductive MediaIdOp
  | insert (mediaId : String)
  | clear

/-- One operation; `insert` also returns a UID, which the state does not keep. -/
def step (m : MediaIdMap) : MediaIdOp → MediaIdMap
  | .insert mediaId => (m.insert mediaId).1
  | .clear => m.clear

/-- A run of operations from a new map. -/
def run (ops : List MediaIdOp) : MediaIdMap := ops.foldl MediaIdMap.step MediaIdMap.init

/-- What the maps should hold: the distinct media ids inserted since the last `clear`, in the
order they were first inserted. -/
def insertedIds (ids : List String) : MediaIdOp → List String
  | .insert mediaId => if mediaId ∈ ids then ids else ids++[mediaId]
  | .clear => []

/-- The media ids a run leaves in the maps. -/
def runIds (ops : List MediaIdOp) : List String := ops.foldl insertedIds []

/-- The representation invariant: the `i`-th media id of `ids` has UID `i + 1` in the first map,
and the second map gives back the media id of each UID `1 .. n` and nothing else. -/
structure Rep (m : MediaIdMap) (ids : List String) : Prop where
  nodup : ids.Nodup
  find_uid : ∀ x u,m.mediaIdToUid.find x=some u ↔ 0<u ∧ ids[u-1]?=some x
  find_mediaId : ∀ u,m.uidToMediaId.find u=if u=0 then none else ids[u-1]?
  size : m.mediaIdToUid.size=ids.length

section Rep

variable {m : MediaIdMap} {ids : List String}

theorem rep_init : Rep MediaIdMap.init [] :=
  ⟨List.nodup_nil,fun x u => by simp [MediaIdMap.init],fun u => by simp [MediaIdMap.init],rfl⟩

theorem rep_clear (m : MediaIdMap) : Rep m.clear [] :=
  ⟨List.nodup_nil,fun x u => by simp [MediaIdMap.clear],fun u => by simp [MediaIdMap.clear],rfl⟩

/-- A media id is in the first map exactly when it is one of `ids`. -/
theorem Rep.find_uid_eq_none (hr : Rep m ids) (x : String) : m.mediaIdToUid.find x=none ↔ x ∉ ids := by
  constructor
  · intro hnone hx
    obtain ⟨i,hi,hix⟩ := List.getElem_of_mem hx
    have := (hr.find_uid x (i+1)).mpr ⟨by omega,by simp [hi,hix]⟩
    rw [hnone] at this
    cases this
  · intro hx
    cases hfind : m.mediaIdToUid.find x with
    | none => rfl
    | some u =>
      obtain ⟨-,hu⟩ := (hr.find_uid x u).mp hfind
      exact absurd (List.mem_of_getElem? hu) hx

/-- A new media id gets UID `n + 1`, which the second map does not hold yet. -/
theorem Rep.insert_new (hr : Rep m ids) {x : String} (hx : x ∉ ids) :
    Rep (m.insert x).1 (ids++[x]) ∧ (m.insert x).2=ids.length+1 := by
  have hnone := (hr.find_uid_eq_none x).mpr hx
  have hfree : m.uidToMediaId.find (ids.length+1)=none := by
    rw [hr.find_mediaId]
    simp
  simp only [MediaIdMap.insert,hnone,hr.size]
  refine ⟨⟨List.nodup_append.mpr ⟨hr.nodup,List.nodup_singleton x,fun a ha b hb => ?_⟩,
    fun y u => ?_,fun u => ?_,?_⟩,trivial⟩
  · rw [List.mem_singleton] at hb
    rintro rfl
    exact hx (hb ▸ ha)
  · rw [find_insert_of_find_eq_none hnone]
    by_cases hy : y=x
    · subst hy
      simp only [if_pos]
      constructor
      · rintro ⟨⟩
        simp
      · rintro ⟨hu,hux⟩
        -- the new media id sits only at the last index
        by_cases hlt : u-1 < ids.length
        · rw [List.getElem?_append_left hlt] at hux
          exact absurd (List.mem_of_getElem? hux) hx
        · rw [List.getElem?_append_right (by omega)] at hux
          have : u-1-ids.length=0 := by
            by_contra hne
            rw [List.getElem?_singleton,if_neg hne] at hux
            cases hux
          congr 1
          omega
    · rw [if_neg hy,hr.find_uid]
      constructor
      · rintro ⟨hu,hget⟩
        obtain ⟨hlt,-⟩ := List.getElem?_eq_some_iff.mp hget
        exact ⟨hu,by rw [List.getElem?_append_left hlt]; exact hget⟩
      · rintro ⟨hu,hget⟩
        by_cases hlt : u-1 < ids.length
        · exact ⟨hu,by rwa [List.getElem?_append_left hlt] at hget⟩
        · rw [List.getElem?_append_right (by omega),List.getElem?_singleton] at hget
          split_ifs at hget
          cases hget
          exact absurd rfl hy
  · rw [find_insert_of_find_eq_none hfree,hr.find_mediaId]
    by_cases hu : u=ids.length+1
    · subst hu
      simp
    · rw [if_neg hu]
      split_ifs with hu0
      · rfl
      · by_cases hlt : u-1 < ids.length
        · rw [List.getElem?_append_left hlt]
        · rw [List.getElem?_eq_none (by omega),List.getElem?_eq_none (by simp; omega)]
  · rw [size_insert_of_find_eq_none hnone,hr.size,List.length_append,List.length_singleton]

/-- Inserting a media id that is already there changes nothing and returns its UID. -/
theorem Rep.insert_old (hr : Rep m ids) {x : String} (hx : x ∈ ids) : m.insert x=(m,m.getUid x) := by
  cases hfind : m.mediaIdToUid.find x with
  | none => exact absurd hx ((hr.find_uid_eq_none x).mp hfind)
  | some u => simp [MediaIdMap.insert,MediaIdMap.getUid,hfind]

/-- Every operation keeps the invariant, with the media ids of `insertedIds`. -/
theorem Rep.step (hr : Rep m ids) (op : MediaIdOp) : Rep (m.step op) (insertedIds ids op) := by
  cases op with
  | insert x =>
    by_cases hx : x ∈ ids
    · rw [MediaIdMap.step,hr.insert_old hx,insertedIds,if_pos hx]
      exact hr
    · rw [MediaIdMap.step,insertedIds,if_neg hx]
      exact (hr.insert_new hx).1
  | clear => exact rep_clear m

/-- The invariant holds after every run of operations. -/
theorem rep_run (ops : List MediaIdOp) : Rep (run ops) (runIds ops) := by
  suffices ∀ m ids,Rep m ids → Rep (ops.foldl MediaIdMap.step m) (ops.foldl insertedIds ids) from
    this _ _ rep_init
  induction ops with
  | nil => exact fun m ids hr => hr
  | cons op ops ih => exact fun m ids hr => ih _ _ (hr.step op)

/-- The two maps are inverse to each other. -/
theorem Rep.find_uid_iff (hr : Rep m ids) (x : String) (u : ℕ) :
    m.mediaIdToUid.find x=some u ↔ m.uidToMediaId.find u=some x := by
  rw [hr.find_uid,hr.find_mediaId]
  by_cases hu : u=0
  · simp [hu]
  · rw [if_neg hu]
    exact ⟨fun h => h.2,fun h => ⟨by omega,h⟩⟩

/-- The UIDs in use are exactly `1 .. n`. -/
theorem Rep.find_mediaId_isSome (hr : Rep m ids) (u : ℕ) :
    (m.uidToMediaId.find u).isSome ↔ 1 ≤ u ∧ u ≤ ids.length := by
  rw [hr.find_mediaId]
  by_cases hu : u=0
  · simp [hu]
  · rw [if_neg hu]
    simp only [Option.isSome_iff_ne_none,ne_eq,List.getElem?_eq_none_iff,Nat.not_le]
    omega

theorem Rep.getMediaId_getUid (hr : Rep m ids) {x : String} (hx : x ∈ ids) : m.getMediaId (m.getUid x)=x := by
  cases hfind : m.mediaIdToUid.find x with
  | none => exact absurd hx ((hr.find_uid_eq_none x).mp hfind)
  | some u => simp [MediaIdMap.getMediaId,MediaIdMap.getUid,hfind,(hr.find_uid_iff x u).mp hfind]

theorem Rep.getUid_getMediaId (hr : Rep m ids) {u : ℕ} (h1 : 1 ≤ u) (hn : u ≤ ids.length) :
    m.getUid (m.getMediaId u)=u := by
  have hget : ids[u-1]?=some ids[u-1] := List.getElem?_eq_getElem (by omega)
  have hmedia : m.uidToMediaId.find u=some ids[u-1] := by rw [hr.find_mediaId,if_neg (by omega),hget]
  simp [MediaIdMap.getMediaId,MediaIdMap.getUid,hmedia,(hr.find_uid_iff _ u).mpr hmedia]

theorem Rep.find_uid_ne_zero (hr : Rep m ids) (x : String) : m.mediaIdToUid.find x≠some 0 := fun h =>
  absurd ((hr.find_uid x 0).mp h).1 (Nat.lt_irrefl 0)

end Rep

/-- After every run of inserts and clears the two maps are inverse bijections between the media
ids inserted since the last clear and the UIDs `1 .. n`: each of those media ids and each of
those UIDs comes back through the other map, inserting one of them again changes nothing, and no
media id has UID 0. -/
theorem media_id_map_inverse (ops : List MediaIdOp) :
    (∀ x u,(run ops).mediaIdToUid.find x=some u ↔ (run ops).uidToMediaId.find u=some x) ∧
    (∀ u,((run ops).uidToMediaId.find u).isSome ↔ 1 ≤ u ∧ u ≤ (runIds ops).length) ∧
    (∀ x,((run ops).mediaIdToUid.find x).isSome ↔ x ∈ runIds ops) ∧
    (runIds ops).Nodup ∧
    (∀ x ∈ runIds ops,(run ops).getMediaId ((run ops).getUid x)=x) ∧
    (∀ u,1 ≤ u → u ≤ (runIds ops).length → (run ops).getUid ((run ops).getMediaId u)=u) ∧
    (∀ x ∈ runIds ops,(run ops).insert x=(run ops,(run ops).getUid x)) ∧
    (∀ x,(run ops).mediaIdToUid.find x≠some 0) := by
  have hr := rep_run ops
  refine ⟨hr.find_uid_iff,hr.find_mediaId_isSome,fun x => ?_,hr.nodup,fun x hx => hr.getMediaId_getUid hx,
    fun u h1 hn => hr.getUid_getMediaId h1 hn,fun x hx => hr.insert_old hx,hr.find_uid_ne_zero⟩
  rw [← not_iff_not,Option.not_isSome_iff_eq_none]
  exact hr.find_uid_eq_none x

/-- The run that inserts "a", "b", "a", clears, then inserts "c" and "b". -/
theorem media_id_map_inverse_run :
    (run [.insert "a",.insert "b",.insert "a",.clear,.insert "c",.insert "b"]).getMediaId
      ((run [.insert "a",.insert "b",.insert "a",.clear,.insert "c",.insert "b"]).getUid "b")="b" :=
  (media_id_map_inverse [.insert "a",.insert "b",.insert "a",.clear,.insert "c",.insert "b"]).2.2.2.2.1 "b"
    (by decide)

end MediaIdMap

end BluetoothStack
