import BluetoothStack.AvrcpRequests

/-!
# The MTU bound of the attribute response builders

`GetElementAttributesResponseBuilder` and `GetItemAttributesResponseBuilder` take attribute entries
one `AddAttributeEntry` call at a time into a `std::set` keyed on the attribute, each call after a
CHECK that fewer than 255 entries are held. A call computes the space left, `mtu_ - size()`, cuts the
entry to it with `AttributeEntry::resize`, and returns false when nothing of the value is left. The
cut keeps the first `mtu_ - size() - 8` bytes of the value, so the response never outgrows its MTU,
an entry that does not fit takes exactly the space left, and a repeated attribute leaves the entry
already held in place.

`Serialize` writes `size()` bytes as long as no value reaches 65536 bytes: the element attributes
response pushes each value through `PushAttributeValue`, whose `uint16_t` length pushes only the
length modulo 65536 bytes, while the item attributes response pushes every byte. An item attributes
response whose status is not `NO_ERROR` is the status alone, with no count, whatever it holds.
-/

namespace BluetoothStack.AvrcpAttributeResponse

open ByteBuffer StepRun AvrcpPacket AvrcpFolderItems AvrcpRequests

/-! ### One call -/

/-- What a call keeps of `entry` when `remaining` bytes are left: the first `remaining - 8` bytes of
its value, under its attribute. -/
def cutEntry (entry : AttributeEntry) (remaining : ℕ) : AttributeEntry :=
  ⟨entry.attr,entry.value.take (remaining-AttributeEntry.kHeaderSize)⟩

section Cut

/-- `AddAttributeEntry`'s cut, `entry.resize(remaining_space)` when the entry does not fit, is
`cutEntry`. -/
theorem cut_eq (entry : AttributeEntry) (remaining : ℕ) :
    (if remaining<entry.size then entry.resize remaining else entry)=cutEntry entry remaining := by
  have h8 : AttributeEntry.kHeaderSize=8 := rfl
  unfold cutEntry
  by_cases hfit : remaining<entry.size
  · rw [if_pos hfit]
    simp only [AttributeEntry.size] at hfit
    -- `resize` keeps `remaining - 8` bytes, none when less than a header is left
    have hkeep : (if remaining<AttributeEntry.kHeaderSize then 0 else remaining-AttributeEntry.kHeaderSize)=
        remaining-AttributeEntry.kHeaderSize := by
      split_ifs <;> omega
    simp only [AttributeEntry.resize,hkeep]
    by_cases hcut : remaining-AttributeEntry.kHeaderSize<entry.value.length
    · rw [if_pos hcut]
    · rw [if_neg hcut,List.take_of_length_le (by omega)]
  · rw [if_neg hfit]
    simp only [AttributeEntry.size] at hfit
    rw [List.take_of_length_le (by omega)]

/-- A kept entry with something of its value fits the space left. -/
theorem size_cutEntry_le {entry : AttributeEntry} {remaining : ℕ} (hne : (cutEntry entry remaining).value≠[]) :
    (cutEntry entry remaining).size ≤ remaining := by
  have hpos : 0<remaining-AttributeEntry.kHeaderSize := by
    rcases Nat.eq_zero_or_pos (remaining-AttributeEntry.kHeaderSize) with h | h
    · simp only [cutEntry,h,List.take_zero] at hne
      exact absurd rfl hne
    · exact h
  simp only [cutEntry,AttributeEntry.size,List.length_take] at hpos ⊢
  omega

/-- An entry that does not fit and keeps something of its value takes exactly the space left. -/
theorem size_cutEntry_of_lt {entry : AttributeEntry} {remaining : ℕ} (hfit : remaining<entry.size)
    (hne : (cutEntry entry remaining).value≠[]) : (cutEntry entry remaining).size=remaining := by
  have hle := size_cutEntry_le hne
  simp only [cutEntry,AttributeEntry.size,List.length_take] at hfit hle ⊢
  omega

variable {size mtu count : ℕ}

/-- From within the MTU and below 255 entries, a call admits the entry cut to the space left, unless
nothing of its value is left. -/
theorem admitAttributeEntry_eq (entry : AttributeEntry) (hle : size ≤ mtu) (hmtu : mtu<2^64)
    (hcount : count<0xFF) :
    admitAttributeEntry size mtu count entry=
      if (cutEntry entry (mtu-size)).value=[] then .ok none else .ok (some (cutEntry entry (mtu-size))) := by
  -- `mtu_ - size()` does not wrap in `size_t`
  have hspace : toSizeT ((mtu : ℤ)-size)=mtu-size := by
    rw [← Nat.cast_sub hle]
    exact toSizeT_of_nonneg (by omega)
  unfold admitAttributeEntry
  rw [if_neg (by omega)]
  dsimp only
  rw [hspace,cut_eq]
  simp only [List.isEmpty_iff]

end Cut

/-- The set keyed on the attribute holds each attribute once. -/
theorem nodup_attrs {entries : List AttributeEntry} (h : entries.Pairwise fun a b => a.attr.toNat<b.attr.toNat) :
    (entries.map AttributeEntry.attr).Nodup := by
  rw [List.Nodup,List.pairwise_map]
  exact h.imp fun hlt heq => by rw [heq] at hlt; exact lt_irrefl _ hlt

/-- An insertion into the set adds at most one entry. -/
theorem length_setInsert_le (entry : AttributeEntry) (entries : List AttributeEntry) :
    (setInsert (·.attr.toNat) entry entries).length ≤ entries.length+1 := by
  simpa using sum_setInsert_le (fun _ => 1) entry entries

/-! ### The element attributes response -/

section Element

open GetElementAttributesResponseBuilder

variable {builder : GetElementAttributesResponseBuilder}

/-- One call, from a builder within its MTU and below 255 entries: false with the builder unchanged
when nothing of the value fits, and otherwise true with the cut entry inserted into the set. -/
theorem element_addAttributeEntry_eq (entry : AttributeEntry) (hle : builder.size ≤ builder.mtu)
    (hmtu : builder.mtu<2^64) (hcount : builder.entries.length<0xFF) :
    builder.addAttributeEntry entry=
      if (cutEntry entry (builder.mtu-builder.size)).value=[] then .ok (builder,false)
      else .ok (⟨builder.mtu,setInsert (·.attr.toNat) (cutEntry entry (builder.mtu-builder.size)) builder.entries,
        setInsert_sorted _ builder.entries_sorted⟩,true) := by
  unfold GetElementAttributesResponseBuilder.addAttributeEntry
  rw [admitAttributeEntry_eq entry hle hmtu hcount]
  split_ifs <;> rfl

/-- From a fresh builder whose MTU holds the headers, at most 255 calls return, and the builder stays
within its MTU with at most one entry per call. -/
theorem element_runSteps_ok {mtu : ℕ} {entries : List AttributeEntry} (hmtu : (makeBuilder mtu).size ≤ mtu)
    (hcount : entries.length ≤ 0xFF) :
    ∃ builder out,runSteps addStep (makeBuilder mtu) entries=.ok (builder,out) ∧ builder.size ≤ mtu ∧
      builder.entries.length ≤ entries.length := by
  -- the invariant: the MTU made with, and a response within it
  have hstep : ∀ b e,(b.mtu=mtu ∧ b.size ≤ b.mtu) → b.entries.length<0xFF →
      ∃ b' o,addStep b e=.ok (b',o) ∧ (b'.mtu=mtu ∧ b'.size ≤ b'.mtu) ∧ b'.entries.length ≤ b.entries.length+1 := by
    intro b e hb hroom
    obtain ⟨⟨b',added⟩,hadd⟩ : ∃ r,b.addAttributeEntry e=.ok r := addAttributeEntry_ok hroom
    obtain ⟨hmtu',hlen,hsize⟩ := addAttributeEntry_spec hadd
    exact ⟨b',[added],by simp [addStep,hadd],⟨hmtu'.trans hb.1,hsize hb.2⟩,hlen⟩
  have hroom : (makeBuilder mtu).entries.length+entries.length ≤ 0xFF := by simpa [makeBuilder] using hcount
  obtain ⟨builder,out,hrun,⟨hmtu',hsize⟩,hlen⟩ :=
    runSteps_ok_of_count_lt (fun b : GetElementAttributesResponseBuilder => b.entries.length) 0xFF hstep
      ⟨rfl,hmtu⟩ hroom
  exact ⟨builder,out,hrun,hmtu' ▸ hsize,by simpa [makeBuilder] using hlen⟩

/-- The count byte after the vendor header is the number of distinct attributes held. -/
theorem element_count_byte (hcount : builder.entries.length ≤ 0xFF) :
    ∃ count,byteAt builder.serialize vendorKMinSize=.ok count ∧
      count.toNat=(builder.entries.map AttributeEntry.attr).toFinset.card := by
  have h := byteAt_field (pushPacketHeader cTypeStable vendorSubunitType 0x00 opcodeVendor++
    pushVendorHeader commandPduGetElementAttributes packetTypeSingle (builder.size-vendorKMinSize))
    (builder.entries.flatMap pushAttributeValue) builder.entries.length
  rw [length_vendorHeaders] at h
  refine ⟨_,h,?_⟩
  rw [List.toFinset_card_of_nodup (nodup_attrs builder.entries_sorted),List.length_map,UInt8.toNat_ofNat']
  omega

end Element

/-! ### The item attributes response -/

section Item

open GetItemAttributesResponseBuilder

variable {builder builder' : GetItemAttributesResponseBuilder} {entry : AttributeEntry} {added : Bool}

/-- One call, from a builder within its MTU and below 255 entries: false with the builder unchanged
when nothing of the value fits, and otherwise true with the cut entry inserted into the set. -/
theorem item_addAttributeEntry_eq (entry : AttributeEntry) (hle : builder.size ≤ builder.mtu)
    (hmtu : builder.mtu<2^64) (hcount : builder.entries.length<0xFF) :
    builder.addAttributeEntry entry=
      if (cutEntry entry (builder.mtu-builder.size)).value=[] then .ok (builder,false)
      else .ok (⟨builder.status,builder.mtu,
        setInsert (·.attr.toNat) (cutEntry entry (builder.mtu-builder.size)) builder.entries,
        setInsert_sorted _ builder.entries_sorted⟩,true) := by
  unfold GetItemAttributesResponseBuilder.addAttributeEntry
  rw [admitAttributeEntry_eq entry hle hmtu hcount]
  split_ifs <;> rfl

/-- An insertion grows the response by at most the entry's size; a response that is not `NO_ERROR`
does not grow at all. -/
theorem item_size_setInsert_le (builder : GetItemAttributesResponseBuilder) (cut : AttributeEntry) :
    (⟨builder.status,builder.mtu,setInsert (·.attr.toNat) cut builder.entries,
      setInsert_sorted _ builder.entries_sorted⟩ : GetItemAttributesResponseBuilder).size ≤ builder.size+cut.size := by
  have hins := @sum_setInsert_le AttributeEntry (fun e => e.attr.toNat) AttributeEntry.size cut builder.entries
  simp only [GetItemAttributesResponseBuilder.size]
  split_ifs <;> omega

/-- A call that succeeds keeps the status and the MTU, adds at most one entry, and keeps a response
within the MTU within it. -/
theorem item_addAttributeEntry_spec (h : builder.addAttributeEntry entry=.ok (builder',added)) :
    builder'.status=builder.status ∧ builder'.mtu=builder.mtu ∧ builder'.entries.length ≤ builder.entries.length+1 ∧
      (builder.size ≤ builder.mtu → builder'.size ≤ builder'.mtu) := by
  unfold GetItemAttributesResponseBuilder.addAttributeEntry at h
  split at h
  · cases h
  · cases h
    exact ⟨rfl,rfl,by omega,id⟩
  · rename_i cut hadmit
    cases h
    refine ⟨rfl,rfl,length_setInsert_le cut builder.entries,fun hle => ?_⟩
    have hfit := (admitAttributeEntry_fits hle hadmit).1
    have hins := item_size_setInsert_le builder cut
    dsimp only
    omega

theorem item_addAttributeEntry_ok (hcount : builder.entries.length<0xFF) :
    ∃ r,builder.addAttributeEntry entry=.ok r := by
  have ⟨r,hr⟩ : ∃ r,admitAttributeEntry builder.size builder.mtu builder.entries.length entry=.ok r :=
    admitAttributeEntry_ok hcount
  unfold GetItemAttributesResponseBuilder.addAttributeEntry
  rw [hr]
  rcases r with _ | cut
  · exact ⟨_,rfl⟩
  · exact ⟨_,rfl⟩

/-- From a fresh builder whose MTU holds the headers, at most 255 calls return, and the builder keeps
its status and stays within its MTU with at most one entry per call. -/
theorem item_runSteps_ok {status : UInt8} {mtu : ℕ} {entries : List AttributeEntry}
    (hmtu : (makeBuilder status mtu).size ≤ mtu) (hcount : entries.length ≤ 0xFF) :
    ∃ builder out,runSteps addStep (makeBuilder status mtu) entries=.ok (builder,out) ∧
      builder.status=status ∧ builder.size ≤ mtu ∧ builder.entries.length ≤ entries.length := by
  -- the invariant: the status and the MTU made with, and a response within it
  have hstep : ∀ b e,(b.status=status ∧ b.mtu=mtu ∧ b.size ≤ b.mtu) → b.entries.length<0xFF →
      ∃ b' o,addStep b e=.ok (b',o) ∧ (b'.status=status ∧ b'.mtu=mtu ∧ b'.size ≤ b'.mtu) ∧
        b'.entries.length ≤ b.entries.length+1 := by
    intro b e hb hroom
    have ⟨⟨b',added⟩,hadd⟩ : ∃ r,b.addAttributeEntry e=.ok r := item_addAttributeEntry_ok hroom
    have ⟨hstatus,hmtu',hlen,hsize⟩ := item_addAttributeEntry_spec hadd
    exact ⟨b',[added],by simp [addStep,hadd],⟨hstatus.trans hb.1,hmtu'.trans hb.2.1,hsize hb.2.2⟩,hlen⟩
  have hroom : (makeBuilder status mtu).entries.length+entries.length ≤ 0xFF := by
    simpa [makeBuilder] using hcount
  have ⟨builder,out,hrun,⟨hstatus,hmtu',hsize⟩,hlen⟩ :=
    runSteps_ok_of_count_lt (fun b : GetItemAttributesResponseBuilder => b.entries.length) 0xFF hstep
      ⟨rfl,rfl,hmtu⟩ hroom
  exact ⟨builder,out,hrun,hstatus,hmtu' ▸ hsize,by simpa [makeBuilder] using hlen⟩

/-- Under `NO_ERROR` the count byte after the status is the number of distinct attributes held. -/
theorem item_count_byte (hstatus : builder.status=statusNoError) (hcount : builder.entries.length ≤ 0xFF) :
    ∃ count,byteAt builder.serialize (browseKMinSize+1)=.ok count ∧
      count.toNat=(builder.entries.map AttributeEntry.attr).toFinset.card := by
  have h := byteAt_field (addPayloadOctets 1 builder.status.toNat) (builder.entries.flatMap pushElementAttribute)
    builder.entries.length
  rw [length_addPayloadOctets] at h
  unfold GetItemAttributesResponseBuilder.serialize
  rw [if_neg (not_ne_iff.mpr hstatus),byteAt_browse,h]
  refine ⟨_,rfl,?_⟩
  rw [List.toFinset_card_of_nodup (nodup_attrs builder.entries_sorted),List.length_map,UInt8.toNat_ofNat']
  omega

/-- A response that is not `NO_ERROR` is the browsing header and the status, with no count. -/
theorem item_length_serialize_of_error (hstatus : builder.status≠statusNoError) :
    builder.serialize.length=browseKMinSize+1 := by
  rw [length_serialize,GetItemAttributesResponseBuilder.size,if_pos hstatus]

end Item

/-! ### Both builders -/

/-- Within the MTU and below 255 entries, a call of either builder cuts the entry's value to the space
left, returns false with the builder unchanged exactly when nothing of it is left, and otherwise
inserts the cut entry into the set keyed on the attribute, where a repeated attribute keeps the entry
already held; an entry that does not fit takes exactly the space left. From a fresh builder whose MTU
holds the headers, every run of at most 255 calls returns and leaves the response within the MTU,
with a count byte that is the number of distinct attributes held. `Serialize` writes `size()` bytes
for the item attributes response, and for the element attributes response exactly when every value
it holds is shorter than 65536 bytes; an item attributes response that is not `NO_ERROR` has no
count. -/
theorem attribute_responses_within_mtu :
    (∀ (builder : GetElementAttributesResponseBuilder) entry,builder.size ≤ builder.mtu → builder.mtu<2^64 →
      builder.entries.length<0xFF →
      builder.addAttributeEntry entry=
        if (cutEntry entry (builder.mtu-builder.size)).value=[] then .ok (builder,false)
        else .ok (⟨builder.mtu,setInsert (·.attr.toNat) (cutEntry entry (builder.mtu-builder.size)) builder.entries,
          setInsert_sorted _ builder.entries_sorted⟩,true)) ∧
    (∀ (builder : GetItemAttributesResponseBuilder) entry,builder.size ≤ builder.mtu → builder.mtu<2^64 →
      builder.entries.length<0xFF →
      builder.addAttributeEntry entry=
        if (cutEntry entry (builder.mtu-builder.size)).value=[] then .ok (builder,false)
        else .ok (⟨builder.status,builder.mtu,
          setInsert (·.attr.toNat) (cutEntry entry (builder.mtu-builder.size)) builder.entries,
          setInsert_sorted _ builder.entries_sorted⟩,true)) ∧
    (∀ entry remaining,remaining<AttributeEntry.size entry → (cutEntry entry remaining).value≠[] →
      (cutEntry entry remaining).size=remaining) ∧
    (∀ mtu (entries : List AttributeEntry),(GetElementAttributesResponseBuilder.makeBuilder mtu).size ≤ mtu →
      entries.length ≤ 0xFF →
      ∃ builder out,runSteps GetElementAttributesResponseBuilder.addStep
          (GetElementAttributesResponseBuilder.makeBuilder mtu) entries=.ok (builder,out) ∧
        builder.size ≤ mtu ∧
        (∃ count,byteAt builder.serialize vendorKMinSize=.ok count ∧
          count.toNat=(builder.entries.map AttributeEntry.attr).toFinset.card) ∧
        (builder.serialize.length=builder.size ↔ ∀ entry ∈ builder.entries,entry.value.length<65536)) ∧
    (∀ status mtu (entries : List AttributeEntry),(GetItemAttributesResponseBuilder.makeBuilder status mtu).size ≤ mtu →
      entries.length ≤ 0xFF →
      ∃ builder out,runSteps GetItemAttributesResponseBuilder.addStep
          (GetItemAttributesResponseBuilder.makeBuilder status mtu) entries=.ok (builder,out) ∧
        builder.size ≤ mtu ∧ builder.serialize.length=builder.size ∧
        (status=statusNoError → ∃ count,byteAt builder.serialize (browseKMinSize+1)=.ok count ∧
          count.toNat=(builder.entries.map AttributeEntry.attr).toFinset.card) ∧
        (status≠statusNoError → builder.serialize.length=browseKMinSize+1)) := by
  refine ⟨fun _ entry => element_addAttributeEntry_eq entry,fun _ entry => item_addAttributeEntry_eq entry,
    fun _ _ => size_cutEntry_of_lt,?_,?_⟩
  · intro mtu entries hmtu hcount
    have ⟨builder,out,hrun,hsize,hlen⟩ := element_runSteps_ok hmtu hcount
    exact ⟨builder,out,hrun,hsize,element_count_byte (by omega),GetElementAttributesResponseBuilder.length_serialize_iff⟩
  · intro status mtu entries hmtu hcount
    have ⟨builder,out,hrun,hstatus,hsize,hlen⟩ := item_runSteps_ok hmtu hcount
    refine ⟨builder,out,hrun,hsize,GetItemAttributesResponseBuilder.length_serialize builder,
      fun hok => item_count_byte (hstatus.trans hok) (by omega),
      fun herr => item_length_serialize_of_error (hstatus ▸ herr)⟩

/-- A value of 65536 bytes under an MTU of 65555 is taken whole, which makes `size()` 65555, while
`PushAttributeValue` pushes its length as the `uint16_t` 0 and none of its bytes. -/
theorem element_serialize_drops_value {value : List UInt8} (attr : UInt32) (hv : value.length=65536) :
    ∃ builder,(GetElementAttributesResponseBuilder.makeBuilder 65555).addAttributeEntry ⟨attr,value⟩=
      .ok (builder,true) ∧ builder.size=65555 ∧ builder.serialize.length=19 := by
  have hsize : (GetElementAttributesResponseBuilder.makeBuilder 65555).size=11 := rfl
  have hmtu : (GetElementAttributesResponseBuilder.makeBuilder 65555).mtu=65555 := rfl
  -- the value fits the space left whole
  have hcut : cutEntry ⟨attr,value⟩ ((GetElementAttributesResponseBuilder.makeBuilder 65555).mtu-
      (GetElementAttributesResponseBuilder.makeBuilder 65555).size)=⟨attr,value⟩ := by
    rw [hmtu,hsize,cutEntry,List.take_of_length_le (by rw [hv]; decide)]
  have hne : (⟨attr,value⟩ : AttributeEntry).value≠[] := by
    intro hnil
    rw [show value=[] from hnil] at hv
    cases hv
  rw [element_addAttributeEntry_eq _ (by rw [hsize]; decide) (by decide) (by decide),hcut,if_neg hne]
  refine ⟨_,rfl,?_,?_⟩
  · simp only [GetElementAttributesResponseBuilder.size,GetElementAttributesResponseBuilder.makeBuilder,
      setInsert,List.map_cons,List.map_nil,List.sum_cons,List.sum_nil,AttributeEntry.size,hv]
    rfl
  · simp only [GetElementAttributesResponseBuilder.serialize,GetElementAttributesResponseBuilder.makeBuilder,
      setInsert,List.length_append,length_pushPacketHeader,length_pushVendorHeader,length_addPayloadOctets,
      List.flatMap_cons,List.flatMap_nil,List.append_nil,length_pushAttributeValue,hv]
    rfl

/-- Two responses that `Serialize` writes short of what the builder holds. Under an MTU of 65555 a
value of 65536 bytes is taken whole and the call returns true, making `size()` 65555, but
`Serialize` writes 19 bytes. A Get Item Attributes
response made with the status `INVALID_PARAMETER` takes an entry and serializes as its header and
status alone, with no count. -/
theorem attribute_responses_serialize_short :
    (∃ builder,(GetElementAttributesResponseBuilder.makeBuilder 65555).addAttributeEntry
        ⟨1,List.replicate 65536 0x61⟩=.ok (builder,true) ∧ builder.size=65555 ∧ builder.serialize.length=19) ∧
    (∃ builder,(GetItemAttributesResponseBuilder.makeBuilder 0x01 100).addAttributeEntry ⟨1,[0x61]⟩=
        .ok (builder,true) ∧ builder.entries.length=1 ∧ builder.serialize=[0x73,0x00,0x01,0x01]) :=
  ⟨element_serialize_drops_value 1 List.length_replicate,⟨_,rfl,rfl,by decide⟩⟩

end BluetoothStack.AvrcpAttributeResponse
