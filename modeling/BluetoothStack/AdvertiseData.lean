import BluetoothStack.StepRun

/-!
# AdvertiseDataParser: the walk over advertising data

Advertising and scan response data is a run of structures, each a length byte `L` followed by `L`
bytes (a type byte and `L - 1` data bytes). `RemoveTrailingZeros`, `IsValid` and `GetFieldByType`
share one walk, `position += len + 1`, and stop under different conditions: at the end of the data,
at a zero length byte, or at a structure whose length runs past the end. At that last stop `IsValid`
compares the bytes with a scan response that Traxxas devices send with a wrong name length, and it
reads eighteen bytes for that without looking at how many are left; its `std::equal` on bytes is a
`memcmp` that reads each compared range whole.

The data is a bounds-checked array: a read past its end is a fault. Every list of bytes splits into
encoded structures and a tail that stops the walk (`exists_adSplit`), and each function is
characterised over that split.
-/

namespace BluetoothStack.AdvertiseData

open ByteBuffer StepRun

/-- `trx_quirk`: the scan response data of Traxxas devices, whose first structure announces a name
of 20 bytes that the data does not hold. -/
def trxQuirk : List UInt8 :=
  [0x14,0x09,0x54,0xFF,0xFF,0x20,0x42,0x4C,0x45,0x05,0x12,0xFF,0x00,0xE8,0x03,0x02,0x0A,0x00]

/-- A bounds-checked read of `ad[i]`. -/
def adAt (ad : List UInt8) (i : ℕ) : Except Fault UInt8 := inRange ad[i]?

/-- `std::equal(first, first + pattern.size(), pattern.begin())` over the bytes of `ad`. On byte
iterators the standard library makes it one `memcmp` of the whole range, which reads every byte of
the range: a range that runs past the end is read past the end even where an earlier byte differs. -/
def stdEqual (ad : List UInt8) (first : ℕ) (pattern : List UInt8) : Except Fault Bool :=
  if first+pattern.length ≤ ad.length then .ok (decide ((ad.drop first).take pattern.length=pattern))
  else .error .outOfRange

/-- `MalformedPacketQuirk`: bytes 0 to 2, 5 to 10 and 12 to 17 from `position` are those of
`trx_quirk`; bytes 3, 4 and 11 are not compared. -/
def malformedPacketQuirk (ad : List UInt8) (position : ℕ) : Except Fault Bool :=
  stdEqual ad position (trxQuirk.take 3) >>= fun m1 =>
  if !m1 then .ok false
  else stdEqual ad (position+5) ((trxQuirk.drop 5).take 6) >>= fun m2 =>
    if !m2 then .ok false
    else stdEqual ad (position+12) ((trxQuirk.drop 12).take 6)

/-- The loop of `RemoveTrailingZeros`, which returns the data it leaves: cut at a zero length
byte, left whole at the end or at a structure that runs past the end. -/
def removeTrailingZerosLoop (ad : List UInt8) : ℕ → ℕ → Except Fault (List UInt8)
  | fuel,position =>
    if position=ad.length then .ok ad
    else match fuel with
      | 0 => .error .noProgress
      | fuel+1 =>
        adAt ad position >>= fun len =>
        if len=0 then .ok (ad.take position)
        else if ad.length ≤ position+len.toNat then .ok ad
        else removeTrailingZerosLoop ad fuel (position+len.toNat+1)

/-- `RemoveTrailingZeros`; each step moves on by at least two bytes, so the length is fuel
enough. -/
def removeTrailingZeros (ad : List UInt8) : Except Fault (List UInt8) :=
  removeTrailingZerosLoop ad ad.length 0

/-- The loop of `IsValid`. After a zero length byte it reads every byte up to the end, and a
structure that runs past the end is valid only as the Traxxas quirk. -/
def isValidLoop (ad : List UInt8) : ℕ → ℕ → Except Fault Bool
  | fuel,position =>
    if position=ad.length then .ok true
    else match fuel with
      | 0 => .error .noProgress
      | fuel+1 =>
        adAt ad position >>= fun len =>
        if len=0 then .ok ((ad.drop (position+1)).all fun b => b==0)
        else if ad.length ≤ position+len.toNat then malformedPacketQuirk ad position
        else isValidLoop ad fuel (position+len.toNat+1)

/-- `IsValid`. -/
def isValid (ad : List UInt8) : Except Fault Bool := isValidLoop ad ad.length 0

/-- The loop of `GetFieldByType` over the first `adLen` bytes of `ad`: the offset of the data of
the first structure of type `type` and its length, or `none` at a zero length byte, at a structure
that runs past `adLen` and at the end. -/
def getFieldByTypeLoop (ad : List UInt8) (adLen : ℕ) (type : UInt8) : ℕ → ℕ → Except Fault (Option (ℕ×ℕ))
  | fuel,position =>
    if position=adLen then .ok none
    else match fuel with
      | 0 => .error .noProgress
      | fuel+1 =>
        adAt ad position >>= fun len =>
        if len=0 then .ok none
        else if adLen ≤ position+len.toNat then .ok none
        else adAt ad (position+1) >>= fun advType =>
          -- the length returned does not count the type byte
          if advType=type then .ok (some (position+2,len.toNat-1))
          else getFieldByTypeLoop ad adLen type fuel (position+len.toNat+1)

/-- `GetFieldByType(ad, ad_len, type, p_length)`: `some (offset, length)` is the pointer
`ad + offset` with `*p_length = length`, and `none` is NULL with `*p_length = 0`. -/
def getFieldByTypePtr (ad : List UInt8) (adLen : ℕ) (type : UInt8) : Except Fault (Option (ℕ×ℕ)) :=
  getFieldByTypeLoop ad adLen type adLen 0

/-- `GetFieldByType(ad, type, p_length)` on a vector: the pointer overload over all of it. -/
def getFieldByType (ad : List UInt8) (type : UInt8) : Except Fault (Option (ℕ×ℕ)) :=
  getFieldByTypePtr ad ad.length type

section Split

/-- One structure as the walk sees it: the bytes after its length byte, the type byte and the
data, at least one of them and fewer than 256. -/
structure AdStructure where
  body : List UInt8
  body_ne_nil : body≠[]
  length_lt : body.length<256

/-- The bytes of a structure: its length byte, then its body. -/
def AdStructure.encode (s : AdStructure) : List UInt8 := UInt8.ofNat s.body.length :: s.body

/-- The type byte of a structure. -/
def AdStructure.type (s : AdStructure) : UInt8 := s.body.head s.body_ne_nil

/-- The bytes of a run of structures. -/
def encodeAll (ss : List AdStructure) : List UInt8 := ss.flatMap AdStructure.encode

/-- What stops the walk: the end of the data, a zero length byte, or a length byte that counts
past the end. -/
inductive AdTail : List UInt8 → Prop
  | done : AdTail []
  | zero (rest : List UInt8) : AdTail (0 :: rest)
  | overrun (len : UInt8) (rest : List UInt8) (hlen : len≠0) (hover : rest.length<len.toNat) :
      AdTail (len :: rest)

@[simp] theorem encodeAll_nil : encodeAll []=[] := rfl

@[simp] theorem encodeAll_cons (s : AdStructure) (ss : List AdStructure) :
    encodeAll (s :: ss)=s.encode++encodeAll ss := rfl

theorem AdStructure.toNat_length (s : AdStructure) : (UInt8.ofNat s.body.length).toNat=s.body.length := by
  rw [UInt8.toNat_ofNat',Nat.mod_eq_of_lt s.length_lt]

theorem AdStructure.length_encode (s : AdStructure) : s.encode.length=s.body.length+1 := rfl

theorem AdStructure.length_pos (s : AdStructure) : 0<s.body.length :=
  List.length_pos_of_ne_nil s.body_ne_nil

theorem length_encodeAll_ge (ss : List AdStructure) : 2*ss.length ≤ (encodeAll ss).length := by
  induction ss with
  | nil => simp
  | cons s ss ih =>
    have := s.length_pos
    simp only [encodeAll_cons,List.length_append,s.length_encode,List.length_cons]
    omega

/-- Every byte string is a run of structures and a tail that stops the walk. -/
theorem exists_adSplit (ad : List UInt8) : ∃ ss tail,ad=encodeAll ss++tail ∧ AdTail tail := by
  induction h : ad.length using Nat.strong_induction_on generalizing ad with
  | _ n ih =>
    match ad with
    | [] => exact ⟨[],[],rfl,.done⟩
    | len :: rest =>
      by_cases hzero : len=0
      · exact ⟨[],len :: rest,rfl,hzero ▸ .zero rest⟩
      by_cases hover : rest.length<len.toNat
      · exact ⟨[],len :: rest,rfl,.overrun len rest hzero hover⟩
      -- the first structure fits: its body is the next `len` bytes
      have hpos : 0<len.toNat := by
        have : len.toNat≠0 := fun h0 => hzero (UInt8.toNat_inj.mp (by simpa using h0))
        omega
      let s : AdStructure := ⟨rest.take len.toNat,
        List.ne_nil_of_length_pos (by rw [List.length_take]; omega),
        by rw [List.length_take]; have := len.toNat_lt; omega⟩
      have hlen : s.body.length=len.toNat := by simp only [s,List.length_take]; omega
      have hbyte : UInt8.ofNat s.body.length=len := by
        rw [hlen]
        exact UInt8.ofNat_toNat
      obtain ⟨ss,tail,hsplit,htail⟩ := ih (rest.drop len.toNat).length
        (by rw [← h,List.length_drop,List.length_cons]; omega) _ rfl
      refine ⟨s :: ss,tail,?_,htail⟩
      simp only [encodeAll_cons,AdStructure.encode,hbyte,List.cons_append,List.append_assoc,← hsplit,s,
        List.take_append_drop]

end Split

section Walk

variable {pre rest : List UInt8}

theorem adAt_append_left {i : ℕ} (hi : i<pre.length) : adAt (pre++rest) i=adAt pre i := by
  rw [adAt,adAt,List.getElem?_append_left hi]

theorem adAt_append_right (i : ℕ) : adAt (pre++rest) (pre.length+i)=adAt rest i := by
  rw [adAt,adAt,List.getElem?_append_right (by omega),Nat.add_sub_cancel_left]

theorem adAt_encode (s : AdStructure) (more : List UInt8) :
    adAt (pre++s.encode++more) pre.length=.ok (UInt8.ofNat s.body.length) := by
  rw [List.append_assoc,← Nat.add_zero pre.length,adAt_append_right]
  rfl

theorem adAt_encode_type (s : AdStructure) (more : List UInt8) :
    adAt (pre++s.encode++more) (pre.length+1)=.ok s.type := by
  rw [List.append_assoc,adAt_append_right]
  obtain ⟨b,body,hb⟩ := List.exists_cons_of_ne_nil s.body_ne_nil
  simp only [AdStructure.encode,AdStructure.type,adAt,hb,List.head_cons,List.cons_append,List.getElem?_cons_succ,
    List.getElem?_cons_zero,inRange_some]

theorem stdEqual_append_right (pattern : List UInt8) (i : ℕ) :
    stdEqual (pre++rest) (pre.length+i) pattern=stdEqual rest i pattern := by
  simp only [stdEqual,List.length_append,List.drop_length_add_append,Nat.add_assoc,Nat.add_le_add_iff_left]

theorem malformedPacketQuirk_append_right (i : ℕ) :
    malformedPacketQuirk (pre++rest) (pre.length+i)=malformedPacketQuirk rest i := by
  simp only [malformedPacketQuirk,Nat.add_assoc,stdEqual_append_right]

/-- What the walk sees at a structure that starts at `pre.length`: its length byte, which is not
zero and does not run past the end, and the position after it. -/
theorem walk_step {ad more : List UInt8} {s : AdStructure} (hsplit : ad=pre++s.encode++more) :
    adAt ad pre.length=.ok (UInt8.ofNat s.body.length) ∧ UInt8.ofNat s.body.length≠0 ∧
      pre.length≠ad.length ∧ ¬ad.length ≤ pre.length+(UInt8.ofNat s.body.length).toNat ∧
      pre.length+(UInt8.ofNat s.body.length).toNat+1=(pre++s.encode).length := by
  have hlen := s.toNat_length
  have hpos := s.length_pos
  have hall : ad.length=pre.length+s.body.length+1+more.length := by
    simp only [hsplit,List.length_append,s.length_encode]
    omega
  refine ⟨hsplit ▸ adAt_encode s more,fun h0 => ?_,by omega,by rw [hlen]; omega,?_⟩
  · rw [h0,UInt8.toNat_zero] at hlen
    omega
  · simp only [List.length_append,s.length_encode,hlen]
    omega

/-- `RemoveTrailingZeros` steps over a structure. -/
theorem removeTrailingZerosLoop_step {ad more : List UInt8} {s : AdStructure} (hsplit : ad=pre++s.encode++more)
    (k : ℕ) : removeTrailingZerosLoop ad (k+1) pre.length=removeTrailingZerosLoop ad k (pre++s.encode).length := by
  obtain ⟨hread,hzero,hne,hfit,hnext⟩ := walk_step hsplit
  rw [removeTrailingZerosLoop,if_neg hne]
  simp only [hread,ok_bind,if_neg hzero,if_neg hfit,hnext]

/-- `IsValid` steps over a structure. -/
theorem isValidLoop_step {ad more : List UInt8} {s : AdStructure} (hsplit : ad=pre++s.encode++more)
    (k : ℕ) : isValidLoop ad (k+1) pre.length=isValidLoop ad k (pre++s.encode).length := by
  obtain ⟨hread,hzero,hne,hfit,hnext⟩ := walk_step hsplit
  rw [isValidLoop,if_neg hne]
  simp only [hread,ok_bind,if_neg hzero,if_neg hfit,hnext]

/-- The three loops walk over a run of structures one structure a step: from the start of the
run, as many steps as there are structures reach its end. -/
theorem walk_encodeAll {α : Type} (loop : List UInt8 → ℕ → ℕ → α)
    (hstep : ∀ (pre more : List UInt8) (s : AdStructure) (ad : List UInt8),ad=pre++s.encode++more →
      ∀ k,loop ad (k+1) pre.length=loop ad k (pre++s.encode).length)
    (ss : List AdStructure) (tail : List UInt8) (k : ℕ) :
    loop (pre++encodeAll ss++tail) (ss.length+k) pre.length=
      loop (pre++encodeAll ss++tail) k (pre++encodeAll ss).length := by
  induction ss generalizing pre with
  | nil => simp
  | cons s ss ih =>
    have hsplit : pre++encodeAll (s :: ss)++tail=pre++s.encode++(encodeAll ss++tail) := by
      simp only [encodeAll_cons,List.append_assoc]
    have hre : pre++encodeAll (s :: ss)++tail=(pre++s.encode)++encodeAll ss++tail := by
      simp only [encodeAll_cons,List.append_assoc]
    calc loop (pre++encodeAll (s :: ss)++tail) ((s :: ss).length+k) pre.length
        = loop (pre++encodeAll (s :: ss)++tail) (ss.length+k) (pre++s.encode).length := by
          rw [List.length_cons,Nat.add_right_comm]
          exact hstep pre _ s _ hsplit _
      _ = loop (pre++encodeAll (s :: ss)++tail) k (pre++encodeAll (s :: ss)).length := by
          rw [hre,ih]
          simp only [encodeAll_cons,List.append_assoc]

/-- Fuel and position for a walk from the start of `encodeAll ss ++ tail`: the length is as many
steps as there are structures, and one more when the tail is not empty. -/
theorem length_split {ad tail : List UInt8} {ss : List AdStructure} (hsplit : ad=encodeAll ss++tail) :
    ad.length=ss.length+(ad.length-ss.length) ∧ (tail≠[] → 0<ad.length-ss.length) := by
  have hlong := length_encodeAll_ge ss
  have hall : ad.length=(encodeAll ss).length+tail.length := by rw [hsplit,List.length_append]
  refine ⟨by omega,fun hne => ?_⟩
  have : tail.length≠0 := fun h0 => hne (List.eq_nil_of_length_eq_zero h0)
  omega

/-- `RemoveTrailingZeros` at the tail: a zero length byte cuts the data there, and the end or a
structure that runs past it leaves the data whole. -/
theorem removeTrailingZerosLoop_tail {ad tail : List UInt8} (hsplit : ad=pre++tail) (htail : AdTail tail)
    (k : ℕ) (hk : tail≠[] → 0<k) :
    removeTrailingZerosLoop ad k pre.length=.ok (pre++if tail.head?=some 0 then [] else tail) := by
  subst hsplit
  have hread : adAt (pre++tail) pre.length=adAt tail 0 := adAt_append_right 0
  cases htail with
  | done =>
    unfold removeTrailingZerosLoop
    simp
  | zero rest =>
    obtain ⟨k,rfl⟩ := Nat.exists_eq_add_of_lt (hk (List.cons_ne_nil _ _))
    have hb : adAt (pre++0 :: rest) pre.length=.ok 0 := by rw [hread]; rfl
    rw [removeTrailingZerosLoop,if_neg (by simp),hb,ok_bind,if_pos rfl]
    simp
  | overrun len rest hlen hover =>
    obtain ⟨k,rfl⟩ := Nat.exists_eq_add_of_lt (hk (List.cons_ne_nil _ _))
    have hb : adAt (pre++len :: rest) pre.length=.ok len := by rw [hread]; rfl
    have hrun : (pre++len :: rest).length ≤ pre.length+len.toNat := by
      simp only [List.length_append,List.length_cons]
      omega
    rw [removeTrailingZerosLoop,if_neg (by simp),hb,ok_bind,if_neg hlen,if_pos hrun]
    simp [hlen]

/-- `RemoveTrailingZeros` removes the data from the first zero length byte on and nothing else. -/
theorem removeTrailingZeros_split {ad tail : List UInt8} {ss : List AdStructure} (hsplit : ad=encodeAll ss++tail)
    (htail : AdTail tail) : removeTrailingZeros ad=.ok (encodeAll ss++if tail.head?=some 0 then [] else tail) := by
  obtain ⟨hlen,hk⟩ := length_split hsplit
  have hsplit' : ad=[]++encodeAll ss++tail := hsplit
  rw [removeTrailingZeros,hlen,← List.length_nil,hsplit',walk_encodeAll removeTrailingZerosLoop
    (fun pre more s ad h k => removeTrailingZerosLoop_step h k),← hsplit']
  exact removeTrailingZerosLoop_tail (by rw [hsplit']) htail _ hk

/-- What `IsValid` does where the walk stops: the end is valid, zero padding is valid, and a
structure that runs past the end is valid when it is the Traxxas scan response. -/
def isValidTail : List UInt8 → Except Fault Bool
  | [] => .ok true
  | len :: rest => if len=0 then .ok (rest.all fun b => b==0) else malformedPacketQuirk (len :: rest) 0

theorem isValidLoop_tail {ad tail : List UInt8} (hsplit : ad=pre++tail) (htail : AdTail tail)
    (k : ℕ) (hk : tail≠[] → 0<k) : isValidLoop ad k pre.length=isValidTail tail := by
  subst hsplit
  have hread : adAt (pre++tail) pre.length=adAt tail 0 := adAt_append_right 0
  cases htail with
  | done =>
    unfold isValidLoop
    simp [isValidTail]
  | zero rest =>
    obtain ⟨k,rfl⟩ := Nat.exists_eq_add_of_lt (hk (List.cons_ne_nil _ _))
    have hb : adAt (pre++0 :: rest) pre.length=.ok 0 := by rw [hread]; rfl
    rw [isValidLoop,if_neg (by simp),hb,ok_bind,if_pos rfl,isValidTail,if_pos rfl]
    simp
  | overrun len rest hlen hover =>
    obtain ⟨k,rfl⟩ := Nat.exists_eq_add_of_lt (hk (List.cons_ne_nil _ _))
    have hb : adAt (pre++len :: rest) pre.length=.ok len := by rw [hread]; rfl
    have hrun : (pre++len :: rest).length ≤ pre.length+len.toNat := by
      simp only [List.length_append,List.length_cons]
      omega
    rw [isValidLoop,if_neg (by simp),hb,ok_bind,if_neg hlen,if_pos hrun,isValidTail,if_neg hlen,
      ← Nat.add_zero pre.length,malformedPacketQuirk_append_right]

/-- `IsValid` is decided where the walk stops: a run of structures is valid when what follows it
is nothing, zero padding, or the Traxxas scan response. -/
theorem isValid_split {ad tail : List UInt8} {ss : List AdStructure} (hsplit : ad=encodeAll ss++tail)
    (htail : AdTail tail) : isValid ad=isValidTail tail := by
  obtain ⟨hlen,hk⟩ := length_split hsplit
  have hsplit' : ad=[]++encodeAll ss++tail := hsplit
  rw [isValid,hlen,← List.length_nil,hsplit',walk_encodeAll isValidLoop
    (fun pre more s ad h k => isValidLoop_step h k),← hsplit']
  exact isValidLoop_tail (by rw [hsplit']) htail _ hk

/-- A comparison whose bytes all lie inside the data reads only inside it. -/
theorem stdEqual_ok {ad : List UInt8} (pattern : List UInt8) {first : ℕ} (h : first+pattern.length ≤ ad.length) :
    ∃ b,stdEqual ad first pattern=.ok b :=
  ⟨_,if_pos h⟩

/-- A comparison whose range runs past the data reads past it. -/
theorem stdEqual_eq_error {ad : List UInt8} (pattern : List UInt8) {first : ℕ} (h : ad.length<first+pattern.length) :
    stdEqual ad first pattern=.error .outOfRange :=
  if_neg (by omega)

/-- With eighteen bytes left the quirk check reads only inside the data. -/
theorem malformedPacketQuirk_ok {ad : List UInt8} {position : ℕ} (h : position+18 ≤ ad.length) :
    ∃ b,malformedPacketQuirk ad position=.ok b := by
  obtain ⟨m1,h1⟩ := @stdEqual_ok ad (trxQuirk.take 3) position (by simp [trxQuirk]; omega)
  obtain ⟨m2,h2⟩ := @stdEqual_ok ad ((trxQuirk.drop 5).take 6) (position+5)
    (by simp [trxQuirk]; omega)
  obtain ⟨m3,h3⟩ := @stdEqual_ok ad ((trxQuirk.drop 12).take 6) (position+12)
    (by simp [trxQuirk]; omega)
  rw [malformedPacketQuirk,h1,ok_bind]
  split_ifs
  · exact ⟨false,rfl⟩
  · rw [h2,ok_bind]
    split_ifs
    · exact ⟨false,rfl⟩
    · exact ⟨m3,h3⟩

/-- `IsValid` faults only at a structure that runs past the end with fewer than eighteen bytes
left, where the quirk comparison reads past the data. -/
theorem isValid_ok_of_tail {ad tail : List UInt8} {ss : List AdStructure} (hsplit : ad=encodeAll ss++tail)
    (htail : AdTail tail) (hroom : tail.length<18 → tail.head?=some 0 ∨ tail=[]) : ∃ b,isValid ad=.ok b := by
  rw [isValid_split hsplit htail]
  cases htail with
  | done => exact ⟨true,rfl⟩
  | zero rest => exact ⟨_,rfl⟩
  | overrun len rest hlen hover =>
    rw [isValidTail,if_neg hlen]
    apply malformedPacketQuirk_ok
    by_contra hshort
    rcases hroom (by omega) with h | h
    · exact hlen (by simpa using h)
    · exact List.cons_ne_nil _ _ h

/-- A structure that runs past the end with fewer than three bytes left makes `IsValid` read past
the data whatever its bytes: the first `memcmp` of the quirk check covers three. -/
theorem isValid_short_overrun (ss : List AdStructure) {len : UInt8} {rest : List UInt8} (hlen : len≠0)
    (hover : rest.length<len.toNat) (hshort : rest.length<2) :
    isValid (encodeAll ss++len :: rest)=.error .outOfRange := by
  rw [isValid_split rfl (.overrun len rest hlen hover),isValidTail,if_neg hlen,malformedPacketQuirk,
    stdEqual_eq_error _ (by simp [trxQuirk]; omega)]
  rfl

example : isValid [0x03,0x01]=.error .outOfRange := rfl

/-- A structure whose length byte is 0x14 at the end of otherwise well-formed data makes `IsValid`
compare the bytes after it with the Traxxas scan response, and the comparison reads past the
data. -/
theorem advertise_data_quirk_reads_past_end (ss : List AdStructure) :
    isValid (encodeAll ss++[0x14])=.error .outOfRange := by
  rw [isValid_split rfl (.overrun 0x14 [] (by decide) (by decide))]
  rfl

/-- `GetFieldByType` at a structure: it returns the structure's data when the type matches and
steps over it otherwise. -/
theorem getFieldByTypeLoop_step {ad more : List UInt8} {s : AdStructure} (hsplit : ad=pre++s.encode++more)
    (type : UInt8) (k : ℕ) :
    getFieldByTypeLoop ad ad.length type (k+1) pre.length=
      if s.type=type then .ok (some (pre.length+2,s.body.length-1))
      else getFieldByTypeLoop ad ad.length type k (pre++s.encode).length := by
  obtain ⟨hread,hzero,hne,hfit,hnext⟩ := walk_step hsplit
  have htype : adAt ad (pre.length+1)=.ok s.type := hsplit ▸ adAt_encode_type s more
  rw [s.toNat_length] at hfit hnext
  rw [getFieldByTypeLoop,if_neg hne]
  simp only [hread,ok_bind,if_neg hzero,s.toNat_length,if_neg hfit,htype,hnext]

theorem getFieldByTypeLoop_tail {ad tail : List UInt8} (hsplit : ad=pre++tail) (htail : AdTail tail)
    (type : UInt8) (k : ℕ) (hk : tail≠[] → 0<k) : getFieldByTypeLoop ad ad.length type k pre.length=.ok none := by
  subst hsplit
  have hread : adAt (pre++tail) pre.length=adAt tail 0 := adAt_append_right 0
  cases htail with
  | done =>
    unfold getFieldByTypeLoop
    simp
  | zero rest =>
    obtain ⟨k,rfl⟩ := Nat.exists_eq_add_of_lt (hk (List.cons_ne_nil _ _))
    have hb : adAt (pre++0 :: rest) pre.length=.ok 0 := by rw [hread]; rfl
    rw [getFieldByTypeLoop,if_neg (by simp),hb,ok_bind,if_pos rfl]
  | overrun len rest hlen hover =>
    obtain ⟨k,rfl⟩ := Nat.exists_eq_add_of_lt (hk (List.cons_ne_nil _ _))
    have hb : adAt (pre++len :: rest) pre.length=.ok len := by rw [hread]; rfl
    have hrun : (pre++len :: rest).length ≤ pre.length+len.toNat := by
      simp only [List.length_append,List.length_cons]
      omega
    rw [getFieldByTypeLoop,if_neg (by simp),hb,ok_bind,if_neg hlen,if_pos hrun]

/-- The structures before the first one of a type, and where that one's data starts. -/
theorem getFieldByTypeLoop_encodeAll (type : UInt8) (ss : List AdStructure) {tail : List UInt8}
    (htail : AdTail tail) (k : ℕ) (hk : tail≠[] → 0<k) :
    getFieldByTypeLoop (pre++encodeAll ss++tail) (pre++encodeAll ss++tail).length type (ss.length+k) pre.length=
      .ok ((ss.find? fun s => s.type==type).map fun s =>
        (pre.length+(encodeAll (ss.takeWhile fun s => !(s.type==type))).length+2,s.body.length-1)) := by
  induction ss generalizing pre with
  | nil =>
    rw [List.length_nil,Nat.zero_add]
    exact @getFieldByTypeLoop_tail pre _ tail (by simp) htail type k hk
  | cons s ss ih =>
    have hsplit : pre++encodeAll (s :: ss)++tail=pre++s.encode++(encodeAll ss++tail) := by
      simp only [encodeAll_cons,List.append_assoc]
    rw [List.length_cons,Nat.add_right_comm,getFieldByTypeLoop_step hsplit]
    by_cases hs : s.type=type
    · simp [hs]
    · have hre : pre++encodeAll (s :: ss)++tail=(pre++s.encode)++encodeAll ss++tail := by
        simp only [encodeAll_cons,List.append_assoc]
      rw [if_neg hs,hre,ih]
      simp [hs,Nat.add_assoc]

/-- `GetFieldByType` on a vector returns the data of the first structure of the type, at its
offset in the data and with the length of the data, or NULL when no structure before the tail
has that type. -/
theorem getFieldByType_split {ad tail : List UInt8} {ss : List AdStructure} (hsplit : ad=encodeAll ss++tail)
    (htail : AdTail tail) (type : UInt8) :
    getFieldByType ad type=.ok ((ss.find? fun s => s.type==type).map fun s =>
      ((encodeAll (ss.takeWhile fun s => !(s.type==type))).length+2,s.body.length-1)) := by
  obtain ⟨hlen,hk⟩ := length_split hsplit
  have hrun := @getFieldByTypeLoop_encodeAll [] type ss tail htail (ad.length-ss.length) hk
  simp only [List.nil_append,List.length_nil,Nat.zero_add] at hrun
  rw [← hsplit,← hlen] at hrun
  rw [getFieldByType,getFieldByTypePtr,hrun]

/-- The pointer overload reads only inside the data when `ad_len` does not pass its end. -/
theorem getFieldByTypeLoop_ok {ad : List UInt8} {adLen : ℕ} (hlen : adLen ≤ ad.length) (type : UInt8) :
    ∀ fuel position,position ≤ adLen → adLen-position ≤ fuel → ∃ r,getFieldByTypeLoop ad adLen type fuel position=.ok r := by
  intro fuel
  induction fuel with
  | zero =>
    intro position hpos hfuel
    exact ⟨none,by unfold getFieldByTypeLoop; simp; omega⟩
  | succ fuel ih =>
    intro position hpos hfuel
    rw [getFieldByTypeLoop]
    split_ifs with hend
    · exact ⟨none,rfl⟩
    have hread : adAt ad position=.ok ad[position] := by rw [adAt,List.getElem?_eq_getElem (by omega)]; rfl
    rw [hread,ok_bind]
    split_ifs with hzero hrun
    · exact ⟨none,rfl⟩
    · exact ⟨none,rfl⟩
    have hpos1 : 0<ad[position].toNat := by
      have : ad[position].toNat≠0 := fun h0 => hzero (UInt8.toNat_inj.mp (by simpa using h0))
      omega
    have htype : adAt ad (position+1)=.ok ad[position+1] := by
      rw [adAt,List.getElem?_eq_getElem (by omega)]; rfl
    rw [htype,ok_bind]
    split_ifs
    · exact ⟨_,rfl⟩
    · exact ih _ (by omega) (by omega)

/-- `GetFieldByType(ad, ad_len, ...)` never reads past the first `ad_len` bytes of a buffer that
holds them. -/
theorem getFieldByTypePtr_ok {ad : List UInt8} {adLen : ℕ} (hlen : adLen ≤ ad.length) (type : UInt8) :
    ∃ r,getFieldByTypePtr ad adLen type=.ok r :=
  getFieldByTypeLoop_ok hlen type adLen 0 (Nat.zero_le _) (Nat.sub_le _ _)

end Walk

end BluetoothStack.AdvertiseData
