import BluetoothStack.SdpServer
import BluetoothStack.CText

/-!
# Identifier strings (types/bluetooth/uuid.cc, types/raw_address.cc)

`Uuid::ToString` writes the sixteen bytes of a UUID as lowercase hexadecimal digits in groups
8-4-4-4-12, and `RawAddress::ToString` writes the six bytes of an address as two digits each between
colons. `Uuid::FromString` reads them back with `sscanf("%02hhx...%n")`, checking how many conversions
it made and how many characters it read; `RawAddress::FromString` splits at the colons with
`base::SplitString` and reads each token with `strtol`. Both read back what they write and every
canonical string, and `Uuid::From16Bit` and `Uuid::From32Bit` undo `As16Bit` and `As32Bit` on the
UUIDs of the base. The C readers accept more than digits, though: a `%02hhx` field may begin with
whitespace, be one digit, or be a sign and a digit, and `strtol` takes a sign as well and stops at
a NUL. The strings both accept are characterised exactly.
-/

namespace BluetoothStack.IdentifierStrings

open ByteBuffer SdpServer CText

/-! ### Uuid -/

/-- `Uuid::ToString`: `%02x` for each byte, a dash after the fourth, sixth, eighth and tenth. -/
def Uuid.toString (u : Uuid) : List Char :=
  printHex (u.uu.take 4)++ '-'::printHex ((u.uu.drop 4).take 2)++ '-'::printHex ((u.uu.drop 6).take 2)++
    '-'::printHex ((u.uu.drop 8).take 2)++ '-'::printHex (u.uu.drop 10)

/-- Bytes stored one after another from index `offset` on, as `sscanf` stores them through `&p[i]`. -/
def setBytes (l : List UInt8) (offset : ℕ) : List UInt8 → List UInt8
  | [] => l
  | b::bs => setBytes (l.set offset b) (offset+1) bs

@[simp] theorem length_setBytes : ∀ (l : List UInt8) (offset : ℕ) (bs : List UInt8),(setBytes l offset bs).length=l.length
  | _,_,[] => rfl
  | l,offset,b::bs => by rw [setBytes,length_setBytes,List.length_set]

/-- Stores that fit overwrite the bytes they cover. -/
theorem setBytes_eq : ∀ (l : List UInt8) (offset : ℕ) (bs : List UInt8),offset+bs.length ≤ l.length →
    setBytes l offset bs=l.take offset++bs++l.drop (offset+bs.length)
  | l,offset,[],_ => by simp [setBytes]
  | l,offset,b::bs,h => by
    simp only [List.length_cons] at h
    rw [setBytes,setBytes_eq _ _ bs (by rw [List.length_set]; omega),List.set_eq_take_append_cons_drop,if_pos (by omega)]
    have hlen : (l.take offset).length=offset := by simp; omega
    have htake : (l.take offset).take (offset+1)=l.take offset := List.take_of_length_le (by omega)
    have hdrop : (l.take offset).drop (offset+1+bs.length)=[] := List.drop_eq_nil_of_le (by omega)
    have hrest : offset+1+bs.length-offset=bs.length+1 := by omega
    simp only [List.take_append,List.drop_append,hlen,htake,hdrop,hrest,List.nil_append,List.drop_succ_cons,
      List.drop_drop]
    simp [Nat.add_comm,Nat.add_left_comm]

/-- The UUID with `bs` stored from `p[offset]` on. -/
def storeBytes (u : Uuid) (offset : ℕ) (bs : List UInt8) : Uuid :=
  ⟨setBytes u.uu offset bs,by rw [length_setBytes,u.length_uu]⟩

@[simp] theorem storeBytes_uu (u : Uuid) (offset : ℕ) (bs : List UInt8) :
    (storeBytes u offset bs).uu=setBytes u.uu offset bs := rfl

/-- The format of a 128-bit UUID string: `%02hhx` four times, `-`, twice, `-`, twice, `-`, twice,
`-`, six times, then `%n`. -/
def format128 : List ScanDirective :=
  List.replicate 4 ScanDirective.hex2++ ScanDirective.lit '-'::List.replicate 2 ScanDirective.hex2++
    ScanDirective.lit '-'::List.replicate 2 ScanDirective.hex2++ ScanDirective.lit '-'::
    List.replicate 2 ScanDirective.hex2++ ScanDirective.lit '-'::List.replicate 6 ScanDirective.hex2++
    [ScanDirective.count]

/-- A branch of `Uuid::FromString`: `sscanf` of the C string into `p + offset`; valid when it
made `conversions` conversions (`rc`) and read `length` characters (`c`). -/
def scanUuid (uuid : List Char) (format : List ScanDirective) (offset conversions length : ℕ) : Uuid×Bool :=
  -- sscanf reads the text up to its first NUL, as c_str() hands it over
  let cstr := uuid.takeWhile (· ≠ '\x00')
  let r := sscanf format cstr
  let ret := storeBytes kBase offset r.1
  match r.2 with
  | some rest => (ret,r.1.length=conversions && cstr.length-rest.length=length)
  | none => (ret,false)

/-- `Uuid::FromString`: the UUID read and `*is_valid`. -/
def Uuid.fromString (uuid : List Char) : Uuid×Bool :=
  if uuid=[] then (kBase,false)
  else if uuid.length=36 then
    if uuid.getD 8 ' ' ≠ '-' ∨ uuid.getD 13 ' ' ≠ '-' ∨ uuid.getD 18 ' ' ≠ '-' ∨ uuid.getD 23 ' ' ≠ '-' then
      (kBase,false)
    else scanUuid uuid format128 0 16 36
  else if uuid.length=8 then scanUuid uuid (List.replicate 4 ScanDirective.hex2++[ScanDirective.count]) 0 4 8
  else if uuid.length=4 then scanUuid uuid (List.replicate 2 ScanDirective.hex2++[ScanDirective.count]) 2 2 4
  else (kBase,false)

/-- `n` hexadecimal digits. -/
def IsHexDigits (n : ℕ) (g : List Char) : Prop := g.length=n ∧ ∀ c ∈ g,isxdigit c=true

/-- A text read whole by a `sscanf` format, with no NUL in it, gives a valid branch. -/
theorem scanUuid_of_sscanf {uuid : List Char} {format : List ScanDirective} {offset conversions : ℕ}
    {bs : List UInt8} (hnul : ∀ c ∈ uuid,c ≠ '\x00') (hscan : sscanf format uuid=(bs,some []))
    (hbs : bs.length=conversions) :
    scanUuid uuid format offset conversions uuid.length=(storeBytes kBase offset bs,true) := by
  have hc : uuid.takeWhile (· ≠ '\x00')=uuid := List.takeWhile_eq_self_iff.mpr (fun c hc => by simpa using hnul c hc)
  simp only [scanUuid,hc,hscan,hbs]
  simp

/-- A 128-bit string of digits in groups 8-4-4-4-12 is read as its digit pairs. -/
theorem Uuid.fromString_dashed {g1 g2 g3 g4 g5 : List Char} (h1 : IsHexDigits 8 g1) (h2 : IsHexDigits 4 g2)
    (h3 : IsHexDigits 4 g3) (h4 : IsHexDigits 4 g4) (h5 : IsHexDigits 12 g5) :
    Uuid.fromString (g1++ '-'::g2++ '-'::g3++ '-'::g4++ '-'::g5)=
      (storeBytes kBase 0 (hexPairs g1++hexPairs g2++hexPairs g3++hexPairs g4++hexPairs g5),true) := by
  obtain ⟨l1,d1⟩ := h1
  obtain ⟨l2,d2⟩ := h2
  obtain ⟨l3,d3⟩ := h3
  obtain ⟨l4,d4⟩ := h4
  obtain ⟨l5,d5⟩ := h5
  have hlen : (g1++ '-'::g2++ '-'::g3++ '-'::g4++ '-'::g5).length=36 := by simp [l1,l2,l3,l4,l5]
  have h5s : sscanf (List.replicate 6 ScanDirective.hex2++[ScanDirective.count]) (g5++[])=(hexPairs g5++[],some []) :=
    sscanf_replicate_hex2 (sscanf_count [] []) 6 (by omega) d5
  rw [List.append_nil,List.append_nil] at h5s
  -- the scan reads the groups in turn, each followed by its dash
  have hscan : sscanf format128 (g1++ '-'::g2++ '-'::g3++ '-'::g4++ '-'::g5)=
      (hexPairs g1++hexPairs g2++hexPairs g3++hexPairs g4++hexPairs g5,some []) := by
    simp only [format128,List.append_assoc,List.cons_append]
    exact sscanf_replicate_hex2_lit _ (sscanf_replicate_hex2_lit _ (sscanf_replicate_hex2_lit _
      (sscanf_replicate_hex2_lit _ h5s 2 (by omega) d4) 2 (by omega) d3) 2 (by omega) d2) 4 (by omega) d1
  have hnul : ∀ c ∈ g1++ '-'::g2++ '-'::g3++ '-'::g4++ '-'::g5,c ≠ '\x00' := by
    intro c hc
    simp only [List.mem_append,List.mem_cons] at hc
    rcases hc with ((((hc | rfl | hc) | rfl | hc) | rfl | hc) | rfl | hc)
    all_goals first | decide | exact ne_of_isxdigit (by simp_all) (by decide)
  have hdash : (g1++ '-'::g2++ '-'::g3++ '-'::g4++ '-'::g5).getD 8 ' '= '-' ∧
      (g1++ '-'::g2++ '-'::g3++ '-'::g4++ '-'::g5).getD 13 ' '= '-' ∧
      (g1++ '-'::g2++ '-'::g3++ '-'::g4++ '-'::g5).getD 18 ' '= '-' ∧
      (g1++ '-'::g2++ '-'::g3++ '-'::g4++ '-'::g5).getD 23 ' '= '-' := by
    simp [List.getD_eq_getElem?_getD,List.getElem?_append_right,l1,l2,l3,l4]
  have hne : g1++ '-'::g2++ '-'::g3++ '-'::g4++ '-'::g5≠[] := List.ne_nil_of_length_pos (by rw [hlen]; omega)
  have hbs : (hexPairs g1++hexPairs g2++hexPairs g3++hexPairs g4++hexPairs g5).length=16 := by
    simp only [List.length_append,length_hexPairs 4 (g := g1) (by omega),length_hexPairs 2 (g := g2) (by omega),
      length_hexPairs 2 (g := g3) (by omega),length_hexPairs 2 (g := g4) (by omega),
      length_hexPairs 6 (g := g5) (by omega)]
  obtain ⟨d8,d13,d18,d23⟩ := hdash
  rw [Uuid.fromString,if_neg hne,if_pos hlen,if_neg (by simp only [d8,d13,d18,d23,ne_eq,not_true_eq_false,or_self,
    not_false_eq_true]),← hlen]
  exact scanUuid_of_sscanf hnul hscan hbs

/-- `Uuid::ToString` of a UUID whose bytes come in groups of 4, 2, 2, 2 and 6. -/
theorem Uuid.toString_of_groups {u : Uuid} {p1 p2 p3 p4 p5 : List UInt8} (h : u.uu=p1++p2++p3++p4++p5)
    (h1 : p1.length=4) (h2 : p2.length=2) (h3 : p3.length=2) (h4 : p4.length=2) :
    Uuid.toString u=printHex p1++ '-'::printHex p2++ '-'::printHex p3++ '-'::printHex p4++ '-'::printHex p5 := by
  simp [Uuid.toString,h,List.drop_append,h1,h2,h3,h4,List.drop_eq_nil_of_le]

/-- Sixteen bytes stored from the start are the whole UUID. -/
theorem storeBytes_kBase_all {bs : List UInt8} (h : bs.length=16) : (storeBytes kBase 0 bs).uu=bs := by
  rw [storeBytes_uu,setBytes_eq _ _ _ (by rw [h]; rfl),h]
  simp [kBase]

/-- The groups `Uuid::ToString` writes, taken back together, are the bytes. -/
theorem groups_append (l : List UInt8) :
    l.take 4++(l.drop 4).take 2++(l.drop 6).take 2++(l.drop 8).take 2++l.drop 10=l := by
  have h10 : l.drop 10=(l.drop 8).drop 2 := by rw [List.drop_drop]
  have h8 : l.drop 8=(l.drop 6).drop 2 := by rw [List.drop_drop]
  have h6 : l.drop 6=(l.drop 4).drop 2 := by rw [List.drop_drop]
  rw [List.append_assoc,List.append_assoc,List.append_assoc,h10,List.take_append_drop,h8,List.take_append_drop,
    h6,List.take_append_drop,List.take_append_drop]

/-- `Uuid::FromString` reads back what `Uuid::ToString` writes. -/
theorem Uuid.fromString_toString (u : Uuid) : Uuid.fromString (Uuid.toString u)=(u,true) := by
  have hu := u.length_uu
  have hdigits : ∀ (n : ℕ) (bs : List UInt8),bs.length=n → IsHexDigits (2*n) (printHex bs) :=
    fun n bs hbs => ⟨by rw [length_printHex,hbs],fun _ hc => isxdigit_of_mem_printHex hc⟩
  have hread := Uuid.fromString_dashed (hdigits 4 (u.uu.take 4) (by simp [hu]))
    (hdigits 2 ((u.uu.drop 4).take 2) (by simp [hu])) (hdigits 2 ((u.uu.drop 6).take 2) (by simp [hu]))
    (hdigits 2 ((u.uu.drop 8).take 2) (by simp [hu])) (hdigits 6 (u.uu.drop 10) (by simp [hu]))
  rw [Uuid.toString,hread]
  simp only [hexPairs_printHex,groups_append]
  congr 1
  ext1
  exact storeBytes_kBase_all hu

/-- A 128-bit string read is written back in lowercase. -/
theorem Uuid.toString_fromString_dashed {g1 g2 g3 g4 g5 : List Char} (h1 : IsHexDigits 8 g1)
    (h2 : IsHexDigits 4 g2) (h3 : IsHexDigits 4 g3) (h4 : IsHexDigits 4 g4) (h5 : IsHexDigits 12 g5) :
    Uuid.toString (Uuid.fromString (g1++ '-'::g2++ '-'::g3++ '-'::g4++ '-'::g5)).1=
      (g1++ '-'::g2++ '-'::g3++ '-'::g4++ '-'::g5).map Char.toLower := by
  have hl1 := length_hexPairs 4 (g := g1) (by rw [h1.1])
  have hl2 := length_hexPairs 2 (g := g2) (by rw [h2.1])
  have hl3 := length_hexPairs 2 (g := g3) (by rw [h3.1])
  have hl4 := length_hexPairs 2 (g := g4) (by rw [h4.1])
  have hl5 := length_hexPairs 6 (g := g5) (by rw [h5.1])
  have hlen : (hexPairs g1++hexPairs g2++hexPairs g3++hexPairs g4++hexPairs g5).length=16 := by
    simp only [List.length_append,hl1,hl2,hl3,hl4,hl5]
  have huu := storeBytes_kBase_all hlen
  rw [Uuid.fromString_dashed h1 h2 h3 h4 h5,Uuid.toString_of_groups huu hl1 hl2 hl3 hl4,
    printHex_hexPairs 4 (by rw [h1.1]) h1.2,printHex_hexPairs 2 (by rw [h2.1]) h2.2,printHex_hexPairs 2 (by rw [h3.1]) h3.2,
    printHex_hexPairs 2 (by rw [h4.1]) h4.2,printHex_hexPairs 6 (by rw [h5.1]) h5.2]
  simp

/-- Eight digits are read into the first four bytes of the base UUID. -/
theorem Uuid.fromString_hex8 {g : List Char} (h : IsHexDigits 8 g) :
    Uuid.fromString g=(storeBytes kBase 0 (hexPairs g),true) := by
  obtain ⟨hl,hd⟩ := h
  have hscan : sscanf (List.replicate 4 ScanDirective.hex2++[ScanDirective.count]) (g++[])=(hexPairs g++[],some []) :=
    sscanf_replicate_hex2 (sscanf_count [] []) 4 (by omega) hd
  rw [List.append_nil,List.append_nil] at hscan
  have hnul : ∀ c ∈ g,c ≠ '\x00' := fun c hc => ne_of_isxdigit (hd c hc) (by decide)
  rw [Uuid.fromString,if_neg (List.ne_nil_of_length_pos (by omega)),if_neg (by omega),if_pos hl,← hl]
  exact scanUuid_of_sscanf hnul hscan (length_hexPairs 4 (by omega))

/-- Four digits are read into bytes 2 and 3 of the base UUID. -/
theorem Uuid.fromString_hex4 {g : List Char} (h : IsHexDigits 4 g) :
    Uuid.fromString g=(storeBytes kBase 2 (hexPairs g),true) := by
  obtain ⟨hl,hd⟩ := h
  have hscan : sscanf (List.replicate 2 ScanDirective.hex2++[ScanDirective.count]) (g++[])=(hexPairs g++[],some []) :=
    sscanf_replicate_hex2 (sscanf_count [] []) 2 (by omega) hd
  rw [List.append_nil,List.append_nil] at hscan
  have hnul : ∀ c ∈ g,c ≠ '\x00' := fun c hc => ne_of_isxdigit (hd c hc) (by decide)
  rw [Uuid.fromString,if_neg (List.ne_nil_of_length_pos (by omega)),if_neg (by omega),if_neg (by omega),
    if_pos hl,← hl]
  exact scanUuid_of_sscanf hnul hscan (length_hexPairs 2 (by omega))

/-- What follows the first eight digits in the string of the base UUID. -/
theorem Uuid.toString_of_base_tail {u : Uuid} {p : List UInt8} (h : u.uu=p++kBase.uu.drop 4) (hp : p.length=4) :
    Uuid.toString u=printHex p++"-0000-1000-8000-00805f9b34fb".toList := by
  have hgroups : u.uu=p++[0x00,0x00]++[0x10,0x00]++[0x80,0x00]++[0x00,0x80,0x5f,0x9b,0x34,0xfb] := by
    rw [h]
    simp [kBase]
  rw [Uuid.toString_of_groups hgroups hp rfl rfl rfl]
  simp only [List.append_assoc,List.cons_append]
  congr 1

/-- An 8-digit string read is written back as the lowercase 128-bit form. -/
theorem Uuid.toString_fromString_hex8 {g : List Char} (h : IsHexDigits 8 g) :
    Uuid.toString (Uuid.fromString g).1=g.map Char.toLower++"-0000-1000-8000-00805f9b34fb".toList := by
  have hl := length_hexPairs 4 (g := g) (by rw [h.1])
  have huu : (storeBytes kBase 0 (hexPairs g)).uu=hexPairs g++kBase.uu.drop 4 := by
    rw [storeBytes_uu,setBytes_eq _ _ _ (by rw [hl]; decide),hl]
    rfl
  rw [Uuid.fromString_hex8 h,Uuid.toString_of_base_tail huu hl,printHex_hexPairs 4 (by rw [h.1]) h.2]

/-- A 4-digit string read is written back as the lowercase 128-bit form. -/
theorem Uuid.toString_fromString_hex4 {g : List Char} (h : IsHexDigits 4 g) :
    Uuid.toString (Uuid.fromString g).1="0000".toList++g.map Char.toLower++"-0000-1000-8000-00805f9b34fb".toList := by
  have hl := length_hexPairs 2 (g := g) (by rw [h.1])
  have huu : (storeBytes kBase 2 (hexPairs g)).uu=([0x00,0x00]++hexPairs g)++kBase.uu.drop 4 := by
    rw [storeBytes_uu,setBytes_eq _ _ _ (by rw [hl]; decide),hl]
    rfl
  rw [Uuid.fromString_hex4 h,Uuid.toString_of_base_tail huu (by simp [hl]),printHex,List.flatMap_append,
    ← printHex,← printHex,printHex_hexPairs 2 (by rw [h.1]) h.2]
  rfl

/-- The strings `Uuid::FromString` accepts: thirty-six characters with dashes at 8, 13, 18 and 23
that are sixteen `%02hhx` fields grouped 4-2-2-2-6 between dashes, eight characters that are four
fields, or four that are two. -/
def Uuid.Accepted (s : List Char) : Prop :=
  (s.length=36 ∧ s.getD 8 ' '= '-' ∧ s.getD 13 ' '= '-' ∧ s.getD 18 ' '= '-' ∧ s.getD 23 ' '= '-' ∧
      ∃ g1 g2 g3 g4 g5 : List (List Char),g1.length=4 ∧ g2.length=2 ∧ g3.length=2 ∧ g4.length=2 ∧
        g5.length=6 ∧ Hex2Fields g1 (some '-') ∧ Hex2Fields g2 (some '-') ∧ Hex2Fields g3 (some '-') ∧
        Hex2Fields g4 (some '-') ∧ Hex2Fields g5 none ∧
        s=g1.flatten++ '-'::g2.flatten++ '-'::g3.flatten++ '-'::g4.flatten++ '-'::g5.flatten) ∨
    (s.length=8 ∧ ∃ fs : List (List Char),fs.length=4 ∧ Hex2Fields fs none ∧ s=fs.flatten) ∨
    (s.length=4 ∧ ∃ fs : List (List Char),fs.length=2 ∧ Hex2Fields fs none ∧ s=fs.flatten)

/-- A branch is valid exactly when its format, ending in its one `%n`, reads the whole string and
the string holds no NUL for `c_str()` to stop at. -/
theorem scanUuid_valid_iff {uuid : List Char} {format body : List ScanDirective} {offset conversions : ℕ}
    (hformat : format=body++[.count]) (hbody : ScanDirective.count ∉ body) (hconv : body.count .hex2=conversions)
    (hpos : 0 < uuid.length) :
    (scanUuid uuid format offset conversions uuid.length).2=true ↔ (sscanf format uuid).2=some [] ∧ '\x00' ∉ uuid := by
  subst hformat hconv
  constructor
  · intro h
    dsimp only [scanUuid] at h
    generalize hc : uuid.takeWhile (· ≠ '\x00')=cstr at h
    cases hr : (sscanf (body++[.count]) cstr).2 with
    | none => simp [hr] at h
    | some rest =>
      simp only [hr,Bool.and_eq_true,decide_eq_true_eq] at h
      -- reading all of `uuid` from its C string means the C string is all of it
      have hle : cstr.length ≤ uuid.length := by
        rw [← hc]
        exact (List.takeWhile_prefix _).length_le
      have hcstr : cstr=uuid := by
        rw [← hc]
        exact (List.takeWhile_prefix _).eq_of_length (by rw [hc]; omega)
      have hrest : rest=[] := List.eq_nil_of_length_eq_zero (by omega)
      have hnul : '\x00' ∉ uuid := fun hmem => by
        simpa using List.takeWhile_eq_self_iff.mp (hc.trans hcstr) _ hmem
      rw [hcstr,hrest] at hr
      exact ⟨hr,hnul⟩
  · rintro ⟨hscan,hnul⟩
    dsimp only [scanUuid]
    rw [takeWhile_ne_of_not_mem hnul,hscan]
    simp [length_sscanf_of_eq_some hbody hscan]

/-- The short formats read a whole string exactly when it is as many fields. -/
theorem sscanf_fields_iff (n : ℕ) (s : List Char) :
    (sscanf (List.replicate n .hex2++[.count]) s).2=some [] ↔
      ∃ fs : List (List Char),fs.length=n ∧ Hex2Fields fs none ∧ s=fs.flatten := by
  rw [sscanf_replicate_hex2_eq_some_iff]
  constructor
  · rintro ⟨fs,t,hlen,hfs,rfl,ht⟩
    obtain rfl : t=[] := by simpa using ht
    exact ⟨fs,hlen,hfs,by simp⟩
  · rintro ⟨fs,hlen,hfs,rfl⟩
    exact ⟨fs,[],hlen,hfs,by simp,by simp⟩

theorem format128_eq : format128=(List.replicate 4 ScanDirective.hex2++ ScanDirective.lit '-'::
    List.replicate 2 ScanDirective.hex2++ ScanDirective.lit '-'::List.replicate 2 ScanDirective.hex2++
    ScanDirective.lit '-'::List.replicate 2 ScanDirective.hex2++ ScanDirective.lit '-'::
    List.replicate 6 ScanDirective.hex2)++[ScanDirective.count] := by
  simp [format128]

/-- The long format reads a whole string exactly when it is sixteen fields grouped 4-2-2-2-6
between dashes. -/
theorem sscanf_format128_iff (s : List Char) :
    (sscanf format128 s).2=some [] ↔
      ∃ g1 g2 g3 g4 g5 : List (List Char),g1.length=4 ∧ g2.length=2 ∧ g3.length=2 ∧ g4.length=2 ∧
        g5.length=6 ∧ Hex2Fields g1 (some '-') ∧ Hex2Fields g2 (some '-') ∧ Hex2Fields g3 (some '-') ∧
        Hex2Fields g4 (some '-') ∧ Hex2Fields g5 none ∧
        s=g1.flatten++ '-'::g2.flatten++ '-'::g3.flatten++ '-'::g4.flatten++ '-'::g5.flatten := by
  simp only [format128,List.append_assoc,List.cons_append]
  constructor
  · -- each run of conversions and its dash, in turn
    intro hs
    obtain ⟨g1,t1,h1,f1,rfl,hs1⟩ := (sscanf_hex2_lit_eq_some_iff _ _ _ _ _).mp hs
    obtain ⟨g2,t2,h2,f2,rfl,hs2⟩ := (sscanf_hex2_lit_eq_some_iff _ _ _ _ _).mp hs1
    obtain ⟨g3,t3,h3,f3,rfl,hs3⟩ := (sscanf_hex2_lit_eq_some_iff _ _ _ _ _).mp hs2
    obtain ⟨g4,t4,h4,f4,rfl,hs4⟩ := (sscanf_hex2_lit_eq_some_iff _ _ _ _ _).mp hs3
    obtain ⟨g5,h5,f5,rfl⟩ := (sscanf_fields_iff 6 t4).mp hs4
    exact ⟨g1,g2,g3,g4,g5,h1,h2,h3,h4,h5,f1,f2,f3,f4,f5,by simp⟩
  · rintro ⟨g1,g2,g3,g4,g5,h1,h2,h3,h4,h5,f1,f2,f3,f4,f5,rfl⟩
    refine (sscanf_hex2_lit_eq_some_iff _ _ _ _ _).mpr ⟨g1,_,h1,f1,rfl,?_⟩
    refine (sscanf_hex2_lit_eq_some_iff _ _ _ _ _).mpr ⟨g2,_,h2,f2,rfl,?_⟩
    refine (sscanf_hex2_lit_eq_some_iff _ _ _ _ _).mpr ⟨g3,_,h3,f3,rfl,?_⟩
    refine (sscanf_hex2_lit_eq_some_iff _ _ _ _ _).mpr ⟨g4,_,h4,f4,rfl,?_⟩
    exact (sscanf_fields_iff 6 _).mpr ⟨g5,h5,f5,rfl⟩

/-- `Uuid::FromString` sets `is_valid` exactly on the accepted strings. -/
theorem Uuid.fromString_valid_iff (s : List Char) : (Uuid.fromString s).2=true ↔ Uuid.Accepted s := by
  by_cases hnil : s=[]
  · subst hnil
    simp [Uuid.fromString,Uuid.Accepted]
  have hpos : 0 < s.length := List.length_pos_iff.mpr hnil
  by_cases h36 : s.length=36
  · -- the long form: its dashes are checked before the scan
    by_cases hdash : s.getD 8 ' ' ≠ '-' ∨ s.getD 13 ' ' ≠ '-' ∨ s.getD 18 ' ' ≠ '-' ∨ s.getD 23 ' ' ≠ '-'
    · rw [Uuid.fromString,if_neg hnil,if_pos h36,if_pos hdash]
      simp only [Uuid.Accepted,Bool.false_eq_true,false_iff]
      rintro (⟨-,h8,h13,h18,h23,-⟩ | ⟨h8,-⟩ | ⟨h4,-⟩)
      · exact hdash.elim (· h8) (·.elim (· h13) (·.elim (· h18) (· h23)))
      all_goals omega
    rw [Uuid.fromString,if_neg hnil,if_pos h36,if_neg hdash,← h36,
      scanUuid_valid_iff format128_eq (by decide) (by decide) hpos,sscanf_format128_iff]
    simp only [not_or,not_not] at hdash
    constructor
    · rintro ⟨h,-⟩
      exact .inl ⟨h36,hdash.1,hdash.2.1,hdash.2.2.1,hdash.2.2.2,h⟩
    · rintro (⟨-,-,-,-,-,h⟩ | ⟨h8,-⟩ | ⟨h4,-⟩)
      · refine ⟨h,?_⟩
        obtain ⟨g1,g2,g3,g4,g5,-,-,-,-,-,f1,f2,f3,f4,f5,rfl⟩ := h
        simp [nul_not_mem_of_hex2Fields f1,nul_not_mem_of_hex2Fields f2,nul_not_mem_of_hex2Fields f3,
          nul_not_mem_of_hex2Fields f4,nul_not_mem_of_hex2Fields f5]
      all_goals omega
  -- the short forms: four or two fields and nothing else
  have hshort : ∀ n,s.length=2*n → (n=4 ∨ n=2) →
      ((scanUuid s (List.replicate n .hex2++[.count]) (4-n) n s.length).2=true ↔ Uuid.Accepted s) := by
    intro n hlen hn
    rw [scanUuid_valid_iff rfl (by simp) (List.count_replicate_self ..) hpos,sscanf_fields_iff]
    constructor
    · rintro ⟨h,-⟩
      rcases hn with rfl | rfl
      · exact .inr (.inl ⟨hlen,h⟩)
      · exact .inr (.inr ⟨hlen,h⟩)
    · rintro (⟨h36',-⟩ | ⟨h8,h⟩ | ⟨h4,h⟩)
      · omega
      all_goals
        obtain ⟨fs,hfs,hf,rfl⟩ := h
        have hn' : fs.length=n := by omega
        exact ⟨⟨fs,hn',hf,rfl⟩,nul_not_mem_of_hex2Fields hf⟩
  by_cases h8 : s.length=8
  · rw [Uuid.fromString,if_neg hnil,if_neg h36,if_pos h8]
    rw [← h8]
    exact hshort 4 (by omega) (.inl rfl)
  by_cases h4 : s.length=4
  · rw [Uuid.fromString,if_neg hnil,if_neg h36,if_neg h8,if_pos h4]
    rw [← h4]
    exact hshort 2 (by omega) (.inr rfl)
  rw [Uuid.fromString,if_neg hnil,if_neg h36,if_neg h8,if_neg h4]
  simp only [Uuid.Accepted,Bool.false_eq_true,false_iff]
  omega

/-! ### Shortest forms -/

/-- A UUID whose shortest form has two bytes is `Uuid::From16Bit` of them. -/
theorem Uuid.from16Bit_as16Bit {u : Uuid} (h : u.getShortestRepresentationSize=2) :
    Uuid.from16Bit u.as16Bit=u := by
  obtain ⟨b0,b1,b2,b3,rest,hu,-⟩ := u.exists_uu_eq
  have hform := u.ofShortestForm_shortestForm
  have hshort : u.shortestForm=[b2,b3] := by
    rw [Uuid.shortestForm,if_pos h,hu]
    rfl
  rw [hshort,Uuid.ofShortestForm,dif_neg (by simp),if_neg (by simp),
    if_pos (show [b2,b3].length=2 from rfl)] at hform
  have has : u.as16Bit=decodeBE [b2,b3] := by
    simp [Uuid.as16Bit,hu,decodeBE]
    omega
  rw [has]
  exact Option.some.inj hform

/-- A UUID of the base made from sixteen bits is sixteen-bit. -/
theorem Uuid.getShortestRepresentationSize_from16Bit (x : ℕ) : (Uuid.from16Bit x).getShortestRepresentationSize=2 := by
  have hdrop : (Uuid.from16Bit x).uu.drop 4=kBase.uu.drop 4 := by
    simp [Uuid.from16Bit,kBase]
  rw [Uuid.getShortestRepresentationSize,if_neg (by simp [hdrop]),if_pos (by simp [Uuid.from16Bit,kBase])]

/-- A UUID whose shortest form has four bytes is `Uuid::From32Bit` of them, and no 16-bit UUID. -/
theorem Uuid.from32Bit_as32Bit {u : Uuid} (h : u.getShortestRepresentationSize=4) :
    Uuid.from32Bit u.as32Bit=u ∧ ∀ x : ℕ,Uuid.from16Bit x≠u := by
  obtain ⟨b0,b1,b2,b3,rest,hu,-⟩ := u.exists_uu_eq
  have hform := u.ofShortestForm_shortestForm
  have hshort : u.shortestForm=u.uu.take 4 := by
    rw [Uuid.shortestForm,if_neg (by rw [h]; decide),h]
  have htake : u.uu.take 4=[b0,b1,b2,b3] := by
    rw [hu]
    rfl
  rw [hshort,htake,Uuid.ofShortestForm,dif_neg (by simp),if_pos (show [b0,b1,b2,b3].length=4 from rfl)] at hform
  refine ⟨?_,fun x hx => ?_⟩
  · rw [Uuid.as32Bit,htake]
    exact Option.some.inj hform
  · -- a 16-bit UUID has shortest size 2, not 4
    have h2 := Uuid.getShortestRepresentationSize_from16Bit x
    rw [hx,h] at h2
    exact absurd h2 (by decide)

/-! ### RawAddress -/

/-- `RawAddress`: six bytes. -/
@[ext]
structure RawAddress where
  address : List UInt8
  length_address : address.length=6
  deriving DecidableEq

/-- `RawAddress::ToString`: `%02x` for each byte, colons between. -/
def RawAddress.toString (a : RawAddress) : List Char := [':'].intercalate (a.address.map printHex2)

/-- The loop body of `RawAddress::FromString`: a token of two characters that `strtol` reads to the
end of its C string, stored into a `uint8_t`. -/
def tokenByte (token : List Char) : Option UInt8 :=
  if token.length≠2 then none
  else
    -- strtol reads the C string; *temp is NUL exactly when it read all of it
    let r := strtolHex (token.takeWhile (· ≠ '\x00'))
    if r.2≠[] then none else some (UInt8.ofNat (r.1 % 256).toNat)

/-- `RawAddress::FromString`: the address read, if the string is one. -/
def RawAddress.fromString (fromStr : List Char) : Option RawAddress :=
  if fromStr.length≠17 then none
  else
    let byteTokens := splitString fromStr ':'
    if byteTokens.length≠6 then none
    else
      match byteTokens.mapM tokenByte with
      | some address => if h : address.length=6 then some ⟨address,h⟩ else none
      | none => none

/-- The tokens `RawAddress::FromString` accepts between colons: two hexadecimal digits, a sign and a
digit, a digit then NUL, or NUL first (`strtol` then reads an empty C string), the last with
neither whitespace nor a colon after the NUL. -/
def isAddressToken : List Char → Bool
  | [c1,c2] => (isxdigit c1 && isxdigit c2) || ((c1 = '+' || c1 = '-') && isxdigit c2) ||
      (isxdigit c1 && c2 = '\x00') || (c1 = '\x00' && !isspace c2 && c2 ≠ ':')
  | _ => false

section MapM

variable {α β : Type} {f : α → Option β}

theorem mapM_isSome_iff : ∀ {l : List α},(l.mapM f).isSome ↔ ∀ x ∈ l,(f x).isSome
  | [] => by simp
  | x::xs => by
    have ih := mapM_isSome_iff (l := xs)
    cases hx : f x with
    | none => simp [hx]
    | some y =>
      -- the head succeeds: the rest decides
      cases hxs : xs.mapM f <;> simp [hx,hxs] at ih ⊢ <;> exact ih

theorem length_of_mapM_eq_some : ∀ {l : List α} {r : List β},l.mapM f=some r → r.length=l.length
  | [],r,h => by simp at h; simp [← h]
  | x::xs,r,h => by
    cases hx : f x with
    | none => simp [hx] at h
    | some y =>
      cases hxs : xs.mapM f with
      | none => simp [hx,hxs] at h
      | some ys =>
        simp only [List.mapM_cons,hx,hxs,Option.bind_eq_bind,Option.bind_some,Option.pure_def] at h
        rw [← Option.some.inj h,List.length_cons,List.length_cons,length_of_mapM_eq_some hxs]

end MapM

/-- `tokenByte` succeeds on a two-character token exactly when `strtol` reads its C string whole. -/
theorem tokenByte_isSome_iff {t : List Char} (ht : t.length=2) :
    (tokenByte t).isSome ↔ (strtolHex (t.takeWhile (· ≠ '\x00'))).2=[] := by
  unfold tokenByte
  rw [if_neg (by omega)]
  dsimp only
  split_ifs with hrest
  · simp only [Option.isSome_none,Bool.false_eq_true,false_iff]
    exact hrest
  · simp only [Option.isSome_some,true_iff]
    exact not_not.mp hrest

/-- On two characters with no whitespace and no colon after the first, `tokenByte` succeeds on
exactly the address tokens. -/
theorem tokenByte_isSome_pair {c1 c2 : Char} (h1 : isspace c1=false) (h2 : isspace c2=false) (hcolon : c2 ≠ ':') :
    (tokenByte [c1,c2]).isSome=isAddressToken [c1,c2] := by
  rw [Bool.eq_iff_iff,tokenByte_isSome_iff rfl]
  by_cases hn1 : c1 = '\x00'
  · -- NUL first: strtol sees an empty string and *temp is that NUL
    subst hn1
    simp [isAddressToken,h2,hcolon]
  by_cases hn2 : c2 = '\x00'
  · -- NUL second: strtol sees one character
    subst hn2
    have hx0 : isxdigit '\x00'=false := by decide
    rw [List.takeWhile_cons_of_pos (by simpa using hn1),List.takeWhile_cons_of_neg (by simp),
      strtolHex_single_rest h1]
    simp [isAddressToken,hx0,hn1]
  rw [List.takeWhile_cons_of_pos (by simpa using hn1),List.takeWhile_cons_of_pos (by simpa using hn2),
    List.takeWhile_nil,strtolHex_pair_rest h1]
  simp [isAddressToken,hn1,hn2]

/-- An address token is two characters, neither whitespace nor a colon. -/
theorem isAddressToken_spec {t : List Char} (h : isAddressToken t=true) :
    ∃ c1 c2,t=[c1,c2] ∧ isspace c1=false ∧ isspace c2=false ∧ c1 ≠ ':' ∧ c2 ≠ ':' := by
  match t,h with
  | [c1,c2],h =>
    refine ⟨c1,c2,rfl,?_⟩
    simp only [isAddressToken,Bool.or_eq_true,Bool.and_eq_true,decide_eq_true_eq,Bool.not_eq_true'] at h
    rcases h with ((⟨hx1,hx2⟩ | ⟨hs,hx2⟩) | ⟨hx1,rfl⟩) | ⟨⟨rfl,hs2⟩,hc2⟩
    · exact ⟨isspace_of_isxdigit hx1,isspace_of_isxdigit hx2,ne_of_isxdigit hx1 (by decide),
        ne_of_isxdigit hx2 (by decide)⟩
    · rcases hs with rfl | rfl
      all_goals exact ⟨by decide,isspace_of_isxdigit hx2,by decide,ne_of_isxdigit hx2 (by decide)⟩
    · exact ⟨isspace_of_isxdigit hx1,by decide,ne_of_isxdigit hx1 (by decide),by decide⟩
    · exact ⟨by decide,hs2,by decide,hc2⟩

/-- `tokenByte` reads back the two digits of a byte. -/
theorem tokenByte_printHex2 (b : UInt8) : tokenByte (printHex2 b)=some b := by
  obtain ⟨d1,d2,hd,h1,h2⟩ := printHex2_eq b
  have hval : hexPairValue d1 d2=b := by
    have hpair := hexPairValue_printHex2 b
    rw [printHex2] at hd
    simp only [List.cons.injEq,and_true] at hd
    rwa [hd.1,hd.2] at hpair
  have hlt : hexValue d1*16+hexValue d2 < 256 := by
    have := hexValue_lt h1
    have := hexValue_lt h2
    omega
  rw [hd,tokenByte,if_neg (by simp)]
  dsimp only
  rw [List.takeWhile_cons_of_pos (by simpa using ne_of_isxdigit h1 (by decide)),
    List.takeWhile_cons_of_pos (by simpa using ne_of_isxdigit h2 (by decide)),List.takeWhile_nil,
    strtolHex_hexPair h1 h2,if_neg (by simp),← hval,hexPairValue]
  congr 2
  omega

/-- An address token is its own trim and holds no colon. -/
theorem isAddressToken_trim {t : List Char} (h : isAddressToken t=true) : trimWhitespaceASCII t=t ∧ ':' ∉ t := by
  obtain ⟨c1,c2,rfl,h1,h2,hc1,hc2⟩ := isAddressToken_spec h
  refine ⟨(trimWhitespaceASCII_pair c1 c2).mpr ⟨h1,h2⟩,?_⟩
  simp only [List.mem_cons,List.not_mem_nil,or_false,not_or]
  exact ⟨Ne.symm hc1,Ne.symm hc2⟩

/-- Six address tokens joined by colons are read, and the string is seventeen characters long. -/
theorem RawAddress.fromString_intercalate {tokens : List (List Char)} (hlen : tokens.length=6)
    (htok : ∀ t ∈ tokens,isAddressToken t=true) :
    ∃ address,RawAddress.fromString ([':'].intercalate tokens)=some address ∧
      tokens.mapM tokenByte=some address.address := by
  have hne : tokens≠[] := List.ne_nil_of_length_pos (by omega)
  have htwo : ∀ t ∈ tokens,t.length=2 := fun t ht => by
    obtain ⟨c1,c2,rfl,-⟩ := isAddressToken_spec (htok t ht)
    rfl
  have hsum : (tokens.map List.length).sum=12 := by
    rw [List.map_congr_left htwo,List.map_const',hlen]
    rfl
  have hlen17 : ([':'].intercalate tokens).length=17 := by
    have := length_intercalate_add_one ':' tokens hne
    omega
  have hsplit : splitString ([':'].intercalate tokens) ':'=tokens := by
    rw [splitString,List.splitOn_intercalate ':' (fun t ht => (isAddressToken_trim (htok t ht)).2) hne]
    exact (List.map_congr_left (fun t ht => (isAddressToken_trim (htok t ht)).1)).trans (List.map_id' tokens)
  have hsome : (tokens.mapM tokenByte).isSome := mapM_isSome_iff.mpr fun t ht => by
    obtain ⟨c1,c2,rfl,h1,h2,-,hc2⟩ := isAddressToken_spec (htok t ht)
    rw [tokenByte_isSome_pair h1 h2 hc2]
    exact htok _ ht
  obtain ⟨address,haddr⟩ := Option.isSome_iff_exists.mp hsome
  have haddr6 : address.length=6 := by rw [length_of_mapM_eq_some haddr,hlen]
  refine ⟨⟨address,haddr6⟩,?_,haddr⟩
  rw [RawAddress.fromString,if_neg (by omega)]
  dsimp only
  rw [hsplit,if_neg (by omega),haddr]
  simp only [haddr6,dif_pos]

/-- `RawAddress::FromString` reads back what `RawAddress::ToString` writes. -/
theorem RawAddress.fromString_toString (a : RawAddress) : RawAddress.fromString a.toString=some a := by
  have htok : ∀ t ∈ a.address.map printHex2,isAddressToken t=true := by
    intro t ht
    obtain ⟨b,-,rfl⟩ := List.mem_map.mp ht
    obtain ⟨d1,d2,hd,h1,h2⟩ := printHex2_eq b
    rw [hd]
    simp [isAddressToken,h1,h2]
  obtain ⟨address,hread,hbytes⟩ := RawAddress.fromString_intercalate (by simp [a.length_address]) htok
  have hmap : (a.address.map printHex2).mapM tokenByte=some a.address := by
    rw [List.mapM_map]
    simpa [Function.comp_def,tokenByte_printHex2] using List.mapM_pure (m := Option) (l := a.address) (f := id)
  rw [hmap,Option.some_inj] at hbytes
  rw [RawAddress.toString,hread]
  congr 1
  ext1
  exact hbytes.symm

/-- `tokenByte` reads two-character tokens only. -/
theorem length_of_tokenByte_isSome {t : List Char} (h : (tokenByte t).isSome) : t.length=2 := by
  by_contra hne
  rw [tokenByte,if_pos hne] at h
  cases h

/-- What a successful `RawAddress::FromString` checked. -/
theorem RawAddress.fromString_eq_some {s : List Char} {a : RawAddress} (h : RawAddress.fromString s=some a) :
    s.length=17 ∧ (splitString s ':').length=6 ∧ (splitString s ':').mapM tokenByte=some a.address := by
  by_cases h17 : s.length≠17
  · rw [RawAddress.fromString,if_pos h17] at h
    cases h
  by_cases h6 : (splitString s ':').length≠6
  · rw [RawAddress.fromString,if_neg h17] at h
    dsimp only at h
    rw [if_pos h6] at h
    cases h
  rw [RawAddress.fromString,if_neg h17] at h
  dsimp only at h
  rw [if_neg h6] at h
  cases hm : (splitString s ':').mapM tokenByte with
  | none => rw [hm] at h; cases h
  | some address =>
    rw [hm] at h
    dsimp only at h
    rw [dif_pos (length_of_mapM_eq_some hm ▸ not_not.mp h6),Option.some_inj] at h
    subst h
    exact ⟨not_not.mp h17,not_not.mp h6,rfl⟩

/-- `RawAddress::FromString` accepts exactly six address tokens joined by colons. -/
theorem RawAddress.fromString_isSome_iff (s : List Char) :
    (RawAddress.fromString s).isSome ↔
      ∃ tokens : List (List Char),tokens.length=6 ∧ (∀ t ∈ tokens,isAddressToken t=true) ∧ s=[':'].intercalate tokens := by
  constructor
  · intro h
    obtain ⟨a,ha⟩ := Option.isSome_iff_exists.mp h
    obtain ⟨h17,h6,hmap⟩ := RawAddress.fromString_eq_some ha
    -- the pieces between colons, before trimming
    refine ⟨s.splitOn ':',?_,?_,(List.intercalate_splitOn ':').symm⟩
    · rwa [splitString,List.length_map] at h6
    -- every trimmed piece was read, so it has two characters
    have hread : ∀ t ∈ s.splitOn ':',(tokenByte (trimWhitespaceASCII t)).isSome :=
      fun t ht => mapM_isSome_iff.mp (Option.isSome_iff_exists.mpr ⟨_,hmap⟩) _ (List.mem_map_of_mem ht)
    have hle : ∀ t ∈ s.splitOn ':',2 ≤ t.length := fun t ht =>
      (length_of_tokenByte_isSome (hread t ht)).symm ▸ length_trimWhitespaceASCII_le t
    -- seventeen characters leave twelve for the six pieces, so none was trimmed
    have hsum : ((s.splitOn ':').map List.length).sum=2*(s.splitOn ':').length := by
      have hjoin := length_intercalate_add_one ':' (s.splitOn ':') (List.splitOn_ne_nil ':' s)
      rw [List.intercalate_splitOn] at hjoin
      rw [splitString,List.length_map] at h6
      omega
    intro t ht
    have htwo := length_eq_of_sum hsum hle t ht
    have htrim : trimWhitespaceASCII t=t :=
      trimWhitespaceASCII_eq_self ((length_of_tokenByte_isSome (hread t ht)).trans htwo.symm)
    obtain ⟨c1,c2,rfl⟩ := List.length_eq_two.mp htwo
    obtain ⟨h1,h2⟩ := (trimWhitespaceASCII_pair c1 c2).mp htrim
    have hc2 : c2 ≠ ':' := fun hc => not_mem_of_mem_splitOn ht (by simp [hc])
    rw [← tokenByte_isSome_pair h1 h2 hc2,← htrim]
    exact hread _ ht
  · rintro ⟨tokens,hlen,htok,rfl⟩
    obtain ⟨address,hread,-⟩ := RawAddress.fromString_intercalate hlen htok
    rw [hread]
    rfl

/-! ### The codecs together -/

theorem identifier_strings_round_trip :
    (∀ u : Uuid,Uuid.fromString (Uuid.toString u)=(u,true)) ∧
      (∀ g1 g2 g3 g4 g5 : List Char,IsHexDigits 8 g1 → IsHexDigits 4 g2 → IsHexDigits 4 g3 → IsHexDigits 4 g4 →
        IsHexDigits 12 g5 → (Uuid.fromString (g1++ '-'::g2++ '-'::g3++ '-'::g4++ '-'::g5)).2=true ∧
          Uuid.toString (Uuid.fromString (g1++ '-'::g2++ '-'::g3++ '-'::g4++ '-'::g5)).1=
            (g1++ '-'::g2++ '-'::g3++ '-'::g4++ '-'::g5).map Char.toLower) ∧
      (∀ g : List Char,IsHexDigits 8 g → (Uuid.fromString g).2=true ∧
        Uuid.toString (Uuid.fromString g).1=g.map Char.toLower++"-0000-1000-8000-00805f9b34fb".toList) ∧
      (∀ g : List Char,IsHexDigits 4 g → (Uuid.fromString g).2=true ∧
        Uuid.toString (Uuid.fromString g).1="0000".toList++g.map Char.toLower++"-0000-1000-8000-00805f9b34fb".toList) ∧
      (∀ s : List Char,(Uuid.fromString s).2=true ↔ Uuid.Accepted s) ∧
      (∀ u : Uuid,u.getShortestRepresentationSize=2 → Uuid.from16Bit u.as16Bit=u) ∧
      (∀ u : Uuid,u.getShortestRepresentationSize=4 → Uuid.from32Bit u.as32Bit=u ∧ ∀ x : ℕ,Uuid.from16Bit x≠u) ∧
      (∀ a : RawAddress,RawAddress.fromString a.toString=some a) ∧
      (∀ s : List Char,(RawAddress.fromString s).isSome ↔
        ∃ tokens : List (List Char),tokens.length=6 ∧ (∀ t ∈ tokens,isAddressToken t=true) ∧
          s=[':'].intercalate tokens) := by
  refine ⟨Uuid.fromString_toString,?dashed,?hex8,?hex4,Uuid.fromString_valid_iff,
    fun u h => Uuid.from16Bit_as16Bit h,fun u h => Uuid.from32Bit_as32Bit h,RawAddress.fromString_toString,
    RawAddress.fromString_isSome_iff⟩
  case dashed =>
    intro g1 g2 g3 g4 g5 h1 h2 h3 h4 h5
    exact ⟨by rw [Uuid.fromString_dashed h1 h2 h3 h4 h5],Uuid.toString_fromString_dashed h1 h2 h3 h4 h5⟩
  case hex8 =>
    intro g h
    exact ⟨by rw [Uuid.fromString_hex8 h],Uuid.toString_fromString_hex8 h⟩
  case hex4 =>
    intro g h
    exact ⟨by rw [Uuid.fromString_hex4 h],Uuid.toString_fromString_hex4 h⟩

theorem identifier_strings_accept_signs_and_spaces :
    ¬IsHexDigits 8 "+1234567".toList ∧ (Uuid.fromString "+1234567".toList).2=true ∧
      (Uuid.fromString " 1234567".toList).2=true ∧
      RawAddress.fromString "+1:23:45:67:89:ab".toList=some ⟨[0x01,0x23,0x45,0x67,0x89,0xab],rfl⟩ ∧
      RawAddress.fromString "a\x00:bb:cc:dd:ee:ff".toList=some ⟨[0x0a,0xbb,0xcc,0xdd,0xee,0xff],rfl⟩ := by
  refine ⟨fun h => absurd (h.2 '+' (by simp)) (by decide),rfl,rfl,rfl,rfl⟩

end BluetoothStack.IdentifierStrings
