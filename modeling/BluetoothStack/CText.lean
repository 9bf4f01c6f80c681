import Mathlib

/-!
# Reading C text

A text file read with `fgets(line, size, fp)` comes in pieces of at most `size - 1` characters, each
ending at a newline, which it keeps, or where the buffer is full. A file of lines that each fit the
buffer with their newline reads back line by line; a longer line comes back cut in two.

Bytes written with `printf("%02x")` are read back by `sscanf("%02hhx")` and by `strtol(.., 16)`, but
both read more than such digits: a `%02hhx` field skips whitespace and may be one digit, or a sign
and a digit, and `strtol` takes a sign too. `isspace` and `isxdigit` are the C locale's. Nothing here
names a Bluetooth structure.
-/

namespace BluetoothStack.CText

/-- `isspace` in the C locale: space, tab, newline, vertical tab, form feed, carriage return. -/
def isspace (c : Char) : Bool :=
  c = ' ' || c = '\t' || c = '\n' || c = '\x0b' || c = '\x0c' || c = '\r'

/-- Characters that all pass the test are dropped together. -/
theorem dropWhile_append_of_forall {α : Type} {p : α → Bool} {a : List α} (ha : ∀ c ∈ a,p c=true) (l : List α) :
    (a++l).dropWhile p=l.dropWhile p := by
  rw [List.dropWhile_append,if_pos (by simpa using List.dropWhile_eq_nil_iff.mpr ha)]

/-- A list whose first character fails the test loses nothing. -/
theorem dropWhile_of_head {α : Type} {p : α → Bool} : ∀ {l : List α},(∀ c ∈ l.head?,p c=false) → l.dropWhile p=l
  | [],_ => rfl
  | c::l,h => List.dropWhile_cons_of_neg (by simpa using h c rfl)

/-- A text without `c` is read whole up to `c`. -/
theorem takeWhile_ne_of_not_mem {c : Char} {l : List Char} (h : c ∉ l) : l.takeWhile (·≠c)=l :=
  List.takeWhile_eq_self_iff.mpr fun _ hx => decide_eq_true fun hc => h (hc ▸ hx)

/-- Successive `fgets` calls with room for `k` characters, the piece read so far kept reversed in
`cur`: a newline or a full buffer ends a piece, and the end of the file ends the last one. -/
def fgetsLinesAux (k : ℕ) (cur : List Char) : List Char → List (List Char)
  | [] => if cur=[] then [] else [cur.reverse]
  | c::rest =>
    if c = '\n' then (c::cur).reverse::fgetsLinesAux k [] rest
    else if cur.length+1=k then (c::cur).reverse::fgetsLinesAux k [] rest
    else fgetsLinesAux k (c::cur) rest

/-- The pieces `while (fgets(line, size, fp))` reads from a file. -/
def fgetsLines (size : ℕ) (text : List Char) : List (List Char) := fgetsLinesAux (size-1) [] text

/-- A line with no newline that fits after the piece read so far, with its newline, ends that
piece. -/
theorem fgetsLinesAux_line {k : ℕ} (rest : List Char) :
    ∀ (line cur : List Char),'\n' ∉ line → cur.length+line.length < k →
      fgetsLinesAux k cur (line++ '\n'::rest)=(cur.reverse++line++['\n'])::fgetsLinesAux k [] rest
  | [],cur,_,_ => by simp [fgetsLinesAux]
  | c::line,cur,hline,hfit => by
    have hc : c ≠ '\n' := fun h => hline (h ▸ List.mem_cons_self)
    have hfull : cur.length+1≠k := by
      simp only [List.length_cons] at hfit
      omega
    have hrest := fgetsLinesAux_line (k := k) rest line (c::cur) (fun h => hline (List.mem_cons_of_mem c h))
      (by simp only [List.length_cons] at hfit ⊢; omega)
    rw [List.cons_append,fgetsLinesAux,if_neg hc,if_neg hfull,hrest]
    simp

/-- Lines without newlines, each fitting the buffer with its newline, read back as themselves. -/
theorem fgetsLines_join {size : ℕ} :
    ∀ lines : List (List Char),(∀ l ∈ lines,'\n' ∉ l ∧ l.length < size-1) →
      fgetsLines size (lines.flatMap (·++['\n']))=lines.map (·++['\n'])
  | [],_ => by simp [fgetsLines,fgetsLinesAux]
  | l::lines,h => by
    obtain ⟨hl,hfit⟩ := h l List.mem_cons_self
    have hrest := fgetsLines_join lines (fun l' hl' => h l' (List.mem_cons_of_mem l hl'))
    unfold fgetsLines at hrest ⊢
    rw [List.flatMap_cons,List.append_assoc,List.singleton_append,
      fgetsLinesAux_line _ l [] hl (by simpa using hfit),hrest]
    simp

/-! ### Hexadecimal digits -/

/-- The hexadecimal digits of the C locale. -/
def hexDigits : List Char := "0123456789abcdefABCDEF".toList

/-- `isxdigit` in the C locale. -/
def isxdigit (c : Char) : Bool := decide (c ∈ hexDigits)

/-- The value of a hexadecimal digit, in either case. -/
def hexValue (c : Char) : ℕ := "0123456789abcdef".toList.idxOf c.toLower

/-- The digit `%x` writes for a value below sixteen. -/
def hexDigitLower (n : ℕ) : Char := "0123456789abcdef".toList.getD n '0'

/-- `printf("%02x", b)` for a byte: two lowercase digits, high first. -/
def printHex2 (b : UInt8) : List Char := [hexDigitLower (b.toNat/16),hexDigitLower (b.toNat%16)]

/-- One `%02x` for each byte. -/
def printHex (bs : List UInt8) : List Char := bs.flatMap printHex2

/-- The byte two hexadecimal digits stand for, high digit first. -/
def hexPairValue (c1 c2 : Char) : UInt8 := UInt8.ofNat (hexValue c1*16+hexValue c2)

/-- The bytes a string of hexadecimal digits stands for, two digits each. -/
def hexPairs : List Char → List UInt8
  | c1::c2::rest => hexPairValue c1 c2::hexPairs rest
  | _ => []

/-- A test passed by every hexadecimal digit, checked as one `List.all` over the twenty-two of them,
holds of every character `isxdigit` accepts. -/
theorem forall_of_isxdigit {p : Char → Bool} (h : hexDigits.all p=true) {c : Char} (hc : isxdigit c=true) :
    p c=true :=
  List.all_eq_true.mp h c (of_decide_eq_true hc)

theorem isspace_of_isxdigit {c : Char} (hc : isxdigit c=true) : isspace c=false := by
  simpa using forall_of_isxdigit (p := fun c => !isspace c) (by decide) hc

/-- A digit is none of the characters that are not digits. -/
theorem ne_of_isxdigit {c d : Char} (hc : isxdigit c=true) (hd : isxdigit d=false) : c ≠ d := by
  rintro rfl
  rw [hc] at hd
  cases hd

theorem hexValue_lt {c : Char} (hc : isxdigit c=true) : hexValue c < 16 := by
  simpa using forall_of_isxdigit (p := fun c => decide (hexValue c < 16)) (by decide) hc

/-- `%x` writes a digit back in lowercase. -/
theorem hexDigitLower_hexValue {c : Char} (hc : isxdigit c=true) : hexDigitLower (hexValue c)=c.toLower := by
  simpa using forall_of_isxdigit (p := fun c => hexDigitLower (hexValue c)==c.toLower) (by decide) hc

theorem isxdigit_hexDigitLower {n : ℕ} (hn : n < 16) : isxdigit (hexDigitLower n)=true := by
  have hall : ∀ n < 16,isxdigit (hexDigitLower n)=true := by decide
  exact hall n hn

theorem hexValue_hexDigitLower {n : ℕ} (hn : n < 16) : hexValue (hexDigitLower n)=n := by
  have hall : ∀ n < 16,hexValue (hexDigitLower n)=n := by decide
  exact hall n hn

/-- The two digits of a byte, named. -/
theorem printHex2_eq (b : UInt8) : ∃ d1 d2,printHex2 b=[d1,d2] ∧ isxdigit d1=true ∧ isxdigit d2=true := by
  have hb := b.toNat_lt
  exact ⟨_,_,rfl,isxdigit_hexDigitLower (by omega),isxdigit_hexDigitLower (by omega)⟩

/-- Two digits read back as the byte they were written from. -/
theorem hexPairValue_printHex2 (b : UInt8) :
    hexPairValue (hexDigitLower (b.toNat/16)) (hexDigitLower (b.toNat%16))=b := by
  have hb := b.toNat_lt
  rw [hexPairValue,hexValue_hexDigitLower (by omega),hexValue_hexDigitLower (by omega),Nat.div_add_mod' b.toNat 16,
    UInt8.ofNat_toNat]

/-- A byte read from two digits is written back as the same digits in lowercase. -/
theorem printHex2_hexPairValue {c1 c2 : Char} (h1 : isxdigit c1=true) (h2 : isxdigit c2=true) :
    printHex2 (hexPairValue c1 c2)=[c1.toLower,c2.toLower] := by
  have hv1 := hexValue_lt h1
  have hv2 := hexValue_lt h2
  have hval : (hexPairValue c1 c2).toNat=hexValue c1*16+hexValue c2 := by
    rw [hexPairValue,UInt8.toNat_ofNat_of_lt' (by simp only [UInt8.size]; omega)]
  have hhigh : (hexValue c1*16+hexValue c2)/16=hexValue c1 := by omega
  have hlow : (hexValue c1*16+hexValue c2)%16=hexValue c2 := by omega
  rw [printHex2,hval,hhigh,hlow,hexDigitLower_hexValue h1,hexDigitLower_hexValue h2]

@[simp] theorem length_printHex (bs : List UInt8) : (printHex bs).length=2*bs.length := by
  induction bs with
  | nil => rfl
  | cons b bs ih =>
    simp only [printHex,List.flatMap_cons,List.length_append,List.length_cons] at ih ⊢
    rw [ih,printHex2]
    simp only [List.length_cons,List.length_nil]
    omega

theorem isxdigit_of_mem_printHex {bs : List UInt8} {c : Char} (h : c ∈ printHex bs) : isxdigit c=true := by
  obtain ⟨b,-,hb⟩ := List.mem_flatMap.mp h
  obtain ⟨d1,d2,hd,h1,h2⟩ := printHex2_eq b
  rw [hd,List.mem_cons,List.mem_singleton] at hb
  rcases hb with rfl | rfl
  · exact h1
  · exact h2

theorem hexPairs_printHex (bs : List UInt8) : hexPairs (printHex bs)=bs := by
  induction bs with
  | nil => rfl
  | cons b bs ih =>
    simp only [printHex,List.flatMap_cons] at ih ⊢
    rw [printHex2,List.cons_append,List.singleton_append,hexPairs,hexPairValue_printHex2,ih]

@[simp] theorem length_hexPairs : ∀ (n : ℕ) {g : List Char},g.length=2*n → (hexPairs g).length=n
  | 0,[],_ => rfl
  | n+1,c1::c2::rest,h => by
    simp only [List.length_cons] at h
    rw [hexPairs,List.length_cons,length_hexPairs n (by omega)]
  | 0,_::_,h | n+1,[],h | n+1,[_],h => by simp at h <;> omega

/-- A string of hexadecimal digits of even length is written back by `%02x` in lowercase. -/
theorem printHex_hexPairs : ∀ (n : ℕ) {g : List Char},g.length=2*n → (∀ c ∈ g,isxdigit c=true) →
    printHex (hexPairs g)=g.map Char.toLower
  | 0,[],_,_ => rfl
  | n+1,c1::c2::rest,h,hg => by
    simp only [List.length_cons] at h
    have hrest := printHex_hexPairs n (g := rest) (by omega) (fun c hc => hg c (by simp [hc]))
    simp only [printHex,hexPairs,List.flatMap_cons,List.map_cons] at hrest ⊢
    rw [printHex2_hexPairValue (hg c1 (by simp)) (hg c2 (by simp)),hrest]
    rfl
  | 0,_::_,h,_ | n+1,[],h,_ | n+1,[_],h,_ => by simp at h <;> omega

/-! ### `sscanf` with `%02hhx` -/

/-- One `%02hhx` conversion: whitespace skipped, then at most two characters of an optionally signed
hexadecimal number; the value modulo 256 and the text after it. As C99 reads it, an input that is
only the start of a number, a lone sign or `0x`, fails the conversion. -/
def scanHex2 (s : List Char) : Option (UInt8×List Char) :=
  match s.dropWhile isspace with
  | c1::c2::rest =>
    if isxdigit c1 then
      if isxdigit c2 then some (hexPairValue c1 c2,rest)
      else if c1 = '0' ∧ (c2 = 'x' ∨ c2 = 'X') then none
      else some (UInt8.ofNat (hexValue c1),c2::rest)
    else if c1 = '+' ∧ isxdigit c2 then some (UInt8.ofNat (hexValue c2),rest)
    else if c1 = '-' ∧ isxdigit c2 then some (-UInt8.ofNat (hexValue c2),rest)
    else none
  | [c1] => if isxdigit c1 then some (UInt8.ofNat (hexValue c1),[]) else none
  | [] => none

/-- Two digits fill the field. -/
theorem scanHex2_hexPair {c1 c2 : Char} (h1 : isxdigit c1=true) (h2 : isxdigit c2=true) (rest : List Char) :
    scanHex2 (c1::c2::rest)=some (hexPairValue c1 c2,rest) := by
  rw [scanHex2,List.dropWhile_cons_of_neg (by simp [isspace_of_isxdigit h1])]
  simp only [h1,h2,if_true]

/-- The directives of the `sscanf` formats read here. -/
inductive ScanDirective
  /-- `%02hhx` -/
  | hex2
  /-- an ordinary character, matched as it is -/
  | lit (c : Char)
  /-- `%n` -/
  | count
  deriving DecidableEq,Repr

/-- `sscanf(str, format, ...)` for formats of `%02hhx` conversions, ordinary characters and `%n`:
the bytes its conversions assign, in order, and the text left unread where it meets the `%n`, if it
gets there. The first directive that fails ends the scan. -/
def sscanf : List ScanDirective → List Char → List UInt8×Option (List Char)
  | [],_ => ([],none)
  | .hex2::ds,s =>
    match scanHex2 s with
    | some (v,rest) => ((v::(sscanf ds rest).1),(sscanf ds rest).2)
    | none => ([],none)
  | .lit c::ds,c'::s => if c' = c then sscanf ds s else ([],none)
  | .lit _::_,[] => ([],none)
  | .count::ds,s => ((sscanf ds s).1,some s)

theorem sscanf_hex2_of_eq {ds : List ScanDirective} {s rest : List Char} {v : UInt8}
    (h : scanHex2 s=some (v,rest)) : sscanf (.hex2::ds) s=(v::(sscanf ds rest).1,(sscanf ds rest).2) := by
  rw [sscanf,h]

@[simp] theorem sscanf_lit_self (c : Char) (ds : List ScanDirective) (s : List Char) :
    sscanf (.lit c::ds) (c::s)=sscanf ds s := by
  rw [sscanf,if_pos rfl]

@[simp] theorem sscanf_count (ds : List ScanDirective) (s : List Char) :
    sscanf (.count::ds) s=((sscanf ds s).1,some s) := by
  rw [sscanf]

/-- A run of `%02hhx` conversions reads a run of digits two at a time, and the format goes on
with the text after them. -/
theorem sscanf_replicate_hex2 {ds : List ScanDirective} {rest : List Char} {bs : List UInt8}
    {left : Option (List Char)} (hds : sscanf ds rest=(bs,left)) :
    ∀ (n : ℕ) {g : List Char},g.length=2*n → (∀ c ∈ g,isxdigit c=true) →
      sscanf (List.replicate n .hex2++ds) (g++rest)=(hexPairs g++bs,left)
  | 0,[],_,_ => hds
  | n+1,c1::c2::g,h,hg => by
    simp only [List.length_cons] at h
    have hrest := sscanf_replicate_hex2 hds n (g := g) (by omega) (fun c hc => hg c (by simp [hc]))
    rw [List.replicate_succ,List.cons_append,List.cons_append,List.cons_append,
      sscanf_hex2_of_eq (scanHex2_hexPair (hg c1 (by simp)) (hg c2 (by simp)) _),hrest,hexPairs,List.cons_append]
  | 0,_::_,h,_ | n+1,[],h,_ | n+1,[_],h,_ => by simp at h <;> omega

/-- The same, with an ordinary character after the run. -/
theorem sscanf_replicate_hex2_lit (c : Char) {ds : List ScanDirective} {rest : List Char} {bs : List UInt8}
    {left : Option (List Char)} (hds : sscanf ds rest=(bs,left)) (n : ℕ) {g : List Char} (hg : g.length=2*n)
    (hd : ∀ c ∈ g,isxdigit c=true) :
    sscanf (List.replicate n ScanDirective.hex2++ScanDirective.lit c::ds) (g++c::rest)=(hexPairs g++bs,left) :=
  sscanf_replicate_hex2 (by rw [sscanf_lit_self,hds]) n hg hd

/-! ### What a `%02hhx` field reads -/

/-- The text one `%02hhx` conversion reads, `next` being the character after it: whitespace, then
two digits, a sign and a digit, or one digit followed by no digit, nor by `x` after a `0`. -/
def Hex2Field (f : List Char) (next : Option Char) : Prop :=
  ∃ w core,f=w++core ∧ (∀ c ∈ w,isspace c=true) ∧
    ((∃ c1 c2,core=[c1,c2] ∧ isxdigit c1=true ∧ isxdigit c2=true) ∨
      (∃ c,(core=['+',c] ∨ core=['-',c]) ∧ isxdigit c=true) ∨
      (∃ c1,core=[c1] ∧ isxdigit c1=true ∧ ∀ c2 ∈ next,isxdigit c2=false ∧ ¬(c1 = '0' ∧ (c2 = 'x' ∨ c2 = 'X'))))

/-- Fields read one after the other, `next` being the character after the last. -/
def Hex2Fields : List (List Char) → Option Char → Prop
  | [],_ => True
  | f::fs,next => Hex2Field f (fs.flatten.head?.or next) ∧ Hex2Fields fs next

/-- A field holds no NUL: it is whitespace, digits and a sign. -/
theorem nul_not_mem_of_hex2Field {f : List Char} {next : Option Char} (h : Hex2Field f next) : '\x00' ∉ f := by
  obtain ⟨w,core,rfl,hw,hcore⟩ := h
  have hdigit : ∀ c,isxdigit c=true → c ≠ '\x00' := fun c hc => ne_of_isxdigit hc (by decide)
  rw [List.mem_append,not_or]
  refine ⟨fun hnul => absurd (hw _ hnul) (by decide),?_⟩
  rcases hcore with ⟨c1,c2,rfl,h1,h2⟩ | ⟨c,hsign | hsign,hc⟩ | ⟨c1,rfl,h1,-⟩
  · simp [(hdigit c1 h1).symm,(hdigit c2 h2).symm]
  all_goals first
    | simp [hsign,(hdigit c hc).symm]
    | simp [(hdigit c1 h1).symm]

theorem nul_not_mem_of_hex2Fields : ∀ {fs : List (List Char)} {next : Option Char},Hex2Fields fs next → '\x00' ∉ fs.flatten
  | [],_,_ => List.not_mem_nil
  | _::_,_,⟨hf,hfs⟩ => by
    rw [List.flatten_cons,List.mem_append,not_or]
    exact ⟨nul_not_mem_of_hex2Field hf,nul_not_mem_of_hex2Fields hfs⟩

/-- A conversion that succeeds read a field, and what it leaves is the rest. -/
theorem hex2Field_of_scanHex2 {s rest : List Char} {v : UInt8} (h : scanHex2 s=some (v,rest)) :
    ∃ f,s=f++rest ∧ Hex2Field f rest.head? := by
  have hw : ∀ c ∈ s.takeWhile isspace,isspace c=true := fun c hc => List.mem_takeWhile_imp hc
  have hsplit := (List.takeWhile_append_dropWhile (p := isspace) (l := s)).symm
  rw [scanHex2] at h
  -- the field is the whitespace skipped and the characters the match reads
  generalize s.takeWhile isspace=w at hw hsplit
  generalize s.dropWhile isspace=u at h hsplit
  subst hsplit
  rcases u with _ | ⟨c1,_ | ⟨c2,r⟩⟩
  · cases h
  · have h1 : isxdigit c1=true := by by_contra h1; simp [h1] at h
    simp only [h1,if_true,Option.some.injEq,Prod.mk.injEq] at h
    obtain ⟨-,rfl⟩ := h
    exact ⟨w++[c1],by simp,w,[c1],rfl,hw,.inr (.inr ⟨c1,rfl,h1,by simp⟩)⟩
  · dsimp only at h
    split_ifs at h with h1 h2 h0 hplus hminus <;> simp only [Option.some.injEq,Prod.mk.injEq] at h <;>
      obtain ⟨-,rfl⟩ := h
    · exact ⟨w++[c1,c2],by simp,w,[c1,c2],rfl,hw,.inl ⟨c1,c2,rfl,h1,h2⟩⟩
    · -- one digit, the character after it left for the next directive
      exact ⟨w++[c1],by simp,w,[c1],rfl,hw,.inr (.inr ⟨c1,rfl,h1,fun c hc => by
        cases hc
        exact ⟨by simpa using h2,h0⟩⟩)⟩
    · exact ⟨w++[c1,c2],by simp,w,[c1,c2],rfl,hw,.inr (.inl ⟨c2,.inl (by rw [hplus.1]),hplus.2⟩)⟩
    · exact ⟨w++[c1,c2],by simp,w,[c1,c2],rfl,hw,.inr (.inl ⟨c2,.inr (by rw [hminus.1]),hminus.2⟩)⟩

/-- A field followed by the rest is read by one conversion, which leaves the rest. -/
theorem scanHex2_of_hex2Field {f rest : List Char} (h : Hex2Field f rest.head?) :
    ∃ v,scanHex2 (f++rest)=some (v,rest) := by
  obtain ⟨w,core,rfl,hw,hcore⟩ := h
  have hplus : isxdigit '+'=false := by decide
  have hminus : isxdigit '-'=false := by decide
  -- no field starts with whitespace once the whitespace is skipped
  have hhead : ∀ c ∈ core.head?,isspace c=false := by
    rcases hcore with ⟨c1,c2,rfl,h1,-⟩ | ⟨c,rfl | rfl,-⟩ | ⟨c1,rfl,h1,-⟩
    · simpa using isspace_of_isxdigit h1
    · simp only [List.head?_cons,Option.mem_def,Option.some.injEq,forall_eq']
      decide
    · simp only [List.head?_cons,Option.mem_def,Option.some.injEq,forall_eq']
      decide
    · simpa using isspace_of_isxdigit h1
  have hskip : (w++core++rest).dropWhile isspace=core++rest := by
    rw [List.append_assoc,dropWhile_append_of_forall hw]
    refine dropWhile_of_head fun c hc => hhead c ?_
    rcases core with _ | ⟨c0,core⟩
    · rcases hcore with ⟨_,_,h,-⟩ | ⟨_,h | h,-⟩ | ⟨_,h,-⟩ <;> cases h
    · simpa using hc
  rw [scanHex2,hskip]
  rcases hcore with ⟨c1,c2,rfl,h1,h2⟩ | ⟨c,rfl | rfl,hc⟩ | ⟨c1,rfl,h1,hnext⟩
  · simp [h1,h2]
  · simp [hplus,hc]
  · simp [hminus,hc]
  · cases rest with
    | nil => simp [h1]
    | cons c2 r =>
      obtain ⟨h2,h0⟩ := hnext c2 rfl
      simp [h1,h2,h0]

theorem scanHex2_isSome_iff (s rest : List Char) :
    (∃ v,scanHex2 s=some (v,rest)) ↔ ∃ f,s=f++rest ∧ Hex2Field f rest.head? := by
  constructor
  · rintro ⟨v,h⟩
    exact hex2Field_of_scanHex2 h
  · rintro ⟨f,rfl,hf⟩
    exact scanHex2_of_hex2Field hf

/-- A run of `%02hhx` conversions gets through exactly when the text starts with as many fields. -/
theorem sscanf_replicate_hex2_eq_some_iff (ds : List ScanDirective) (rest : List Char) :
    ∀ (n : ℕ) (s : List Char),(sscanf (List.replicate n .hex2++ds) s).2=some rest ↔
      ∃ fs t,fs.length=n ∧ Hex2Fields fs t.head? ∧ s=fs.flatten++t ∧ (sscanf ds t).2=some rest
  | 0,s => by simp [Hex2Fields]
  | n+1,s => by
    rw [List.replicate_succ,List.cons_append,sscanf]
    constructor
    · intro h
      cases hs : scanHex2 s with
      | none => simp [hs] at h
      | some p =>
        obtain ⟨v,r⟩ := p
        simp only [hs] at h
        obtain ⟨fs,t,hlen,hfs,rfl,ht⟩ := (sscanf_replicate_hex2_eq_some_iff ds rest n r).mp h
        obtain ⟨f,rfl,hf⟩ := hex2Field_of_scanHex2 hs
        refine ⟨f::fs,t,by simp [hlen],⟨by rwa [← List.head?_append],hfs⟩,by simp,ht⟩
    · rintro ⟨_ | ⟨f,fs⟩,t,hlen,hfs,rfl,ht⟩
      · simp at hlen
      obtain ⟨hf,hfs⟩ := hfs
      obtain ⟨v,hv⟩ := @scanHex2_of_hex2Field f (fs.flatten++t) (by rwa [List.head?_append])
      rw [List.flatten_cons,List.append_assoc,hv]
      exact (sscanf_replicate_hex2_eq_some_iff ds rest n _).mpr ⟨fs,t,by simpa using hlen,hfs,rfl,ht⟩

theorem sscanf_lit_eq_some_iff (c : Char) (ds : List ScanDirective) (s rest : List Char) :
    (sscanf (.lit c::ds) s).2=some rest ↔ ∃ t,s=c::t ∧ (sscanf ds t).2=some rest := by
  cases s with
  | nil => simp [sscanf]
  | cons c' t =>
    by_cases hc : c'=c
    · subst hc
      simp
    · simp [sscanf,hc]

/-- A run of conversions then an ordinary character: fields, the last one followed by it. -/
theorem sscanf_hex2_lit_eq_some_iff (c : Char) (ds : List ScanDirective) (rest : List Char) (n : ℕ) (s : List Char) :
    (sscanf (List.replicate n .hex2++.lit c::ds) s).2=some rest ↔
      ∃ fs t,fs.length=n ∧ Hex2Fields fs (some c) ∧ s=fs.flatten++c::t ∧ (sscanf ds t).2=some rest := by
  rw [sscanf_replicate_hex2_eq_some_iff]
  constructor
  · rintro ⟨fs,t,hlen,hfs,rfl,ht⟩
    obtain ⟨t',rfl,ht'⟩ := (sscanf_lit_eq_some_iff c ds t rest).mp ht
    exact ⟨fs,t',hlen,hfs,rfl,ht'⟩
  · rintro ⟨fs,t,hlen,hfs,rfl,ht⟩
    exact ⟨fs,c::t,hlen,hfs,rfl,(sscanf_lit_eq_some_iff c ds _ rest).mpr ⟨t,rfl,ht⟩⟩

/-- A format that ends in its only `%n` and gets there made one assignment per conversion. -/
theorem length_sscanf_of_eq_some :
    ∀ {ds : List ScanDirective} {s rest : List Char},ScanDirective.count ∉ ds →
      (sscanf (ds++[.count]) s).2=some rest → (sscanf (ds++[.count]) s).1.length=ds.count .hex2
  | [],_,_,_,_ => rfl
  | .hex2::ds,s,rest,hds,h => by
    rw [List.cons_append,sscanf] at h ⊢
    cases hs : scanHex2 s with
    | none => simp [hs] at h
    | some p =>
      obtain ⟨v,r⟩ := p
      simp only [hs] at h ⊢
      rw [List.length_cons,length_sscanf_of_eq_some (fun hc => hds (List.mem_cons_of_mem _ hc)) h,
        List.count_cons_self]
  | .lit c::ds,s,rest,hds,h => by
    obtain ⟨t,rfl,ht⟩ := (sscanf_lit_eq_some_iff c _ s rest).mp h
    rw [List.cons_append,sscanf_lit_self,length_sscanf_of_eq_some (fun hc => hds (List.mem_cons_of_mem _ hc)) ht,
      List.count_cons_of_ne (by simp)]
  | .count::_,_,_,hds,_ => absurd List.mem_cons_self hds

/-! ### `strtol` with base 16 -/

/-- The sign `strtol` reads: whether the number is negative, and the text after the sign. -/
def strtolSign : List Char → Bool×List Char
  | c::rest => if c = '+' then (false,rest) else if c = '-' then (true,rest) else (false,c::rest)
  | [] => (false,[])

/-- The `0x` or `0X` base 16 allows ahead of the digits, skipped only when a digit follows it. -/
def skipHexPrefix : List Char → List Char
  | c::x::d::rest => if c = '0' ∧ (x = 'x' ∨ x = 'X') ∧ isxdigit d then d::rest else c::x::d::rest
  | s => s

/-- The value of a run of hexadecimal digits. -/
def hexDigitsValue (digits : List Char) : ℕ := digits.foldl (fun v c => v*16+hexValue c) 0

/-- `strtol(nptr, &endptr, 16)`: whitespace skipped, a sign, the digits; the value clamped to the
range of a 64-bit `long`, and the text from `endptr` on. With no digits nothing is read: the value
is 0 and `endptr` is `nptr`. -/
def strtolHex (nptr : List Char) : ℤ×List Char :=
  let (neg,u) := strtolSign (nptr.dropWhile isspace)
  let u := skipHexPrefix u
  let digits := u.takeWhile isxdigit
  if digits=[] then (0,nptr)
  else
    let v : ℤ := hexDigitsValue digits
    (if neg then max (-v) (-2^63) else min v (2^63-1),u.dropWhile isxdigit)

/-- An empty string reads nothing: the value is 0 and `endptr` is at its end. -/
@[simp] theorem strtolHex_nil : strtolHex []=(0,[]) := rfl

/-- Two digits are read whole. -/
theorem strtolHex_hexPair {c1 c2 : Char} (h1 : isxdigit c1=true) (h2 : isxdigit c2=true) :
    strtolHex [c1,c2]=(((hexValue c1*16+hexValue c2 : ℕ) : ℤ),[]) := by
  have hplus : c1 ≠ '+' := ne_of_isxdigit h1 (by decide)
  have hminus : c1 ≠ '-' := ne_of_isxdigit h1 (by decide)
  have hv1 := hexValue_lt h1
  have hv2 := hexValue_lt h2
  simp [strtolHex,isspace_of_isxdigit h1,strtolSign,hplus,hminus,skipHexPrefix,h1,h2,hexDigitsValue]
  -- two digits stay far below LONG_MAX
  omega

/-- A single character not space is read to its end exactly when it is a digit. -/
theorem strtolHex_single_rest {c : Char} (hc : isspace c=false) : (strtolHex [c]).2=[] ↔ isxdigit c=true := by
  by_cases hp : c = '+'
  · -- a lone sign: no digits, nothing read
    subst hp
    simp only [strtolHex,strtolSign]
    decide
  by_cases hm : c = '-'
  · subst hm
    simp only [strtolHex,strtolSign]
    decide
  cases hx : isxdigit c <;> simp [strtolHex,hc,strtolSign,skipHexPrefix,hx,hp,hm]

/-- Two characters, the first not space, are read to their end exactly when they are two digits or a
sign and a digit. -/
theorem strtolHex_pair_rest {c1 c2 : Char} (h1 : isspace c1=false) :
    (strtolHex [c1,c2]).2=[] ↔ (isxdigit c1=true ∧ isxdigit c2=true) ∨ ((c1 = '+' ∨ c1 = '-') ∧ isxdigit c2=true) := by
  by_cases hp : c1 = '+'
  · subst hp
    cases h2 : isxdigit c2 <;> simp [strtolHex,h1,strtolSign,skipHexPrefix,h2]
  by_cases hm : c1 = '-'
  · subst hm
    cases h2 : isxdigit c2 <;> simp [strtolHex,h1,strtolSign,skipHexPrefix,h2]
  cases hx1 : isxdigit c1 <;> cases h2 : isxdigit c2 <;> simp [strtolHex,h1,strtolSign,skipHexPrefix,h2,hx1,hp,hm]

/-! ### Splitting at a separator -/

/-- `base::TrimWhitespaceASCII(input, TRIM_ALL)`: the text without its leading and trailing whitespace. -/
def trimWhitespaceASCII (s : List Char) : List Char :=
  ((s.dropWhile isspace).reverse.dropWhile isspace).reverse

/-- `base::SplitString(input, separator, TRIM_WHITESPACE, SPLIT_WANT_ALL)` for a one-character
separator: every piece between separators, empty ones kept, each trimmed. -/
def splitString (input : List Char) (separator : Char) : List (List Char) :=
  (input.splitOn separator).map trimWhitespaceASCII

theorem length_trimWhitespaceASCII_le (s : List Char) : (trimWhitespaceASCII s).length ≤ s.length := by
  have h1 := (List.dropWhile_suffix isspace (l := s)).length_le
  have h2 := (List.dropWhile_suffix isspace (l := (s.dropWhile isspace).reverse)).length_le
  simp only [trimWhitespaceASCII,List.length_reverse] at h2 ⊢
  omega

/-- Trimming that keeps the length keeps the text. -/
theorem trimWhitespaceASCII_eq_self {s : List Char} (h : (trimWhitespaceASCII s).length=s.length) :
    trimWhitespaceASCII s=s := by
  have h1 := List.dropWhile_suffix isspace (l := s)
  have h2 := List.dropWhile_suffix isspace (l := (s.dropWhile isspace).reverse)
  have hlen1 := h1.length_le
  have hlen2 := h2.length_le
  simp only [trimWhitespaceASCII,List.length_reverse] at h hlen2
  have hd : s.dropWhile isspace=s := h1.eq_of_length (by omega)
  have hr := h2.eq_of_length (by simp only [List.length_reverse]; omega)
  rw [trimWhitespaceASCII,hr,List.reverse_reverse,hd]

/-- Two characters are their own trim when neither is whitespace. -/
theorem trimWhitespaceASCII_pair (c1 c2 : Char) :
    trimWhitespaceASCII [c1,c2]=[c1,c2] ↔ isspace c1=false ∧ isspace c2=false := by
  cases h1 : isspace c1 <;> cases h2 : isspace c2 <;> simp [trimWhitespaceASCII,List.dropWhile,h1,h2]

section Split

variable {α : Type} [BEq α] [LawfulBEq α]

/-- No piece holds the separator. -/
theorem not_mem_of_mem_splitOn {a : α} : ∀ {l t : List α},t ∈ l.splitOn a → a ∉ t
  | [],t,ht => by
    rw [List.splitOn_nil,List.mem_singleton] at ht
    simp [ht]
  | x::xs,t,ht => by
    rw [List.splitOn_cons_eq_if_modifyHead] at ht
    split_ifs at ht with hx
    · -- a separator first: an empty piece, then the pieces of the rest
      rcases List.mem_cons.mp ht with rfl | ht
      · exact List.not_mem_nil
      · exact not_mem_of_mem_splitOn ht
    · -- the first piece gains `x`, which is not the separator
      obtain ⟨p,ps,hps⟩ := List.exists_cons_of_ne_nil (List.splitOn_ne_nil a xs)
      rw [hps,List.modifyHead_cons] at ht
      have hxa : a ≠ x := fun h => hx (by simp [h])
      rcases List.mem_cons.mp ht with rfl | ht
      · have hp : a ∉ p := not_mem_of_mem_splitOn (hps ▸ List.mem_cons_self)
        simp [hxa,hp]
      · exact not_mem_of_mem_splitOn (hps ▸ List.mem_cons_of_mem p ht)

end Split

/-- The length of pieces joined with a separator: theirs and one more for each separator. -/
theorem length_intercalate_add_one {α : Type} (a : α) :
    ∀ ts : List (List α),ts ≠ [] → ([a].intercalate ts).length+1=(ts.map List.length).sum+ts.length
  | [t],_ => by simp
  | t::t'::ts,_ => by
    have ih := length_intercalate_add_one a (t'::ts) (List.cons_ne_nil _ _)
    rw [List.intercalate_cons_cons,List.length_append,List.length_append]
    simp only [List.map_cons,List.sum_cons,List.length_cons,List.length_nil] at ih ⊢
    omega

/-- Pieces each at least `n` long are together at least `n` times as long as there are pieces. -/
theorem mul_length_le_sum {α : Type} {n : ℕ} :
    ∀ {ts : List (List α)},(∀ t ∈ ts,n ≤ t.length) → n*ts.length ≤ (ts.map List.length).sum
  | [],_ => by simp
  | t::ts,hle => by
    have ht := hle t List.mem_cons_self
    have hts : ∀ u ∈ ts,n ≤ u.length := fun u hu => hle u (List.mem_cons_of_mem t hu)
    have hrest := mul_length_le_sum hts
    simp only [List.map_cons,List.sum_cons,List.length_cons,Nat.mul_succ]
    omega

/-- Pieces each at least `n` long whose lengths add up to `n` each are all exactly `n` long. -/
theorem length_eq_of_sum {α : Type} {n : ℕ} :
    ∀ {ts : List (List α)},(ts.map List.length).sum=n*ts.length → (∀ t ∈ ts,n ≤ t.length) → ∀ t ∈ ts,t.length=n
  | [],_,_,t,ht => absurd ht List.not_mem_nil
  | t::ts,hsum,hle,t',ht' => by
    have ht := hle t List.mem_cons_self
    have hts : ∀ u ∈ ts,n ≤ u.length := fun u hu => hle u (List.mem_cons_of_mem t hu)
    have hrest := mul_length_le_sum hts
    simp only [List.map_cons,List.sum_cons,List.length_cons,Nat.mul_succ] at hsum
    rcases List.mem_cons.mp ht' with rfl | hu
    · omega
    · have hsum' : (ts.map List.length).sum=n*ts.length := by omega
      exact length_eq_of_sum hsum' hts t' hu

end BluetoothStack.CText
