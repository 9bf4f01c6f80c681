import BluetoothStack.CText
import BluetoothStack.KeyedList

/-!
# The osi config file

A `config_t` is a list of sections, each a list of key and value entries, changed through
`config_set_string`, `config_remove_key` and `config_remove_section`, written out by `config_save`
as `[section]` lines and `key = value` lines, and read back by `config_parse` through `fgets` into a
1024-byte buffer, trimming each line and then the key and the value.

Configs reached through those calls with well-formed names and keys keep unique names and keys. Saved
and parsed again, such a config comes back with its empty sections gone, provided every line fits the
buffer and no value has surrounding whitespace or a NUL. A line that does not fit comes back as two
pieces, and the second has no `=`: a value of about a thousand characters, as `btif_config_set_bin`
writes for a HID descriptor of five hundred bytes, makes the saved file unreadable.
-/

namespace BluetoothStack.OsiConfig

open CText KeyedList

/-- `entry_t`. -/
structure Entry where
  key : List Char
  value : List Char
  deriving DecidableEq,Repr

/-- `section_t`. -/
structure Section where
  name : List Char
  entries : List Entry
  deriving DecidableEq,Repr

/-- `config_t`. -/
structure Config where
  sections : List Section
  deriving DecidableEq,Repr

/-- `CONFIG_DEFAULT_SECTION`. -/
def configDefaultSection : List Char := "Global".toList

/-- `config_new_empty`. -/
def configNewEmpty : Config := ⟨[]⟩

/-- `config_set_string`: the value up to its first newline goes to the first entry of the key in the
first section of the name; a missing section or entry is appended. -/
def configSetString (config : Config) (sectionName key value : List Char) : Config :=
  let valueNoNewline := value.takeWhile (· ≠ '\n')
  let setEntry : List Entry → List Entry :=
    upsert Entry.key key (fun e => { e with value := valueNoNewline }) ⟨key,valueNoNewline⟩
  ⟨upsert Section.name sectionName (fun s => { s with entries := setEntry s.entries }) ⟨sectionName,setEntry []⟩
    config.sections⟩

/-- `config_remove_section`: the first section of the name goes, and whether there was one. -/
def configRemoveSection (config : Config) (sectionName : List Char) : Config×Bool :=
  if config.sections.any (·.name=sectionName) then (⟨config.sections.eraseP (·.name=sectionName)⟩,true)
  else (config,false)

/-- `config_remove_key`: the first entry of the key in the first section of the name goes, and
whether there was one; the section stays, even when it is left empty. -/
def configRemoveKey (config : Config) (sectionName key : List Char) : Config×Bool :=
  match config.sections.find? (·.name=sectionName) with
  | none => (config,false)
  | some sec =>
    if sec.entries.any (·.key=key) then
      (⟨modifyFirst Section.name sectionName (fun s => { s with entries := s.entries.eraseP (·.key=key) })
        config.sections⟩,true)
    else (config,false)

/-- The lines `config_save` writes for a section: its name in brackets, its entries, a blank line. -/
def sectionLines (s : Section) : List (List Char) :=
  ('['::s.name++[']'])::s.entries.map (fun e => e.key ++ " = ".toList ++ e.value)++[[]]

/-- The text of `config_save`'s loop, each line ended by `std::endl`. -/
def configSerialize (config : Config) : List Char :=
  (config.sections.flatMap sectionLines).flatMap (·++['\n'])

/-- What `config_save` puts in the file: `fprintf(fp, "%s", ...)` stops at the first NUL. -/
def configSaveText (config : Config) : List Char :=
  (configSerialize config).takeWhile (· ≠ '\x00')

/-- `trim`: the spaces at the start are skipped, then those at the end cut off. -/
def trim (str : List Char) : List Char :=
  let str := str.dropWhile isspace
  (str.reverse.dropWhile isspace).reverse

/-- One line of `config_parse`, with the current section: blank and comment lines are skipped, a
`[` line must end in `]` and names the section, any other line must hold `=` and sets the trimmed key
before it to the trimmed value after it. -/
def configParseLine (st : List Char×Config) (line : List Char) : Option (List Char×Config) :=
  let linePtr := trim (line.takeWhile (· ≠ '\x00'))
  match linePtr with
  | [] => some st
  | c::_ =>
    if c = '#' then some st
    else if c = '[' then
      if linePtr.getLast?≠some ']' then none
      else some ((linePtr.drop 1).take (linePtr.length-2),st.2)
    else if '=' ∈ linePtr then
      some (st.1,configSetString st.2 st.1 (trim (linePtr.takeWhile (· ≠ '=')))
        (trim ((linePtr.dropWhile (· ≠ '=')).drop 1)))
    else none

/-- `config_new` on a file: `config_parse` over the pieces `fgets` reads into `char line[1024]`,
from the default section of an empty config; `none` where it returns false. -/
def configParse (text : List Char) : Option Config :=
  ((fgetsLines 1024 text).foldlM configParseLine (configDefaultSection,configNewEmpty)).map Prod.snd

/-- The digits `btif_config_set_bin` looks its nibbles up in. -/
def hexLookup : List Char := "0123456789abcdef".toList

/-- `btif_config_set_bin`: the bytes as lowercase hex, two digits each, set as a string. -/
def btifConfigSetBin (config : Config) (sectionName key : List Char) (value : List UInt8) : Config :=
  configSetString config sectionName key
    (value.flatMap fun b : UInt8 => [hexLookup.getD (b >>> 4 &&& 0x0F).toNat '0',hexLookup.getD (b &&& 0x0F).toNat '0'])


/-! ### Names, keys and values that survive a save -/

/-- No space at either end. -/
def Trimmed (s : List Char) : Prop :=
  (∀ c ∈ s.head?,isspace c=false) ∧ ∀ c ∈ s.getLast?,isspace c=false

/-- A section name or a key as `btif_config` uses them: not empty, on one line, with no `=`, no
surrounding space, and not read as a section or a comment. -/
def NameOk (name : List Char) : Prop :=
  name≠[] ∧ '\n' ∉ name ∧ '=' ∉ name ∧ Trimmed name ∧ name.head?≠some '[' ∧ name.head?≠some '#'

/-- A section as `config_set_string` keeps it: a good name, unique good keys, one-line values. -/
structure Section.WellFormed (s : Section) : Prop where
  name_ok : NameOk s.name
  keys_nodup : (s.entries.map Entry.key).Nodup
  keys_ok : ∀ e ∈ s.entries,NameOk e.key
  values_one_line : ∀ e ∈ s.entries,'\n' ∉ e.value

/-- A config of well-formed sections with unique names. -/
structure Config.WellFormed (c : Config) : Prop where
  names_nodup : (c.sections.map Section.name).Nodup
  sections_ok : ∀ s ∈ c.sections,s.WellFormed

/-- What a section needs for `config_save` and `config_parse` to give it back: no NUL, values with
no surrounding space, and every line within the 1023 characters of `fgets`'s buffer with its
newline. -/
structure Section.Saveable (s : Section) : Prop where
  name_fits : '\x00' ∉ s.name ∧ s.name.length+2<1023
  entries_fit : ∀ e ∈ s.entries,'\x00' ∉ e.key ∧ '\x00' ∉ e.value ∧ Trimmed e.value ∧ e.key.length+3+e.value.length<1023

/-! ### Trimming -/

/-- `trim` keeps what lies between the spaces at both ends. -/
theorem trim_eq {a m b : List Char} (ha : ∀ c ∈ a,isspace c=true) (hb : ∀ c ∈ b,isspace c=true) (hm : Trimmed m) :
    trim (a++m++b)=m := by
  unfold trim
  dsimp only
  rw [List.append_assoc,dropWhile_append_of_forall ha]
  cases m with
  | nil => simp [List.dropWhile_eq_nil_iff.mpr hb]
  | cons c m =>
    -- the start is the first character of `m`, the end its last
    rw [dropWhile_of_head (l := c::m++b) (by simpa using hm.1),List.reverse_append,
      dropWhile_append_of_forall (by simpa using hb),dropWhile_of_head (by rw [List.head?_reverse]; exact hm.2),
      List.reverse_reverse]

theorem trim_nil : trim []=[] := rfl

/-! ### Parsing the lines `config_save` writes -/

/-- A `[name]` line names the section. -/
theorem configParseLine_header (st : List Char×Config) {name : List Char} (hnul : '\x00' ∉ name) :
    configParseLine st (('['::name++[']'])++['\n'])=some (name,st.2) := by
  have hline : '\x00' ∉ ('['::name++[']'])++['\n'] := by simp [hnul]
  have hlast : ('['::(name++[']'])).getLast?=some ']' := by rw [← List.cons_append,List.getLast?_concat]
  have hends : Trimmed ('['::name++[']']) := ⟨by simp [isspace],by simp [hlast,isspace]⟩
  have htrim : trim (('['::name++[']'])++['\n']) = '['::name++[']'] := by
    simpa using trim_eq (a := []) (b := ['\n']) (by simp) (by simp [isspace]) hends
  unfold configParseLine
  simp only [takeWhile_ne_of_not_mem hline,htrim]
  simp [hlast]


/-- A line that trims to one starting with neither `#` nor `[` and holding `=` sets its key. -/
theorem configParseLine_of_trim (st : List Char×Config) {line rest : List Char} {c : Char}
    (h : trim (line.takeWhile (· ≠ '\x00'))=c::rest) (hc : c ≠ '#' ∧ c ≠ '[') (heq : '=' ∈ c::rest) :
    configParseLine st line=some (st.1,configSetString st.2 st.1 (trim ((c::rest).takeWhile (· ≠ '=')))
      (trim (((c::rest).dropWhile (· ≠ '=')).drop 1))) := by
  unfold configParseLine
  simp only [h,if_neg hc.1,if_neg hc.2,if_pos heq]

/-- A `key = value` line sets the key to the value. -/
theorem configParseLine_entry (st : List Char×Config) {key value : List Char} (hkey : NameOk key)
    (hnul : '\x00' ∉ key) (hvnul : '\x00' ∉ value) (hvalue : Trimmed value) :
    configParseLine st ((key ++ " = ".toList ++ value)++['\n'])=some (st.1,configSetString st.2 st.1 key value) := by
  obtain ⟨hne,-,hkeq,hkt,hbr,hhash⟩ := hkey
  obtain ⟨k0,krest,rfl⟩ := List.exists_cons_of_ne_nil hne
  have hsep : " = ".toList=[' ','=',' '] := rfl
  have hk0 : isspace k0=false := hkt.1 k0 rfl
  -- what follows the `=` once the line is trimmed: nothing for an empty value
  let R : List Char := if value=[] then [] else ' '::value
  have hline : '\x00' ∉ (k0::krest ++ " = ".toList ++ value)++['\n'] := by
    simp only [List.mem_append,not_or]
    exact ⟨⟨⟨hnul,by simp [hsep]⟩,hvnul⟩,by simp⟩
  have htrim : trim (((k0::krest ++ " = ".toList ++ value)++['\n']).takeWhile (· ≠ '\x00'))=k0::(krest++[' ','=']++R) := by
    rw [takeWhile_ne_of_not_mem hline,hsep]
    by_cases hv : value=[]
    · have hlast : (k0::(krest++[' ','='])).getLast?=some '=' := by
        rw [← List.cons_append,List.getLast?_append_of_ne_nil _ (by simp)]
        rfl
      have hm : Trimmed (k0::krest++[' ','=']) := ⟨by simpa using hk0,by simp [hlast,isspace]⟩
      simpa [hv,R] using trim_eq (a := []) (b := [' ','\n']) (by simp) (by simp [isspace]) hm
    · have hlast : (k0::krest++[' ','=',' ']++value).getLast?=value.getLast? := List.getLast?_append_of_ne_nil _ hv
      have hm : Trimmed (k0::krest++[' ','=',' ']++value) := ⟨by simpa using hk0,by rw [hlast]; exact hvalue.2⟩
      simpa [hv,R] using trim_eq (a := []) (b := ['\n']) (by simp) (by simp [isspace]) hm
  have hc : k0 ≠ '#' ∧ k0 ≠ '[' := ⟨fun h => hhash (by simp [h]),fun h => hbr (by simp [h])⟩
  rw [configParseLine_of_trim st htrim hc (by simp)]
  -- the key runs up to the `=`, the value after it
  have hkey' : ∀ x ∈ k0::krest,decide (x ≠ '=')=true := fun x hx => decide_eq_true fun h => hkeq (h ▸ hx)
  have htake : (k0::(krest++[' ','=']++R)).takeWhile (· ≠ '=')=k0::krest++[' '] := by
    rw [← List.cons_append,← List.cons_append,List.append_assoc,List.takeWhile_append,
      if_pos (by rw [List.takeWhile_eq_self_iff.mpr hkey'])]
    simp
  have hdrop : ((k0::(krest++[' ','=']++R)).dropWhile (· ≠ '=')).drop 1=R := by
    rw [← List.cons_append,← List.cons_append,List.append_assoc,dropWhile_append_of_forall hkey']
    simp
  have hkt' : trim (k0::krest++[' '])=k0::krest := by
    simpa using trim_eq (a := []) (b := [' ']) (by simp) (by simp [isspace]) hkt
  have hvt : trim R=value := by
    by_cases hv : value=[]
    · simp [R,hv,trim_nil]
    · simpa [R,hv] using trim_eq (a := [' ']) (b := []) (by simp [isspace]) (by simp) hvalue
  rw [htake,hdrop,hkt',hvt]


/-- A blank line is skipped. -/
theorem configParseLine_blank (st : List Char×Config) : configParseLine st ['\n']=some st := rfl

/-! ### Rebuilding a config entry by entry -/

/-- A value on one line is set whole. -/
theorem configSetString_of_not_mem {acc : List Section} {name key value : List Char}
    (hname : name ∉ acc.map Section.name) (hvalue : '\n' ∉ value) :
    configSetString ⟨acc⟩ name key value=⟨acc++[⟨name,[⟨key,value⟩]⟩]⟩ := by
  unfold configSetString
  simp only [takeWhile_ne_of_not_mem hvalue,upsert_of_not_mem hname]
  rfl

theorem configSetString_append {acc : List Section} {done : List Entry} {name key value : List Char}
    (hname : name ∉ acc.map Section.name) (hkey : key ∉ done.map Entry.key) (hvalue : '\n' ∉ value) :
    configSetString ⟨acc++[⟨name,done⟩]⟩ name key value=⟨acc++[⟨name,done++[⟨key,value⟩]⟩]⟩ := by
  unfold configSetString
  simp only [takeWhile_ne_of_not_mem hvalue]
  rw [upsert_append_of_not_mem (x := Section.mk name done) rfl hname]
  simp only [upsert_of_not_mem hkey]

/-- The entry lines of a section, parsed in the section after the entries `done` already set, add
their entries after them. -/
theorem foldlM_entryLines {acc : List Section} {name : List Char} (hname : name ∉ acc.map Section.name) :
    ∀ (es done : List Entry),((done++es).map Entry.key).Nodup →
      (∀ e ∈ es,NameOk e.key ∧ '\n' ∉ e.value ∧ '\x00' ∉ e.key ∧ '\x00' ∉ e.value ∧ Trimmed e.value) →
      (es.map fun e => (e.key ++ " = ".toList ++ e.value)++['\n']).foldlM configParseLine
          (name,⟨if done=[] then acc else acc++[⟨name,done⟩]⟩)=
        some (name,⟨if done++es=[] then acc else acc++[⟨name,done++es⟩]⟩)
  | [],done,_,_ => by simp
  | e::es,done,hnodup,hes => by
    obtain ⟨hkey,hvalue,hknul,hvnul,hvt⟩ := hes e List.mem_cons_self
    have hfresh : e.key ∉ done.map Entry.key := by
      rw [List.map_append,List.map_cons] at hnodup
      exact fun h => (List.nodup_append.mp hnodup).2.2 _ h _ List.mem_cons_self rfl
    -- the entry goes after those already set, in a section that is there from the first entry on
    have hset : configSetString ⟨if done=[] then acc else acc++[⟨name,done⟩]⟩ name e.key e.value=
        ⟨if done++[e]=[] then acc else acc++[⟨name,done++[e]⟩]⟩ := by
      by_cases hd : done=[]
      · subst hd
        simp [configSetString_of_not_mem hname hvalue]
      · simp [hd,configSetString_append hname hfresh hvalue]
    have hrest := foldlM_entryLines hname es (done++[e]) (by simpa using hnodup)
      (fun e' he' => hes e' (List.mem_cons_of_mem e he'))
    rw [List.map_cons,List.foldlM_cons,configParseLine_entry _ hkey hknul hvnul hvt,Option.bind_eq_bind,
      Option.bind_some,hset,hrest]
    simp


/-- The lines of a section whose name is new rebuild it, unless it has no entries. -/
theorem foldlM_sectionLines (sec : List Char) {acc : List Section} {s : Section} (hs : s.WellFormed)
    (hsave : s.Saveable) (hname : s.name ∉ acc.map Section.name) :
    ((sectionLines s).map (·++['\n'])).foldlM configParseLine (sec,⟨acc⟩)=
      some (s.name,⟨acc++[s].filter (fun s => !s.entries.isEmpty)⟩) := by
  have hentries := foldlM_entryLines hname s.entries [] (by simpa using hs.keys_nodup) fun e he =>
    ⟨hs.keys_ok e he,hs.values_one_line e he,(hsave.entries_fit e he).1,(hsave.entries_fit e he).2.1,
      (hsave.entries_fit e he).2.2.1⟩
  simp only [List.nil_append,if_true] at hentries
  unfold sectionLines
  rw [List.map_append,List.foldlM_append,List.map_cons,List.foldlM_cons,configParseLine_header _ hsave.name_fits.1,
    Option.bind_eq_bind,Option.bind_some,List.map_map]
  simp only [Function.comp_def] at hentries ⊢
  rw [hentries,Option.bind_some]
  -- the blank line after the entries changes nothing
  obtain ⟨name,entries⟩ := s
  by_cases he : entries=[] <;> simp [he,configParseLine_blank]

/-- The lines of sections with new, distinct names rebuild those that have entries, in order. -/
theorem foldlM_configLines :
    ∀ (ss : List Section) (sec : List Char) (acc : List Section),(∀ s ∈ ss,s.WellFormed ∧ s.Saveable) →
      (ss.map Section.name).Nodup → (∀ s ∈ ss,s.name ∉ acc.map Section.name) →
      ∃ sec',((ss.flatMap sectionLines).map (·++['\n'])).foldlM configParseLine (sec,⟨acc⟩)=
        some (sec',⟨acc++ss.filter (fun s => !s.entries.isEmpty)⟩)
  | [],sec,acc,_,_,_ => ⟨sec,by simp⟩
  | s::ss,sec,acc,hss,hnodup,hfresh => by
    obtain ⟨hs,hsave⟩ := hss s List.mem_cons_self
    rw [List.map_cons,List.nodup_cons] at hnodup
    -- the sections after `s` are new to the config rebuilt so far
    have hfresh' : ∀ s' ∈ ss,s'.name ∉ (acc++[s].filter (fun s => !s.entries.isEmpty)).map Section.name := by
      intro s' hs' hmem
      rw [List.map_append,List.mem_append] at hmem
      rcases hmem with hacc | hnew
      · exact hfresh s' (List.mem_cons_of_mem s hs') hacc
      · have hs'name : s'.name=s.name := by
          obtain ⟨t,ht,heq⟩ := List.mem_map.mp hnew
          rw [← heq,(List.mem_singleton.mp (List.mem_of_mem_filter ht))]
        exact hnodup.1 (hs'name ▸ List.mem_map_of_mem hs')
    obtain ⟨sec',hrest⟩ := foldlM_configLines ss s.name _ (fun s' hs' => hss s' (List.mem_cons_of_mem s hs'))
      hnodup.2 hfresh'
    refine ⟨sec',?_⟩
    rw [List.flatMap_cons,List.map_append,List.foldlM_append,
      foldlM_sectionLines sec hs hsave (hfresh s List.mem_cons_self),Option.bind_eq_bind,Option.bind_some,hrest]
    by_cases he : s.entries=[] <;> simp [he]


/-- Every line `config_save` writes for a section is one line, with no NUL, that fits `fgets`'s
buffer with its newline. -/
theorem sectionLines_ok {s : Section} (hs : s.WellFormed) (hsave : s.Saveable) :
    ∀ l ∈ sectionLines s,'\n' ∉ l ∧ '\x00' ∉ l ∧ l.length<1023 := by
  have hsep : " = ".toList=[' ','=',' '] := rfl
  intro l hl
  simp only [sectionLines,List.mem_append,List.mem_cons,List.mem_map,List.not_mem_nil,or_false] at hl
  rcases hl with (rfl | ⟨e,he,rfl⟩) | rfl
  · -- the header
    obtain ⟨-,hnl,-⟩ := hs.name_ok
    obtain ⟨hnul,hlen⟩ := hsave.name_fits
    refine ⟨by simp [hnl],by simp [hnul],by simp; omega⟩
  · -- an entry
    obtain ⟨-,hknl,-⟩ := hs.keys_ok e he
    have hvnl := hs.values_one_line e he
    obtain ⟨hknul,hvnul,-,hlen⟩ := hsave.entries_fit e he
    refine ⟨by simp [hsep,hknl,hvnl],by simp [hsep,hknul,hvnul],by simp [hsep]; omega⟩
  · -- the blank line
    simp

/-- A well-formed config whose sections can be saved is read back from what `config_save` writes,
without its empty sections. -/
theorem configParse_configSaveText {c : Config} (hc : c.WellFormed) (hsave : ∀ s ∈ c.sections,s.Saveable) :
    configParse (configSaveText c)=some ⟨c.sections.filter (fun s => !s.entries.isEmpty)⟩ := by
  have hlines : ∀ l ∈ c.sections.flatMap sectionLines,'\n' ∉ l ∧ '\x00' ∉ l ∧ l.length<1023 := by
    intro l hl
    obtain ⟨s,hs,hl⟩ := List.mem_flatMap.mp hl
    exact sectionLines_ok (hc.sections_ok s hs) (hsave s hs) l hl
  -- no NUL cuts the text short
  have hnul : '\x00' ∉ configSerialize c := by
    intro h
    obtain ⟨l,hl,hmem⟩ := List.mem_flatMap.mp h
    rcases List.mem_append.mp hmem with hmem | hmem
    · exact (hlines l hl).2.1 hmem
    · simp at hmem
  obtain ⟨sec',hfold⟩ := foldlM_configLines c.sections configDefaultSection [] (fun s hs => ⟨hc.sections_ok s hs,hsave s hs⟩)
    hc.names_nodup (by simp)
  unfold configParse configSaveText
  rw [takeWhile_ne_of_not_mem hnul,configSerialize,fgetsLines_join _ fun l hl => ⟨(hlines l hl).1,(hlines l hl).2.2⟩]
  rw [configNewEmpty,hfold]
  simp

/-! ### Configs reached through the calls -/

/-- `config_set_string` keeps a section well formed when it sets a good key to a one-line value. -/
theorem Section.WellFormed.setEntry {s : Section} (hs : s.WellFormed) {key value : List Char} (hkey : NameOk key)
    (hvalue : '\n' ∉ value) :
    ({ s with entries := upsert Entry.key key (fun e => { e with value := value }) ⟨key,value⟩ s.entries } : Section).WellFormed where
  name_ok := hs.name_ok
  keys_nodup := by
    dsimp only
    refine nodup_map_upsert ?_ ?_ hs.keys_nodup
    · exact fun _ => rfl
    · rfl
  keys_ok := by
    intro e he
    rcases mem_upsert he with rfl | hold | ⟨x,hx,rfl⟩
    · exact hkey
    · exact hs.keys_ok e hold
    · exact hs.keys_ok x hx
  values_one_line := by
    intro e he
    rcases mem_upsert he with rfl | hold | ⟨x,hx,rfl⟩
    · exact hvalue
    · exact hs.values_one_line e hold
    · exact hvalue

theorem configSetString_wellFormed {c : Config} (hc : c.WellFormed) {sectionName key : List Char}
    (hname : NameOk sectionName) (hkey : NameOk key) (value : List Char) :
    (configSetString c sectionName key value).WellFormed := by
  have hvalue : '\n' ∉ value.takeWhile (· ≠ '\n') := fun h => by simpa using List.mem_takeWhile_imp h
  have hnew : (⟨sectionName,[]⟩ : Section).WellFormed := ⟨hname,List.nodup_nil,by simp,by simp⟩
  unfold configSetString
  dsimp only
  constructor
  · refine nodup_map_upsert ?_ ?_ hc.names_nodup
    · exact fun _ => rfl
    · rfl
  · intro s hs
    rcases mem_upsert hs with rfl | hold | ⟨x,hx,rfl⟩
    · exact hnew.setEntry hkey hvalue
    · exact hc.sections_ok s hold
    · exact (hc.sections_ok x hx).setEntry hkey hvalue

theorem configRemoveSection_wellFormed {c : Config} (hc : c.WellFormed) (sectionName : List Char) :
    (configRemoveSection c sectionName).1.WellFormed := by
  unfold configRemoveSection
  split_ifs
  · exact ⟨(List.eraseP_sublist.map Section.name).nodup hc.names_nodup,
      fun s hs => hc.sections_ok s (List.mem_of_mem_eraseP hs)⟩
  · exact hc

theorem configRemoveKey_wellFormed {c : Config} (hc : c.WellFormed) (sectionName key : List Char) :
    (configRemoveKey c sectionName key).1.WellFormed := by
  unfold configRemoveKey
  split
  · exact hc
  · split_ifs
    · dsimp only
      refine ⟨?_,?_⟩
      · simp (disch := exact fun _ => rfl) only [map_modifyFirst]
        exact hc.names_nodup
      intro s hs
      rcases mem_modifyFirst hs with hold | ⟨x,hx,rfl⟩
      · exact hc.sections_ok s hold
      · -- the section loses one entry
        have hx := hc.sections_ok x hx
        exact ⟨hx.name_ok,(List.eraseP_sublist.map Entry.key).nodup hx.keys_nodup,
          fun e he => hx.keys_ok e (List.mem_of_mem_eraseP he),fun e he => hx.values_one_line e (List.mem_of_mem_eraseP he)⟩
    · exact hc

/-- The configs `config_set_string` (and so `btif_config_set_bin`), `config_remove_key` and
`config_remove_section` build from an empty one, setting only well-formed names and keys. -/
inductive Reachable : Config → Prop
  | empty : Reachable configNewEmpty
  | setString {c : Config} (sectionName key value : List Char) :
      Reachable c → NameOk sectionName → NameOk key → Reachable (configSetString c sectionName key value)
  | removeKey {c : Config} (sectionName key : List Char) : Reachable c → Reachable (configRemoveKey c sectionName key).1
  | removeSection {c : Config} (sectionName : List Char) : Reachable c → Reachable (configRemoveSection c sectionName).1

theorem Reachable.wellFormed {c : Config} (h : Reachable c) : c.WellFormed := by
  induction h with
  | empty => exact ⟨List.nodup_nil,by simp [configNewEmpty]⟩
  | setString sectionName key value _ hname hkey ih => exact configSetString_wellFormed ih hname hkey value
  | removeKey sectionName key _ ih => exact configRemoveKey_wellFormed ih sectionName key
  | removeSection sectionName _ ih => exact configRemoveSection_wellFormed ih sectionName

/-- Every reachable config whose lines fit and whose values have no NUL and no surrounding space
survives a save and a load, without its empty sections. -/
theorem config_save_parse_round_trip {c : Config} (h : Reachable c) (hsave : ∀ s ∈ c.sections,s.Saveable) :
    configParse (configSaveText c)=some ⟨c.sections.filter (fun s => !s.entries.isEmpty)⟩ :=
  configParse_configSaveText h.wellFormed hsave

theorem config_save_parse_round_trip_adapter_name :
    Reachable (configSetString configNewEmpty "Adapter".toList "Name".toList "phone".toList) ∧
      (∀ s ∈ (configSetString configNewEmpty "Adapter".toList "Name".toList "phone".toList).sections,s.Saveable) ∧
      configParse (configSaveText (configSetString configNewEmpty "Adapter".toList "Name".toList "phone".toList))=
        some ⟨(configSetString configNewEmpty "Adapter".toList "Name".toList "phone".toList).sections.filter
          (fun s => !s.entries.isEmpty)⟩ := by
  have hname : NameOk "Adapter".toList := by
    unfold NameOk Trimmed
    simp [isspace]
  have hkey : NameOk "Name".toList := by
    unfold NameOk Trimmed
    simp [isspace]
  have hreach := Reachable.setString "Adapter".toList "Name".toList "phone".toList Reachable.empty hname hkey
  have hsave : ∀ s ∈ (configSetString configNewEmpty "Adapter".toList "Name".toList "phone".toList).sections,
      s.Saveable := by
    intro s hs
    simp [configSetString,configNewEmpty,upsert] at hs
    subst hs
    exact ⟨by simp,by simp [Trimmed,isspace]⟩
  exact ⟨hreach,hsave,config_save_parse_round_trip hreach hsave⟩

/-- A HID descriptor of 512 bytes stored by `btif_config_set_bin` under a device address: the line
`HidDescriptor = 0505...` has 1040 characters, `fgets` cuts it after 1023, and the last 17 digits
come back as a line with no `=`, so `config_parse` refuses the file `config_save` wrote. -/
theorem config_save_long_value_unreadable :
    Reachable (btifConfigSetBin configNewEmpty "00:11:22:33:44:55".toList "HidDescriptor".toList
        (List.replicate 512 0x05)) ∧
      configParse (configSaveText (btifConfigSetBin configNewEmpty "00:11:22:33:44:55".toList
        "HidDescriptor".toList (List.replicate 512 0x05)))=none := by
  have hname : NameOk "00:11:22:33:44:55".toList := by
    unfold NameOk Trimmed
    simp [isspace]
  have hkey : NameOk "HidDescriptor".toList := by
    unfold NameOk Trimmed
    simp [isspace]
  have hparse : configParse (configSaveText (btifConfigSetBin configNewEmpty "00:11:22:33:44:55".toList
      "HidDescriptor".toList (List.replicate 512 0x05)))=none := by
    -- the 1040-character line nests past the default depth
    set_option maxRecDepth 20000 in
    rfl
  exact ⟨Reachable.setString _ _ _ Reachable.empty hname hkey,hparse⟩

end BluetoothStack.OsiConfig
