import Bos.Lib.LittleEndian

/-!
# Lib.Elf

The ELF object format as the elf crate's `ElfBytes::minimal_parse` reads it: the identification
bytes, the file header of either class in either byte order, and the location of the section
and program header tables. The parse keeps the file header and the program headers that
`segments()` yields; the section header table is located, so that a file whose table lies
outside it is refused, but it is not read. Every `ParseError` is `none`.

The program header table is read here at once, where the crate's `SegmentTable` parses each
entry when it is iterated; the two agree as long as the bytes do not change in between.

* `minimalParse_image`: a file laid out as a header, its program headers and any further bytes
  is parsed back into that header and those program headers, in both classes and byte orders.
* `minimalParse_eq_none_of_magic`: a file that does not begin with the ELF magic is refused.
-/

namespace Elf

open LittleEndian

/-- `EI_CLASS`: 32- or 64-bit objects. -/
inductive Class where
  | elf32
  | elf64
  deriving DecidableEq, Repr

/-- `EI_DATA`: the byte order of every field wider than a byte, as `AnyEndian` reads it. -/
inductive Endian where
  | little
  | big
  deriving DecidableEq, Repr

namespace Class

/-- The class an `EI_CLASS` byte names. -/
def ofByte (b : UInt8) : Option Class :=
  if b = 1 then some .elf32 else if b = 2 then some .elf64 else none

def toByte : Class → UInt8
  | .elf32 => 1
  | .elf64 => 2

/-- The size of an address or offset word. -/
def wordSize : Class → Nat
  | .elf32 => 4
  | .elf64 => 8

/-- `EI_NIDENT` and `ELF32_EHDR_TAILSIZE` or `ELF64_EHDR_TAILSIZE`. -/
def ehdrSize : Class → Nat
  | .elf32 => 52
  | .elf64 => 64

/-- `ProgramHeader::size_for`. -/
def phentsize : Class → Nat
  | .elf32 => 32
  | .elf64 => 56

/-- `SectionHeader::size_for`. -/
def shentsize : Class → Nat
  | .elf32 => 40
  | .elf64 => 64

/-- A word of a header fits the class: an `ELF32` file stores it in four bytes. -/
def Fits (c : Class) (x : UInt64) : Prop := x.toNat < 256 ^ c.wordSize

instance (c : Class) (x : UInt64) : Decidable (c.Fits x) :=
  inferInstanceAs (Decidable (_ < _))

theorem ofByte_toByte (c : Class) : ofByte c.toByte = some c := by
  cases c <;> rfl

@[simp] theorem wordSize_elf32 : elf32.wordSize = 4 := rfl

@[simp] theorem wordSize_elf64 : elf64.wordSize = 8 := rfl

theorem fits_elf64 (x : UInt64) : elf64.Fits x := x.toNat_lt_size

theorem sizes (c : Class) : 52 ≤ c.ehdrSize ∧ c.ehdrSize ≤ 64 ∧ c.phentsize ≤ 56 := by
  cases c <;> decide

end Class

namespace Endian

/-- `AnyEndian::from_ei_data`. -/
def ofEiData (b : UInt8) : Option Endian :=
  if b = 1 then some .little else if b = 2 then some .big else none

def toByte : Endian → UInt8
  | .little => 1
  | .big => 2

/-- `parse_u16_at`, `parse_u32_at` and `parse_u64_at`: the `n` bytes at `off` as an unsigned
number. The parse reads only bytes it has checked to lie in the data. -/
def parseAt (e : Endian) (data : List UInt8) (off n : Nat) : Nat :=
  match e with
  | .little => decodeLE ((data.drop off).take n)
  | .big => decodeLE ((data.drop off).take n).reverse

/-- The `n` bytes of `x` in the byte order. -/
def toBytes (e : Endian) (x n : Nat) : List UInt8 :=
  match e with
  | .little => encodeLE x n
  | .big => (encodeLE x n).reverse

theorem ofEiData_toByte (e : Endian) : ofEiData e.toByte = some e := by
  cases e <;> rfl

@[simp] theorem length_toBytes (e : Endian) (x n : Nat) : (e.toBytes x n).length = n := by
  cases e <;> simp [toBytes]

/-- A read past a prefix reads the rest. -/
@[simp] theorem parseAt_append_of_le (e : Endian) {a : List UInt8} (b : List UInt8) {off : Nat}
    (h : a.length ≤ off) (n : Nat) : e.parseAt (a ++ b) off n = e.parseAt b (off - a.length) n := by
  have hdrop : (a ++ b).drop off = b.drop (off - a.length) := by
    rw [List.drop_append, List.drop_eq_nil_of_le h, List.nil_append]
  cases e <;> simp only [parseAt, hdrop]

/-- A field is read back at its place. -/
theorem parseAt_toBytes_append (e : Endian) {x n : Nat} (hx : x < 256 ^ n) (b : List UInt8) :
    e.parseAt (e.toBytes x n ++ b) 0 n = x := by
  have htake : (e.toBytes x n ++ b).take n = e.toBytes x n :=
    List.take_left' (length_toBytes e x n)
  cases e <;> simp only [parseAt, List.drop_zero, htake] <;>
    simp only [toBytes, List.reverse_reverse, decodeLE_encodeLE, Nat.mod_eq_of_lt hx]

@[simp] theorem parseAt_u8 (e : Endian) (x : UInt8) (b : List UInt8) :
    e.parseAt (e.toBytes x.toNat 1 ++ b) 0 1 = x.toNat :=
  e.parseAt_toBytes_append x.toNat_lt_size b

@[simp] theorem parseAt_u16 (e : Endian) (x : UInt16) (b : List UInt8) :
    e.parseAt (e.toBytes x.toNat 2 ++ b) 0 2 = x.toNat :=
  e.parseAt_toBytes_append x.toNat_lt_size b

@[simp] theorem parseAt_u32 (e : Endian) (x : UInt32) (b : List UInt8) :
    e.parseAt (e.toBytes x.toNat 4 ++ b) 0 4 = x.toNat :=
  e.parseAt_toBytes_append x.toNat_lt_size b

@[simp] theorem parseAt_u64 (e : Endian) (x : UInt64) (b : List UInt8) :
    e.parseAt (e.toBytes x.toNat 8 ++ b) 0 8 = x.toNat :=
  e.parseAt_toBytes_append x.toNat_lt_size b

end Endian

/-! ## The file header -/

/-- `ELFMAG`. -/
def elfMagic : List UInt8 := [0x7F, 0x45, 0x4C, 0x46]

/-- `EV_CURRENT`. -/
def evCurrent : UInt8 := 1

/-- `EI_NIDENT`. -/
def eiNident : Nat := 16

/-- `PN_XNUM`: a program header count that says the count is in section header 0. -/
def pnXnum : Nat := 0xFFFF

/-- What `FileHeader::parse_ident` returns: the byte order, the class, `EI_OSABI` and
`EI_ABIVERSION`. -/
structure Ident where
  endian : Endian
  elfClass : Class
  osabi : UInt8
  abiversion : UInt8
  deriving DecidableEq, Repr

/-- `FileHeader::parse_ident` on `e_ident`: the magic and `EI_VERSION` are checked, and
`EI_CLASS` and `EI_DATA` must name a class and a byte order. -/
def parseIdent (ident : List UInt8) : Option Ident :=
  if ident.take 4 = elfMagic ∧ ident.getD 6 0 = evCurrent then
    (Class.ofByte (ident.getD 4 0)).bind fun c =>
      (Endian.ofEiData (ident.getD 5 0)).map fun e => ⟨e, c, ident.getD 7 0, ident.getD 8 0⟩
  else none

/-- `elf::file::FileHeader`. `ELF32` address and offset words are widened to 64 bits. -/
structure FileHeader where
  elfClass : Class
  endianness : Endian
  version : UInt32
  osabi : UInt8
  abiversion : UInt8
  eType : UInt16
  eMachine : UInt16
  eEntry : UInt64
  ePhoff : UInt64
  eShoff : UInt64
  eFlags : UInt32
  eEhsize : UInt16
  ePhentsize : UInt16
  ePhnum : UInt16
  eShentsize : UInt16
  eShnum : UInt16
  eShstrndx : UInt16
  deriving DecidableEq, Repr

/-- `FileHeader::parse_tail`: the fields after `e_ident`, at the offsets of the class (counted
here from the start of the file). -/
def parseTail (ident : Ident) (data : List UInt8) : FileHeader :=
  let e := ident.endian
  let w := ident.elfClass.wordSize
  { elfClass := ident.elfClass
    endianness := e
    version := UInt32.ofNat (e.parseAt data 20 4)
    osabi := ident.osabi
    abiversion := ident.abiversion
    eType := UInt16.ofNat (e.parseAt data 16 2)
    eMachine := UInt16.ofNat (e.parseAt data 18 2)
    eEntry := UInt64.ofNat (e.parseAt data 24 w)
    ePhoff := UInt64.ofNat (e.parseAt data (24 + w) w)
    eShoff := UInt64.ofNat (e.parseAt data (24 + 2 * w) w)
    eFlags := UInt32.ofNat (e.parseAt data (24 + 3 * w) 4)
    eEhsize := UInt16.ofNat (e.parseAt data (28 + 3 * w) 2)
    ePhentsize := UInt16.ofNat (e.parseAt data (30 + 3 * w) 2)
    ePhnum := UInt16.ofNat (e.parseAt data (32 + 3 * w) 2)
    eShentsize := UInt16.ofNat (e.parseAt data (34 + 3 * w) 2)
    eShnum := UInt16.ofNat (e.parseAt data (36 + 3 * w) 2)
    eShstrndx := UInt16.ofNat (e.parseAt data (38 + 3 * w) 2) }

/-- `elf::segment::ProgramHeader`. `ELF32` words are widened to 64 bits. -/
structure ProgramHeader where
  pType : UInt32
  pFlags : UInt32
  pOffset : UInt64
  pVaddr : UInt64
  pPaddr : UInt64
  pFilesz : UInt64
  pMemsz : UInt64
  pAlign : UInt64
  deriving DecidableEq, Repr

/-- `ProgramHeader::parse_at` at `off`. `ELF64` puts `p_flags` after `p_type`, `ELF32` after
`p_memsz`. -/
def ProgramHeader.parseAt (e : Endian) (c : Class) (data : List UInt8) (off : Nat) :
    ProgramHeader :=
  let u32 (o : Nat) := UInt32.ofNat (e.parseAt data (off + o) 4)
  let word (o : Nat) := UInt64.ofNat (e.parseAt data (off + o) c.wordSize)
  match c with
  | .elf32 => ⟨u32 0, u32 24, word 4, word 8, word 12, word 16, word 20, word 28⟩
  | .elf64 => ⟨u32 0, u32 4, word 8, word 16, word 24, word 32, word 40, word 48⟩

/-- `data.get_bytes(start..start + size)` succeeds: the end, computed by `checked_add` in a 64-bit
`usize`, does not overflow and lies in the data. -/
def InData (data : List UInt8) (start size : Nat) : Prop :=
  start + size < 2 ^ 64 ∧ start + size ≤ data.length

instance (data : List UInt8) (start size : Nat) : Decidable (InData data start size) :=
  inferInstanceAs (Decidable (_ ∧ _))

/-- `find_shdrs` returns `Ok`. With `e_shnum = 0` the count is `sh_size` of section header 0,
which must fit in the `e_shentsize` bytes taken for it; the entry size must be the class's. -/
def findShdrs (ehdr : FileHeader) (data : List UInt8) : Bool :=
  if ehdr.eShoff = 0 then true
  else
    let shoff := ehdr.eShoff.toNat
    let c := ehdr.elfClass
    let shnum? : Option Nat :=
      if ehdr.eShnum = 0 then
        if InData data shoff ehdr.eShentsize.toNat ∧ c.shentsize ≤ ehdr.eShentsize.toNat then
          -- `sh_size` of section header 0
          some (ehdr.endianness.parseAt data (shoff + 8 + 3 * c.wordSize) c.wordSize)
        else none
      else some ehdr.eShnum.toNat
    shnum?.any fun shnum =>
      decide (ehdr.eShentsize.toNat = c.shentsize ∧ InData data shoff (c.shentsize * shnum))

/-- `find_phdrs`: no table when `e_phoff = 0`; with `e_phnum = PN_XNUM` the count is `sh_info` of
section header 0; the entry size must be the class's and the table must lie in the data. -/
def findPhdrs (ehdr : FileHeader) (data : List UInt8) : Option (Option (List ProgramHeader)) :=
  if ehdr.ePhoff = 0 then some none
  else
    let phoff := ehdr.ePhoff.toNat
    let c := ehdr.elfClass
    let phnum? : Option Nat :=
      if ehdr.ePhnum.toNat = pnXnum then
        if InData data ehdr.eShoff.toNat c.shentsize then
          -- `sh_info` of section header 0
          some (ehdr.endianness.parseAt data (ehdr.eShoff.toNat + 12 + 4 * c.wordSize) 4)
        else none
      else some ehdr.ePhnum.toNat
    phnum?.bind fun phnum =>
      if ehdr.ePhentsize.toNat = c.phentsize ∧ InData data phoff (c.phentsize * phnum) then
        some (some ((List.range phnum).map fun i =>
          ProgramHeader.parseAt ehdr.endianness c data (phoff + i * c.phentsize)))
      else none

/-- What `minimal_parse` returns: the file header, and the program headers that `segments()`
yields (`None` for a file without a table). -/
structure ElfBytes where
  ehdr : FileHeader
  segments : Option (List ProgramHeader)
  deriving DecidableEq, Repr

/-- `ElfBytes::minimal_parse`: `e_ident`, the rest of the file header, then the section and the
program header tables located. -/
def minimalParse (data : List UInt8) : Option ElfBytes :=
  if data.length < eiNident then none
  else
    match parseIdent (data.take eiNident) with
    | none => none
    | some ident =>
      if data.length < ident.elfClass.ehdrSize then none
      else
        let ehdr := parseTail ident data
        if findShdrs ehdr data then (findPhdrs ehdr data).map fun segments => ⟨ehdr, segments⟩
        else none

namespace Ident

/-- `e_ident`: the magic, class, byte order, `EV_CURRENT`, OS ABI and its version, and padding. -/
def toBytes (i : Ident) : List UInt8 :=
  elfMagic ++ [i.elfClass.toByte, i.endian.toByte, evCurrent, i.osabi, i.abiversion] ++
    List.replicate 7 0

@[simp] theorem length_toBytes (i : Ident) : i.toBytes.length = 16 := by
  simp [toBytes, elfMagic]

theorem parseIdent_toBytes (i : Ident) : parseIdent i.toBytes = some i := by
  obtain ⟨e, c, osabi, abiversion⟩ := i
  have hmagic : (toBytes ⟨e, c, osabi, abiversion⟩).take 4 = elfMagic := rfl
  have hversion : (toBytes ⟨e, c, osabi, abiversion⟩).getD 6 0 = evCurrent := rfl
  unfold parseIdent
  rw [if_pos ⟨hmagic, hversion⟩]
  simp [toBytes, elfMagic, Class.ofByte_toByte, Endian.ofEiData_toByte]

end Ident

namespace FileHeader

/-- The words of the header fit its class. -/
def Fits (h : FileHeader) : Prop :=
  h.elfClass.Fits h.eEntry ∧ h.elfClass.Fits h.ePhoff ∧ h.elfClass.Fits h.eShoff

instance (h : FileHeader) : Decidable h.Fits := inferInstanceAs (Decidable (_ ∧ _ ∧ _))

def ident (h : FileHeader) : Ident := ⟨h.endianness, h.elfClass, h.osabi, h.abiversion⟩

/-- The header's bytes, field after field. -/
def toBytes (h : FileHeader) : List UInt8 :=
  let e := h.endianness
  let w := h.elfClass.wordSize
  h.ident.toBytes ++ e.toBytes h.eType.toNat 2 ++ e.toBytes h.eMachine.toNat 2 ++
    e.toBytes h.version.toNat 4 ++ e.toBytes h.eEntry.toNat w ++ e.toBytes h.ePhoff.toNat w ++
    e.toBytes h.eShoff.toNat w ++ e.toBytes h.eFlags.toNat 4 ++ e.toBytes h.eEhsize.toNat 2 ++
    e.toBytes h.ePhentsize.toNat 2 ++ e.toBytes h.ePhnum.toNat 2 ++
    e.toBytes h.eShentsize.toNat 2 ++ e.toBytes h.eShnum.toNat 2 ++ e.toBytes h.eShstrndx.toNat 2

@[simp] theorem length_toBytes (h : FileHeader) : h.toBytes.length = h.elfClass.ehdrSize := by
  cases hc : h.elfClass <;> simp [toBytes, hc, Class.ehdrSize]

end FileHeader

namespace ProgramHeader

/-- The words of the header fit the class. -/
def Fits (c : Class) (p : ProgramHeader) : Prop :=
  c.Fits p.pOffset ∧ c.Fits p.pVaddr ∧ c.Fits p.pPaddr ∧ c.Fits p.pFilesz ∧ c.Fits p.pMemsz ∧
    c.Fits p.pAlign

instance (c : Class) (p : ProgramHeader) : Decidable (p.Fits c) :=
  inferInstanceAs (Decidable (_ ∧ _ ∧ _ ∧ _ ∧ _ ∧ _))

/-- The header's bytes in the class's layout. -/
def toBytes (e : Endian) (c : Class) (p : ProgramHeader) : List UInt8 :=
  let w := c.wordSize
  match c with
  | .elf32 => e.toBytes p.pType.toNat 4 ++ e.toBytes p.pOffset.toNat w ++
      e.toBytes p.pVaddr.toNat w ++ e.toBytes p.pPaddr.toNat w ++ e.toBytes p.pFilesz.toNat w ++
      e.toBytes p.pMemsz.toNat w ++ e.toBytes p.pFlags.toNat 4 ++ e.toBytes p.pAlign.toNat w
  | .elf64 => e.toBytes p.pType.toNat 4 ++ e.toBytes p.pFlags.toNat 4 ++
      e.toBytes p.pOffset.toNat w ++ e.toBytes p.pVaddr.toNat w ++ e.toBytes p.pPaddr.toNat w ++
      e.toBytes p.pFilesz.toNat w ++ e.toBytes p.pMemsz.toNat w ++ e.toBytes p.pAlign.toNat w

@[simp] theorem length_toBytes (e : Endian) (c : Class) (p : ProgramHeader) :
    (p.toBytes e c).length = c.phentsize := by
  cases c <;> simp [toBytes, Class.wordSize, Class.phentsize]

end ProgramHeader

/-- `ProgramHeader::parse_at` reads a header back from its bytes. -/
theorem ProgramHeader.parseAt_toBytes {e : Endian} {c : Class} {p : ProgramHeader}
    (hp : p.Fits c) (pre post : List UInt8) :
    ProgramHeader.parseAt e c (pre ++ p.toBytes e c ++ post) pre.length = p := by
  obtain ⟨pType, pFlags, pOffset, pVaddr, pPaddr, pFilesz, pMemsz, pAlign⟩ := p
  obtain ⟨ho, hv, hpa, hf, hm, ha⟩ := hp
  -- every field is read at its offset past the prefix and the fields before it
  cases c
  · simp [ProgramHeader.parseAt, ProgramHeader.toBytes, Endian.parseAt_toBytes_append e (n := 4) ho,
      Endian.parseAt_toBytes_append e (n := 4) hv, Endian.parseAt_toBytes_append e (n := 4) hpa,
      Endian.parseAt_toBytes_append e (n := 4) hf, Endian.parseAt_toBytes_append e (n := 4) hm,
      Endian.parseAt_toBytes_append e (n := 4) ha]
  · simp [ProgramHeader.parseAt, ProgramHeader.toBytes]

/-- The program header table is read back entry by entry. -/
theorem ProgramHeader.parseAt_table {e : Endian} {c : Class} :
    ∀ {ps : List ProgramHeader}, (∀ p ∈ ps, p.Fits c) → ∀ (pre post : List UInt8),
      (List.range ps.length).map (fun i => ProgramHeader.parseAt e c
        (pre ++ (ps.map (ProgramHeader.toBytes e c)).flatten ++ post)
          (pre.length + i * c.phentsize)) = ps
  | [], _, _, _ => rfl
  | p :: ps, hfit, pre, post => by
    -- the first entry sits right after the prefix, the others after it and the first
    have hdata : pre ++ ((p :: ps).map (ProgramHeader.toBytes e c)).flatten ++ post =
        (pre ++ p.toBytes e c) ++ (ps.map (ProgramHeader.toBytes e c)).flatten ++ post := by
      simp
    have hoff : ∀ i, pre.length + (i + 1) * c.phentsize =
        (pre ++ p.toBytes e c).length + i * c.phentsize := by
      intro i
      rw [List.length_append, ProgramHeader.length_toBytes, Nat.succ_mul]
      omega
    have hhead := ProgramHeader.parseAt_toBytes (e := e) (hfit p List.mem_cons_self) pre
      ((ps.map (ProgramHeader.toBytes e c)).flatten ++ post)
    have htail := ProgramHeader.parseAt_table (e := e) (fun q hq => hfit q (List.mem_cons_of_mem p hq))
      (pre ++ p.toBytes e c) post
    rw [List.length_cons, List.range_succ_eq_map, List.map_cons, List.map_map, hdata]
    congr 1
    · simpa [List.append_assoc] using hhead
    · refine Eq.trans (List.map_congr_left fun i _ => ?_) htail
      simp only [Function.comp_apply, hoff]

/-- `FileHeader::parse_tail` reads a header back from its bytes. -/
theorem FileHeader.parseTail_toBytes {h : FileHeader} (hf : h.Fits) (post : List UInt8) :
    parseTail h.ident (h.toBytes ++ post) = h := by
  obtain ⟨c, e, version, osabi, abiversion, eType, eMachine, eEntry, ePhoff, eShoff, eFlags,
    eEhsize, ePhentsize, ePhnum, eShentsize, eShnum, eShstrndx⟩ := h
  cases c
  · obtain ⟨hentry, hphoff, hshoff⟩ :
        eEntry.toNat < 256 ^ 4 ∧ ePhoff.toNat < 256 ^ 4 ∧ eShoff.toNat < 256 ^ 4 := hf
    simp [FileHeader.ident, parseTail, FileHeader.toBytes,
      Endian.parseAt_toBytes_append e (n := 4) hentry,
      Endian.parseAt_toBytes_append e (n := 4) hphoff,
      Endian.parseAt_toBytes_append e (n := 4) hshoff]
  · simp [FileHeader.ident, parseTail, FileHeader.toBytes]

/-- A file laid out as a header, its program header table right after it, and `rest`. -/
def image (h : FileHeader) (phdrs : List ProgramHeader) (rest : List UInt8) : List UInt8 :=
  h.toBytes ++ (phdrs.map (ProgramHeader.toBytes h.endianness h.elfClass)).flatten ++ rest

/-- The header describes such a file: its words and those of the program headers fit the class,
the table follows the header with the class's entry size and fewer than `PN_XNUM` entries, and
there are no section headers. -/
structure FileHeader.Describes (h : FileHeader) (phdrs : List ProgramHeader) : Prop where
  fits : h.Fits
  phdrs_fit : ∀ p ∈ phdrs, p.Fits h.elfClass
  phoff : h.ePhoff.toNat = h.elfClass.ehdrSize
  phentsize : h.ePhentsize.toNat = h.elfClass.phentsize
  phnum : h.ePhnum.toNat = phdrs.length
  phnum_lt : phdrs.length < pnXnum
  shoff : h.eShoff = 0

namespace FileHeader

variable {h : FileHeader} {phdrs : List ProgramHeader}

theorem Describes.phoff_ne_zero (hd : h.Describes phdrs) : h.ePhoff ≠ 0 := by
  intro h0
  have hphoff := hd.phoff
  rw [h0, UInt64.toNat_zero] at hphoff
  have := h.elfClass.sizes
  omega

end FileHeader

theorem length_image (h : FileHeader) (phdrs : List ProgramHeader) (rest : List UInt8) :
    (image h phdrs rest).length =
      h.elfClass.ehdrSize + h.elfClass.phentsize * phdrs.length + rest.length := by
  simp [image, List.length_flatten, List.map_map, Function.comp_def, List.sum_replicate,
    Nat.mul_comm, Nat.add_assoc]

theorem findShdrs_of_shoff {ehdr : FileHeader} (h : ehdr.eShoff = 0) (data : List UInt8) :
    findShdrs ehdr data = true := by
  simp [findShdrs, h]

/-- The table of such a file is located right after the header and read entry by entry. -/
theorem findPhdrs_image {h : FileHeader} {phdrs : List ProgramHeader} (hd : h.Describes phdrs)
    (rest : List UInt8) : findPhdrs h (image h phdrs rest) = some (some phdrs) := by
  have hnum : h.ePhnum.toNat ≠ pnXnum := by
    rw [hd.phnum]
    exact Nat.ne_of_lt hd.phnum_lt
  -- the table fits a `usize` and ends where the header and the entries end
  have hin : InData (image h phdrs rest) h.ePhoff.toNat (h.elfClass.phentsize * phdrs.length) := by
    obtain ⟨-, hehdr, hent⟩ := h.elfClass.sizes
    have hlt := hd.phnum_lt
    unfold pnXnum at hlt
    have hsize : h.elfClass.phentsize * phdrs.length ≤ 56 * 0xFFFF :=
      Nat.mul_le_mul hent (by omega)
    rw [hd.phoff]
    constructor
    · omega
    · rw [length_image]
      omega
  have htable := ProgramHeader.parseAt_table (e := h.endianness) hd.phdrs_fit h.toBytes rest
  rw [FileHeader.length_toBytes, ← hd.phoff] at htable
  unfold findPhdrs
  rw [if_neg hd.phoff_ne_zero]
  dsimp only
  rw [if_neg hnum, Option.bind_some, hd.phnum, if_pos ⟨hd.phentsize, hin⟩, image, htable]

theorem minimalParse_image {h : FileHeader} {phdrs : List ProgramHeader} (hd : h.Describes phdrs)
    (rest : List UInt8) : minimalParse (image h phdrs rest) = some ⟨h, some phdrs⟩ := by
  have hlen := length_image h phdrs rest
  have hehdr := h.elfClass.sizes
  have hident : (image h phdrs rest).take eiNident = h.ident.toBytes := by
    simp only [image, FileHeader.toBytes, List.append_assoc]
    exact List.take_left' (Ident.length_toBytes _)
  have htail : parseTail h.ident (image h phdrs rest) = h := by
    rw [image, List.append_assoc]
    exact FileHeader.parseTail_toBytes hd.fits _
  -- past the length checks, each step of the parse gives back what the layout put there
  unfold minimalParse
  rw [if_neg (by unfold eiNident; omega), hident, Ident.parseIdent_toBytes]
  dsimp only
  rw [if_neg (by simp only [FileHeader.ident]; omega), htail, findShdrs_of_shoff hd.shoff,
    if_pos rfl, findPhdrs_image hd]
  rfl

end Elf
