import ElfTables.File.Header
import ElfTables.Proofs.StoredRecords
import ElfTables.Section.Header
import ElfTables.Segment.Header

namespace ElfTables

def FileClass.reach : FileClass → Nat
  | .bits32 => 2 ^ 32
  | .bits64 => 2 ^ 64

theorem FileClass.reach_eq (fileClass : FileClass) : fileClass.reach = 256 ^ fileClass.wordSize := by
  cases fileClass <;> rfl

namespace FileHeader

def written (header : FileHeader) (version : UInt8) (padding : List UInt8) : List UInt8 :=
  let put := header.order.encode
  let address := match header.fileClass with
    | .bits32 => 4
    | .bits64 => 8
  [0x7f, 0x45, 0x4c, 0x46, header.fileClass.code, header.order.code, version] ++ padding ++
    put 2 header.type.toNat ++ put 2 header.machine.toNat ++ put 4 header.version.toNat ++
    put address header.entry.toNat ++ put address header.phoff.toNat ++
    put address header.shoff.toNat ++ put 4 header.flags.toNat ++ put 2 header.ehsize.toNat ++
    put 2 header.phentsize.toNat ++ put 2 header.phnum.toNat ++ put 2 header.shentsize.toNat ++
    put 2 header.shnum.toNat ++ put 2 header.shstrndx.toNat

def Fits (header : FileHeader) : Prop :=
  header.entry.toNat < header.fileClass.reach ∧ header.phoff.toNat < header.fileClass.reach ∧
    header.shoff.toNat < header.fileClass.reach

instance (header : FileHeader) : Decidable header.Fits :=
  inferInstanceAs (Decidable (_ ∧ _))

theorem written_eq_encode (header : FileHeader) (version : UInt8) (padding : List UInt8) :
    header.written version padding = header.encode version padding := by
  cases fileClass : header.fileClass <;>
    simp [written, encode, fileClass, layout, Layout.encode, field, FileClass.wordSize,
      Identification.magic]

theorem Fits.layout {header : FileHeader} (fits : header.Fits) :
    (layout header.fileClass).Fits header.field := by
  obtain ⟨entry, phoff, shoff⟩ := fits
  rw [FileClass.reach_eq] at entry phoff shoff
  intro slot member
  simp only [FileHeader.layout, List.mem_cons, List.not_mem_nil, or_false] at member
  rcases member with rfl | rfl | rfl | rfl | rfl | rfl | rfl | rfl | rfl | rfl | rfl | rfl | rfl
  · exact header.type.toNat_lt
  · exact header.machine.toNat_lt
  · exact header.version.toNat_lt
  · exact entry
  · exact phoff
  · exact shoff
  · exact header.flags.toNat_lt
  · exact header.ehsize.toNat_lt
  · exact header.phentsize.toNat_lt
  · exact header.phnum.toNat_lt
  · exact header.shentsize.toNat_lt
  · exact header.shnum.toNat_lt
  · exact header.shstrndx.toNat_lt

theorem complete_layout (fileClass : FileClass) : (FileHeader.layout fileClass).Complete := by
  intro field
  cases field <;> simp [FileHeader.layout]

end FileHeader

namespace SegmentHeader

def written (order : ByteOrder) (segment : SegmentHeader) : FileClass → List UInt8
  | .bits32 =>
    order.encode 4 segment.type.toNat ++ order.encode 4 segment.offset.toNat ++
      order.encode 4 segment.vaddr.toNat ++ order.encode 4 segment.paddr.toNat ++
      order.encode 4 segment.filesz.toNat ++ order.encode 4 segment.memsz.toNat ++
      order.encode 4 segment.flags.toNat ++ order.encode 4 segment.align.toNat
  | .bits64 =>
    order.encode 4 segment.type.toNat ++ order.encode 4 segment.flags.toNat ++
      order.encode 8 segment.offset.toNat ++ order.encode 8 segment.vaddr.toNat ++
      order.encode 8 segment.paddr.toNat ++ order.encode 8 segment.filesz.toNat ++
      order.encode 8 segment.memsz.toNat ++ order.encode 8 segment.align.toNat

def Fits (fileClass : FileClass) (segment : SegmentHeader) : Prop :=
  segment.offset.toNat < fileClass.reach ∧ segment.vaddr.toNat < fileClass.reach ∧
    segment.paddr.toNat < fileClass.reach ∧ segment.filesz.toNat < fileClass.reach ∧
    segment.memsz.toNat < fileClass.reach ∧ segment.align.toNat < fileClass.reach

instance (fileClass : FileClass) (segment : SegmentHeader) : Decidable (segment.Fits fileClass) :=
  inferInstanceAs (Decidable (_ ∧ _))

theorem written_eq_encode (order : ByteOrder) (segment : SegmentHeader) (fileClass : FileClass) :
    segment.written order fileClass = segment.encode fileClass order := by
  cases fileClass <;> simp [written, encode, layout, Layout.encode, field]

theorem Fits.layout {fileClass : FileClass} {segment : SegmentHeader}
    (fits : segment.Fits fileClass) : (layout fileClass).Fits segment.field := by
  obtain ⟨offset, vaddr, paddr, filesz, memsz, align⟩ := fits
  cases fileClass with
  | bits32 =>
      intro slot member
      simp only [SegmentHeader.layout, List.mem_cons, List.not_mem_nil, or_false] at member
      rcases member with rfl | rfl | rfl | rfl | rfl | rfl | rfl | rfl
      · exact segment.type.toNat_lt
      · exact offset
      · exact vaddr
      · exact paddr
      · exact filesz
      · exact memsz
      · exact segment.flags.toNat_lt
      · exact align
  | bits64 =>
      intro slot member
      simp only [SegmentHeader.layout, List.mem_cons, List.not_mem_nil, or_false] at member
      rcases member with rfl | rfl | rfl | rfl | rfl | rfl | rfl | rfl
      · exact segment.type.toNat_lt
      · exact segment.flags.toNat_lt
      · exact offset
      · exact vaddr
      · exact paddr
      · exact filesz
      · exact memsz
      · exact align

theorem complete_layout (fileClass : FileClass) : (SegmentHeader.layout fileClass).Complete := by
  intro field
  cases fileClass <;> cases field <;> decide

theorem size_layout (fileClass : FileClass) :
    (SegmentHeader.layout fileClass).size = if fileClass = .bits32 then 32 else 56 := by
  cases fileClass <;> rfl

theorem layout_size_pos (fileClass : FileClass) : 0 < (SegmentHeader.layout fileClass).size := by
  cases fileClass <;> decide

end SegmentHeader

namespace SectionHeader

def written (order : ByteOrder) (entry : SectionHeader) (fileClass : FileClass) : List UInt8 :=
  let address := match fileClass with
    | .bits32 => 4
    | .bits64 => 8
  order.encode 4 entry.name.toNat ++ order.encode 4 entry.type.toNat ++
    order.encode address entry.flags.toNat ++ order.encode address entry.addr.toNat ++
    order.encode address entry.offset.toNat ++ order.encode address entry.size.toNat ++
    order.encode 4 entry.link.toNat ++ order.encode 4 entry.info.toNat ++
    order.encode address entry.addralign.toNat ++ order.encode address entry.entsize.toNat

/-- The place of the name has 32 bits in either class. -/
def Fits (fileClass : FileClass) (entry : SectionHeader) : Prop :=
  entry.name.toNat < 2 ^ 32 ∧ entry.flags.toNat < fileClass.reach ∧
    entry.addr.toNat < fileClass.reach ∧ entry.offset.toNat < fileClass.reach ∧
    entry.size.toNat < fileClass.reach ∧ entry.addralign.toNat < fileClass.reach ∧
    entry.entsize.toNat < fileClass.reach

instance (fileClass : FileClass) (entry : SectionHeader) : Decidable (entry.Fits fileClass) :=
  inferInstanceAs (Decidable (_ ∧ _))

theorem written_eq_encode (order : ByteOrder) (entry : SectionHeader) (fileClass : FileClass) :
    entry.written order fileClass = entry.encode fileClass order := by
  cases fileClass <;>
    simp [written, encode, layout, Layout.encode, field, FileClass.wordSize]

theorem Fits.layout {fileClass : FileClass} {entry : SectionHeader}
    (fits : entry.Fits fileClass) : (layout fileClass).Fits entry.field := by
  obtain ⟨name, flags, addr, offset, size, addralign, entsize⟩ := fits
  rw [FileClass.reach_eq] at flags addr offset size addralign entsize
  intro slot member
  simp only [SectionHeader.layout, List.mem_cons, List.not_mem_nil, or_false] at member
  rcases member with rfl | rfl | rfl | rfl | rfl | rfl | rfl | rfl | rfl | rfl
  · exact name
  · exact entry.type.toNat_lt
  · exact flags
  · exact addr
  · exact offset
  · exact size
  · exact entry.link.toNat_lt
  · exact entry.info.toNat_lt
  · exact addralign
  · exact entsize

theorem complete_layout (fileClass : FileClass) : (SectionHeader.layout fileClass).Complete := by
  intro field
  cases fileClass <;> cases field <;> decide

theorem size_layout (fileClass : FileClass) :
    (SectionHeader.layout fileClass).size = if fileClass = .bits32 then 40 else 64 := by
  cases fileClass <;> rfl

theorem layout_size_pos (fileClass : FileClass) : 0 < (SectionHeader.layout fileClass).size := by
  cases fileClass <;> decide

end SectionHeader

end ElfTables
