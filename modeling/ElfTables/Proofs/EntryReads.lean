import ElfTables.Proofs.CheckedWords
import ElfTables.Proofs.Opening
import ElfTables.Proofs.StandardForm
import ElfTables.Proofs.TableEntries

/-!
What reading one entry of a table comes to. Which error it is follows from the place of the entry
as a natural number, and an entry that is read has the numbers that stand at the places of its
fields (`entries_decided`). Words of 64 bits lead to the same place or nowhere
(`EntryTable.positionInWords?_eq_some_iff`).
-/
namespace ElfTables

namespace ByteOrder

/-- The number that the `width` bytes from `position` on hold. -/
def numberAt (order : ByteOrder) (bytes : Array UInt8) (position width : Nat) : Nat :=
  order.decode (bytes.extract position (position + width)).toList

theorem numberAt_lt (order : ByteOrder) (bytes : Array UInt8) (position width : Nat) :
    order.numberAt bytes position width < 256 ^ width := by
  have short : (bytes.extract position (position + width)).toList.length ≤ width := by
    rw [Array.length_toList, Array.size_extract]
    omega
  calc
    _ < 256 ^ (bytes.extract position (position + width)).toList.length := order.decode_lt _
    _ ≤ 256 ^ width := Nat.pow_le_pow_right (by decide) short

end ByteOrder

structure Place where
  start : Nat
  width : Nat
  deriving DecidableEq, Repr

namespace Layout

variable {Field : Type} [DecidableEq Field] {layout : Layout Field} {field : Field} {place : Place}

def place? : Layout Field → Field → Option Place
  | [], _ => none
  | (slot, width) :: rest, field =>
    if field = slot then some ⟨0, width⟩
    else (place? rest field).map fun place => ⟨width + place.start, place.width⟩

theorem end_le_size_of_place? (placed : layout.place? field = some place) :
    place.start + place.width ≤ layout.size := by
  induction layout generalizing place with
  | nil => cases placed
  | cons slot rest ih =>
      obtain ⟨other, width⟩ := slot
      rw [place?] at placed
      rw [size]
      split at placed
      next =>
        cases placed
        change 0 + width ≤ width + size rest
        omega
      next =>
        obtain ⟨behind, found, rfl⟩ := Option.map_eq_some_iff.mp placed
        have inside := ih found
        change width + behind.start + behind.width ≤ width + size rest
        omega

theorem read_eq_numberAt {order : ByteOrder} {bytes : Array UInt8} {position : Nat}
    {values : Field → Nat} (succeeds : layout.read order bytes position = .ok values)
    (placed : layout.place? field = some place) :
    values field = order.numberAt bytes (position + place.start) place.width := by
  induction layout generalizing position values place with
  | nil => cases placed
  | cons slot rest ih =>
      obtain ⟨other, width⟩ := slot
      rw [read] at succeeds
      rw [place?] at placed
      split at succeeds
      next =>
        cases behind : read order bytes rest (position + width) with
        | error shortfall =>
            rw [behind] at succeeds
            cases succeeds
        | ok others =>
            rw [behind] at succeeds
            cases succeeds
            by_cases same : field = other
            · rw [if_pos same] at placed
              cases placed
              simp only [same, if_true]
              rfl
            · rw [if_neg same] at placed
              obtain ⟨later, found, rfl⟩ := Option.map_eq_some_iff.mp placed
              simp only [same, if_false]
              rw [ih behind found, Nat.add_assoc]
      next => cases succeeds

def NumbersAt (places : Field → Place) (size : Nat) (order : ByteOrder) (bytes : Array UInt8)
    (position : Nat) (numbers : Field → Nat) : Prop :=
  ∀ field, (places field).start + (places field).width ≤ size ∧
    numbers field = order.numberAt bytes (position + (places field).start) (places field).width

theorem numbersAt_of_read {Record : Type} {make : (Field → Nat) → Record}
    {number : Record → Field → Nat} {places : Field → Place} {order : ByteOrder}
    {bytes : Array UInt8} {position : Nat} {values : Field → Nat}
    (placed : ∀ field, layout.place? field = some (places field))
    (keeps : ∀ values : Field → Nat, (∀ field, values field < 256 ^ (places field).width) →
      ∀ field, number (make values) field = values field)
    (succeeds : layout.read order bytes position = .ok values) :
    NumbersAt places layout.size order bytes position (number (make values)) := by
  have numbers := fun field => read_eq_numberAt succeeds (placed field)
  have room : ∀ field, values field < 256 ^ (places field).width := by
    intro field
    rw [numbers field]
    exact order.numberAt_lt bytes _ _
  intro field
  exact ⟨end_le_size_of_place? (placed field), (keeps values room field).trans (numbers field)⟩

end Layout

/-- The error of a read that does not start or does not end inside the bytes. -/
inductive ReadError.PastBytes : ReadError → Prop
  | start (offset : Nat) : PastBytes (.badOffset offset)
  | finish (shortfall : Shortfall) : PastBytes (.truncated shortfall)

namespace EntryTable

variable {Field : Type} [DecidableEq Field] {table : EntryTable} {layout : Layout Field}
  {order : ByteOrder} {bytes : Array UInt8} {index : Nat}

/-- The place of an entry found with 64-bit words; a product or a sum that wraps around is
refused. -/
def positionInWords? (table : EntryTable) (index : UInt64) : Option UInt64 :=
  (checkedProduct index table.stride.toUInt64).bind (checkedSum table.base)

theorem positionInWords?_eq_some_iff {index position : UInt64} :
    table.positionInWords? index = some position ↔
      position.toNat = table.position index.toNat := by
  rw [positionInWords?, Option.bind_eq_some_iff, EntryTable.position]
  simp only [checkedProduct_eq_some_iff, checkedSum_eq_some_iff, UInt16.toNat_toUInt64]
  constructor
  · intro steps
    obtain ⟨distance, product, sum⟩ := steps
    rw [sum, product]
  · intro exact
    -- The distance is a word because the position is one.
    have small : index.toNat * table.stride.toNat < 2 ^ 64 := by
      have bound := position.toNat_lt
      omega
    have word := UInt64.toNat_ofNat_of_lt' small
    exact ⟨_, word, by rw [word, exact]⟩

theorem read_eq_outside_iff :
    table.read layout order bytes index = .error (.malformed (.outsideAddressSpace index)) ↔
      2 ^ 64 ≤ table.position index := by
  constructor
  · intro failed
    cases unreadable_of_error failed with
    | outside far => exact far
  · intro far
    rw [read]
    exact if_pos far

theorem outside_of_malformed {cause : Malformation}
    (failed : table.read layout order bytes index = .error (.malformed cause)) :
    cause = .outsideAddressSpace index := by
  cases unreadable_of_error failed with
  | outside => rfl

theorem exists_pastBytes_iff (near : table.position index < 2 ^ 64) :
    (∃ cause, table.read layout order bytes index = .error cause ∧ cause.PastBytes) ↔
      bytes.size < table.position index + layout.size := by
  have complete := table.isOk_read_iff layout order bytes index
  constructor
  · intro failed
    obtain ⟨cause, failed, _⟩ := failed
    by_contra inside
    obtain ⟨values, succeeds⟩ := complete.mpr ⟨near, Nat.le_of_not_lt inside⟩
    rw [succeeds] at failed
    cases failed
  · intro short
    cases record : table.read layout order bytes index with
    | ok values =>
        have inside := (complete.mp ⟨values, record⟩).2
        exact absurd short (Nat.not_lt.mpr inside)
    | error cause =>
        refine ⟨cause, rfl, ?_⟩
        cases unreadable_of_error record with
        | outside far => exact absurd near (Nat.not_lt.mpr far)
        | startsPast _ _ => exact .start _
        | endsPast _ _ _ shortfall => exact .finish shortfall

end EntryTable

/-- What reading the entry at an index comes to, if its table has `counted` entries, `excess` is
the cause at an index beyond them, the entry has `size` bytes from `position` on, there are
`length` bytes, and an entry that is read is as `Holds` says. The first of these that applies
decides. -/
structure EntryDecided {α : Type} (counted : Except ReadError Nat) (index : Nat)
    (excess : Nat → Malformation) (position size length : Nat) (Holds : α → Prop)
    (found : Except ReadError α) : Prop where
  uncounted : ∀ cause, counted = .error cause → found = .error cause
  excess_iff : ∀ count, counted = .ok count →
    (found = .error (.malformed (excess count)) ↔ count ≤ index)
  outside_iff : ∀ count, counted = .ok count → index < count →
    (found = .error (.malformed (.outsideAddressSpace index)) ↔ 2 ^ 64 ≤ position)
  short_iff : ∀ count, counted = .ok count → index < count → position < 2 ^ 64 →
    ((∃ cause, found = .error cause ∧ cause.PastBytes) ↔ length < position + size)
  held : ∀ count, counted = .ok count → index < count → position < 2 ^ 64 →
    position + size ≤ length → ∃ entry, found = .ok entry ∧ Holds entry

theorem EntryTable.decided {Field α : Type} [DecidableEq Field] (table : EntryTable)
    (layout : Layout Field) (order : ByteOrder) (bytes : Array UInt8) (index : Nat)
    (make : (Field → Nat) → α) {counted : Except ReadError Nat} {excess : Nat → Malformation}
    {found : Except ReadError α} {Holds : α → Prop}
    (uncounted : ∀ cause, counted = .error cause → found = .error cause)
    (beyond : ∀ count, counted = .ok count → count ≤ index →
      found = .error (.malformed (excess count)))
    (below : ∀ count, counted = .ok count → index < count →
      found = (table.read layout order bytes index).map make)
    (distinct : ∀ count, excess count ≠ .outsideAddressSpace index)
    (holds : ∀ values, layout.read order bytes (table.position index) = .ok values →
      Holds (make values)) :
    EntryDecided counted index excess (table.position index) layout.size bytes.size Holds found
    where
  uncounted := uncounted
  excess_iff := by
    intro count counted
    constructor
    · intro refused
      by_contra inside
      rw [below count counted (Nat.lt_of_not_le inside), map_eq_error_iff] at refused
      exact distinct count (EntryTable.outside_of_malformed refused)
    · exact beyond count counted
  outside_iff := by
    intro count counted inside
    rw [below count counted inside, map_eq_error_iff]
    exact EntryTable.read_eq_outside_iff
  short_iff := by
    intro count counted inside near
    simp only [below count counted inside, map_eq_error_iff]
    exact EntryTable.exists_pastBytes_iff near
  held := by
    intro count counted inside near whole
    obtain ⟨values, succeeds⟩ := (table.isOk_read_iff layout order bytes index).mpr ⟨near, whole⟩
    refine ⟨make values, ?_, holds values (EntryTable.read_eq_ok_iff.mp succeeds).2.2⟩
    rw [below count counted inside, succeeds]
    rfl

theorem EntryTable.numbersAt_of_read {Field Record : Type} [DecidableEq Field] {table : EntryTable}
    {layout : Layout Field} {order : ByteOrder} {bytes : Array UInt8} {index : Nat}
    {make : (Field → Nat) → Record} {number : Record → Field → Nat} {places : Field → Place}
    {entry : Record} (placed : ∀ field, layout.place? field = some (places field))
    (keeps : ∀ values : Field → Nat, (∀ field, values field < 256 ^ (places field).width) →
      ∀ field, number (make values) field = values field)
    (read : (table.read layout order bytes index).map make = .ok entry) :
    Layout.NumbersAt places layout.size order bytes (table.position index) (number entry) := by
  cases record : table.read layout order bytes index with
  | error cause =>
      rw [record] at read
      cases read
  | ok values =>
      rw [record] at read
      cases read
      exact Layout.numbersAt_of_read placed keeps (EntryTable.read_eq_ok_iff.mp record).2.2

namespace SegmentHeader

def place : FileClass → SegmentField → Place
  | .bits32, .type => ⟨0, 4⟩
  | .bits32, .offset => ⟨4, 4⟩
  | .bits32, .vaddr => ⟨8, 4⟩
  | .bits32, .paddr => ⟨12, 4⟩
  | .bits32, .filesz => ⟨16, 4⟩
  | .bits32, .memsz => ⟨20, 4⟩
  | .bits32, .flags => ⟨24, 4⟩
  | .bits32, .align => ⟨28, 4⟩
  | .bits64, .type => ⟨0, 4⟩
  | .bits64, .flags => ⟨4, 4⟩
  | .bits64, .offset => ⟨8, 8⟩
  | .bits64, .vaddr => ⟨16, 8⟩
  | .bits64, .paddr => ⟨24, 8⟩
  | .bits64, .filesz => ⟨32, 8⟩
  | .bits64, .memsz => ⟨40, 8⟩
  | .bits64, .align => ⟨48, 8⟩

theorem place?_layout (fileClass : FileClass) (field : SegmentField) :
    (layout fileClass).place? field = some (place fileClass field) := by
  cases fileClass <;> cases field <;> rfl

theorem field_ofFields {fileClass : FileClass} {value : SegmentField → Nat}
    (bounded : ∀ field, value field < 256 ^ (place fileClass field).width) (field : SegmentField) :
    (ofFields value).field field = value field := by
  have room := bounded field
  cases fileClass <;> cases field <;>
    exact Nat.mod_eq_of_lt (Nat.lt_of_lt_of_le room (by decide))

end SegmentHeader

namespace SectionHeader

def place : FileClass → SectionField → Place
  | .bits32, .name => ⟨0, 4⟩
  | .bits32, .type => ⟨4, 4⟩
  | .bits32, .flags => ⟨8, 4⟩
  | .bits32, .addr => ⟨12, 4⟩
  | .bits32, .offset => ⟨16, 4⟩
  | .bits32, .size => ⟨20, 4⟩
  | .bits32, .link => ⟨24, 4⟩
  | .bits32, .info => ⟨28, 4⟩
  | .bits32, .addralign => ⟨32, 4⟩
  | .bits32, .entsize => ⟨36, 4⟩
  | .bits64, .name => ⟨0, 4⟩
  | .bits64, .type => ⟨4, 4⟩
  | .bits64, .flags => ⟨8, 8⟩
  | .bits64, .addr => ⟨16, 8⟩
  | .bits64, .offset => ⟨24, 8⟩
  | .bits64, .size => ⟨32, 8⟩
  | .bits64, .link => ⟨40, 4⟩
  | .bits64, .info => ⟨44, 4⟩
  | .bits64, .addralign => ⟨48, 8⟩
  | .bits64, .entsize => ⟨56, 8⟩

theorem place?_layout (fileClass : FileClass) (field : SectionField) :
    (layout fileClass).place? field = some (place fileClass field) := by
  cases fileClass <;> cases field <;> rfl

theorem field_ofFields {fileClass : FileClass} {value : SectionField → Nat}
    (bounded : ∀ field, value field < 256 ^ (place fileClass field).width) (field : SectionField) :
    (ofFields value).field field = value field := by
  have room := bounded field
  cases fileClass <;> cases field <;>
    exact Nat.mod_eq_of_lt (Nat.lt_of_lt_of_le room (by decide))

end SectionHeader

namespace Image

variable {image : Image} {header : FileHeader}

theorem segmentHeader_decided (decoded : image.parsedHeader = .ok header) (index : Nat) :
    EntryDecided image.segmentCount index (.segmentOutOfRange index)
      (header.phoff.toNat + index * header.phentsize.toNat)
      (if header.fileClass = .bits32 then 32 else 56) image.bytes.size
      (fun entry => Layout.NumbersAt (SegmentHeader.place header.fileClass)
        (if header.fileClass = .bits32 then 32 else 56) header.order image.bytes
        (header.phoff.toNat + index * header.phentsize.toNat) entry.field)
      (image.segmentHeader index) := by
  rw [← SegmentHeader.size_layout]
  apply header.segmentTable.decided (SegmentHeader.layout header.fileClass) header.order
    image.bytes index SegmentHeader.ofFields
  case uncounted =>
    intro cause failed
    exact segmentHeader_of_uncounted failed index
  case beyond =>
    intro count counted beyond
    exact segmentHeader_of_le counted beyond
  case below =>
    intro count counted below
    exact segmentHeader_of_lt decoded counted below
  case distinct =>
    intro count same
    cases same
  case holds =>
    intro values succeeds
    exact Layout.numbersAt_of_read (SegmentHeader.place?_layout header.fileClass)
      (fun _ => SegmentHeader.field_ofFields) succeeds

theorem sectionHeader_decided (decoded : image.parsedHeader = .ok header) (index : Nat) :
    EntryDecided image.sectionCount index (.sectionOutOfRange index)
      (header.shoff.toNat + index * header.shentsize.toNat)
      (if header.fileClass = .bits32 then 40 else 64) image.bytes.size
      (fun entry => Layout.NumbersAt (SectionHeader.place header.fileClass)
        (if header.fileClass = .bits32 then 40 else 64) header.order image.bytes
        (header.shoff.toNat + index * header.shentsize.toNat) entry.field)
      (image.sectionHeader index) := by
  rw [← SectionHeader.size_layout]
  apply header.sectionTable.decided (SectionHeader.layout header.fileClass) header.order
    image.bytes index SectionHeader.ofFields
  case uncounted =>
    intro cause failed
    exact sectionHeader_of_uncounted failed index
  case beyond =>
    intro count counted beyond
    exact sectionHeader_of_le counted beyond
  case below =>
    intro count counted below
    exact sectionHeader_of_lt decoded counted below
  case distinct =>
    intro count same
    cases same
  case holds =>
    intro values succeeds
    exact Layout.numbersAt_of_read (SectionHeader.place?_layout header.fileClass)
      (fun _ => SectionHeader.field_ofFields) succeeds

end Image

/-- What reading an entry of either table of an object comes to at any index: the error of the
count, that there is no such entry, that it lies outside the address space, that it is not wholly
inside the bytes, or else the numbers at the standard places of its fields. A position computed
with 64-bit words is the natural number or none. -/
theorem entries_decided {bytes : Array UInt8} {header : FileHeader}
    (decoded : (Image.ofBytes bytes).value.header = some header) :
    let image := (Image.ofBytes bytes).value
    let segmentStart index := header.phoff.toNat + index * header.phentsize.toNat
    let segmentSize := if header.fileClass = .bits32 then 32 else 56
    let sectionStart index := header.shoff.toNat + index * header.shentsize.toNat
    let sectionSize := if header.fileClass = .bits32 then 40 else 64
    (∀ index, EntryDecided image.segmentCount index (.segmentOutOfRange index)
      (segmentStart index) segmentSize bytes.size
      (fun entry => Layout.NumbersAt (SegmentHeader.place header.fileClass) segmentSize
        header.order bytes (segmentStart index) entry.field)
      (image.segmentHeader index)) ∧
    (∀ index, EntryDecided image.sectionCount index (.sectionOutOfRange index)
      (sectionStart index) sectionSize bytes.size
      (fun entry => Layout.NumbersAt (SectionHeader.place header.fileClass) sectionSize
        header.order bytes (sectionStart index) entry.field)
      (image.sectionHeader index)) ∧
    ∀ index position : UInt64,
      (header.segmentTable.positionInWords? index = some position ↔
        position.toNat = segmentStart index.toNat) ∧
      (header.sectionTable.positionInWords? index = some position ↔
        position.toNat = sectionStart index.toNat) := by
  intro image segmentStart segmentSize sectionStart sectionSize
  have parsed : image.parsedHeader = .ok header := Image.parsedHeader_of_some decoded
  have same : image.bytes = bytes := Image.bytes_ofBytes bytes
  refine ⟨?segments, ?sections, ?words⟩
  case segments =>
    intro index
    have decides := Image.segmentHeader_decided parsed index
    rwa [same] at decides
  case sections =>
    intro index
    have decides := Image.sectionHeader_decided parsed index
    rwa [same] at decides
  case words =>
    intro index position
    exact ⟨EntryTable.positionInWords?_eq_some_iff, EntryTable.positionInWords?_eq_some_iff⟩

/-- A 64-bit object of its header alone. The first of two segment headers lies over all of it but
the first eight bytes, and the section table begins two bytes below the end of the address
space. -/
def edgeHeader : FileHeader :=
  ⟨.bits64, .big, 2, 62, 1, 0, 8, 2 ^ 64 - 2, 0, 64, 1, 2, 1, 4, 0⟩

def edgeBytes : Array UInt8 := (edgeHeader.written 1 (List.replicate 9 0)).toArray

theorem entries_decided_edges :
    let image := (Image.ofBytes edgeBytes).value
    (∃ entry, image.segmentHeader 0 = .ok entry ∧ entry.field .paddr = 8) ∧
      (∃ cause, image.segmentHeader 1 = .error cause ∧ cause.PastBytes) ∧
      image.segmentHeader 2 = .error (.malformed (.segmentOutOfRange 2 2)) ∧
      (∃ cause, image.sectionHeader 0 = .error cause ∧ cause.PastBytes) ∧
      image.sectionHeader 2 = .error (.malformed (.outsideAddressSpace 2)) := by
  intro image
  have decoded : image.header = some edgeHeader := by decide +kernel
  have segmentCount : image.segmentCount = .ok 2 := by decide +kernel
  have sectionCount : image.sectionCount = .ok 4 := by decide +kernel
  obtain ⟨segments, sections, _⟩ := entries_decided decoded
  refine ⟨?whole, ?short, ?excess, ?far, ?outside⟩
  case whole =>
    obtain ⟨entry, succeeds, holds⟩ :=
      (segments 0).held 2 segmentCount (by decide) (by decide) (by decide +kernel)
    exact ⟨entry, succeeds, (holds .paddr).2.trans (by decide +kernel)⟩
  case short =>
    exact ((segments 1).short_iff 2 segmentCount (by decide) (by decide)).mpr (by decide +kernel)
  case excess => exact ((segments 2).excess_iff 2 segmentCount).mpr (by decide)
  case far =>
    exact ((sections 0).short_iff 4 sectionCount (by decide) (by decide +kernel)).mpr
      (by decide +kernel)
  case outside =>
    exact ((sections 2).outside_iff 4 sectionCount (by decide)).mpr (by decide +kernel)

end ElfTables
