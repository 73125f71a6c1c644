import ElfTables.Proofs.StandardForm
import ElfTables.Proofs.TableEntries

namespace ElfTables

theorem StoredAt.byteAt_eq {bytes : Array UInt8} {position : Nat} {piece : List UInt8}
    (stored : StoredAt bytes position piece) (index : Nat) (inside : index < piece.length) :
    byteAt bytes (position + index) = piece[index] := by
  rw [byteAt, Array.getD_eq_getD_getElem?, stored.getElem?_eq inside, Option.getD_some]

namespace FileHeader

/-- The header stands at the front; the version and the padding of its identification are free. -/
def StoredIn (header : FileHeader) (bytes : Array UInt8) : Prop :=
  ∃ version padding, padding.length = 9 ∧ StoredAt bytes 0 (header.written version padding)

variable {header : FileHeader} {bytes : Array UInt8}

namespace StoredIn

theorem encoded (stored : header.StoredIn bytes) :
    ∃ version padding, padding.length = 9 ∧
      StoredAt bytes 0 (header.encode version padding) := by
  obtain ⟨version, padding, padded, stored⟩ := stored
  rw [written_eq_encode] at stored
  exact ⟨version, padding, padded, stored⟩

theorem magic (stored : header.StoredIn bytes) :
    (bytes.extract 0 Identification.magic.length).toList = Identification.magic := by
  obtain ⟨version, padding, padded, stored⟩ := stored.encoded
  have front := stored.left.left.left.extract
  rwa [Nat.zero_add] at front

theorem codes (stored : header.StoredIn bytes) :
    byteAt bytes Identification.classIndex = header.fileClass.code ∧
      byteAt bytes Identification.orderIndex = header.order.code := by
  obtain ⟨version, padding, padded, stored⟩ := stored.encoded
  have front := stored.left.left
  constructor
  · exact front.byteAt_eq 4 (by simp [Identification.magic])
  · exact front.byteAt_eq 5 (by simp [Identification.magic])

theorem fields (stored : header.StoredIn bytes) :
    StoredAt bytes Identification.size
      ((layout header.fileClass).encode header.order header.field) := by
  obtain ⟨version, padding, padded, stored⟩ := stored.encoded
  have behind := stored.right
  simp only [List.length_append, padded] at behind
  exact behind

theorem size_le (stored : header.StoredIn bytes) : size header.fileClass ≤ bytes.size := by
  have inside := stored.fields.end_le
  rwa [Layout.length_encode] at inside

end StoredIn

theorem minimumSize_le (fileClass : FileClass) : minimumSize ≤ size fileClass := by
  cases fileClass <;> decide

theorem decode_of_storedIn (stored : header.StoredIn bytes) (fits : header.Fits) :
    decode bytes = .ok header := by
  have record := Layout.read_of_storedAt header.order (complete_layout _) stored.fields fits.layout
  simp only [decode, stored.codes.1, stored.codes.2, FileClass.ofCode?_code,
    ByteOrder.ofCode?_code, record, ofFields_field]

end FileHeader

namespace Image

variable {header : FileHeader} {bytes : Array UInt8}

theorem hasHeader_of_storedIn (stored : header.StoredIn bytes) : hasHeader bytes = true := by
  have room := Nat.le_trans (FileHeader.minimumSize_le _) stored.size_le
  simp only [hasHeader, stored.magic, room, beq_self_eq_true, decide_true, Bool.and_self]

theorem rawType_of_storedIn (stored : header.StoredIn bytes) : rawType bytes = header.type := by
  have fields : StoredAt bytes Identification.size
      (header.order.encode 2 header.type.toNat ++ _) := stored.fields
  have word := fields.left.extract
  rw [ByteOrder.length_encode] at word
  rw [rawType, stored.codes.2, ByteOrder.ofCode?_code, Option.getD_some, word,
    ByteOrder.decode_encode_of_lt _ header.type.toNat_lt]
  exact UInt16.ofNat_toNat

theorem value_ofBytes_of_storedIn (stored : header.StoredIn bytes) (fits : header.Fits) :
    (ofBytes bytes).value = ⟨bytes, some header.type, some header⟩ := by
  simp only [ofBytes, hasHeader_of_storedIn stored, FileHeader.decode_of_storedIn stored fits,
    rawType_of_storedIn stored, if_true, Logged.value_pure]

variable {image : Image}

theorem rawSectionHeader_of_storedAt (decoded : image.header = some header)
    (addressable : image.bytes.size ≤ UInt64.size) (present : header.shoff ≠ 0) {index : Nat}
    {entry : SectionHeader} (fits : entry.Fits header.fileClass)
    (stored : StoredAt image.bytes (header.shoff.toNat + index * header.shentsize.toNat)
      (entry.written header.order header.fileClass)) :
    image.rawSectionHeader index = .ok entry := by
  rw [SectionHeader.written_eq_encode] at stored
  have record := EntryTable.read_of_storedAt header.sectionTable header.order
    (SectionHeader.complete_layout _) addressable (SectionHeader.layout_size_pos _) stored
    fits.layout
  rw [rawSectionHeader_of_present (parsedHeader_of_some decoded) present, FileHeader.sectionEntry,
    record]
  exact congrArg Except.ok entry.ofFields_field

theorem segmentHeader_of_storedAt (decoded : image.header = some header)
    (addressable : image.bytes.size ≤ UInt64.size) {count index : Nat}
    (counted : image.segmentCount = .ok count) (inside : index < count)
    {segment : SegmentHeader} (fits : segment.Fits header.fileClass)
    (stored : StoredAt image.bytes (header.phoff.toNat + index * header.phentsize.toNat)
      (segment.written header.order header.fileClass)) :
    image.segmentHeader index = .ok segment := by
  rw [SegmentHeader.written_eq_encode] at stored
  have record := EntryTable.read_of_storedAt header.segmentTable header.order
    (SegmentHeader.complete_layout _) addressable (SegmentHeader.layout_size_pos _) stored
    fits.layout
  rw [segmentHeader_of_lt (parsedHeader_of_some decoded) counted inside, FileHeader.segmentEntry,
    record]
  exact congrArg Except.ok segment.ofFields_field

theorem sectionHeader_of_storedAt (decoded : image.header = some header)
    (addressable : image.bytes.size ≤ UInt64.size) (present : header.shoff ≠ 0)
    {count index : Nat} (counted : image.sectionCount = .ok count) (inside : index < count)
    {entry : SectionHeader} (fits : entry.Fits header.fileClass)
    (stored : StoredAt image.bytes (header.shoff.toNat + index * header.shentsize.toNat)
      (entry.written header.order header.fileClass)) :
    image.sectionHeader index = .ok entry := by
  have record := rawSectionHeader_of_storedAt decoded addressable present fits stored
  simp only [sectionHeader, counted, bind, Except.bind, Nat.not_le.mpr inside, if_false, record]

end Image

end ElfTables
