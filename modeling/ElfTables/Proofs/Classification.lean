import ElfTables.Proofs.Opening

namespace ElfTables

def storedType (bytes : Array UInt8) : Nat :=
  if byteAt bytes 5 = 2 then 256 * (byteAt bytes 16).toNat + (byteAt bytes 17).toNat
  else (byteAt bytes 16).toNat + 256 * (byteAt bytes 17).toNat

/-- Bytes of a relocatable, executable or shared object. -/
structure HoldsObject (bytes : Array UInt8) : Prop where
  room : 52 ≤ bytes.size
  magic : [0x7f, 0x45, 0x4c, 0x46] <+: bytes.toList
  type_known : storedType bytes = 1 ∨ storedType bytes = 2 ∨ storedType bytes = 3

theorem extract_two {bytes : Array UInt8} {start : Nat} (inside : start + 2 ≤ bytes.size) :
    (bytes.extract start (start + 2)).toList = [byteAt bytes start, byteAt bytes (start + 1)] := by
  have value : ∀ index (_ : index < bytes.toList.length),
      bytes.toList[index] = byteAt bytes index := by
    intro index here
    rw [byteAt, Array.getD_eq_getD_getElem?, Array.getElem?_eq_getElem here, Option.getD_some,
      Array.getElem_toList]
  have first : start < bytes.toList.length := Nat.lt_of_lt_of_le (by omega) inside
  have second : start + 1 < bytes.toList.length := inside
  rw [Array.toList_extract, List.extract_eq_take_drop, Nat.add_sub_cancel_left,
    List.drop_eq_getElem_cons first, List.drop_eq_getElem_cons second, value, value]
  rfl

namespace ByteOrder

theorem getD_ofCode? (code : UInt8) :
    (ofCode? code).getD .little = if code = 2 then .big else .little := by
  unfold ofCode?
  by_cases little : code = 1
  · subst little
    rfl
  · rw [if_neg little]
    split <;> rfl

end ByteOrder

namespace Image

variable {bytes : Array UInt8}

theorem hasHeader_iff :
    hasHeader bytes = true ↔ 52 ≤ bytes.size ∧ [0x7f, 0x45, 0x4c, 0x46] <+: bytes.toList := by
  have front : (bytes.extract 0 4).toList = bytes.toList.take 4 := by
    rw [Array.toList_extract, List.extract_eq_take_drop, List.drop_zero]
  have magic : (bytes.extract 0 4).toList = [0x7f, 0x45, 0x4c, 0x46] ↔
      [0x7f, 0x45, 0x4c, 0x46] <+: bytes.toList := by
    rw [front, List.prefix_iff_eq_take]
    exact eq_comm
  rw [hasHeader, Bool.and_eq_true, beq_iff_eq, decide_eq_true_eq, and_comm]
  exact and_congr_right fun _ => magic

theorem toNat_rawType (inside : 18 ≤ bytes.size) : (rawType bytes).toNat = storedType bytes := by
  have low := (byteAt bytes 16).toNat_lt
  have high := (byteAt bytes 17).toNat_lt
  have fits : storedType bytes < 2 ^ 16 := by
    unfold storedType
    split <;> omega
  have decoded : ((ByteOrder.ofCode? (byteAt bytes 5)).getD .little).decode
      [byteAt bytes 16, byteAt bytes 17] = storedType bytes := by
    rw [ByteOrder.getD_ofCode?, storedType]
    split
    · simp only [ByteOrder.decode, List.reverse_cons, List.reverse_nil, List.nil_append,
        List.singleton_append, ByteOrder.decodeLittle]
      omega
    · simp only [ByteOrder.decode, ByteOrder.decodeLittle]
      omega
  have word : rawType bytes = (storedType bytes).toUInt16 := by
    rw [← decoded, ← extract_two inside]
    rfl
  rw [word]
  exact UInt16.toNat_ofNat_of_lt' fits

theorem mem_objectTypes_iff (type : UInt16) :
    objectTypes.contains type = true ↔ type.toNat = 1 ∨ type.toNat = 2 ∨ type.toNat = 3 := by
  rw [List.contains_iff_mem, objectTypes]
  simp only [List.mem_cons, List.not_mem_nil, or_false, ← UInt16.toNat_inj]
  rfl

theorem kind_ofBytes (bytes : Array UInt8) :
    (ofBytes bytes).value.kind = .elf ↔ HoldsObject bytes := by
  rw [kind_eq_elf_iff, value_ofBytes]
  by_cases present : hasHeader bytes = true
  · obtain ⟨room, magic⟩ := hasHeader_iff.mp present
    have known := mem_objectTypes_iff (rawType bytes)
    rw [toNat_rawType (Nat.le_trans (by decide) room)] at known
    simp only [present, if_true, Option.some.injEq, exists_eq_left', known]
    exact ⟨fun type_known => ⟨room, magic, type_known⟩, HoldsObject.type_known⟩
  · rw [if_neg present]
    constructor
    · rintro ⟨type, found, _⟩
      cases found
    · intro object
      exact absurd (hasHeader_iff.mpr ⟨object.room, object.magic⟩) present

theorem type_of_hasHeader (present : hasHeader bytes = true) :
    (ofBytes bytes).value.type = some (rawType bytes) := by
  rw [value_ofBytes, if_pos present]

theorem ident_of_hasHeader (present : hasHeader bytes = true) :
    (ofBytes bytes).value.ident = some (bytes.toList.take 16) := by
  rw [ident, type_of_hasHeader present, Option.map_some, bytes_ofBytes, Array.toList_extract,
    List.extract_eq_take_drop, List.drop_zero]
  rfl

theorem width_of_hasHeader (present : hasHeader bytes = true) :
    (ofBytes bytes).value.width =
      if byteAt bytes 6 = 1 then
        if byteAt bytes 4 = 1 then .ok .bits32
        else if byteAt bytes 4 = 2 then .ok .bits64
        else .error (.malformed (.unknownClass (byteAt bytes 4)))
      else .error (.malformed (.unsupportedVersion (byteAt bytes 6))) := by
  rw [width, type_of_hasHeader present, bytes_ofBytes]
  simp only [Identification.versionIndex, Identification.classIndex,
    Identification.currentVersion, FileClass.ofCode?]
  by_cases narrow : byteAt bytes 4 = 1
  · simp only [narrow, if_true]
    rfl
  · by_cases wide : byteAt bytes 4 = 2
    · simp only [wide, if_true]
      rfl
    · simp only [narrow, wide, if_false]

theorem hasHeader_of_holdsObject (object : HoldsObject bytes) : hasHeader bytes = true :=
  hasHeader_iff.mpr ⟨object.room, object.magic⟩

theorem ident_of_holdsObject (object : HoldsObject bytes) :
    (ofBytes bytes).value.ident = some (bytes.toList.take 16) :=
  ident_of_hasHeader (hasHeader_of_holdsObject object)

theorem width_of_holdsObject (object : HoldsObject bytes) :
    (ofBytes bytes).value.width.toOption.getD .unknown =
      if byteAt bytes 6 = 1 ∧ byteAt bytes 4 = 1 then .bits32
      else if byteAt bytes 6 = 1 ∧ byteAt bytes 4 = 2 then .bits64
      else .unknown := by
  rw [width_of_hasHeader (hasHeader_of_holdsObject object)]
  by_cases current : byteAt bytes 6 = 1
  · simp only [current, true_and, if_true]
    split
    next => rfl
    next => split <;> rfl
  · simp only [current, false_and, if_false]
    rfl

end Image

/-- A file that can be read always opens. It is an ELF session just for the bytes of an object,
and then its identification and its width come from single bytes; else it has neither. -/
theorem Session.ofHandle_classified {handle : Handle} (healthy : handle.Healthy) :
    let bytes := handle.content
    ∃ session, (ofHandle handle).value = .ok session ∧
      (session.isElf = true ↔ HoldsObject bytes) ∧
      (session.isElf = true →
        session.ident = some (bytes.toList.take 16) ∧
          session.width =
            if byteAt bytes 6 = 1 ∧ byteAt bytes 4 = 1 then .bits32
            else if byteAt bytes 6 = 1 ∧ byteAt bytes 4 = 2 then .bits64
            else .unknown) ∧
      (session.isElf = false → session.ident = none ∧ session.width = .unknown) := by
  intro bytes
  have decided := Image.kind_ofBytes bytes
  rw [value_ofHandle_of_healthy healthy]
  cases kind : (Image.ofBytes bytes).value.kind with
  | elf =>
      have object := decided.mp kind
      refine ⟨_, ofBytes_of_elf kind, ⟨fun _ => object, fun _ => rfl⟩, ?_, ?_⟩
      · intro _
        exact ⟨Image.ident_of_holdsObject object, Image.width_of_holdsObject object⟩
      · intro other
        cases other
  | other =>
      have unlike : ¬HoldsObject bytes := by
        intro object
        rw [decided.mpr object] at kind
        cases kind
      refine ⟨.inert, ofBytes_of_other kind, ⟨?_, fun object => absurd object unlike⟩, ?_, ?_⟩
      · intro elf
        cases elf
      · intro elf
        cases elf
      · intro _
        exact ⟨rfl, rfl⟩

def shortHandle : Handle where
  content := ([0x7f, 0x45, 0x4c, 0x46, 2, 2, 1] ++ List.replicate 9 0xee ++ [0, 3] ++
    List.replicate 34 0xff : List UInt8).toArray
  position := 20
  pieceLimit := some 7

theorem Session.ofHandle_classified_short :
    shortHandle.Healthy ∧ HoldsObject shortHandle.content ∧
      (FileHeader.decode shortHandle.content).isOk = false ∧
      ∃ session, (ofHandle shortHandle).value = .ok session ∧ session.isElf = true ∧
        session.ident = some ([0x7f, 0x45, 0x4c, 0x46, 2, 2, 1] ++ List.replicate 9 0xee) ∧
        session.width = .bits64 := by
  have healthy : shortHandle.Healthy := ⟨rfl, rfl, by decide⟩
  have object : HoldsObject shortHandle.content :=
    ⟨by decide, by decide, Or.inr (Or.inr (by decide))⟩
  obtain ⟨session, opening, elf, answers, _⟩ := ofHandle_classified healthy
  obtain ⟨ident, width⟩ := answers (elf.mpr object)
  exact ⟨healthy, object, by decide +kernel, session, opening, elf.mpr object, ident, width⟩

end ElfTables
