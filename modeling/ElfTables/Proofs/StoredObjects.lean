import ElfTables.Proofs.Opening
import ElfTables.Proofs.StoredHeaders

namespace ElfTables

/-- An object with this header, small enough for the offsets of its class. All bytes but the
header's are free. -/
structure StoresObject (header : FileHeader) (bytes : Array UInt8) : Prop where
  type_known : header.type = 1 ∨ header.type = 2 ∨ header.type = 3
  header_stored : header.StoredIn bytes
  header_fits : header.Fits
  addressable : bytes.size ≤ header.fileClass.reach

namespace Image

def withHeader (header : FileHeader) (bytes : Array UInt8) : Image :=
  ⟨bytes, some header.type, some header⟩

theorem kind_withHeader {header : FileHeader} (bytes : Array UInt8)
    (type_known : header.type = 1 ∨ header.type = 2 ∨ header.type = 3) :
    (withHeader header bytes).kind = .elf := by
  have listed : objectTypes.contains header.type = true := by
    rw [List.contains_iff_mem, objectTypes]
    simpa only [List.mem_cons, List.not_mem_nil, or_false] using type_known
  exact (kind_eq_elf_iff _).mpr ⟨header.type, rfl, listed⟩

end Image

namespace StoresObject

variable {header : FileHeader} {bytes : Array UInt8}

theorem size_le (object : StoresObject header bytes) : bytes.size ≤ UInt64.size := by
  have addressable := object.addressable
  cases fileClass : header.fileClass with
  | bits32 =>
      rw [fileClass] at addressable
      exact Nat.le_trans addressable (by decide)
  | bits64 =>
      rw [fileClass] at addressable
      exact addressable

theorem value_ofBytes (object : StoresObject header bytes) :
    (Image.ofBytes bytes).value = Image.withHeader header bytes :=
  Image.value_ofBytes_of_storedIn object.header_stored object.header_fits

theorem ofHandle_eq {handle : Handle} (healthy : handle.Healthy)
    (object : StoresObject header handle.content) :
    (Session.ofHandle handle).value =
      .ok (.elf (Image.withHeader header handle.content).source
        ((Image.withHeader header handle.content).width.toOption.getD .unknown)
        (Image.withHeader header handle.content).ident .empty) := by
  rw [Session.value_ofHandle_of_healthy healthy, ← object.value_ofBytes]
  apply Session.ofBytes_of_elf
  rw [object.value_ofBytes]
  exact Image.kind_withHeader handle.content object.type_known

end StoresObject

end ElfTables
