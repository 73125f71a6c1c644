namespace ElfTables

structure SegmentKind where
  code : Int
  name : String
  description : String
  deriving DecidableEq, Repr

namespace SegmentKind

def registry : List SegmentKind :=
  [⟨0, "PT_NULL", "Unused"⟩,
    ⟨1, "PT_LOAD", "Loadable segment"⟩,
    ⟨2, "PT_DYNAMIC", "Dynamic linking info"⟩,
    ⟨3, "PT_INTERP", "Interpreter field"⟩,
    ⟨4, "PT_NOTE", "Auxiliary info"⟩,
    ⟨5, "PT_SHLIB", "Non-standard"⟩,
    ⟨6, "PT_PHDR", "PHT size"⟩,
    ⟨7, "PT_TLS", "Thread local storage"⟩,
    ⟨0x60000000, "PT_LOOS", "System specific (lo/start mark)"⟩,
    ⟨0x6fffffff, "PT_HIOS", "System specific (hi/end mark)"⟩,
    ⟨0x70000000, "PT_LOPROC", "CPU specific (lo/start mark)"⟩,
    ⟨0x7fffffff, "PT_HIPROC", "CPU specific (hi/end mark)"⟩,
    ⟨0x6474e550, "PT_GNU_EH_FRAME", "GCC .eh_frame_hdr segment"⟩,
    ⟨0x6474e551, "PT_GNU_STACK", "Indicates stack executability"⟩,
    ⟨0x6474e552, "PT_GNU_RELRO", "Read-only after relocation"⟩,
    ⟨0x6474e553, "PT_GNU_PROPERTY", "GNU property notes"⟩,
    ⟨0x6ffffffa, "PT_LOSUNW", "Sun specific (lo/start mark)"⟩,
    ⟨0x6ffffffa, "PT_SUNWBSS", "Sun specific segment"⟩,
    ⟨0x6ffffffb, "PT_SUNWSTACK", "Sun stack segment"⟩,
    ⟨0x6fffffff, "PT_HISUNW", "Sun specific (hi/end mark)"⟩]

/-- Stands for every code outside the registry; its own code is no 32-bit value. -/
def unknown : SegmentKind := ⟨-1, "???", "Unknown PHT type"⟩

def find? (code : Int) : Option SegmentKind := registry.find? fun kind => kind.code == code

/-- The kind of a segment whose type field holds `code`, read as an unsigned number. -/
def ofCode (code : UInt32) : SegmentKind := (find? code.toNat).getD unknown

theorem code_of_find? {code : Int} {kind : SegmentKind} (found : find? code = some kind) :
    kind.code = code := by
  simpa using List.find?_some found

end SegmentKind

end ElfTables
