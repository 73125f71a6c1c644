namespace ElfTables

structure SegmentFlags where
  bits : UInt32
  deriving DecidableEq, Repr

namespace SegmentFlags

def readable (flags : SegmentFlags) : Bool := flags.bits &&& 4 != 0

def writable (flags : SegmentFlags) : Bool := flags.bits &&& 2 != 0

def executable (flags : SegmentFlags) : Bool := flags.bits &&& 1 != 0

def letters (flags : SegmentFlags) : List Char :=
  (if flags.readable then ['R'] else []) ++ (if flags.writable then ['W'] else []) ++
    (if flags.executable then ['X'] else [])

def text (flags : SegmentFlags) : String := String.ofList flags.letters

def buffer (flags : SegmentFlags) : List UInt8 :=
  flags.letters.map (fun letter => UInt8.ofNat letter.toNat) ++
    List.replicate (4 - flags.letters.length) 0

theorem length_letters_le (flags : SegmentFlags) : flags.letters.length ≤ 3 := by
  unfold letters
  cases flags.readable <;> cases flags.writable <;> cases flags.executable <;> decide

theorem length_buffer (flags : SegmentFlags) : flags.buffer.length = 4 := by
  have short := flags.length_letters_le
  simp only [buffer, List.length_append, List.length_map, List.length_replicate]
  omega

end SegmentFlags

end ElfTables
