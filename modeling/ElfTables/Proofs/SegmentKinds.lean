import ElfTables.Proofs.SessionHistory
import ElfTables.Proofs.TableHistory

namespace ElfTables

namespace SegmentKind

def IsFirst (code : Int) (kind : SegmentKind) : Prop :=
  kind.code = code ∧
    ∃ before after, registry = before ++ kind :: after ∧ ∀ other ∈ before, other.code ≠ code

def IsShadowed (kind : SegmentKind) : Prop := kind ∈ registry ∧ ¬IsFirst kind.code kind

variable {code : Int} {kind : SegmentKind}

theorem find?_eq_some_iff : find? code = some kind ↔ IsFirst code kind := by
  rw [find?, List.find?_eq_some_iff_append, IsFirst]
  simp

theorem find?_eq_none_iff : find? code = none ↔ ∀ kind ∈ registry, kind.code ≠ code := by
  simp [find?]

theorem mem_of_find? (found : find? code = some kind) : kind ∈ registry :=
  List.mem_of_find?_eq_some found

theorem unknown_not_mem : unknown ∉ registry := by
  decide +kernel

theorem code_nonneg : ∀ kind ∈ registry, 0 ≤ kind.code := by
  decide +kernel

theorem find?_unknown : find? unknown.code = none := by
  rw [find?_eq_none_iff]
  intro kind member
  have positive := code_nonneg kind member
  intro same
  rw [same] at positive
  exact absurd positive (by decide)

theorem shadowed_of_registry : ∀ kind ∈ registry,
    find? kind.code ≠ some kind ↔ kind.name = "PT_SUNWBSS" ∨ kind.name = "PT_HISUNW" := by
  decide +kernel

theorem isShadowed_iff :
    IsShadowed kind ↔
      kind ∈ registry ∧ (kind.name = "PT_SUNWBSS" ∨ kind.name = "PT_HISUNW") := by
  rw [IsShadowed, ← find?_eq_some_iff]
  exact and_congr_right (shadowed_of_registry kind)

end SegmentKind

namespace Segment

/-- What the kind of a segment says of its type. -/
structure Annotated (segment : Segment) : Prop where
  kind_of_first : ∀ kind, SegmentKind.IsFirst segment.code.toNat kind → segment.kind = kind
  kind_of_unlisted : (∀ kind ∈ SegmentKind.registry, kind.code ≠ segment.code.toNat) →
    segment.kind = SegmentKind.unknown
  isKnown_iff : segment.isKnown = true ↔
    ∃ kind ∈ SegmentKind.registry, kind.code = segment.code.toNat
  code_of_known : segment.isKnown = true → segment.kind.code = segment.code.toNat
  code_of_unknown : segment.isKnown = false → segment.kind.code = -1
  /-- No type is the code of the kind of unknown segments, not even the one with all bits set. -/
  code_ne_unknown : (segment.code.toNat : Int) ≠ SegmentKind.unknown.code
  unknown_of_ones : segment.code = 0xffffffff → segment.isKnown = false
  not_isShadowed : ¬SegmentKind.IsShadowed segment.kind

variable {segment : Segment} {kind : SegmentKind}

theorem kind_of_find? (found : SegmentKind.find? segment.code.toNat = some kind) :
    segment.kind = kind := by
  rw [Segment.kind, SegmentKind.ofCode, found, Option.getD_some]

theorem kind_of_find?_none (strange : SegmentKind.find? segment.code.toNat = none) :
    segment.kind = SegmentKind.unknown := by
  rw [Segment.kind, SegmentKind.ofCode, strange, Option.getD_none]

theorem isKnown_of_find? (found : SegmentKind.find? segment.code.toNat = some kind) :
    segment.isKnown = true := by
  rw [isKnown, kind_of_find? found, bne_iff_ne]
  intro same
  have listed := SegmentKind.mem_of_find? found
  rw [same] at listed
  exact SegmentKind.unknown_not_mem listed

theorem isKnown_of_find?_none (strange : SegmentKind.find? segment.code.toNat = none) :
    segment.isKnown = false := by
  rw [isKnown, kind_of_find?_none strange, bne_self_eq_false]

theorem isKnown_eq_isSome (segment : Segment) :
    segment.isKnown = (SegmentKind.find? segment.code.toNat).isSome := by
  cases found : SegmentKind.find? segment.code.toNat with
  | some kind => exact isKnown_of_find? found
  | none => exact isKnown_of_find?_none found

theorem not_isShadowed_kind (segment : Segment) : ¬SegmentKind.IsShadowed segment.kind := by
  intro shadowed
  cases found : SegmentKind.find? segment.code.toNat with
  | none =>
      rw [kind_of_find?_none found] at shadowed
      exact SegmentKind.unknown_not_mem shadowed.1
  | some kind =>
      rw [kind_of_find? found] at shadowed
      apply shadowed.2
      rw [← SegmentKind.find?_eq_some_iff, SegmentKind.code_of_find? found]
      exact found

theorem annotated (segment : Segment) : segment.Annotated where
  kind_of_first := by
    intro kind first
    exact kind_of_find? (SegmentKind.find?_eq_some_iff.mpr first)
  kind_of_unlisted := by
    intro absent
    exact kind_of_find?_none (SegmentKind.find?_eq_none_iff.mpr absent)
  isKnown_iff := by
    rw [isKnown_eq_isSome, SegmentKind.find?, List.find?_isSome]
    simp only [beq_iff_eq]
  code_of_known := by
    intro known
    rw [isKnown_eq_isSome] at known
    rcases Option.isSome_iff_exists.mp known with ⟨kind, found⟩
    rw [kind_of_find? found, SegmentKind.code_of_find? found]
  code_of_unknown := by
    intro unknown
    rw [isKnown_eq_isSome] at unknown
    have strange := Option.isNone_iff_eq_none.mp (Option.isSome_eq_false_iff.mp unknown)
    rw [kind_of_find?_none strange]
    rfl
  code_ne_unknown := by
    intro same
    have positive := Int.natCast_nonneg segment.code.toNat
    rw [same] at positive
    exact absurd positive (by decide)
  unknown_of_ones := by
    intro ones
    rw [isKnown_eq_isSome, ones]
    decide +kernel
  not_isShadowed := segment.not_isShadowed_kind

end Segment

namespace SegmentTable

inductive Call.Asks : Call → Source → Nat → Prop
  | load (source : Source) (index : Nat) : Asks (.load source) source index
  | entry (source : Source) (index : Nat) : Asks (.loadEntry source index) source index

/-- The segment was made of a header that one of these calls has read. -/
def ReadBy (calls : List Call) (segment : Segment) : Prop :=
  ∃ call ∈ calls, ∃ source index header, call.Asks source index ∧
    source.segmentHeader index = .ok header ∧ segment = .ofHeader header

theorem ReadBy.mono {calls more : List Call} {segment : Segment} (read : ReadBy calls segment)
    (extends_calls : calls ⊆ more) : ReadBy more segment := by
  rcases read with ⟨call, member, rest⟩
  exact ⟨call, extends_calls member, rest⟩

theorem Gains.readBy {call : Call} {reply : Reply} {headers : List SegmentHeader}
    (gains : Gains call reply headers) : ∀ header ∈ headers, ReadBy [call] (.ofHeader header) := by
  have whole {source : Source} {headers : List SegmentHeader} (reads : source.Reads 0 headers) :
      ∀ header ∈ headers, ReadBy [.load source] (.ofHeader header) := by
    intro header member
    rcases List.mem_iff_getElem.mp member with ⟨index, inside, rfl⟩
    exact ⟨_, List.mem_singleton_self _, source, _, _, .load source _, reads index inside, rfl⟩
  cases gains with
  | whole counted reads => exact whole reads
  | stopped counted short reads failed => exact whole reads
  | entry read =>
      intro header member
      cases List.mem_singleton.mp member
      exact ⟨_, List.mem_singleton_self _, _, _, _, .entry _ _, read, rfl⟩
  | uncounted failed => exact List.forall_mem_nil _
  | noEntry failed => exact List.forall_mem_nil _
  | cleared => exact List.forall_mem_nil _

theorem readBy_of_mem_perform {table : SegmentTable} {call : Call} {segment : Segment}
    (member : segment ∈ (table.perform call).1.toList) :
    segment ∈ table.toList ∨ ReadBy [call] segment := by
  rcases table.perform_spec call with ⟨headers, gains, held⟩
  rw [held, List.mem_append] at member
  rcases member with before | gained
  · split at before
    · cases before
    · exact Or.inl before
  · rcases List.mem_map.mp gained with ⟨header, found, rfl⟩
    exact Or.inr (gains.readBy header found)

theorem readBy_of_mem_run {table : SegmentTable} {calls : List Call} {segment : Segment}
    (member : segment ∈ (table.run calls).1.toList) :
    segment ∈ table.toList ∨ ReadBy calls segment := by
  -- The induction is on the calls, over the table that the first of them leaves behind.
  induction calls generalizing table with
  | nil => exact Or.inl member
  | cons call rest ih =>
      rcases ih member with first | read
      · rcases readBy_of_mem_perform first with held | read
        · exact Or.inl held
        · exact Or.inr (read.mono (List.cons_subset_cons call (List.nil_subset rest)))
      · exact Or.inr (read.mono (List.subset_cons_self call rest))

end SegmentTable

namespace Session

theorem mem_table_of_run {session : Session} {requests : List Request} {segment : Segment}
    (member : segment ∈ (session.run requests).1.table.toList) :
    segment ∈ session.table.toList ∨ segment ∈ session.build.value.1.table.toList := by
  rw [run_fst_eq_settled, settled] at member
  split at member
  · cases member
  · split at member
    · exact Or.inr member
    · exact Or.inl member

theorem exists_header_of_mem_run {source : Source} {opened : Session}
    (opening : (ofSource source).value = .ok opened) {requests : List Request}
    {segment : Segment} (member : segment ∈ (opened.run requests).1.table.toList) :
    ∃ index header, source.segmentHeader index = .ok header ∧ segment = .ofHeader header := by
  cases elf : opened.isElf with
  | false =>
      rw [inert_of_value_ofSource opening elf] at member
      rcases mem_table_of_run member with before | built
      · cases before
      · cases built
  | true =>
      have fresh := elf_of_value_ofSource opening elf
      rw [fresh] at member
      rcases mem_table_of_run member with before | built
      · cases before
      · exact exists_header_of_mem_build rfl built

end Session

namespace SegmentKind

/-- A look-up gives the first entry of the registry with the code, if there is one. Every segment
that is loaded, be it by calls of a table or by requests to a session, was made of a header that
was read, and is annotated by its type. -/
theorem loaded_segments_annotated :
    (∀ code, (∀ kind, find? code = some kind ↔ IsFirst code kind) ∧
      (find? code = none ↔ ∀ kind ∈ registry, kind.code ≠ code)) ∧
    find? (-1) = none ∧
    (∀ kind, IsShadowed kind ↔
      kind ∈ registry ∧ (kind.name = "PT_SUNWBSS" ∨ kind.name = "PT_HISUNW")) ∧
    (∀ calls, ∀ segment ∈ (SegmentTable.empty.run calls).1.toList,
      SegmentTable.ReadBy calls segment ∧ segment.Annotated) ∧
    ∀ source opened, (Session.ofSource source).value = .ok opened →
      ∀ requests, ∀ segment ∈ (opened.run requests).1.table.toList,
        (∃ index header, source.segmentHeader index = .ok header ∧
          segment = .ofHeader header) ∧ segment.Annotated := by
  refine ⟨fun _ => ⟨fun _ => find?_eq_some_iff, find?_eq_none_iff⟩, find?_unknown,
    fun _ => isShadowed_iff, ?calls, ?requests⟩
  case calls =>
    intro calls segment member
    refine ⟨?_, segment.annotated⟩
    rcases SegmentTable.readBy_of_mem_run member with before | read
    · cases before
    · exact read
  case requests =>
    intro source opened opening requests segment member
    exact ⟨Session.exists_header_of_mem_run opening member, segment.annotated⟩

def ofTypes (types : List UInt32) : Source where
  setup := .ok ()
  kind := .elf
  width := .ok .bits32
  ident := none
  segmentCount := .ok types.length
  segmentHeader index :=
    match types[index]? with
    | some type => .ok ⟨type, 4, 0x1000, 0x8000, 0x8000, 0x10, 0x20, 4⟩
    | none => .error (.badOffset index)
  sectionCount := .ok 0
  sectionHeader index := .error (.badOffset index)
  nameTable := .ok 0
  stringAt _ offset := .error (.badOffset offset)

theorem loaded_segments_annotated_twice :
    let source := ofTypes [0x6ffffffa, 0xffffffff]
    let opened : Session := .elf source .bits32 none .empty
    let twice := Segment.ofHeader ⟨0x6ffffffa, 4, 0x1000, 0x8000, 0x8000, 0x10, 0x20, 4⟩
    let ones := Segment.ofHeader ⟨0xffffffff, 4, 0x1000, 0x8000, 0x8000, 0x10, 0x20, 4⟩
    let calls := [.load source, .loadEntry source 0]
    (Session.ofSource source).value = .ok opened ∧
      ones ∈ (opened.run [.build, .sections]).1.table.toList ∧
      twice ∈ (SegmentTable.empty.run calls).1.toList ∧
      ones.isKnown = false ∧ ones.kind.code = -1 ∧ ones.code.toNat = 0xffffffff ∧
      SegmentTable.ReadBy calls twice ∧ ¬IsShadowed twice.kind ∧
      twice.kind.name = "PT_LOSUNW" := by
  intro source opened twice ones calls
  have opening : (Session.ofSource source).value = .ok opened := rfl
  have loaded : ones ∈ (opened.run [.build, .sections]).1.table.toList := by decide +kernel
  have called : twice ∈ (SegmentTable.empty.run calls).1.toList := by decide +kernel
  have requested := loaded_segments_annotated.2.2.2.2 source opened opening _ ones loaded
  have read := loaded_segments_annotated.2.2.2.1 calls twice called
  have unknown := requested.2.unknown_of_ones rfl
  exact ⟨opening, loaded, called, unknown, requested.2.code_of_unknown unknown, rfl, read.1,
    read.2.not_isShadowed, by decide +kernel⟩

end SegmentKind

end ElfTables
