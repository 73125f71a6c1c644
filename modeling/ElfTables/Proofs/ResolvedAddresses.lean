import ElfTables.Proofs.CoveringSegments
import ElfTables.Proofs.TableHistory

namespace ElfTables

section Segments

variable {front whole segments : List Segment} {address : UInt64}

theorem coveringSegment?_append (front back : List Segment) (address : UInt64) :
    coveringSegment? (front ++ back) address =
      (coveringSegment? front address).or (coveringSegment? back address) :=
  List.find?_append

theorem fileOffset?_append (front back : List Segment) (address : UInt64) :
    fileOffset? (front ++ back) address =
      (fileOffset? front address).or (fileOffset? back address) := by
  simp only [fileOffset?, coveringSegment?_append, Option.map_or]

theorem coveringSegment?_of_isPrefix (grown : front <+: whole) {segment : Segment}
    (found : coveringSegment? front address = some segment) :
    coveringSegment? whole address = some segment := by
  rcases grown with ⟨back, rfl⟩
  simp only [coveringSegment?_append, found, Option.some_or]

theorem fileOffset?_of_isPrefix (grown : front <+: whole) {offset : UInt64}
    (found : fileOffset? front address = some offset) :
    fileOffset? whole address = some offset := by
  rcases grown with ⟨back, rfl⟩
  simp only [fileOffset?_append, found, Option.some_or]

theorem coveringIndex?_of_isPrefix (grown : front <+: whole) {index : Nat}
    (found : coveringIndex? front address = some index) :
    coveringIndex? whole address = some index := by
  rcases grown with ⟨back, rfl⟩
  rw [coveringIndex?] at found ⊢
  rw [List.findIdx?_append, found, Option.some_or]

theorem coveringSegment?_of_index {index : Nat}
    (found : coveringIndex? segments address = some index) :
    ∃ segment, segments[index]? = some segment ∧
      coveringSegment? segments address = some segment := by
  have inside := lt_length_of_mem_reaching (coveringIndex?_eq_some_iff.mp found).1
  have present := List.getElem?_eq_getElem inside
  refine ⟨segments[index], present, ?_⟩
  rw [coveringSegment?_eq_bind, found]
  exact present

end Segments

/-- The source counts these headers, and those of them that it can read it reads as they are. -/
structure Source.ReadsPartOf (source : Source) (headers : List SegmentHeader) : Prop where
  counted : source.segmentCount = .ok headers.length
  agrees : ∀ index (inside : index < headers.length) header,
    source.segmentHeader index = .ok header → header = headers[index]

theorem Session.build_isPrefix_of_readsPartOf {source : Source} {headers : List SegmentHeader}
    (part : source.ReadsPartOf headers) (width : AddressWidth) (ident : Option (List UInt8))
    (before : SegmentTable) :
    (build (.elf source width ident before)).value.1.table.toList <+:
      headers.map Segment.ofHeader := by
  have opened : (Session.elf source width ident before).source = .ok source := rfl
  rcases Session.build_spec opened with
    ⟨readable, stops, reads, kept, _⟩
  have short : readable.length ≤ headers.length := by
    rw [Source.StopsAt, part.counted] at stops
    exact stops.2 (Or.inl rfl)
  have front : readable <+: headers := by
    rw [List.prefix_iff_getElem]
    refine ⟨short, ?_⟩
    intro index inside
    have read := reads index inside
    rw [Nat.zero_add] at read
    exact part.agrees index (Nat.lt_of_lt_of_le inside short) _ read
  rw [kept]
  exact front.map Segment.ofHeader

namespace SegmentTable

theorem run_fileOffset? {table : SegmentTable} {calls : List Call} {address offset : UInt64}
    (keep : ∀ call ∈ calls, call.isClear = false)
    (found : table.fileOffset? address = some offset) :
    (table.run calls).1.fileOffset? address = some offset :=
  fileOffset?_of_isPrefix (table.run_isPrefix keep) found

theorem run_coveringIndex? {table : SegmentTable} {calls : List Call} {address : UInt64}
    {index : Nat} (keep : ∀ call ∈ calls, call.isClear = false)
    (found : coveringIndex? table.toList address = some index) :
    coveringIndex? (table.run calls).1.toList address = some index ∧
      ∃ segment, table.toList[index]? = some segment ∧
        (table.run calls).1.toList[index]? = some segment ∧
        (table.run calls).1.coveringSegment? address = some segment := by
  have grown := table.run_isPrefix keep
  have later := coveringIndex?_of_isPrefix grown found
  rcases coveringSegment?_of_index found with ⟨segment, present, covering⟩
  rcases coveringSegment?_of_index later with ⟨other, there, answers⟩
  have same : other = segment := by
    apply Option.some.inj
    calc
      _ = ElfTables.coveringSegment? (table.run calls).1.toList address := answers.symm
      _ = some segment := coveringSegment?_of_isPrefix grown covering
  subst same
  exact ⟨later, other, present, there, answers⟩

/-- An address that a table resolves is resolved alike, by the same segment in the same place, by
what any loads and single reads make of the table. Of a list in two parts the second answers only
where the first does not; so the front of a table that a build reads before it fails answers as
the whole table does. -/
theorem resolved_stays (address : UInt64) :
    (∀ (table : SegmentTable) (calls : List Call) offset index,
      table.fileOffset? address = some offset →
      coveringIndex? table.toList address = some index →
      (∀ call ∈ calls, call.isClear = false) →
      let later := (table.run calls).1
      later.fileOffset? address = some offset ∧
        coveringIndex? later.toList address = some index ∧
        ∃ segment, table.toList[index]? = some segment ∧ later.toList[index]? = some segment ∧
          later.coveringSegment? address = some segment) ∧
    (∀ front back : List Segment,
      ElfTables.fileOffset? (front ++ back) address =
        (ElfTables.fileOffset? front address).or (ElfTables.fileOffset? back address)) ∧
    ∀ (source : Source) width ident before (headers : List SegmentHeader),
      source.ReadsPartOf headers →
      let built := (Session.build (.elf source width ident before)).value.1.table
      let whole := headers.map Segment.ofHeader
      (∀ offset, built.fileOffset? address = some offset →
        ElfTables.fileOffset? whole address = some offset) ∧
      ∀ segment, built.coveringSegment? address = some segment →
        ElfTables.coveringSegment? whole address = some segment := by
  refine ⟨?_, fun front back => fileOffset?_append front back address, ?_⟩
  · intro table calls offset index resolved through keep
    exact ⟨run_fileOffset? keep resolved, run_coveringIndex? keep through⟩
  · intro source width ident before headers part
    have front := Session.build_isPrefix_of_readsPartOf part width ident before
    constructor
    · intro offset found
      exact fileOffset?_of_isPrefix front found
    · intro segment found
      exact coveringSegment?_of_isPrefix front found

def overlappingHeaders : List SegmentHeader :=
  [⟨1, 5, 0x10, 100, 100, 100, 100, 1⟩, ⟨1, 4, 0x4000, 150, 150, 100, 100, 1⟩]

def overlappingBelow (readable : Nat) : Source where
  setup := .ok ()
  kind := .elf
  width := .ok .bits64
  ident := none
  segmentCount := .ok 2
  segmentHeader index :=
    match (overlappingHeaders.take readable)[index]? with
    | some header => .ok header
    | none => .error (.badOffset index)
  sectionCount := .ok 0
  sectionHeader index := .error (.badOffset index)
  nameTable := .ok 0
  stringAt _ offset := .error (.badOffset offset)

theorem resolved_stays_overlapping :
    let table := (empty.load (overlappingBelow 1)).value.1
    let calls := [Call.loadEntry (overlappingBelow 2) 1, .load (overlappingBelow 1),
      .loadEntry (overlappingBelow 1) 1, .load (overlappingBelow 2)]
    (table.run calls).1.size = 5 ∧ (table.run calls).1.fileOffset? 170 = some 0x56 ∧
      coveringIndex? (table.run calls).1.toList 170 = some 0 ∧
      ElfTables.fileOffset? (overlappingHeaders.map Segment.ofHeader) 170 = some 0x56 := by
  intro table calls
  have keep : ∀ call ∈ calls, call.isClear = false := by decide
  have part : (overlappingBelow 1).ReadsPartOf overlappingHeaders := by
    refine ⟨rfl, ?_⟩
    intro index inside header read
    cases index with
    | zero => exact (Except.ok.inj read).symm
    | succ index => cases read
  rcases (resolved_stays 170).1 table calls 0x56 0 (by decide) (by decide) keep with
    ⟨offset, index, _⟩
  exact ⟨by decide, offset, index,
    ((resolved_stays 170).2.2 (overlappingBelow 1) .bits64 none .empty _ part).1 _ (by decide)⟩

end SegmentTable

end ElfTables
