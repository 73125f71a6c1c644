import ElfTables.Proofs.SegmentLoads

namespace ElfTables.SegmentTable

inductive Call where
  | load (source : Source)
  | loadEntry (source : Source) (index : Nat)
  | clear

inductive Reply where
  | loaded (outcome : Except QueryError Nat)
  | entry (outcome : Except QueryError Segment)
  | cleared

def Call.isClear : Call → Bool
  | .clear => true
  | .load _ | .loadEntry _ _ => false

def perform (table : SegmentTable) : Call → SegmentTable × Reply
  | .load source => ((table.load source).value.1, .loaded (table.load source).value.2)
  | .loadEntry source index =>
    ((table.loadEntry source index).1, .entry (table.loadEntry source index).2)
  | .clear => (.empty, .cleared)

def run (table : SegmentTable) : List Call → SegmentTable × List (Call × Reply)
  | [] => (table, [])
  | call :: rest =>
    (((table.perform call).1.run rest).1,
      (call, (table.perform call).2) :: ((table.perform call).1.run rest).2)

/-- The calls behind the last clearing, with their replies. -/
def sinceClear (events : List (Call × Reply)) : List (Call × Reply) :=
  events.rtakeWhile fun event => !event.1.isClear

/-- The headers that a call has read when this is its reply. -/
inductive Gains : Call → Reply → List SegmentHeader → Prop
  /-- The whole table of the source. -/
  | whole {source : Source} {headers : List SegmentHeader}
      (counted : source.segmentCount = .ok headers.length) (reads : source.Reads 0 headers) :
      Gains (.load source) (.loaded (.ok headers.length)) headers
  /-- All in front of the first header that cannot be read, for that header's own reason. -/
  | stopped {source : Source} {count : Nat} {headers : List SegmentHeader} {cause : ReadError}
      (counted : source.segmentCount = .ok count) (short : headers.length < count)
      (reads : source.Reads 0 headers)
      (failed : source.segmentHeader headers.length = .error cause) :
      Gains (.load source) (.loaded (.error (.segmentHeader headers.length cause))) headers
  | uncounted {source : Source} {cause : ReadError}
      (failed : source.segmentCount = .error cause) :
      Gains (.load source) (.loaded (.error (.segmentCount cause))) []
  | entry {source : Source} {index : Nat} {header : SegmentHeader}
      (read : source.segmentHeader index = .ok header) :
      Gains (.loadEntry source index) (.entry (.ok (.ofHeader header))) [header]
  | noEntry {source : Source} {index : Nat} {cause : ReadError}
      (failed : source.segmentHeader index = .error cause) :
      Gains (.loadEntry source index) (.entry (.error (.segmentHeader index cause))) []
  | cleared : Gains .clear .cleared []

theorem gains_load (table : SegmentTable) (source : Source) :
    ∃ headers, Gains (.load source) (.loaded (table.load source).value.2) headers ∧
      (table.load source).value.1.toList = table.toList ++ headers.map Segment.ofHeader := by
  obtain ⟨headers, stops, reads, kept, ending⟩ := table.load_spec source
  refine ⟨headers, ?_, kept⟩
  rcases ending with ⟨cause, failed, outcome⟩ | ⟨counted, outcome⟩ |
    ⟨count, cause, counted, short, failed, outcome⟩
  · rw [Source.StopsAt, failed] at stops
    rw [List.length_eq_zero_iff.mp stops, outcome]
    exact .uncounted failed
  · rw [outcome]
    exact .whole counted reads
  · rw [outcome]
    exact .stopped counted short reads failed

theorem gains_loadEntry (table : SegmentTable) (source : Source) (index : Nat) :
    ∃ headers, Gains (.loadEntry source index) (.entry (table.loadEntry source index).2) headers ∧
      (table.loadEntry source index).1.toList =
        table.toList ++ headers.map Segment.ofHeader := by
  cases read : source.segmentHeader index with
  | ok header =>
      refine ⟨[header], ?_, ?_⟩
      · rw [loadEntry, read]
        exact .entry read
      · rw [loadEntry, read, toList_push, List.map_singleton]
  | error cause =>
      refine ⟨[], ?_, ?_⟩
      · rw [loadEntry, read]
        exact .noEntry read
      · rw [loadEntry, read, List.map_nil, List.append_nil]

theorem perform_spec (table : SegmentTable) (call : Call) :
    ∃ headers, Gains call (table.perform call).2 headers ∧
      (table.perform call).1.toList =
        (if call.isClear then [] else table.toList) ++ headers.map Segment.ofHeader := by
  cases call with
  | load source => exact table.gains_load source
  | loadEntry source index => exact table.gains_loadEntry source index
  | clear => exact ⟨[], .cleared, rfl⟩

theorem perform_isPrefix (table : SegmentTable) {call : Call} (keeps : call.isClear = false) :
    table.toList <+: (table.perform call).1.toList := by
  obtain ⟨headers, _, held⟩ := table.perform_spec call
  rw [keeps] at held
  rw [held]
  exact List.prefix_append _ _

theorem run_append (table : SegmentTable) (calls later : List Call) :
    table.run (calls ++ later) =
      (((table.run calls).1.run later).1, (table.run calls).2 ++ ((table.run calls).1.run later).2) := by
  induction calls generalizing table with
  | nil => rfl
  | cons call rest ih => rw [List.cons_append, run, ih, run, List.cons_append]

theorem map_fst_run (table : SegmentTable) (calls : List Call) :
    (table.run calls).2.map Prod.fst = calls := by
  induction calls generalizing table with
  | nil => rfl
  | cons call rest ih => rw [run, List.map_cons, ih]

theorem run_isPrefix (table : SegmentTable) {calls : List Call}
    (keep : ∀ call ∈ calls, call.isClear = false) :
    table.toList <+: (table.run calls).1.toList := by
  induction calls generalizing table with
  | nil => exact List.prefix_refl _
  | cons call rest ih =>
      have first := table.perform_isPrefix (keep call List.mem_cons_self)
      exact first.trans (ih _ fun other member => keep other (List.mem_cons_of_mem _ member))

theorem run_empty_gains (calls : List Call) :
    ∃ gains, List.Forall₂ (fun event headers => Gains event.1 event.2 headers)
        (sinceClear (empty.run calls).2) gains ∧
      (empty.run calls).1.toList = gains.flatten.map Segment.ofHeader := by
  -- The induction is on the calls from the last one back: a clearing cuts off all in front of it.
  induction calls using List.reverseRecOn with
  | nil => exact ⟨[], .nil, rfl⟩
  | append_singleton calls call ih =>
      obtain ⟨gains, matched, held⟩ := ih
      obtain ⟨headers, gained, after⟩ := (empty.run calls).1.perform_spec call
      rw [run_append, run, run, sinceClear, List.rtakeWhile_concat]
      cases clears : call.isClear with
      | true =>
          -- Nothing is left to account for: both the calls and the table start afresh.
          cases call with
          | load source => cases clears
          | loadEntry source index => cases clears
          | clear => exact ⟨[], .nil, rfl⟩
      | false =>
          refine ⟨gains ++ [headers], ?_, ?_⟩
          · exact List.rel_append matched (.cons gained .nil)
          · rw [clears] at after
            rw [List.flatten_append, List.flatten_singleton, List.map_append, ← held]
            exact after

/-- However calls follow one another, the table holds the headers read since it was last cleared,
and only clearing removes or changes any of them. -/
theorem run_empty_holds (calls : List Call) :
    let last := (empty.run calls).1
    let events := (empty.run calls).2
    events.map Prod.fst = calls ∧
      (∃ gains, List.Forall₂ (fun event headers => Gains event.1 event.2 headers)
          (sinceClear events) gains ∧
        last.toList = gains.flatten.map Segment.ofHeader) ∧
      ∀ later, (∀ call ∈ later, call.isClear = false) →
        last.toList <+: (empty.run (calls ++ later)).1.toList := by
  refine ⟨map_fst_run empty calls, run_empty_gains calls, ?_⟩
  intro later keep
  rw [run_append]
  exact run_isPrefix _ keep

def readableBelow (readable : Nat) (count : Except ReadError Nat) : Source where
  setup := .ok ()
  kind := .elf
  width := .ok .bits32
  ident := none
  segmentCount := count
  segmentHeader index :=
    if index < readable then .ok ⟨1, 4, UInt64.ofNat index, 0x8000, 0x8000, 0x10, 0x20, 4⟩
    else .error (.badOffset index)
  sectionCount := .ok 0
  sectionHeader index := .error (.badOffset index)
  nameTable := .ok 0
  stringAt _ offset := .error (.badOffset offset)

def interleavedCalls : List Call :=
  [.load (readableBelow 2 (.ok 3)), .clear,
    .loadEntry (readableBelow 9 (.error (.malformed .noHeader))) 7,
    .load (readableBelow 9 (.error (.malformed .noHeader))),
    .loadEntry (readableBelow 2 (.ok 3)) 2, .load (readableBelow 2 (.ok 3))]

theorem run_empty_holds_interleaved :
    (∀ call ∈ [Call.load (readableBelow 2 (.ok 3))], call.isClear = false) ∧
      (empty.run interleavedCalls).1.toList.map Segment.fileOffset = [7, 0, 1] ∧
      (empty.run interleavedCalls).1.toList <+:
        (empty.run (interleavedCalls ++ [.load (readableBelow 2 (.ok 3))])).1.toList := by
  have keep : ∀ call ∈ [Call.load (readableBelow 2 (.ok 3))], call.isClear = false := by
    intro call member
    rw [List.mem_singleton.mp member]
    rfl
  exact ⟨keep, by decide, (run_empty_holds interleavedCalls).2.2 _ keep⟩

end ElfTables.SegmentTable
