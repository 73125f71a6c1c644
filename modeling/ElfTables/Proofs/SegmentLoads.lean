import ElfTables.Session
import Mathlib

/-!
What loading a segment table keeps: the headers in front of the first that cannot be read
(`SegmentTable.load_spec`), whether or not the load succeeds.
-/
namespace ElfTables

def Source.Reads (source : Source) (start : Nat) (headers : List SegmentHeader) : Prop :=
  ∀ index (inside : index < headers.length),
    source.segmentHeader (start + index) = .ok headers[index]

/-- Where reading in order ends: at the count or the first header that cannot be read, whichever
comes first, and at once without a count. -/
def Source.StopsAt (source : Source) (stop : Nat) : Prop :=
  match source.segmentCount with
  | .error _ => stop = 0
  | .ok count =>
    IsLeast {index | index = count ∨ ∃ cause, source.segmentHeader index = .error cause} stop

namespace Source

variable {source : Source} {start : Nat} {headers : List SegmentHeader}

theorem Reads.nil (source : Source) (start : Nat) : source.Reads start [] := by
  intro index inside
  cases inside

theorem Reads.cons {header : SegmentHeader} (first : source.segmentHeader start = .ok header)
    (rest : source.Reads (start + 1) headers) : source.Reads start (header :: headers) := by
  intro index inside
  cases index with
  | zero => exact first
  | succ index =>
      have later := rest index (Nat.lt_of_succ_lt_succ inside)
      rwa [Nat.add_assoc, Nat.add_comm 1 index] at later

theorem Reads.isPrefix {others : List SegmentHeader} (first : source.Reads start headers)
    (second : source.Reads start others) (shorter : headers.length ≤ others.length) :
    headers <+: others := by
  rw [List.prefix_iff_getElem]
  refine ⟨shorter, ?_⟩
  intro index inside
  have there := second index (Nat.lt_of_lt_of_le inside shorter)
  exact Except.ok.inj ((first index inside).symm.trans there)

theorem Reads.unique {others : List SegmentHeader} (first : source.Reads start headers)
    (second : source.Reads start others) (same : headers.length = others.length) :
    headers = others :=
  (first.isPrefix second (Nat.le_of_eq same)).eq_of_length same

theorem Reads.stopsAt (reads : source.Reads 0 headers) {count : Nat}
    (counted : source.segmentCount = .ok count) (bound : headers.length ≤ count)
    (ending : headers.length = count ∨
      ∃ cause, source.segmentHeader headers.length = .error cause) :
    source.StopsAt headers.length := by
  rw [StopsAt, counted]
  refine ⟨ending, ?_⟩
  intro index earlier
  rcases earlier with rfl | ⟨cause, fails⟩
  · exact bound
  · by_contra inside
    have read := reads index (Nat.lt_of_not_le inside)
    rw [Nat.zero_add, fails] at read
    cases read

theorem StopsAt.unique {first second : Nat} (left : source.StopsAt first)
    (right : source.StopsAt second) : first = second := by
  unfold StopsAt at left right
  cases counted : source.segmentCount with
  | error cause =>
      rw [counted] at left right
      exact left.trans right.symm
  | ok count =>
      rw [counted] at left right
      exact left.unique right

end Source

namespace SegmentTable

theorem appendFrom_spec (source : Source) (table : SegmentTable) (start count : Nat) :
    ∃ headers, source.Reads start headers ∧
      (appendFrom source table start count).1.toList =
        table.toList ++ headers.map Segment.ofHeader ∧
      ((appendFrom source table start count).2 = none ∧ headers.length = count ∨
        ∃ cause, (appendFrom source table start count).2 = some (start + headers.length, cause) ∧
          headers.length < count ∧
          source.segmentHeader (start + headers.length) = .error cause) := by
  induction count generalizing table start with
  | zero =>
      refine ⟨[], Source.Reads.nil source start, ?_, Or.inl ⟨rfl, rfl⟩⟩
      simp only [appendFrom, List.map_nil, List.append_nil]
  | succ count ih =>
      cases read : source.segmentHeader start with
      | error cause =>
          refine ⟨[], Source.Reads.nil source start, ?_, Or.inr ⟨cause, ?_, ?_, read⟩⟩
          · simp only [appendFrom, read, List.map_nil, List.append_nil]
          · simp only [appendFrom, read, List.length_nil, Nat.add_zero]
          · exact Nat.succ_pos count
      | ok header =>
          obtain ⟨headers, reads, kept, ending⟩ := ih (table.push (.ofHeader header)) (start + 1)
          have shifted : start + (header :: headers).length = start + 1 + headers.length := by
            rw [List.length_cons]
            omega
          refine ⟨header :: headers, Source.Reads.cons read reads, ?_, ?_⟩
          · simp only [appendFrom, read, kept, toList_push, List.map_cons, List.append_assoc,
              List.singleton_append]
          · rw [shifted, List.length_cons, Nat.succ_lt_succ_iff, Nat.succ_inj]
            simp only [appendFrom, read]
            exact ending

theorem value_load_of_error {source : Source} {cause : ReadError} (table : SegmentTable)
    (uncounted : source.segmentCount = .error cause) :
    (table.load source).value = (table, .error (.segmentCount cause)) := by
  simp only [load, uncounted, Logged.value_pure]

theorem value_load_of_finished {source : Source} {count : Nat} {table : SegmentTable}
    (counted : source.segmentCount = .ok count)
    (finished : (appendFrom source table 0 count).2 = none) :
    (table.load source).value = ((appendFrom source table 0 count).1, .ok count) := by
  rcases result : appendFrom source table 0 count with ⟨loaded, failure⟩
  rw [result] at finished
  subst finished
  simp only [load, counted, result, Logged.value_bind, Logged.value_pure]

theorem value_load_of_stopped {source : Source} {count stop : Nat} {cause : ReadError}
    {table : SegmentTable} (counted : source.segmentCount = .ok count)
    (stopped : (appendFrom source table 0 count).2 = some (stop, cause)) :
    (table.load source).value =
      ((appendFrom source table 0 count).1, .error (.segmentHeader stop cause)) := by
  rcases result : appendFrom source table 0 count with ⟨loaded, failure⟩
  rw [result] at stopped
  subst stopped
  simp only [load, counted, result, Logged.value_bind, Logged.value_pure]

/-- The three ways in which a load ends. In each it keeps the headers in front of its end. -/
theorem load_spec (table : SegmentTable) (source : Source) :
    ∃ headers, source.StopsAt headers.length ∧ source.Reads 0 headers ∧
      (table.load source).value.1.toList = table.toList ++ headers.map Segment.ofHeader ∧
      ((∃ cause, source.segmentCount = .error cause ∧
          (table.load source).value.2 = .error (.segmentCount cause)) ∨
        (source.segmentCount = .ok headers.length ∧
          (table.load source).value.2 = .ok headers.length) ∨
        ∃ count cause, source.segmentCount = .ok count ∧ headers.length < count ∧
          source.segmentHeader headers.length = .error cause ∧
          (table.load source).value.2 = .error (.segmentHeader headers.length cause)) := by
  cases counted : source.segmentCount with
  | error cause =>
      refine ⟨[], ?_, Source.Reads.nil source 0, ?_, Or.inl ⟨cause, rfl, ?_⟩⟩
      · simp only [Source.StopsAt, counted, List.length_nil]
      · rw [value_load_of_error table counted, List.map_nil, List.append_nil]
      · rw [value_load_of_error table counted]
  | ok count =>
      obtain ⟨headers, reads, kept, ending⟩ := appendFrom_spec source table 0 count
      rw [Nat.zero_add] at ending
      rcases ending with ⟨finished, full⟩ | ⟨cause, stopped, short, fails⟩
      · refine ⟨headers, reads.stopsAt counted (Nat.le_of_eq full) (Or.inl full), reads, ?_,
          Or.inr (Or.inl ⟨by rw [full], ?_⟩)⟩
        · rw [value_load_of_finished counted finished, kept]
        · rw [value_load_of_finished counted finished, full]
      · refine ⟨headers, reads.stopsAt counted (Nat.le_of_lt short) (Or.inr ⟨cause, fails⟩), reads,
          ?_, Or.inr (Or.inr ⟨count, cause, rfl, short, fails, ?_⟩)⟩
        · rw [value_load_of_stopped counted stopped, kept]
        · rw [value_load_of_stopped counted stopped]

theorem load_of_reads (table : SegmentTable) {source : Source} {headers : List SegmentHeader}
    (counted : source.segmentCount = .ok headers.length) (reads : source.Reads 0 headers) :
    (table.load source).value.1.toList = table.toList ++ headers.map Segment.ofHeader ∧
      (table.load source).value.2 = .ok headers.length := by
  obtain ⟨found, stops, agrees, kept, ending⟩ := table.load_spec source
  have full : source.StopsAt headers.length :=
    reads.stopsAt counted (Nat.le_refl _) (Or.inl rfl)
  have same := agrees.unique reads (stops.unique full)
  subst same
  refine ⟨kept, ?_⟩
  rcases ending with ⟨cause, uncounted, _⟩ | ⟨_, succeeds⟩ | ⟨count, cause, other, short, _, _⟩
  · rw [counted] at uncounted
    cases uncounted
  · exact succeeds
  · rw [counted] at other
    cases other
    exact absurd short (Nat.lt_irrefl _)

end SegmentTable

namespace Session

theorem value_build_elf (source : Source) (width : AddressWidth) (ident : Option (List UInt8))
    (table : SegmentTable) :
    (build (.elf source width ident table)).value =
      (.elf source width ident (SegmentTable.empty.load source).value.1,
        (SegmentTable.empty.load source).value.2.map fun _ => ()) := by
  cases occupied : table.isEmpty <;>
    simp [build, occupied]

theorem build_spec {session : Session} {source : Source} (reads : session.source = .ok source) :
    ∃ headers, source.StopsAt headers.length ∧ source.Reads 0 headers ∧
      session.build.value.1.table.toList = headers.map Segment.ofHeader ∧
      ((∃ cause, source.segmentCount = .error cause ∧
          session.build.value.2 = .error (.segmentCount cause)) ∨
        (source.segmentCount = .ok headers.length ∧ session.build.value.2 = .ok ()) ∨
        ∃ count cause, source.segmentCount = .ok count ∧ headers.length < count ∧
          source.segmentHeader headers.length = .error cause ∧
          session.build.value.2 = .error (.segmentHeader headers.length cause)) := by
  cases session with
  | inert => cases reads
  | closed width => cases reads
  | elf held width ident table =>
      cases reads
      obtain ⟨headers, stops, agrees, kept, ending⟩ := SegmentTable.empty.load_spec source
      have result : (build (.elf source width ident table)).value.2 =
          (SegmentTable.empty.load source).value.2.map fun _ => () := by
        rw [value_build_elf]
      rw [SegmentTable.toList_empty, List.nil_append] at kept
      refine ⟨headers, stops, agrees, by rwa [value_build_elf], ?_⟩
      rcases ending with ⟨cause, uncounted, outcome⟩ | ⟨counted, outcome⟩ |
        ⟨count, cause, counted, short, failed, outcome⟩
      · rw [outcome] at result
        exact Or.inl ⟨cause, uncounted, result⟩
      · rw [outcome] at result
        exact Or.inr (Or.inl ⟨counted, result⟩)
      · rw [outcome] at result
        exact Or.inr (Or.inr ⟨count, cause, counted, short, failed, result⟩)

theorem exists_header_of_getElem?_build {session : Session} {source : Source}
    (reads : session.source = .ok source) {index : Nat} {segment : Segment}
    (found : session.build.value.1.table.toList[index]? = some segment) :
    ∃ header, source.segmentHeader index = .ok header ∧ segment = .ofHeader header := by
  rcases build_spec reads with ⟨headers, _, agrees, kept, _⟩
  rw [kept, List.getElem?_map, Option.map_eq_some_iff] at found
  rcases found with ⟨header, stored, rfl⟩
  rcases List.getElem?_eq_some_iff.mp stored with ⟨inside, rfl⟩
  have read := agrees index inside
  rw [Nat.zero_add] at read
  exact ⟨_, read, rfl⟩

theorem exists_header_of_mem_build {session : Session} {source : Source}
    (reads : session.source = .ok source) {segment : Segment}
    (member : segment ∈ session.build.value.1.table.toList) :
    ∃ index header, source.segmentHeader index = .ok header ∧ segment = .ofHeader header := by
  rcases List.mem_iff_getElem?.mp member with ⟨index, found⟩
  exact ⟨index, exists_header_of_getElem?_build reads found⟩

end Session

end ElfTables
