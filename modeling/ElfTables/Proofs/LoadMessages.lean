import ElfTables.Proofs.JsonText
import ElfTables.Proofs.SegmentLoads

/-!
What loading a segment table says of itself. From the messages of a load one can tell how many
headers were announced, whether all of them were read, where reading stopped and how many segments
the table then holds (`Session.build_reports`).
-/
namespace ElfTables

namespace LogEvent

def discarding (size : Nat) : LogEvent := ⟨.debug, s!"Discarding {size} cached program headers"⟩

def parsing (count : Nat) : LogEvent := ⟨.debug, s!"Parsing {count} program headers"⟩

def cached (count : Nat) : LogEvent := ⟨.info, s!"Cached {count} program headers"⟩

def stopped (index kept : Nat) : LogEvent :=
  ⟨.warn, s!"Program header parse stopped at {index}; keeping {kept} entries"⟩

theorem number_append_inj {front rest other_rest : String} {value other : Nat}
    (ends : Json.Delimited rest.toList) (also : Json.Delimited other_rest.toList)
    (same : front ++ toString value ++ rest = front ++ toString other ++ other_rest) :
    value = other ∧ rest = other_rest := by
  have characters := congrArg String.toList same
  simp only [toString, String.toList_append, Nat.toList_repr, List.append_assoc,
    List.append_cancel_left_eq] at characters
  rcases Json.toDigits_append_inj ends also characters with ⟨numbers, behind⟩
  exact ⟨numbers, String.toList_inj.mp behind⟩

@[simp] theorem discarding_inj {size other : Nat} :
    discarding size = discarding other ↔ size = other := by
  have delimited : Json.Delimited " cached program headers".toList := by
    simp [Json.Delimited]
  constructor
  · intro same
    exact (number_append_inj delimited delimited (congrArg text same)).1
  · exact congrArg discarding

@[simp] theorem cached_inj {count other : Nat} : cached count = cached other ↔ count = other := by
  have delimited : Json.Delimited " program headers".toList := by
    simp [Json.Delimited]
  constructor
  · intro same
    exact (number_append_inj delimited delimited (congrArg text same)).1
  · exact congrArg cached

@[simp] theorem stopped_inj {index other kept held : Nat} :
    stopped index kept = stopped other held ↔ index = other ∧ kept = held := by
  have separated (number : Nat) :
      Json.Delimited ("; keeping " ++ toString number ++ " entries").toList := by
    simp [Json.Delimited]
  have closed : Json.Delimited " entries".toList := by
    simp [Json.Delimited]
  constructor
  · intro same
    have texts : "Program header parse stopped at " ++ toString index ++
        ("; keeping " ++ toString kept ++ " entries") =
        "Program header parse stopped at " ++ toString other ++
          ("; keeping " ++ toString held ++ " entries") := by
      simpa only [stopped, toString, String.append_assoc] using congrArg text same
    rcases number_append_inj (separated kept) (separated held) texts with ⟨indices, behind⟩
    exact ⟨indices, (number_append_inj closed closed behind).1⟩
  · intro same
    rw [same.1, same.2]

@[simp] theorem discarding_ne_parsing (size count : Nat) : discarding size ≠ parsing count := by
  intro same
  have characters := congrArg (fun event => event.text.toList) same
  simp [discarding, parsing, toString] at characters

-- The other messages are apart by their levels.

@[simp] theorem discarding_ne_cached (size count : Nat) : discarding size ≠ cached count := by
  simp [discarding, cached]

@[simp] theorem discarding_ne_stopped (size index kept : Nat) :
    discarding size ≠ stopped index kept := by
  simp [discarding, stopped]

@[simp] theorem cached_ne_parsing (count other : Nat) : cached count ≠ parsing other := by
  simp [cached, parsing]

@[simp] theorem cached_ne_stopped (count index kept : Nat) : cached count ≠ stopped index kept := by
  simp [cached, stopped]

@[simp] theorem stopped_ne_parsing (index kept count : Nat) :
    stopped index kept ≠ parsing count := by
  simp [stopped, parsing]

@[simp] theorem stopped_ne_cached (index kept count : Nat) : stopped index kept ≠ cached count :=
  (cached_ne_stopped count index kept).symm

end LogEvent

namespace SegmentTable

/-- How a load ends that had `held` segments before it, and what it has said by then. -/
inductive LoadEnds (source : Source) (held : Nat) :
    Logged (SegmentTable × Except QueryError Nat) → Prop
  | uncounted {table : SegmentTable} {cause : ReadError} (size : table.size = held)
      (failed : source.segmentCount = .error cause) :
      LoadEnds source held ⟨(table, .error (.segmentCount cause)), []⟩
  | finished {loaded : SegmentTable} {count : Nat} (size : loaded.size = held + count)
      (counted : source.segmentCount = .ok count) :
      LoadEnds source held ⟨(loaded, .ok count), [.parsing count, .cached count]⟩
  | stopped {loaded : SegmentTable} {count stop : Nat} {cause : ReadError}
      (size : loaded.size = held + stop) (counted : source.segmentCount = .ok count) :
      LoadEnds source held
        ⟨(loaded, .error (.segmentHeader stop cause)), [.parsing count, .stopped stop loaded.size]⟩

theorem load_ends (table : SegmentTable) (source : Source) :
    LoadEnds source table.size (table.load source) := by
  cases counted : source.segmentCount with
  | error cause =>
      rw [load, counted]
      exact .uncounted rfl counted
  | ok count =>
      rcases appendFrom_spec source table 0 count with ⟨headers, _, kept, ending⟩
      have size : (appendFrom source table 0 count).1.size = table.size + headers.length := by
        rw [← length_toList, kept, List.length_append, List.length_map, length_toList]
      rcases result : appendFrom source table 0 count with ⟨loaded, failure⟩
      rw [result] at size ending
      rcases ending with ⟨rfl, full⟩ | ⟨cause, rfl, _⟩
      · rw [full] at size
        simp only [load, counted, result]
        exact .finished size counted
      · rw [Nat.zero_add] at result
        simp only [load, counted, result]
        exact .stopped size counted

end SegmentTable

/-- What messages have to tell of a load: of the announced count, of the outcome, and of the `size`
of the table that had `held` segments before. -/
structure LoadReport {α : Type} (announced : Except ReadError Nat) (held size : Nat)
    (outcome : Except QueryError α) (events : List LogEvent) : Prop where
  nothing : ∀ cause, announced = .error cause → events = []
  two : ∀ count, announced = .ok count → ∃ ending, events = [.parsing count, ending] ∧
    (ending = .cached count ∨ ∃ stop kept, ending = .stopped stop kept)
  cached_iff : ∀ count, .cached count ∈ events ↔
    announced = .ok count ∧ ∃ value, outcome = .ok value
  stopped_iff : ∀ stop kept, .stopped stop kept ∈ events ↔
    kept = size ∧ ∃ cause, outcome = .error (.segmentHeader stop cause)
  size_of_ok : ∀ count value, announced = .ok count → outcome = .ok value → size = held + count
  size_of_error : ∀ stop cause, outcome = .error (.segmentHeader stop cause) → size = held + stop
  discarding_not_mem : ∀ count, .discarding count ∉ events

theorem LoadReport.map {α β : Type} {announced : Except ReadError Nat} {held size : Nat}
    {outcome : Except QueryError α} {events : List LogEvent} (f : α → β)
    (report : LoadReport announced held size outcome events) :
    LoadReport announced held size (outcome.map f) events := by
  rcases report with ⟨nothing, two, cached, stopped, ofOk, ofError, kept⟩
  cases outcome with
  | ok value =>
      refine ⟨nothing, two, ?_, ?_, ?_, ?_, kept⟩
      · simpa [Except.map] using cached
      · simpa [Except.map] using stopped
      · intro count _ counted _
        exact ofOk count value counted rfl
      · intro stop cause fails
        cases fails
  | error failure =>
      refine ⟨nothing, two, ?_, ?_, ?_, ?_, kept⟩
      · simpa [Except.map] using cached
      · simpa [Except.map] using stopped
      · intro count _ _ succeeds
        cases succeeds
      · intro stop cause fails
        cases fails
        exact ofError stop cause rfl

namespace SegmentTable.LoadEnds

variable {source : Source} {held : Nat} {load : Logged (SegmentTable × Except QueryError Nat)}

theorem report (ends : LoadEnds source held load) :
    LoadReport source.segmentCount held load.value.1.size load.value.2 load.events := by
  cases ends with
  | uncounted size failed => constructor <;> simp [failed]
  | @finished loaded count size counted =>
      constructor
      case nothing => simp [counted]
      case two =>
        intro announced same
        cases counted.symm.trans same
        exact ⟨_, rfl, Or.inl rfl⟩
      case cached_iff => simp [counted, eq_comm]
      case stopped_iff => simp
      case size_of_ok =>
        intro announced value same _
        cases counted.symm.trans same
        exact size
      case size_of_error => simp
      case discarding_not_mem => simp
  | @stopped loaded count stop cause size counted =>
      constructor
      case nothing => simp [counted]
      case two =>
        intro announced same
        cases counted.symm.trans same
        exact ⟨_, rfl, Or.inr ⟨stop, loaded.size, rfl⟩⟩
      case cached_iff => simp
      case stopped_iff =>
        intro index kept
        simp only [List.mem_cons, LogEvent.stopped_ne_parsing, LogEvent.stopped_inj,
          List.not_mem_nil, or_false, false_or, Except.error.injEq,
          QueryError.segmentHeader.injEq]
        constructor
        · intro same
          exact ⟨same.2, cause, same.1.symm, rfl⟩
        · intro same
          rcases same with ⟨whole, _, place, _⟩
          exact ⟨place.symm, whole⟩
      case size_of_ok => simp
      case size_of_error =>
        intro index other same
        cases same
        exact size
      case discarding_not_mem => simp

end SegmentTable.LoadEnds

theorem SegmentTable.load_reports (table : SegmentTable) (source : Source) :
    LoadReport source.segmentCount table.size (table.load source).value.1.size
      (table.load source).value.2 (table.load source).events :=
  (table.load_ends source).report

namespace Session

theorem events_build_elf (source : Source) (width : AddressWidth) (ident : Option (List UInt8))
    (table : SegmentTable) :
    (build (.elf source width ident table)).events =
      (if table.size = 0 then [] else [.discarding table.size]) ++
        (SegmentTable.empty.load source).events := by
  have occupied : table.isEmpty = decide (table.size = 0) := rfl
  by_cases empty : table.size = 0
  · simp [build, occupied, empty]
  · simp [build, occupied, empty, LogEvent.discarding]

/-- The messages of a build are true of it: of what was discarded, of the count, and of the outcome
and of the table that is left. -/
theorem build_reports (source : Source) (width : AddressWidth) (ident : Option (List UInt8))
    (table : SegmentTable) :
    (∃ events,
        (build (.elf source width ident table)).events =
          (if table.size = 0 then [] else [.discarding table.size]) ++ events ∧
        LoadReport source.segmentCount 0 (build (.elf source width ident table)).value.1.table.size
          (build (.elf source width ident table)).value.2 events) ∧
      (∀ count, .discarding count ∈ (build (.elf source width ident table)).events ↔
        0 < count ∧ count = table.size) ∧
      ∀ held : SegmentTable,
        LoadReport source.segmentCount held.size (held.load source).value.1.size
          (held.load source).value.2 (held.load source).events := by
  have report := SegmentTable.empty.load_reports source
  rw [value_build_elf, events_build_elf]
  refine ⟨⟨_, rfl, report.map _⟩, ?_, fun held => held.load_reports source⟩
  intro count
  have elsewhere := report.discarding_not_mem count
  split
  · next empty =>
      simp only [List.nil_append, elsewhere, false_iff]
      omega
  · next occupied =>
      simp only [List.cons_append, List.nil_append, List.mem_cons, LogEvent.discarding_inj,
        elsewhere, or_false]
      omega

end Session

end ElfTables
