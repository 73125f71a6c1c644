import ElfTables.Proofs.CommandOutcomes
import ElfTables.Proofs.JsonText
import ElfTables.Proofs.PrintedNumbers
import ElfTables.Proofs.SwitchedArguments

namespace ElfTables

def Query.IsLookup : Query → Prop
  | .info | .segments | .sections => False
  | .offset _ | .find _ => True

/-- How a match is shown: as a record and as a line of text. -/
inductive Query.Matched : Query → JsonRecord → String → Prop
  | offset (address offset : UInt64) (kind : String) :
      Matched (.offset address)
        [("vaddr", .number address.toNat), ("offset", .number offset.toNat),
          ("segment", .string kind)]
        s!"  offset_of({formatOffset address}) = {formatOffset offset} ({kind})\n"
  | find (name : String) (offset size : UInt64) :
      Matched (.find name)
        [("name", .string name), ("offset", .number offset.toNat), ("size", .number size.toNat)]
        s!"{name}: offset {formatOffset offset}, size {Hex.literal 0 size.toNat}\n"

namespace Query

variable {query : Query} {record other : JsonRecord} {line text : String}

theorem Matched.isLookup (matched : query.Matched record line) : query.IsLookup := by
  cases matched <;> trivial

theorem Matched.line_ne_empty (matched : query.Matched record line) : line ≠ "" := by
  cases matched <;> simp [toString]

theorem Matched.ne_unmatched {notice : String} (matched : query.Matched record line)
    (unmatched : query.Unmatched notice other) : record ≠ other := by
  cases matched <;> cases unmatched <;> simp

theorem Matched.eq_iff (matched : query.Matched record line) (also : query.Matched other text) :
    record = other ↔ line = text := by
  cases matched with
  | offset address offset kind =>
      cases also with
      | offset _ place name =>
          constructor
          · intro same
            simp only [List.cons.injEq, Prod.mk.injEq, JsonScalar.number.injEq, UInt64.toNat_inj,
              JsonScalar.string.injEq, true_and, and_true] at same
            rw [same.1, same.2]
          · intro same
            have characters := congrArg String.toList same
            simp only [toString, String.toList_append, List.append_assoc,
              List.append_cancel_left_eq] at characters
            rcases formatOffset_append_inj characters with ⟨rfl, behind⟩
            rw [List.append_cancel_left_eq, List.append_cancel_right_eq] at behind
            rw [String.toList_inj.mp behind]
  | find name offset size =>
      cases also with
      | find _ place extent =>
          constructor
          · intro same
            simp only [List.cons.injEq, Prod.mk.injEq, JsonScalar.number.injEq, UInt64.toNat_inj,
              true_and, and_true] at same
            rw [same.1, same.2]
          · intro same
            have characters := congrArg String.toList same
            simp only [toString, String.toList_append, List.append_assoc,
              List.append_cancel_left_eq] at characters
            rcases formatOffset_append_inj characters with ⟨rfl, behind⟩
            rw [List.append_cancel_left_eq, List.append_cancel_right_eq] at behind
            rw [Hex.literal_inj (String.toList_inj.mp behind)]

end Query

namespace Answer

theorem jsonLine_inj {record other : JsonRecord} (same : jsonLine record = jsonLine other) :
    record = other :=
  Json.record_inj (line_inj same)

inductive Alike (query : Query) : Except Failure Answer → Except Failure Answer → Prop
  | listed {listing text : String} (whole : ¬query.IsLookup) :
      Alike query (.ok (.found listing)) (.ok (.found text))
  | matched {record : JsonRecord} {line : String} (matched : query.Matched record line) :
      Alike query (.ok (.found (jsonLine record))) (.ok (.found line))
  | missing {notice : String} {record : JsonRecord} (unmatched : query.Unmatched notice record) :
      Alike query (.ok (.missing (jsonLine record) notice)) (.ok (.missing "" notice))
  | failed (failure : Failure) : Alike query (.error failure) (.error failure)

theorem alike_segments (session : Session) :
    Alike .segments (segments session true) (segments session false) := by
  cases outcome : session.build.value.2 with
  | error error =>
      simp only [segments, built_eq, outcome]
      exact .failed _
  | ok done =>
      simp only [segments, built_eq, outcome, bind, Except.bind]
      have whole : ¬Query.segments.IsLookup := id
      split <;> split <;> exact .listed whole

theorem alike_sections (session : Session) :
    Alike .sections (sections session true) (sections session false) := by
  cases started : session.sections with
  | error error =>
      simp only [sections, started]
      exact .failed _
  | ok walk =>
      cases collected : walk.collect #[] with
      | error error =>
          simp only [sections, started, collected]
          exact .failed _
      | ok entries =>
          have whole : ¬Query.sections.IsLookup := id
          simp only [sections, started, collected, if_true, Bool.false_eq_true, if_false]
          split <;> exact .listed whole

theorem alike_offset (session : Session) (address : UInt64) :
    Alike (.offset address) (offset session address true) (offset session address false) := by
  cases outcome : session.build.value.2 with
  | error error =>
      rw [offset_of_failed outcome, offset_of_failed outcome]
      exact .failed _
  | ok done =>
      cases covering : session.build.value.1.table.coveringSegment? address with
      | none =>
          rw [offset_of_uncovered outcome covering, offset_of_uncovered outcome covering]
          exact .missing (.offset address)
      | some segment =>
          rw [offset_of_covered outcome covering rfl, offset_of_covered outcome covering rfl]
          exact .matched (.offset address (segment.offsetAt address) segment.kind.name)

theorem alike_find (session : Session) (name : String) :
    Alike (.find name) (find session name true) (find session name false) := by
  cases search : (session.findSection name).value with
  | error error =>
      rw [find_of_error search, find_of_error search]
      exact .failed _
  | ok section? =>
      cases section? with
      | none =>
          rw [find_of_none search, find_of_none search]
          exact .missing (.find name)
      | some entry =>
          rw [find_of_some search rfl, find_of_some search rfl]
          exact .matched (.find name entry.fileOffset entry.size)

theorem alike_ofQuery (session : Session) (query : Query) :
    Alike query (ofQuery session true query) (ofQuery session false query) := by
  cases query with
  | info => exact .listed id
  | segments => exact alike_segments session
  | sections => exact alike_sections session
  | offset address => exact alike_offset session address
  | find name => exact alike_find session name

end Answer

/-- What a lookup prints as JSON and as text: a match in both forms, the record of a lookup that
found nothing, or nothing at all. -/
inductive Query.Shows (query : Query) : String → String → Prop
  | matched {record : JsonRecord} {line : String} (matched : query.Matched record line) :
      Shows query (Answer.jsonLine record) line
  | missing {notice : String} {record : JsonRecord} (unmatched : query.Unmatched notice record) :
      Shows query (Answer.jsonLine record) ""
  | nothing : Shows query "" ""

theorem Query.Shows.matched_iff {query : Query} {listing text : String}
    (shows_both : query.Shows listing text) {record : JsonRecord} {line : String}
    (matched : query.Matched record line) : listing = Answer.jsonLine record ↔ text = line := by
  have some_line : "" ≠ line := matched.line_ne_empty.symm
  cases shows_both with
  | matched also =>
      rw [← also.eq_iff matched]
      exact ⟨Answer.jsonLine_inj, congrArg Answer.jsonLine⟩
  | missing unmatched =>
      refine ⟨?_, fun same => absurd same some_line⟩
      intro same
      exact absurd (Answer.jsonLine_inj same).symm (matched.ne_unmatched unmatched)
  | nothing =>
      refine ⟨?_, fun same => absurd same some_line⟩
      intro same
      exact absurd same.symm (Answer.line_ne_empty _)

/-- Two runs of one query, with the switch and without it. -/
structure Outcome.Agree (query : Query) (records text : Outcome) : Prop where
  exits : records.exitCode = text.exitCode
  stderr : records.stderr = text.stderr
  lookup : query.IsLookup → query.Shows records.stdout text.stdout

namespace Program

theorem agree_ofAnswer {query : Query} {records text : Except Failure Answer}
    (alike : Answer.Alike query records text) (colours : Bool) :
    Outcome.Agree query (ofAnswer colours records) (ofAnswer colours text) := by
  cases alike with
  | listed whole => exact ⟨rfl, rfl, fun lookup => absurd lookup whole⟩
  | matched matched => exact ⟨rfl, rfl, fun _ => .matched matched⟩
  | missing unmatched => exact ⟨rfl, rfl, fun _ => .missing unmatched⟩
  | failed failure => exact ⟨rfl, rfl, fun _ => .nothing⟩

theorem agree_inspect (path : String) (query : Query) (colours : Bool) (opened : Opened) :
    Outcome.Agree query (inspect ⟨path, true, query⟩ colours opened)
      (inspect ⟨path, false, query⟩ colours opened) := by
  cases opened with
  | failed reason => exact ⟨rfl, rfl, fun _ => .nothing⟩
  | ready handle =>
      cases opens : (Session.ofHandle handle).value with
      | error error =>
          simp only [inspect, opens]
          exact ⟨rfl, rfl, fun _ => .nothing⟩
      | ok session =>
          simp only [inspect, opens]
          split
          · exact ⟨rfl, rfl, fun _ => .nothing⟩
          · exact agree_ofAnswer (Answer.alike_ofQuery session query) colours

/-- The switch for JSON changes what is printed and nothing else. A lookup shows a match as a
record just where it shows it as a line without the switch, with the same numbers. -/
theorem json_changes_stdout_only {arguments : List String} {path : String} {query : Query}
    (understood : Arguments.parse arguments = .ok (.inspect ⟨path, false, query⟩)) :
    Arguments.parse ("--json" :: arguments) = .ok (.inspect ⟨path, true, query⟩) ∧
    ∀ switched, Arguments.parse switched = .ok (.inspect ⟨path, true, query⟩) →
      ∀ (files : String → Opened) colours,
        let text := run arguments files colours
        let records := run switched files colours
        records.exitCode = text.exitCode ∧ records.stderr = text.stderr ∧
        (query.IsLookup → query.Shows records.stdout text.stdout) ∧
        ∀ record line, query.Matched record line →
          (records.stdout = Answer.jsonLine record ↔ text.stdout = line) := by
  refine ⟨Arguments.parse_json_cons understood, ?_⟩
  intro switched also files colours text records
  have agree : Outcome.Agree query records text := by
    have agrees := agree_inspect path query colours (files path)
    simpa only [text, records, run, understood, also] using agrees
  refine ⟨agree.exits, agree.stderr, agree.lookup, ?_⟩
  intro record line matched
  exact (agree.lookup matched.isLookup).matched_iff matched

def loadedBytes : Array UInt8 :=
  ((FileHeader.mk .bits32 .little 2 3 1 0 52 0 0 52 32 1 0 0 0).written 1 (List.replicate 9 0) ++
    SegmentHeader.written .little ⟨1, 5, 0x20, 0x8000, 0, 0x40, 0x40, 0x1000⟩ .bits32).toArray

theorem json_changes_stdout_only_loaded :
    let files (_ : String) : Opened := .ready { content := loadedBytes }
    let text := run ["loaded", "offset", "0x8010"] files false
    let records := run ["loaded", "offset", "--json", "0x8010"] files false
    let nowhere := run ["loaded", "offset", "16"] files true
    text.stdout = "  offset_of(0x0000000000008010) = 0x0000000000000030 (PT_LOAD)\n" ∧
      records.stdout = Answer.jsonLine [("vaddr", .number 0x8010), ("offset", .number 0x30),
        ("segment", .string "PT_LOAD")] ∧
      records.exitCode = text.exitCode ∧ records.stderr = text.stderr ∧
      (run ["--json", "loaded", "offset", "16"] files true).stderr = nowhere.stderr := by
  intro files text records nowhere
  let asked : Invocation := ⟨"loaded", false, .offset 0x8010⟩
  have understood : Arguments.parse ["loaded", "offset", "0x8010"] = .ok (.inspect asked) := rfl
  have switched : Arguments.parse ["loaded", "offset", "--json", "0x8010"] =
      .ok (.inspect ⟨"loaded", true, .offset 0x8010⟩) := rfl
  have also : Arguments.parse ["loaded", "offset", "16"] =
      .ok (.inspect ⟨"loaded", false, .offset 16⟩) := rfl
  have shown : text.stdout =
      "  offset_of(0x0000000000008010) = 0x0000000000000030 (PT_LOAD)\n" := by
    have healthy : Handle.Healthy { content := loadedBytes } := ⟨rfl, rfl, by decide⟩
    have elf : (Image.ofBytes loadedBytes).value.kind = .elf := by decide +kernel
    have opens := (Session.value_ofHandle_of_healthy healthy).trans (Session.ofBytes_of_elf elf)
    have serves : (files "loaded").Serves asked.query _ := ⟨_, rfl, opens, Or.inl rfl⟩
    have answers : text = ofAnswer false (Answer.ofQuery _ asked.json asked.query) :=
      inspect_of_serves serves false
    rw [answers]
    decide +kernel
  have same := (json_changes_stdout_only understood).2 _ switched files false
  have elsewhere := json_changes_stdout_only also
  refine ⟨shown, ?_, same.1, same.2.1, (elsewhere.2 _ elsewhere.1 files true).2.1⟩
  exact (same.2.2.2 _ _ (.offset 0x8010 0x30 "PT_LOAD")).mpr shown

end Program

end ElfTables
