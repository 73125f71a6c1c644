import ElfTables.Proofs.CommandOutcomes
import ElfTables.Proofs.SessionHistory

namespace ElfTables

def Query.IsListing : Query → Prop
  | .segments | .sections => True
  | .info | .offset _ | .find _ => False

namespace Session

def HasSections (session : Session) (entries : List Section) : Prop :=
  ∃ walk, session.sections = .ok walk ∧ walk.toList = entries.map Except.ok

/-- The listing that a query is for, where all of it can be read. -/
inductive Lists (session : Session) : Query → Listing → Prop
  | segments (built : session.build.value.2 = .ok ()) :
      Lists session .segments (.ofSegments session.width session.build.value.1.table.toList)
  | sections {entries : List Section} (read : session.HasSections entries) :
      Lists session .sections (.ofSections session.width entries)

end Session

namespace Listing

def heading (listing : Listing) : Query → String
  | .sections => s!"Found {listing.rows.length} section header records:\n"
  | _ => ""

def notice : Query → String
  | .segments => "No program headers found.\n"
  | .sections => "No sections found (possibly stripped binary).\n"
  | _ => ""

def page (listing : Listing) (query : Query) (json : Bool) : String :=
  if json then Answer.line (listing.render true)
  else if listing.rows = [] then notice query
  else listing.heading query ++ Answer.line (listing.render false)

end Listing

namespace Answer

variable {session : Session} {query : Query} {listing : Listing}

theorem segments_of_built (built : session.build.value.2 = .ok ()) (json : Bool) :
    segments session json = .ok (.found
      ((Listing.ofSegments session.width session.build.value.1.table.toList).page
        .segments json)) := by
  have empty : session.build.value.1.table.isEmpty = true ↔
      session.build.value.1.table.toList.map (Listing.segmentRow session.width) = [] := by
    simp [SegmentTable.isEmpty, SegmentTable.toList]
  simp only [segments, built_eq, built, bind, Except.bind, pure, Except.pure, session.width_build]
  cases json with
  | true => simp [Listing.page]
  | false =>
      by_cases none_there : session.build.value.1.table.isEmpty = true
      · simp [Listing.page, Listing.notice, Listing.ofSegments, none_there, empty.mp none_there]
      · simp [Listing.page, Listing.heading, Listing.ofSegments, none_there,
          mt empty.mpr none_there]

theorem sections_of_read {entries : List Section} (read : session.HasSections entries)
    (json : Bool) :
    sections session json = .ok (.found
      ((Listing.ofSections session.width entries).page .sections json)) := by
  obtain ⟨walk, started, items⟩ := read
  have collected : walk.collect #[] = .ok entries.toArray :=
    SectionWalk.collect_eq_ok_iff.mpr items
  simp only [sections, started, collected]
  cases json with
  | true => simp [Listing.page]
  | false =>
      cases entries with
      | nil => simp [Listing.page, Listing.notice, Listing.ofSections]
      | cons first rest => simp [Listing.page, Listing.heading, Listing.ofSections]

theorem ofQuery_of_lists (lists : session.Lists query listing) (json : Bool) :
    ofQuery session json query = .ok (.found (listing.page query json)) := by
  cases lists with
  | segments built => exact segments_of_built built json
  | sections read => exact sections_of_read read json

theorem exists_lists {json : Bool} {answer : Answer} (listed : query.IsListing)
    (answered : ofQuery session json query = .ok answer) :
    ∃ listing, session.Lists query listing := by
  cases query with
  | info | offset address | find name => cases listed
  | segments =>
      cases outcome : session.build.value.2 with
      | ok done => exact ⟨_, .segments outcome⟩
      | error error =>
          simp only [ofQuery, segments, built_eq, outcome] at answered
          cases answered
  | sections =>
      cases started : session.sections with
      | error error =>
          simp only [ofQuery, sections, started] at answered
          cases answered
      | ok walk =>
          cases collected : walk.collect #[] with
          | error error =>
              simp only [ofQuery, sections, started, collected] at answered
              cases answered
          | ok entries =>
              have items := SectionWalk.collect_eq_ok_iff.mp collected
              exact ⟨_, .sections ⟨walk, started, items⟩⟩

theorem ofQuery_eq_ok_iff {json : Bool} {answer : Answer} (listed : query.IsListing) :
    ofQuery session json query = .ok answer ↔
      ∃ listing, session.Lists query listing ∧ answer = .found (listing.page query json) := by
  constructor
  · intro answered
    obtain ⟨listing, lists⟩ := exists_lists listed answered
    rw [ofQuery_of_lists lists] at answered
    exact ⟨listing, lists, (Except.ok.inj answered).symm⟩
  · rintro ⟨listing, lists, rfl⟩
    exact ofQuery_of_lists lists json

end Answer

end ElfTables
