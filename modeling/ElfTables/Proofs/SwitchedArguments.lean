import ElfTables.Command.Arguments
import ElfTables.Proofs.TableEntries

namespace ElfTables

namespace Arguments

variable {taken : Taken} {rest : List String} {invocation : Invocation}

/-- Once the switch is on it stays on, and where it is off it can be turned on in front. -/
structure Switches (taken : Taken) (read : Taken → Except UsageError Request)
    (invocation : Invocation) : Prop where
  stays : taken.json = true → read taken = .ok (.inspect invocation) → invocation.json = true
  turns : taken.json = false → invocation.json = false → read taken = .ok (.inspect invocation) →
    read { taken with json := true } = .ok (.inspect { invocation with json := true })

theorem takePath_json (taken : Taken) (word : String) (json : Bool) :
    takePath { taken with json := json } word =
      (takePath taken word).map fun next => { next with json := json } := by
  simp only [takePath]
  split
  · rfl
  · split
    · rfl
    · split <;> rfl

theorem json_of_takePath {next : Taken} {word : String} (takes : takePath taken word = .ok next) :
    next.json = taken.json := by
  have same : takePath taken word = (takePath taken word).map
      fun next => { next with json := taken.json } := takePath_json taken word taken.json
  simp only [takes, Except.map, Except.ok.injEq] at same
  rw [same]

theorem Switches.of_eq {read other : Taken → Except UsageError Request}
    (switches : Switches taken other invocation) (here : read taken = other taken)
    (there : read { taken with json := true } = other { taken with json := true }) :
    Switches taken read invocation where
  stays on understood := switches.stays on (here ▸ understood)
  turns off plain understood := there ▸ switches.turns off plain (here ▸ understood)

theorem switches_of_never {read : Taken → Except UsageError Request}
    (never : read taken ≠ .ok (.inspect invocation)) : Switches taken read invocation where
  stays _ understood := absurd understood never
  turns _ _ understood := absurd understood never

theorem switches_takePath (word : String)
    (behind : ∀ next, Switches next (parseFrom · rest) invocation) :
    Switches taken (fun taken => takePath taken word >>= (parseFrom · rest)) invocation where
  stays on understood := by
    rcases exists_of_bind_eq_ok understood with ⟨next, takes, goes⟩
    exact (behind next).stays ((json_of_takePath takes).trans on) goes
  turns off plain understood := by
    rcases exists_of_bind_eq_ok understood with ⟨next, takes, goes⟩
    have turned := (behind next).turns ((json_of_takePath takes).trans off) plain goes
    simpa only [takePath_json, takes, Except.map, bind, Except.bind] using turned

theorem parseTopic_ne_inspect (topics : List String) :
    parseTopic topics ≠ .ok (.inspect invocation) := by
  cases topics with
  | nil => simp [parseTopic]
  | cons topic deeper =>
      cases deeper with
      | nil =>
          rw [parseTopic]
          split <;> simp
      | cons next others => simp [parseTopic]

theorem switches_takeJson
    (behind : ∀ next, Switches next (parseFrom · rest) invocation) :
    Switches taken (fun taken => do checkPath taken; parseFrom (← takeJson taken) rest)
      invocation where
  stays on understood := by
    rcases exists_of_bind_eq_ok understood with ⟨_, _, goes⟩
    simp only [takeJson, on, if_true] at goes
    cases goes
  turns off plain understood := by
    rcases exists_of_bind_eq_ok understood with ⟨_, _, goes⟩
    simp only [takeJson, off] at goes
    have on := (behind { taken with json := true }).stays rfl goes
    rw [plain] at on
    cases on

theorem switches_literal
    (behind : ∀ next, Switches next (parseFrom · rest) invocation) :
    Switches taken (fun taken => parseFrom { taken with literal := true } rest) invocation where
  stays on understood := (behind { taken with literal := true }).stays on understood
  turns off plain understood := (behind { taken with literal := true }).turns off plain understood

def command (name : CommandName) (rest : List String) (taken : Taken) :
    Except UsageError Request := do
  match ← parseCommand name {} rest, taken.word with
  | none, _ => pure .help
  | some _, none => .error .missingArgument
  | some (query, json), some path => do
    checkPath taken
    pure (.inspect ⟨path, taken.json || json, query⟩)

theorem command_eq_inspect_iff {name : CommandName} :
    command name rest taken = .ok (.inspect invocation) ↔
      ∃ query json path, parseCommand name {} rest = .ok (some (query, json)) ∧
        taken.word = some path ∧ checkPath taken = .ok () ∧
        invocation = ⟨path, taken.json || json, query⟩ := by
  constructor
  · intro understood
    rcases exists_of_bind_eq_ok understood with ⟨parsed, parses, goes⟩
    cases parsed with
    | none => cases goes
    | some answer =>
        rcases answer with ⟨query, json⟩
        cases word : taken.word with
        | none =>
            rw [word] at goes
            cases goes
        | some path =>
            rw [word] at goes
            rcases exists_of_bind_eq_ok goes with ⟨_, checks, same⟩
            cases same
            exact ⟨query, json, path, parses, rfl, checks, rfl⟩
  · intro found
    rcases found with ⟨query, json, path, parses, word, checks, rfl⟩
    simp only [command, parses, word, checks, bind, Except.bind, pure, Except.pure]

theorem switches_command (name : CommandName) (rest : List String) :
    Switches taken (command name rest) invocation where
  stays on understood := by
    rcases command_eq_inspect_iff.mp understood with ⟨query, json, path, _, _, _, rfl⟩
    simp only [on, Bool.true_or]
  turns off plain understood := by
    rcases command_eq_inspect_iff.mp understood with ⟨query, json, path, parsed, word, checks, rfl⟩
    exact command_eq_inspect_iff.mpr ⟨query, json, path, parsed, word, checks, rfl⟩

theorem switches_parseFrom (arguments : List String) (taken : Taken) :
    Switches taken (parseFrom · arguments) invocation := by
  -- The cases are those of one argument. The switch is looked at in none of them but its own.
  induction arguments generalizing taken with
  | nil =>
      apply switches_of_never
      intro understood
      rw [parseFrom] at understood
      rcases exists_of_bind_eq_ok understood with ⟨_, _, fails⟩
      cases fails
  | cons argument rest ih =>
      by_cases literal : taken.literal = true
      · apply (switches_takePath argument ih).of_eq
        · rw [parseFrom, if_pos literal]
        · rw [parseFrom, if_pos literal]
      · cases token : Token.ofArgument argument with
        | rest =>
            apply (switches_literal ih).of_eq
            · simp only [parseFrom, literal, token, Bool.false_eq_true, if_false]
            · simp only [parseFrom, literal, token, Bool.false_eq_true, if_false]
        | flag flag shown =>
            cases flag with
            | json =>
                apply (switches_takeJson ih).of_eq
                · simp only [parseFrom, literal, token, Bool.false_eq_true, if_false]
                · simp only [parseFrom, literal, token, Bool.false_eq_true, if_false]
            | help | version =>
                apply switches_of_never
                intro understood
                simp only [parseFrom, literal, token, Bool.false_eq_true, if_false] at understood
                rcases exists_of_bind_eq_ok understood with ⟨_, _, fails⟩
                cases fails
        | flagValue flag value | unknownOption shown =>
            apply switches_of_never
            simp [parseFrom, literal, token]
        | word word =>
            by_cases help : word = "help"
            · apply switches_of_never
              simp [parseFrom, literal, token, help, parseTopic_ne_inspect]
            · cases known : CommandName.ofText? word with
              | none =>
                  apply (switches_takePath word ih).of_eq
                  · simp only [parseFrom, literal, token, known, Bool.false_eq_true, if_false]
                  · simp only [parseFrom, literal, token, known, Bool.false_eq_true, if_false]
              | some name =>
                  apply (switches_command name rest).of_eq
                  · simp only [parseFrom, literal, token, known, Bool.false_eq_true, if_false]
                    rfl
                  · simp only [parseFrom, literal, token, known, Bool.false_eq_true, if_false]
                    rfl

theorem parse_json_cons {arguments : List String} {path : String} {query : Query}
    (understood : parse arguments = .ok (.inspect ⟨path, false, query⟩)) :
    parse ("--json" :: arguments) = .ok (.inspect ⟨path, true, query⟩) := by
  have turned := (switches_parseFrom arguments {}).turns rfl rfl understood
  exact turned

end Arguments

end ElfTables
