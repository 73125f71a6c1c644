import ElfTables.Command.AddressArgument
import ElfTables.Command.UsageError
import ElfTables.Text.Similarity

/-!
The command line. Arguments are read from the left, and the first fault decides, except that a word
is checked only when a flag stands behind it or the arguments end. Behind `--` everything is taken
as it stands.
-/
namespace ElfTables

inductive Query where
  | info
  | segments
  | sections
  | offset (address : UInt64)
  | find (name : String)
  deriving DecidableEq, Repr

structure Invocation where
  path : String
  json : Bool
  query : Query
  deriving DecidableEq, Repr

inductive Request where
  | inspect (invocation : Invocation)
  | version
  | help
  deriving DecidableEq, Repr

namespace Arguments

inductive CommandName where
  | info
  | segments
  | sections
  | offset
  | find
  deriving DecidableEq, Repr

namespace CommandName

def all : List (String × CommandName) :=
  [("info", .info), ("pht", .segments), ("sht", .sections), ("offset", .offset),
    ("section", .find)]

def ofText? (text : String) : Option CommandName := all.lookup text

def takesValue : CommandName → Bool
  | .offset | .find => true
  | .info | .segments | .sections => false

end CommandName

def commandWords : List String := "help" :: CommandName.all.map Prod.fst

/-- What an argument is while options are still recognised. -/
inductive Token where
  | rest
  | flag (flag : Flag) (shown : String)
  | flagValue (flag : Flag) (value : String)
  | unknownOption (shown : String)
  | word (text : String)
  deriving DecidableEq, Repr

def Flag.ofName? : String → Option Flag
  | "json" => some .json
  | "help" => some .help
  | "version" => some .version
  | _ => none

def Token.ofArgument (argument : String) : Token :=
  match argument.toList with
  | ['-', '-'] => .rest
  | '-' :: '-' :: long =>
    let name := long.takeWhile (· != '=')
    match Flag.ofName? (String.ofList name), long.drop name.length with
    | some known, [] => .flag known argument
    | some known, _ :: value => .flagValue known (String.ofList value)
    | none, _ => .unknownOption (String.ofList ('-' :: '-' :: name))
  | '-' :: 'h' :: _ => .flag .help "-h"
  | '-' :: 'V' :: _ => .flag .version "-V"
  | '-' :: short :: _ => .unknownOption (String.ofList ['-', short])
  | _ => .word argument

def query : CommandName → Option String → Except UsageError Query
  | .info, _ => .ok .info
  | .segments, _ => .ok .segments
  | .sections, _ => .ok .sections
  | .offset, none => .error .missingArgument
  | .offset, some argument =>
    match AddressArgument.parse argument with
    | .ok address => .ok (.offset address)
    | .error reason => .error (.invalidAddress argument reason)
  | .find, none => .error .missingArgument
  | .find, some name => .ok (.find name)

structure Taken where
  word : Option String := none
  json : Bool := false
  literal : Bool := false

def takeJson (taken : Taken) : Except UsageError Taken :=
  if taken.json then .error (.repeatedFlag .json) else .ok { taken with json := true }

def takeValue (name : CommandName) (taken : Taken) (word : String) : Except UsageError Taken :=
  if name.takesValue && taken.word.isNone then .ok { taken with word := some word }
  else .error (.unexpected word)

def checkValue (name : CommandName) (taken : Taken) : Except UsageError Unit :=
  if taken.word.isSome then (query name taken.word).map fun _ => () else .ok ()

def parseCommand (name : CommandName) (taken : Taken) :
    List String → Except UsageError (Option (Query × Bool))
  | [] => do
    let query ← query name taken.word
    pure (some (query, taken.json))
  | argument :: rest =>
    if taken.literal then do
      parseCommand name (← takeValue name taken argument) rest
    else
      match Token.ofArgument argument with
      | .rest => parseCommand name { taken with literal := true } rest
      | .flag .json _ => do
        checkValue name taken
        parseCommand name (← takeJson taken) rest
      | .flag .help _ => do
        checkValue name taken
        pure none
      | .flag .version shown | .unknownOption shown => .error (.unexpected shown)
      | .flagValue .version _ => .error (.unexpected Flag.version.text)
      | .flagValue flag value => .error (.flagValue flag value)
      | .word word => do parseCommand name (← takeValue name taken word) rest

/-- A word that is one too many may be a command that is misspelt; behind `--` there are none. -/
def takePath (taken : Taken) (word : String) : Except UsageError Taken :=
  if taken.word.isNone then .ok { taken with word := some word }
  else if taken.literal && commandWords.contains word then .error (.unexpected word)
  else if commandWords.any (Similarity.areAlike word) then .error (.unknownCommand word)
  else .error (.unexpected word)

def checkPath (taken : Taken) : Except UsageError Unit :=
  if taken.word = some "" then .error .emptyPath else .ok ()

def parseTopic : List String → Except UsageError Request
  | [] => .ok .help
  | [topic] => if commandWords.contains topic then .ok .help else .error (.unknownCommand topic)
  | topic :: deeper :: _ =>
    .error (.unknownCommand (if commandWords.contains topic then deeper else topic))

def parseFrom (taken : Taken) : List String → Except UsageError Request
  | [] => do
    checkPath taken
    .error (if taken.word.isNone && !taken.json then .noArguments else .missingCommand)
  | argument :: rest =>
    if taken.literal then do
      parseFrom (← takePath taken argument) rest
    else
      match Token.ofArgument argument with
      | .rest => parseFrom { taken with literal := true } rest
      | .flag .json _ => do
        checkPath taken
        parseFrom (← takeJson taken) rest
      | .flag .help _ => do
        checkPath taken
        pure .help
      | .flag .version _ => do
        checkPath taken
        pure .version
      | .flagValue flag value => .error (.flagValue flag value)
      | .unknownOption shown => .error (.unexpected shown)
      | .word "help" => parseTopic rest
      | .word word =>
        match CommandName.ofText? word with
        | some name => do
          let parsed ← parseCommand name {} rest
          match parsed, taken.word with
          | none, _ => pure .help
          | some _, none => .error .missingArgument
          | some (query, json), some path => do
            checkPath taken
            pure (.inspect ⟨path, taken.json || json, query⟩)
        | none => do parseFrom (← takePath taken word) rest

def parse (arguments : List String) : Except UsageError Request := parseFrom {} arguments

end Arguments

end ElfTables
