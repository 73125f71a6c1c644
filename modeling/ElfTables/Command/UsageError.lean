import ElfTables.Text.Styled

namespace ElfTables

inductive Flag where
  | json
  | help
  | version
  deriving DecidableEq, Repr

def Flag.text : Flag → String
  | .json => "--json"
  | .help => "--help"
  | .version => "--version"

inductive UsageError where
  | noArguments
  | missingCommand
  | missingArgument
  | emptyPath
  | unexpected (argument : String)
  | unknownCommand (word : String)
  | repeatedFlag (flag : Flag)
  | flagValue (flag : Flag) (value : String)
  | invalidAddress (argument reason : String)
  deriving DecidableEq, Repr

def summary : String :=
  "Inspect ELF program and section headers and translate virtual addresses"

namespace UsageError

def plain (text : String) : Span := ⟨.plain, text⟩

def wrong (text : String) : Span := ⟨.wrong, text⟩

def strong (text : String) : Span := ⟨.strong, text⟩

def details : UsageError → Styled
  | .noArguments => []
  | .missingCommand =>
    [plain "'", wrong "elfmap", plain "' requires a subcommand but one was not provided"]
  | .missingArgument => [plain "the following required arguments were not provided:"]
  | .emptyPath =>
    [plain "a value is required for '", wrong "<PATH>", plain "' but none was supplied"]
  | .unexpected argument => [plain "unexpected argument '", wrong argument, plain "' found"]
  | .unknownCommand word => [plain "unrecognized subcommand '", wrong word, plain "'"]
  | .repeatedFlag flag =>
    [plain "the argument '", wrong flag.text, plain "' cannot be used multiple times"]
  | .flagValue flag value =>
    [plain "unexpected value '", wrong value, plain "' for '", strong flag.text,
      plain "' found; no more were expected"]
  | .invalidAddress argument reason =>
    [plain "invalid value '", wrong argument, plain "' for '", strong "<VADDR>",
      plain s!"': {reason}"]

def message : UsageError → Styled
  | .noArguments => [plain summary]
  | error => ⟨.alarm, "error:"⟩ :: plain " " :: error.details

end UsageError

end ElfTables
