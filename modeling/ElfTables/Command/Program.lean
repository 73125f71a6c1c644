import ElfTables.Command.Answer
import ElfTables.Text.Tint

namespace ElfTables

structure Outcome where
  exitCode : UInt8
  stdout : String
  stderr : String
  deriving DecidableEq, Repr

inductive Opened where
  | failed (reason : String)
  | ready (handle : Handle)
  deriving DecidableEq, Repr

namespace Program

def versionText : String := "elfmap 0.1.0\n"

def helpText : String :=
  summary ++ "\n\n" ++
    "Usage: elfmap [OPTIONS] <PATH> <COMMAND>\n\n" ++
    "Commands:\n" ++
    "  info     Show ELF class and identification bytes\n" ++
    "  pht      Show the program header table\n" ++
    "  sht      Show the section header table\n" ++
    "  offset   Translate a virtual address into a file offset\n" ++
    "  section  Show the file offset and size of a section\n" ++
    "  help     Print this message or the help of the given subcommand(s)\n\n" ++
    "Arguments:\n" ++
    "  <PATH>  Path to binary file\n\n" ++
    "Options:\n" ++
    "      --json     Print JSON instead of tables\n" ++
    "  -h, --help     Print help\n" ++
    "  -V, --version  Print version\n"

def causeLines : List String → List String
  | [cause] => ["    " ++ cause]
  | causes => causes.zipIdx.map fun (cause, index) => s!"    {index}: {cause}"

def report (context : String) (causes : List String) : Outcome where
  exitCode := 1
  stdout := ""
  stderr := s!"Error: {context}\n\nCaused by:\n" ++
    String.join ((causeLines causes).map fun text => text ++ "\n")

def complain (text : String) : Outcome where
  exitCode := 1
  stdout := ""
  stderr := text ++ "\n"

def ofAnswer (colours : Bool) : Except Failure Answer → Outcome
  | .ok (.found stdout) => ⟨0, stdout, ""⟩
  | .ok (.missing stdout notice) => ⟨1, stdout, Tint.yellow.paint colours notice ++ "\n"⟩
  | .error failure => complain (Tint.boldRed.paint colours "error:" ++ " " ++ failure.message)

/-- Anything but an ELF object is refused, except that its identification can be asked for. -/
def inspect (invocation : Invocation) (colours : Bool) : Opened → Outcome
  | .failed reason => report s!"couldn't open {invocation.path}" [reason]
  | .ready handle =>
    match (Session.ofHandle handle).value with
    | .error error => report s!"couldn't parse {invocation.path}" error.chain
    | .ok session =>
      if !session.isElf && invocation.query != .info then
        complain (Tint.red.paint colours s!"{invocation.path} is not an ELF file")
      else
        ofAnswer colours (Answer.ofQuery session invocation.json invocation.query)

def run (arguments : List String) (files : String → Opened) (colours : Bool) : Outcome :=
  match Arguments.parse arguments with
  | .error error => ⟨2, "", error.message.shown colours ++ "\n"⟩
  | .ok .version => ⟨0, versionText, ""⟩
  | .ok .help => ⟨0, helpText, ""⟩
  | .ok (.inspect invocation) => inspect invocation colours (files invocation.path)

end Program

end ElfTables
