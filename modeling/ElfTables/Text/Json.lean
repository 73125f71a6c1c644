import ElfTables.Text.Hex

namespace ElfTables

inductive JsonScalar where
  | null
  | bool (value : Bool)
  | number (value : Nat)
  | string (text : String)
  deriving DecidableEq, Repr

abbrev JsonRecord := List (String × JsonScalar)

namespace Json

def escape (c : Char) : List Char :=
  if c = '"' then ['\\', '"']
  else if c = '\\' then ['\\', '\\']
  else if c = '\x08' then ['\\', 'b']
  else if c = '\x0c' then ['\\', 'f']
  else if c = '\n' then ['\\', 'n']
  else if c = '\r' then ['\\', 'r']
  else if c = '\t' then ['\\', 't']
  else if c.toNat < 0x20 then '\\' :: 'u' :: Hex.digits 4 c.toNat
  else [c]

def quote (text : String) : List Char := '"' :: (text.toList.flatMap escape ++ ['"'])

def scalar : JsonScalar → List Char
  | .null => "null".toList
  | .bool true => "true".toList
  | .bool false => "false".toList
  | .number value => Nat.toDigits 10 value
  | .string text => quote text

def blanks (count : Nat) : List Char := List.replicate count ' '

def field (indent : Nat) (entry : String × JsonScalar) : List Char :=
  blanks (indent + 2) ++ quote entry.1 ++ [':', ' '] ++ scalar entry.2

def record (indent : Nat) (fields : JsonRecord) : List Char :=
  ['\x7b', '\n'] ++ [',', '\n'].intercalate (fields.map (field indent)) ++
    '\n' :: (blanks indent ++ ['\x7d'])

def rows : List JsonRecord → List Char
  | [] => ['[', ']']
  | records =>
    let items := records.map fun fields => blanks 2 ++ record 2 fields
    ['[', '\n'] ++ [',', '\n'].intercalate items ++ ['\n', ']']

end Json

end ElfTables
