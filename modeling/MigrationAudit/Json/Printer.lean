import MigrationAudit.Json.Basic

/-!
# Writing JSON

A text is written between quotes, with a backslash before quotes and backslashes, short escapes for
the common control characters and four hexadecimal digits for the others; every other character is
written as it is.  Values are written on one line, or over several with two spaces per level.
-/

namespace MigrationAudit.Json

def hexDigits : List Char := "0123456789abcdef".toList

/-- The four hexadecimal digits of a control character. -/
def controlDigits (n : Nat) : List Char :=
  ['0', '0', hexDigits.getD (n / 16) '0', hexDigits.getD (n % 16) '0']

def escapeChar (c : Char) : List Char :=
  if c = '"' then ['\\', '"']
  else if c = '\\' then ['\\', '\\']
  else if c = '\n' then ['\\', 'n']
  else if c = '\r' then ['\\', 'r']
  else if c = '\t' then ['\\', 't']
  else if c = '\x08' then ['\\', 'b']
  else if c = '\x0c' then ['\\', 'f']
  else if c.toNat < 0x20 then '\\' :: 'u' :: controlDigits c.toNat
  else [c]

def quote (s : String) : String :=
  "\"" ++ String.ofList (s.toList.flatMap escapeChar) ++ "\""

mutual

/-- The value on one line. -/
def compact : Json → String
  | .null => "null"
  | .bool true => "true"
  | .bool false => "false"
  | .number n => n.render
  | .text s => quote s
  | .array items => "[" ++ compactItems true items ++ "]"
  | .object members => "\x7b" ++ compactMembers true members ++ "\x7d"
  | .broken _ _ => "null"

def compactItems (first : Bool) : JsonItems → String
  | .stop _ => ""
  | .item head rest => (if first then "" else ",") ++ head.compact ++ compactItems false rest

def compactMembers (first : Bool) : JsonMembers → String
  | .stop _ => ""
  | .member key value rest =>
    (if first then "" else ",") ++ quote (key.getD "") ++ ":" ++ value.compact ++
      compactMembers false rest

end

/-- A new line with the indentation of a level. -/
def newLine (level : Nat) : String := "\n" ++ String.ofList (List.replicate (2 * level) ' ')

mutual

/-- The value over several lines, inside `level` brackets. -/
def prettyAt (level : Nat) : Json → String
  | .array (.item head rest) =>
    "[" ++ newLine (level + 1) ++ head.prettyAt (level + 1) ++ prettyItems (level + 1) rest ++
      newLine level ++ "]"
  | .object (.member key value rest) =>
    "\x7b" ++ newLine (level + 1) ++ quote (key.getD "") ++ ": " ++ value.prettyAt (level + 1) ++
      prettyMembers (level + 1) rest ++ newLine level ++ "\x7d"
  | .null => "null"
  | .bool true => "true"
  | .bool false => "false"
  | .number n => n.render
  | .text s => quote s
  | .array (.stop _) => "[]"
  | .object (.stop _) => "\x7b\x7d"
  | .broken _ _ => "null"

def prettyItems (level : Nat) : JsonItems → String
  | .stop _ => ""
  | .item head rest => "," ++ newLine level ++ head.prettyAt level ++ prettyItems level rest

def prettyMembers (level : Nat) : JsonMembers → String
  | .stop _ => ""
  | .member key value rest =>
    "," ++ newLine level ++ quote (key.getD "") ++ ": " ++ value.prettyAt level ++
      prettyMembers level rest

end

def pretty (j : Json) : String := j.prettyAt 0

end MigrationAudit.Json
