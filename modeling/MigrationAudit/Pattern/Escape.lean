import MigrationAudit.Pattern.Basic

/-!
# Escapes in patterns

A backslash gives the next character a meaning: a character that would have a meaning keeps to
itself, a letter stands for a control character, a class or an edge, and a code point may be written
in hexadecimal digits.  Flags change how what follows them is read.
-/

namespace MigrationAudit.Pattern

open Text

/-- The flags in force at a place in a pattern. -/
structure Flags where
  /-- Letters match up to case. -/
  anyCase : Bool
  /-- Every line has a start and an end. -/
  multiLine : Bool
  /-- A dot matches line ends too. -/
  dotAll : Bool
  /-- A carriage return ends a line too. -/
  anyLineEnd : Bool
  /-- Blanks and comments do not count. -/
  verbose : Bool
  /-- Classes hold ASCII characters only. -/
  asciiOnly : Bool
  deriving DecidableEq, Repr

def Flags.default : Flags := ⟨false, false, false, false, false, false⟩

/-- What stands for one place of a pattern. -/
inductive Atom where
  | char (c : Char)
  | set (s : CharSet)
  | edge (e : Edge)

/-- What follows a comment. -/
def skipComment (cs : List Char) : List Char := (cs.dropWhile (· ≠ '\n')).drop 1

/-- What follows the blanks and comments at the head, looked through `fuel` times. -/
def skipAll : Nat → List Char → List Char
  | 0, cs => cs
  | fuel + 1, cs =>
    match dropLeadingBlank cs with
    | '#' :: rest => skipAll fuel (skipComment rest)
    | rest => rest

/-- What follows the part that does not count. -/
def Flags.skip (flags : Flags) (cs : List Char) : List Char :=
  if flags.verbose then skipAll cs.length cs else cs

/-- The characters with a meaning of their own. -/
def metaChars : List Char := "\\.+*?()|[]\x7b\x7d^$#&-~".toList

/-- Characters that a backslash leaves as they are. -/
def isEscapable (c : Char) : Bool :=
  c ∈ metaChars || (c.toNat < 0x80 && !c.isAlphanum && c != '<' && c != '>')

def asciiDigit : CharSet := .range '0' '9'

def asciiLetter : CharSet := .either (.range 'A' 'Z') (.range 'a' 'z')

def asciiWord : CharSet := .ofList [asciiLetter, asciiDigit, .single '_']

def asciiBlank : CharSet := .ofChars ['\t', '\n', '\x0b', '\x0c', '\r', ' ']

def Flags.word (flags : Flags) : CharSet := if flags.asciiOnly then asciiWord else .word

/-- The class that a letter stands for. -/
def classOfLetter? (flags : Flags) (c : Char) : Option CharSet :=
  if c = 'd' then some (if flags.asciiOnly then asciiDigit else .digit)
  else if c = 's' then some (if flags.asciiOnly then asciiBlank else .blank)
  else if c = 'w' then some flags.word
  else none

/-- The complement of a set; it would hold parts of characters where classes are ASCII only. -/
def Flags.complement? (flags : Flags) (s : CharSet) : Option CharSet :=
  if flags.asciiOnly then none else some (.complement s)

def hexValue? (c : Char) : Option Nat :=
  if c.isDigit then some (c.toNat - '0'.toNat)
  else if 'a' ≤ c ∧ c ≤ 'f' then some (c.toNat - 'a'.toNat + 10)
  else if 'A' ≤ c ∧ c ≤ 'F' then some (c.toNat - 'A'.toNat + 10)
  else none

/-- The character with a code point in hexadecimal digits. -/
def charOfHex? (ds : List Char) : Option Char := do
  let values ← ds.mapM hexValue?
  let n := values.foldl (fun n d => 16 * n + d) 0
  if n.isValidChar ∧ ds ≠ [] then some (Char.ofNat n) else none

/-- So many characters after the parts that do not count. -/
def takeChars? (flags : Flags) : Nat → List Char → Option (List Char × List Char)
  | 0, cs => some ([], cs)
  | n + 1, cs =>
    match flags.skip cs with
    | [] => none
    | c :: rest => (takeChars? flags n rest).map fun (ds, rest) => (c :: ds, rest)

/-- The characters up to a closing brace, and what follows it. -/
def takeBraced? (flags : Flags) : Nat → List Char → Option (List Char × List Char)
  | 0, _ => none
  | fuel + 1, cs =>
    match flags.skip cs with
    | [] => none
    | '\x7d' :: rest => some ([], rest)
    | c :: rest => (takeBraced? flags fuel rest).map fun (ds, rest) => (c :: ds, rest)

/-- A code point in a fixed number of digits, or in braces. -/
def hex? (flags : Flags) (width : Nat) (cs : List Char) : Option (Atom × List Char) := do
  let (ds, rest) ← match flags.skip cs with
    | '\x7b' :: inside => takeBraced? flags (inside.length + 1) inside
    | cs => takeChars? flags width cs
  let c ← charOfHex? ds
  return (.char c, flags.skip rest)

/-- The classes that go by a name; case, blanks, hyphens and underscores of a name do not matter. -/
def namedClass? (name : List Char) : Option CharSet :=
  let letters := name.filter fun c => !(c == ' ' || c == '-' || c == '_')
  [("l", CharSet.letter), ("letter", .letter), ("lu", .capital), ("uppercaseletter", .capital),
    ("ll", .small), ("lowercaseletter", .small), ("n", .number), ("number", .number),
    ("nd", .digit), ("decimalnumber", .digit), ("digit", .digit), ("whitespace", .blank),
    ("wspace", .blank), ("space", .blank), ("any", .anything),
    ("ascii", .range '\x00' '\x7f')].lookup (String.ofList (letters.map Char.toLower))

/-- The class whose name is one character or stands in braces. -/
def property? (flags : Flags) (cs : List Char) : Option (CharSet × List Char) := do
  if flags.asciiOnly then none
  let (name, rest) ← match flags.skip cs with
    | '\x7b' :: inside => takeBraced? flags (inside.length + 1) inside
    | c :: rest => some ([c], flags.skip rest)
    | [] => none
  let s ← namedClass? name
  return (if flags.anyCase then .upToCase s else s, rest)

/-- The control characters that letters stand for. -/
def controlOfLetter? (c : Char) : Option Char :=
  [('a', '\x07'), ('f', '\x0c'), ('t', '\t'), ('n', '\n'), ('r', '\r'), ('v', '\x0b')].lookup c

/-- The edge of a word that a name in braces stands for. -/
def namedEdge? (inside : CharSet) (name : String) : Option Edge :=
  [("start", Edge.wordStart inside), ("end", .wordEnd inside),
    ("start-half", .wordStartHalf inside), ("end-half", .wordEndHalf inside)].lookup name

/-- An edge of words, of a special kind if a name in braces follows. -/
def wordEdge? (flags : Flags) (cs : List Char) : Option (Atom × List Char) :=
  let plain := some (Atom.edge (.wordEdge flags.word), cs)
  match cs with
  | '\x7b' :: inside =>
    match flags.skip inside with
    | [] => none
    | c :: rest =>
      if c.isAlpha || c == '-' then do
        let (name, rest) ← takeBraced? flags (rest.length + 2) (c :: rest)
        let e ← namedEdge? flags.word (String.ofList name)
        return (.edge e, rest)
      else plain
  | _ => plain

/-- What a backslash and the characters after it stand for. -/
def escape? (flags : Flags) : List Char → Option (Atom × List Char)
  | [] => none
  | c :: rest =>
    match classOfLetter? flags c, classOfLetter? flags c.toLower, controlOfLetter? c with
    | some s, _, _ => some (.set s, rest)
    | none, some s, _ => (flags.complement? s).map fun s => (.set s, rest)
    | none, none, some control => some (.char control, rest)
    | none, none, none =>
      match c with
      | 'x' => hex? flags 2 rest
      | 'u' => hex? flags 4 rest
      | 'U' => hex? flags 8 rest
      | 'p' => (property? flags rest).map fun (s, rest) => (.set s, rest)
      | 'P' => (property? flags rest).map fun (s, rest) => (.set (.complement s), rest)
      | 'A' => some (.edge .textStart, rest)
      | 'z' => some (.edge .textEnd, rest)
      | 'b' => wordEdge? flags rest
      | 'B' => some (.edge (.noWordEdge flags.word), rest)
      | '<' => some (.edge (.wordStart flags.word), rest)
      | '>' => some (.edge (.wordEnd flags.word), rest)
      | c => if isEscapable c then some (.char c, rest) else none

end MigrationAudit.Pattern
