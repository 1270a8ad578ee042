import MigrationAudit.Pattern.Escape
import MigrationAudit.Text.Pieces

/-!
# Sets in brackets

A set in brackets lists characters, ranges, classes and sets in brackets of their own, after a caret
for their complement.  Two sets are combined by two ampersands, hyphens or tildes; combinations are
read from the left.
-/

namespace MigrationAudit.Pattern

open Text

inductive SetOperation where
  | both | difference | symmetricDifference

def SetOperation.apply : SetOperation → CharSet → CharSet → CharSet
  | both, s, t => .both s t
  | difference, s, t => .difference s t
  | symmetricDifference, s, t => .symmetricDifference s t

/-- What is read of a set: its items since the last operation, and that operation with its left
side. -/
structure OpenSet where
  negated : Bool
  items : List CharSet
  left : Option (SetOperation × CharSet)

def Flags.folded (flags : Flags) (s : CharSet) : CharSet :=
  if flags.anyCase then .upToCase s else s

namespace OpenSet

def add (o : OpenSet) (s : CharSet) : OpenSet := { o with items := o.items ++ [s] }

/-- The set so far. -/
def value (flags : Flags) (o : OpenSet) : CharSet :=
  match o.left with
  | none => .ofList o.items
  | some (operation, s) => operation.apply (flags.folded s) (flags.folded (.ofList o.items))

def operate (flags : Flags) (o : OpenSet) (operation : SetOperation) : OpenSet :=
  { o with items := [], left := some (operation, o.value flags) }

/-- The set when its bracket is closed. -/
def close? (flags : Flags) (o : OpenSet) : Option CharSet :=
  let s := flags.folded (o.value flags)
  if o.negated then flags.complement? s else some s

end OpenSet

/-- The ASCII classes that are named between colons. -/
def asciiClasses : List (String × CharSet) :=
  [("alnum", .either asciiLetter asciiDigit), ("alpha", asciiLetter),
    ("ascii", .range '\x00' '\x7f'),
    ("blank", .ofChars ['\t', ' ']), ("cntrl", .either (.range '\x00' '\x1f') (.single '\x7f')),
    ("digit", asciiDigit), ("graph", .range '!' '~'), ("lower", .range 'a' 'z'),
    ("print", .range ' ' '~'),
    ("punct", .ofList [.range '!' '/', .range ':' '@', .range '[' (Char.ofNat 0x60),
      .range '\x7b' '~']),
    ("space", asciiBlank), ("upper", .range 'A' 'Z'), ("word", asciiWord),
    ("xdigit", .ofList [asciiDigit, .range 'a' 'f', .range 'A' 'F'])]

/-- An ASCII class after an opening bracket, and what follows its closing one. -/
def asciiClass? (flags : Flags) (cs : List Char) : Option (CharSet × List Char) := do
  let rest ← match cs with
    | ':' :: rest => some rest
    | _ => none
  let (negated, rest) := match rest with
    | '^' :: rest => (true, rest)
    | rest => (false, rest)
  let (name, rest) ← splitAtFirst? ':' rest
  let s ← asciiClasses.lookup (String.ofList name)
  match rest with
  | ']' :: rest => some (if negated then .complement (flags.folded s) else s, rest)
  | _ => none

/-- The hyphens at the start of a set are characters of it. -/
def leadingHyphens (flags : Flags) : Nat → OpenSet → List Char → OpenSet × List Char
  | 0, o, cs => (o, cs)
  | fuel + 1, o, cs =>
    match cs with
    | '-' :: rest => leadingHyphens flags fuel (o.add (.single '-')) (flags.skip rest)
    | cs => (o, cs)

/-- The start of a set after its opening bracket: a caret negates, and a closing bracket that comes
first is a character of the set. -/
def openSet (flags : Flags) (cs : List Char) : OpenSet × List Char :=
  let (negated, cs) := match flags.skip cs with
    | '^' :: rest => (true, flags.skip rest)
    | cs => (false, cs)
  match leadingHyphens flags cs.length ⟨negated, [], none⟩ cs with
  | (⟨negated, [], left⟩, ']' :: rest) =>
    (⟨negated, [.single ']'], left⟩, flags.skip rest)
  | start => start

/-- One item of a set, or one end of a range. -/
def setAtom? (flags : Flags) : List Char → Option (Atom × List Char)
  | [] => none
  | '\\' :: rest => escape? flags rest
  | c :: rest => some (.char c, rest)

/-- Where classes are ASCII only, so are the characters in brackets. -/
def allowedChar (flags : Flags) (c : Char) : Bool := !flags.asciiOnly || c.toNat < 0x80

/-- A character, class or range. -/
def setItem? (flags : Flags) (cs : List Char) : Option (CharSet × List Char) := do
  let (first, rest) ← setAtom? flags cs
  let rest := flags.skip rest
  let isRange := match rest with
    | '-' :: more =>
      match flags.skip more with
      | ']' :: _ => false
      | '-' :: _ => false
      | _ => true
    | _ => false
  match first with
  | .char c =>
    unless allowedChar flags c do none
    if isRange then
      let (last, rest) ← setAtom? flags (flags.skip (rest.drop 1))
      match last with
      | .char d => if c ≤ d ∧ allowedChar flags d then some (.range c d, rest) else none
      | _ => none
    else some (.single c, rest)
  | .set s => if isRange then none else some (s, rest)
  | .edge _ => none

/-- A set from after its start to behind its closing bracket. -/
def setRest? (flags : Flags) : Nat → OpenSet → List Char → Option (CharSet × List Char)
  | 0, _, _ => none
  | fuel + 1, o, cs =>
    match flags.skip cs with
    | [] => none
    | ']' :: rest => (o.close? flags).map fun s => (s, rest)
    | '[' :: rest =>
      match asciiClass? flags rest with
      | some (s, rest) => setRest? flags fuel (o.add s) rest
      | none =>
        let (inner, rest) := openSet flags rest
        match setRest? flags fuel inner rest with
        | some (s, rest) => setRest? flags fuel (o.add s) rest
        | none => none
    | '&' :: '&' :: rest => setRest? flags fuel (o.operate flags .both) rest
    | '-' :: '-' :: rest => setRest? flags fuel (o.operate flags .difference) rest
    | '~' :: '~' :: rest => setRest? flags fuel (o.operate flags .symmetricDifference) rest
    | cs =>
      match setItem? flags cs with
      | some (s, rest) => setRest? flags fuel (o.add s) rest
      | none => none

/-- A set after its opening bracket. -/
def set? (flags : Flags) (cs : List Char) : Option (CharSet × List Char) :=
  let (start, rest) := openSet flags cs
  setRest? flags (rest.length + 1) start rest

end MigrationAudit.Pattern
