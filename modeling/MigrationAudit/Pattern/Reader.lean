import MigrationAudit.Pattern.Bracket

/-!
# Reading patterns

A pattern is read from left to right.  What is read so far is a sequence of items, the branches
before it in the group, and the groups around, which wait for their closing parentheses.  Flags hold
from where they are set to the end of the group.
-/

namespace MigrationAudit.Pattern

open Text

/-- An item of a sequence: a pattern, or nothing where flags were set. -/
abbrev Item := Option Pattern

/-- A group that waits: what was read before the group that is now open. -/
structure Waiting where
  flags : Flags
  items : List Item
  branches : List Pattern

/-- A place in reading.  Items and branches have the last one first. -/
structure Place where
  flags : Flags
  items : List Item
  branches : List Pattern
  waiting : List Waiting
  groupNames : List String

namespace Place

def start : Place := ⟨.default, [], [], [], []⟩

/-- The items one after the other. -/
def sequenced (items : List Item) : Pattern :=
  items.foldl (fun rest item =>
    match item with
    | none => rest
    | some p => if rest = .empty then p else .seq p rest) .empty

/-- The present group as a pattern. -/
def group (p : Place) : Pattern :=
  p.branches.foldl (fun rest branch => .either branch rest) (sequenced p.items)

def push (p : Place) (item : Pattern) : Place := { p with items := some item :: p.items }

def openGroup (p : Place) (flags : Flags) : Place :=
  { p with flags, items := [], branches := [],
           waiting := ⟨p.flags, p.items, p.branches⟩ :: p.waiting }

def closeGroup? (p : Place) : Option Place :=
  match p.waiting with
  | [] => none
  | w :: waiting =>
    some { p with flags := w.flags, items := some p.group :: w.items, branches := w.branches,
                  waiting }

/-- The last item is repeated; flags cannot be. -/
def repeatLast? (p : Place) (least : Nat) (greatest : Option Nat) : Option Place :=
  match p.items with
  | some last :: items => some { p with items := some (.repeated last least greatest) :: items }
  | _ => none

end Place

def Flags.charPattern (flags : Flags) (c : Char) : Pattern := .one (flags.folded (.single c))

def Flags.atomPattern (flags : Flags) : Atom → Pattern
  | .char c => flags.charPattern c
  | .set s => .one s
  | .edge e => .edge e

/-- The characters that a dot matches. -/
def Flags.dot? (flags : Flags) : Option CharSet :=
  if flags.asciiOnly then none
  else if flags.dotAll then some .anything
  else if flags.anyLineEnd then some (.complement (.ofChars ['\n', '\r']))
  else some (.complement (.single '\n'))

def Flags.startEdge (flags : Flags) : Edge :=
  if !flags.multiLine then .textStart
  else if flags.anyLineEnd then .anyLineStart
  else .lineStart

def Flags.endEdge (flags : Flags) : Edge :=
  if !flags.multiLine then .textEnd
  else if flags.anyLineEnd then .anyLineEnd
  else .lineEnd

/-- Sets or clears the flag of a letter. -/
def Flags.set? (flags : Flags) (on : Bool) (letter : Char) : Option Flags :=
  match letter with
  | 'i' => some { flags with anyCase := on }
  | 'm' => some { flags with multiLine := on }
  | 's' => some { flags with dotAll := on }
  | 'R' => some { flags with anyLineEnd := on }
  | 'x' => some { flags with verbose := on }
  | 'u' => some { flags with asciiOnly := !on }
  | 'U' => some flags
  | _ => none

/-- The flags that letters set, and after a hyphen clear, each letter at most once. -/
def Flags.read? (seen : List Char) (on : Bool) (flags : Flags) : List Char → Option Flags
  | [] => some flags
  | '-' :: letters =>
    if !on ∨ letters = [] then none else read? seen false flags letters
  | letter :: letters =>
    if letter ∈ seen then none
    else do
      let changed ← flags.set? on letter
      read? (letter :: seen) on changed letters

def isNameStart (c : Char) : Bool := c == '_' || CharSet.letter.has c

def isNameChar (c : Char) : Bool :=
  c == '_' || c == '.' || c == '[' || c == ']' || CharSet.letter.has c || CharSet.number.has c

/-- The name of a group and what follows its closing angle bracket. -/
def groupName? (cs : List Char) : Option (String × List Char) :=
  match splitAtFirst? '>' cs with
  | some (c :: name, rest) =>
    if isNameStart c && name.all isNameChar then some (String.ofList (c :: name), rest) else none
  | _ => none

/-- A group of which the name is new. -/
def namedGroup? (p : Place) (cs : List Char) : Option (Place × List Char) := do
  let (name, rest) ← groupName? cs
  if name ∈ p.groupNames then none
  else some ({ p with groupNames := name :: p.groupNames }.openGroup p.flags, rest)

/-- Flags up to a parenthesis, from where they hold, or up to a colon, for the group they open. -/
def flagGroup? (p : Place) (cs : List Char) : Option (Place × List Char) := do
  let letters := cs.takeWhile fun c => c != ':' && c != ')'
  let flags ← Flags.read? [] true p.flags letters
  match cs.drop letters.length with
  | ')' :: rest =>
    if letters = [] then none else some ({ p with flags, items := none :: p.items }, rest)
  | ':' :: rest => some (p.openGroup flags, rest)
  | _ => none

/-- What an opening parenthesis begins.  Nothing looks ahead or behind. -/
def group? (p : Place) (cs : List Char) : Option (Place × List Char) :=
  match p.flags.skip cs with
  | '?' :: '=' :: _ => none
  | '?' :: '!' :: _ => none
  | '?' :: '<' :: '=' :: _ => none
  | '?' :: '<' :: '!' :: _ => none
  | '?' :: 'P' :: '<' :: rest => namedGroup? p rest
  | '?' :: '<' :: rest => namedGroup? p rest
  | '?' :: rest => flagGroup? p rest
  | rest => some (p.openGroup p.flags, rest)

/-- A question mark behind a repetition makes no difference to what matches. -/
def afterLazy : List Char → List Char
  | '?' :: rest => rest
  | rest => rest

/-- The greatest number of repetitions that can be written. -/
def countLimit : Nat := 0xffffffff

/-- The digits of a count, blanks around them aside. -/
def countDigits (flags : Flags) : Nat → List Char → List Char × List Char
  | 0, cs => ([], cs)
  | fuel + 1, cs =>
    match cs with
    | c :: rest =>
      if c.isDigit then
        let (ds, rest) := countDigits flags fuel (flags.skip rest)
        (c :: ds, rest)
      else ([], cs)
    | [] => ([], [])

/-- A count, nothing where it has no digits. -/
def count? (flags : Flags) (cs : List Char) : Option (Option Nat × List Char) :=
  let (ds, rest) := countDigits flags cs.length (dropLeadingBlank cs)
  let n := decimalValue ds
  if ds = [] then some (none, dropLeadingBlank rest)
  else if n ≤ countLimit then some (some n, dropLeadingBlank rest)
  else none

/-- The bounds of a repetition after an opening brace, and what follows the closing one. -/
def bounds? (flags : Flags) (cs : List Char) : Option (Nat × Option Nat × List Char) := do
  let (least, rest) ← count? flags (flags.skip cs)
  let least ← least
  match rest with
  | '\x7d' :: rest => return (least, some least, rest)
  | ',' :: rest =>
    match flags.skip rest with
    | '\x7d' :: rest => return (least, none, rest)
    | rest =>
      let (greatest, rest) ← count? flags rest
      let greatest ← greatest
      match rest with
      | '\x7d' :: rest => if least ≤ greatest then some (least, some greatest, rest) else none
      | _ => none
  | _ => none

/-- One step of reading. -/
def step? (p : Place) : List Char → Option (Place × List Char)
  | [] => none
  | c :: rest =>
    match c with
    | '(' => group? p rest
    | ')' => p.closeGroup?.map fun p => (p, rest)
    | '|' => some ({ p with items := [], branches := Place.sequenced p.items :: p.branches }, rest)
    | '[' => (Pattern.set? p.flags rest).map fun (s, rest) => (p.push (.one s), rest)
    | '?' => (p.repeatLast? 0 (some 1)).map fun p => (p, afterLazy rest)
    | '*' => (p.repeatLast? 0 none).map fun p => (p, afterLazy rest)
    | '+' => (p.repeatLast? 1 none).map fun p => (p, afterLazy rest)
    | '\x7b' => do
      let (least, greatest, rest) ← bounds? p.flags rest
      let p ← p.repeatLast? least greatest
      return (p, afterLazy (p.flags.skip rest))
    | '.' => p.flags.dot?.map fun s => (p.push (.one s), rest)
    | '^' => some (p.push (.edge p.flags.startEdge), rest)
    | '$' => some (p.push (.edge p.flags.endEdge), rest)
    | '\\' => (escape? p.flags rest).map fun (a, rest) => (p.push (p.flags.atomPattern a), rest)
    | c => some (p.push (p.flags.charPattern c), rest)

/-- Steps until nothing is left; every step takes a character at least. -/
def steps? : Nat → Place → List Char → Option Place
  | 0, _, _ => none
  | fuel + 1, p, cs =>
    match p.flags.skip cs with
    | [] => some p
    | cs =>
      match step? p cs with
      | some (p, rest) => steps? fuel p rest
      | none => none

/-- The pattern that a text denotes, if it denotes one of bearable size. -/
def ofText? (text : String) : Option Pattern := do
  let cs := text.toList
  let p ← steps? (cs.length + 1) .start cs
  if p.waiting.isEmpty && p.group.size ≤ sizeLimit then some p.group else none

end MigrationAudit.Pattern
