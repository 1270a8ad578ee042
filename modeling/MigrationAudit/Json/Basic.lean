import MigrationAudit.Number.Shortest

/-!
# JSON values

A value as it is read from a text, with the place at which the text goes wrong still in it: a list
or an object may stop at a fault instead of its closing bracket, and a value may be broken.  Whoever
goes through a value in the order of the text meets its faults in that order, between the faults of
shape that a reader raises itself.

Some faults matter only to a reader of the value.  A string whose surrogates do not pair up, or a
number beyond the range of floating point, is in order for whoever skips it.
-/

namespace MigrationAudit

/-- What is wrong with a text that should hold a record. -/
inductive JsonFault where
  /-- The text ends too early. -/
  | incomplete
  /-- The text is not JSON. -/
  | malformed
  /-- The text is JSON of another shape. -/
  | mismatched
  deriving DecidableEq, Repr

/-- Whole numbers of 64 bits are kept exactly, all others as floating point numbers. -/
inductive JsonNumber where
  | natural (n : Nat)
  | negative (n : Nat)
  | real (minus : Bool) (x : Binary64)
  deriving DecidableEq, Repr

def JsonNumber.render : JsonNumber → String
  | natural n => toString n
  | negative n => "-" ++ toString n
  | real false x => x.render
  | real true x => "-" ++ x.render

mutual

inductive Json where
  | null
  | bool (b : Bool)
  | number (n : JsonNumber)
  | text (s : String)
  | array (items : JsonItems)
  | object (members : JsonMembers)
  /-- What cannot be read for the one fault, nor skipped for the other, if there is another. -/
  | broken (read : JsonFault) (skipped : Option JsonFault)

/-- The items of a list, up to its closing bracket or a fault. -/
inductive JsonItems where
  | stop (fault : Option JsonFault)
  | item (head : Json) (rest : JsonItems)

/-- The members of an object, up to its closing brace or a fault.  A key is absent when its
surrogates do not pair up. -/
inductive JsonMembers where
  | stop (fault : Option JsonFault)
  | member (key : Option String) (value : Json) (rest : JsonMembers)

end

/-- How deep brackets may nest where values are read. -/
def Json.depthLimit : Nat := 128

mutual

/-- The first fault met when the value is skipped. -/
def Json.skipFault : Json → Option JsonFault
  | .broken _ skipped => skipped
  | .array items => items.skipFault
  | .object members => members.skipFault
  | _ => none

def JsonItems.skipFault : JsonItems → Option JsonFault
  | .stop fault => fault
  | .item head rest => head.skipFault.or rest.skipFault

def JsonMembers.skipFault : JsonMembers → Option JsonFault
  | .stop fault => fault
  | .member _ value rest => value.skipFault.or rest.skipFault

end

mutual

/-- The first fault met when the value, inside `depth` brackets, is read whatever its shape. -/
def Json.readFault (depth : Nat) : Json → Option JsonFault
  | .broken read _ => some read
  | .array items =>
    if depth + 1 < Json.depthLimit then items.readFault (depth + 1) else some .malformed
  | .object members =>
    if depth + 1 < Json.depthLimit then members.readFault (depth + 1) else some .malformed
  | _ => none

def JsonItems.readFault (depth : Nat) : JsonItems → Option JsonFault
  | .stop fault => fault
  | .item head rest => (head.readFault depth).or (rest.readFault depth)

def JsonMembers.readFault (depth : Nat) : JsonMembers → Option JsonFault
  | .stop fault => fault
  | .member none _ _ => some .malformed
  | .member (some _) value rest => (value.readFault depth).or (rest.readFault depth)

end

def JsonItems.ofList : List Json → JsonItems
  | [] => .stop none
  | j :: js => .item j (ofList js)

def JsonItems.toList : JsonItems → List Json
  | .stop _ => []
  | .item head rest => head :: rest.toList

def JsonMembers.ofList : List (String × Json) → JsonMembers
  | [] => .stop none
  | (k, j) :: rest => .member (some k) j (ofList rest)

def JsonMembers.toList : JsonMembers → List (String × Json)
  | .stop _ => []
  | .member none _ rest => rest.toList
  | .member (some k) value rest => (k, value) :: rest.toList

def Json.list (items : List Json) : Json := .array (JsonItems.ofList items)

def Json.record (members : List (String × Json)) : Json := .object (JsonMembers.ofList members)

def Json.optional (s : Option String) : Json := s.elim .null .text

end MigrationAudit
