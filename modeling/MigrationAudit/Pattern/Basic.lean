import MigrationAudit.Pattern.CharSet

/-!
# Patterns

A pattern matches stretches of a text: characters of a set one after the other, alternatives,
repetitions, and edges, which have no length but a condition on their surroundings.  `Pattern.ends`
lists where the stretches that start at a position end; a repetition is followed until it reaches no
further position.
-/

namespace MigrationAudit

namespace Pattern

/-- A place in a text, by what is on either side of it. -/
inductive Edge where
  | textStart
  | textEnd
  | lineStart
  | lineEnd
  /-- Lines end in a carriage return with a line feed, or in either alone. -/
  | anyLineStart
  | anyLineEnd
  | wordEdge (inside : CharSet)
  | noWordEdge (inside : CharSet)
  | wordStart (inside : CharSet)
  | wordEnd (inside : CharSet)
  /-- No word before. -/
  | wordStartHalf (inside : CharSet)
  /-- No word behind. -/
  | wordEndHalf (inside : CharSet)
  deriving DecidableEq, Repr

namespace Edge

/-- Whether the edge is between a character and the next one, either of which may be absent. -/
def isBetween (before behind : Option Char) : Edge → Bool
  | textStart => before.isNone
  | textEnd => behind.isNone
  | lineStart => before.all (· == '\n')
  | lineEnd => behind.all (· == '\n')
  | anyLineStart =>
    before.all fun c => c == '\n' || (c == '\r' && behind != some '\n')
  | anyLineEnd =>
    behind.all fun c => c == '\r' || (c == '\n' && before != some '\r')
  | wordEdge inside => before.any inside.has != behind.any inside.has
  | noWordEdge inside => before.any inside.has == behind.any inside.has
  | wordStart inside => !before.any inside.has && behind.any inside.has
  | wordEnd inside => before.any inside.has && !behind.any inside.has
  | wordStartHalf inside => !before.any inside.has
  | wordEndHalf inside => !behind.any inside.has

end Edge

end Pattern

inductive Pattern where
  | empty
  | one (s : Pattern.CharSet)
  | edge (e : Pattern.Edge)
  | seq (p q : Pattern)
  | either (p q : Pattern)
  /-- At least so many times, and at most so many if there is a bound. -/
  | repeated (p : Pattern) (least : Nat) (greatest : Option Nat)
  deriving DecidableEq, Repr

namespace Pattern

/-- Positions of both lists, each once. -/
def join (is js : List Nat) : List Nat := is.foldr List.insert js

/-- The positions reached from some position of a list. -/
def spread (step : Nat → List Nat) (is : List Nat) : List Nat :=
  is.foldr (fun i found => join (step i) found) []

/-- The positions reached in exactly `n` steps. -/
def after (step : Nat → List Nat) : Nat → List Nat → List Nat
  | 0, is => is
  | n + 1, is => after step n (spread step is)

/-- The positions reached in at most `n` steps. -/
def within (step : Nat → List Nat) : Nat → List Nat → List Nat
  | 0, is => is
  | n + 1, is => within step n (join is (spread step is))

/-- The character before a position. -/
def charBefore (text : List Char) : Nat → Option Char
  | 0 => none
  | i + 1 => text[i]?

/-- Where the stretches end that start at a position.  There are no more positions than steps that
matter, so a repetition need not be followed further than the text is long. -/
def ends (text : List Char) : Pattern → Nat → List Nat
  | empty, i => [i]
  | one s, i => if text[i]?.any s.has then [i + 1] else []
  | edge e, i => if e.isBetween (charBefore text i) text[i]? then [i] else []
  | seq p q, i => spread (ends text q) (ends text p i)
  | either p q, i => join (ends text p i) (ends text q i)
  | repeated p least greatest, i =>
    let more := greatest.elim (text.length + 1) fun m => min (m - least) (text.length + 1)
    within (ends text p) more (after (ends text p) least [i])

/-- Whether the pattern matches a stretch of the text. -/
def isFoundIn (p : Pattern) (text : String) : Bool :=
  (List.range (text.toList.length + 1)).any fun i => !(ends text.toList p i).isEmpty

/-- How many characters the pattern asks for when its repetitions are written out. -/
def size : Pattern → Nat
  | empty => 0
  | one _ => 1
  | edge _ => 1
  | seq p q => size p + size q
  | either p q => size p + size q
  | repeated p least greatest => size p * max 1 (greatest.getD least)

/-- Patterns beyond this size are refused. -/
def sizeLimit : Nat := 300000

end Pattern

end MigrationAudit
