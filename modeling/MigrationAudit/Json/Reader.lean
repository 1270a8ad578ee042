import MigrationAudit.Json.Basic
import MigrationAudit.Text.Digit

/-!
# Reading JSON texts

A text is read from left to right into a value.  At the first place where no JSON text goes on like
this, the value is cut off there with its fault; what a text denotes up to that place is kept.
-/

namespace MigrationAudit.JsonText

open Text

/-- A value and the text after it; no text is left when the value is cut off. -/
abbrev Step (α : Type) := α × Option (List Char)

def isSpace (c : Char) : Bool := c == ' ' || c == '\n' || c == '\t' || c == '\r'

def skipSpace (cs : List Char) : List Char := cs.dropWhile isSpace

/-- A value cut off by one fault for readers and skippers alike. -/
def cut (fault : JsonFault) : Step Json := (.broken fault (some fault), none)

/-- A literal word: what is left of it has to follow. -/
def word (value : Json) : List Char → List Char → Step Json
  | [], rest => (value, some rest)
  | _ :: _, [] => cut .incomplete
  | w :: ws, c :: cs => if c = w then word value ws cs else cut .malformed

/-! ### Strings -/

/-- A string: its text, if its surrogates pair up, and what follows; or where it is cut off. -/
inductive StringScan where
  | done (text : Option String) (rest : List Char)
  | cut (read skipped : JsonFault)

def hexDigit? (c : Char) : Option Nat :=
  if c.isDigit then some (c.toNat - '0'.toNat)
  else if 'a' ≤ c ∧ c ≤ 'f' then some (c.toNat - 'a'.toNat + 10)
  else if 'A' ≤ c ∧ c ≤ 'F' then some (c.toNat - 'A'.toNat + 10)
  else none

def hexValue? (cs : List Char) : Option Nat :=
  cs.foldl (fun n c => do return 16 * (← n) + (← hexDigit? c)) (some 0)

def simpleEscape? : Char → Option Char
  | '"' => some '"' | '\\' => some '\\' | '/' => some '/'
  | 'b' => some '\x08' | 'f' => some '\x0c' | 'n' => some '\n' | 'r' => some '\r' | 't' => some '\t'
  | _ => none

def isHighSurrogate (n : Nat) : Bool := 0xd800 ≤ n && n ≤ 0xdbff

def isLowSurrogate (n : Nat) : Bool := 0xdc00 ≤ n && n ≤ 0xdfff

def byteLength (cs : List Char) : Nat := cs.foldr (fun c n => c.utf8Size + n) 0

/-- The text read so far, in reverse, unless its surrogates did not pair up, and the high surrogate
that waits for its low one. -/
structure StringState where
  text : Option (List Char)
  high : Option Nat

namespace StringState

/-- A waiting high surrogate is lost when anything but its low one follows. -/
def settle (s : StringState) : Option (List Char) := if s.high.isSome then none else s.text

def push (s : StringState) (c : Char) : StringState := ⟨s.settle.map (c :: ·), none⟩

/-- A unit of UTF-16 written as an escape. -/
def pushUnit (s : StringState) (n : Nat) : StringState :=
  match s.high with
  | some h =>
    if isLowSurrogate n then
      ⟨s.text.map (Char.ofNat (0x10000 + (h - 0xd800) * 0x400 + (n - 0xdc00)) :: ·), none⟩
    else ⟨none, none⟩
  | none =>
    if isHighSurrogate n then ⟨s.text, some n⟩
    else if isLowSurrogate n then ⟨none, none⟩
    else s.push (Char.ofNat n)

def cut (s : StringState) (fault : JsonFault) : StringScan :=
  .cut (if s.text.isNone then .malformed else fault) fault

end StringState

/-- The rest of a string after its opening quote. -/
def scanString (s : StringState) : List Char → StringScan
  | [] => s.cut .incomplete
  | '"' :: rest => .done (s.settle.map fun cs => String.ofList cs.reverse) rest
  | '\\' :: 'u' :: a :: b :: c :: d :: rest =>
    match hexValue? [a, b, c, d] with
    | some n => scanString (s.pushUnit n) rest
    | none => s.cut .malformed
  | '\\' :: 'u' :: rest => s.cut (if byteLength rest < 4 then .incomplete else .malformed)
  | ['\\'] => s.cut .incomplete
  | '\\' :: e :: rest =>
    match simpleEscape? e with
    | some c => scanString (s.push c) rest
    | none => s.cut .malformed
  | c :: rest => if c.toNat < 0x20 then s.cut .malformed else scanString (s.push c) rest

def readString (cs : List Char) : StringScan := scanString ⟨some [], none⟩ cs

def stringValue (cs : List Char) : Step Json :=
  match readString cs with
  | .done (some s) rest => (.text s, some rest)
  | .done none rest => (.broken .malformed none, some rest)
  | .cut read skipped => (.broken read (some skipped), none)

/-! ### Numbers -/

/-- The digits of a number as one significand that fits into 64 bits, and how many places of it
were dropped for that (`dropped`) or stand after the point (`places`). -/
structure Significand where
  value : Nat
  dropped : Nat
  places : Nat

namespace Significand

/-- Digits before the point: from the first that does not fit on, each is a dropped place. -/
def integer (s : Significand) : List Char → Significand
  | [] => s
  | c :: cs =>
    if s.dropped = 0 ∧ 10 * s.value + digitValue c ≤ maxWord then
      integer ⟨10 * s.value + digitValue c, 0, s.places⟩ cs
    else integer ⟨s.value, s.dropped + 1, s.places⟩ cs

/-- Digits after the point: from the first that does not fit on, none counts. -/
def fraction (s : Significand) : List Char → Significand
  | [] => s
  | c :: cs =>
    if 10 * s.value + digitValue c ≤ maxWord then
      fraction ⟨10 * s.value + digitValue c, s.dropped, s.places + 1⟩ cs
    else s

end Significand

/-- The number with these digits before and after the point and this exponent, if it is finite. -/
def numberValue? (minus : Bool) (whole : List Char) (fraction : Option (List Char))
    (exponent : Option Int) : Option JsonNumber :=
  let s := Significand.integer ⟨0, 0, 0⟩ whole
  let exact := fraction.isNone && exponent.isNone && s.dropped == 0
  if exact && !minus then some (.natural s.value)
  else if exact && 0 < s.value && s.value ≤ 0x8000000000000000 then some (.negative s.value)
  else
    let s := s.fraction (fraction.getD [])
    (Binary64.ofDecimal? s.value (s.dropped - s.places + exponent.getD 0)).map (.real minus)

def finishNumber (minus : Bool) (whole : List Char) (fraction : Option (List Char))
    (exponent : Option Int) (rest : List Char) : Step Json :=
  match numberValue? minus whole fraction exponent with
  | some n => (.number n, some rest)
  | none => (.broken .malformed none, some rest)

/-- Where a digit is missing: a reader sees the text end too early, a skipper no number. -/
def missingDigit (rest : List Char) : Step Json :=
  (.broken (if rest.isEmpty then .incomplete else .malformed) (some .malformed), none)

def exponentDigits (minus : Bool) (whole : List Char) (fraction : Option (List Char))
    (negative : Bool) (cs : List Char) : Step Json :=
  let digits := cs.takeWhile Char.isDigit
  let rest := cs.dropWhile Char.isDigit
  let k : Int := decimalValue digits
  if digits.isEmpty then missingDigit rest
  else finishNumber minus whole fraction (some (if negative then -k else k)) rest

def afterFraction (minus : Bool) (whole : List Char) (fraction : Option (List Char)) :
    List Char → Step Json
  | c :: rest =>
    if c = 'e' ∨ c = 'E' then
      match rest with
      | '+' :: rest => exponentDigits minus whole fraction false rest
      | '-' :: rest => exponentDigits minus whole fraction true rest
      | rest => exponentDigits minus whole fraction false rest
    else finishNumber minus whole fraction none (c :: rest)
  | [] => finishNumber minus whole fraction none []

def afterWhole (minus : Bool) (whole : List Char) : List Char → Step Json
  | '.' :: rest =>
    let digits := rest.takeWhile Char.isDigit
    let rest := rest.dropWhile Char.isDigit
    if digits.isEmpty then missingDigit rest else afterFraction minus whole (some digits) rest
  | rest => afterFraction minus whole none rest

/-- A number after its sign.  No digit follows a leading zero. -/
def readNumber (minus : Bool) (cs : List Char) : Step Json :=
  let digits := cs.takeWhile Char.isDigit
  let rest := cs.dropWhile Char.isDigit
  match digits with
  | [] => missingDigit rest
  | '0' :: _ :: _ => cut .malformed
  | _ => afterWhole minus digits rest

/-! ### Values -/

mutual

/-- The next value.  The fuel has to exceed twice the length of the text. -/
def value : Nat → List Char → Step Json
  | 0, _ => cut .malformed
  | fuel + 1, cs =>
    match skipSpace cs with
    | [] => cut .incomplete
    | 'n' :: rest => word .null "ull".toList rest
    | 't' :: rest => word (.bool true) "rue".toList rest
    | 'f' :: rest => word (.bool false) "alse".toList rest
    | '"' :: rest => stringValue rest
    | '-' :: rest => readNumber true rest
    | '[' :: rest =>
      let (items, rest) := items fuel true rest
      (.array items, rest)
    | '\x7b' :: rest =>
      let (members, rest) := members fuel true rest
      (.object members, rest)
    | c :: rest => if c.isDigit then readNumber false (c :: rest) else cut .malformed

/-- The items of a list; before any but the first there has to be a comma. -/
def items : Nat → Bool → List Char → Step JsonItems
  | 0, _, _ => (.stop (some .malformed), none)
  | fuel + 1, first, cs =>
    match skipSpace cs with
    | [] => (.stop (some .incomplete), none)
    | ']' :: rest => (.stop none, some rest)
    | c :: rest =>
      if first then itemAndRest fuel (c :: rest)
      else if c = ',' then itemAndRest fuel rest
      else (.stop (some .malformed), none)

def itemAndRest : Nat → List Char → Step JsonItems
  | 0, _ => (.stop (some .malformed), none)
  | fuel + 1, cs =>
    match value fuel cs with
    | (head, none) => (.item head (.stop (some .incomplete)), none)
    | (head, some rest) =>
      let (tail, rest) := items fuel false rest
      (.item head tail, rest)

/-- The members of an object; before any but the first there has to be a comma. -/
def members : Nat → Bool → List Char → Step JsonMembers
  | 0, _, _ => (.stop (some .malformed), none)
  | fuel + 1, first, cs =>
    match skipSpace cs with
    | [] => (.stop (some .incomplete), none)
    | '\x7d' :: rest => (.stop none, some rest)
    | c :: rest =>
      if first then memberAndRest fuel (c :: rest)
      else if c = ',' then memberAndRest fuel rest
      else (.stop (some .malformed), none)

def memberAndRest : Nat → List Char → Step JsonMembers
  | 0, _ => (.stop (some .malformed), none)
  | fuel + 1, cs =>
    match skipSpace cs with
    | [] => (.stop (some .incomplete), none)
    | '"' :: rest =>
      match readString rest with
      | .cut read skipped =>
        if read = skipped then (.stop (some read), none)
        else (.member none (.broken skipped (some skipped)) (.stop (some skipped)), none)
      | .done key rest =>
        match skipSpace rest with
        | [] => (.member key (.broken .incomplete (some .incomplete)) (.stop none), none)
        | ':' :: rest =>
          match value fuel rest with
          | (v, none) => (.member key v (.stop (some .incomplete)), none)
          | (v, some rest) =>
            let (tail, rest) := members fuel false rest
            (.member key v tail, rest)
        | _ :: _ => (.member key (.broken .malformed (some .malformed)) (.stop none), none)
    | _ :: _ => (.stop (some .malformed), none)

end

end MigrationAudit.JsonText

namespace MigrationAudit

/-- A text as one value, and whether anything but space follows the value. -/
structure JsonDocument where
  value : Json
  trailing : Bool

def JsonDocument.ofText (s : String) : JsonDocument :=
  let cs := s.toList
  match JsonText.value (3 * cs.length + 3) cs with
  | (value, none) => ⟨value, false⟩
  | (value, some rest) => ⟨value, !(JsonText.skipSpace rest).isEmpty⟩

end MigrationAudit
