import GcodeSender.Decimal.Reader
import GcodeSender.Text.Hex
import GcodeSender.Text.Split

/-!
# `GcodeSender.Toml.Numbers`: integers, floats and dates

Each function reads one construct at the beginning of a text and
returns what follows it. Between the digits of a number single
underscores may stand. Integers have 64 bits and a sign. A date is
only recognised: no setting is one.
-/

set_option autoImplicit false

namespace GcodeSender.Toml

/-- The rest of a number: digits of the given kind, each with at most
one underscore in front. -/
def moreDigits (isDigit : Char → Bool) : List Char → List Char × List Char
  -- an underscore counts only where a digit follows it
  | '_' :: c :: cs =>
    if isDigit c then
      let (ds, rest) := moreDigits isDigit cs
      (c :: ds, rest)
    else ([], '_' :: c :: cs)
  | c :: cs =>
    if isDigit c then
      let (ds, rest) := moreDigits isDigit cs
      (c :: ds, rest)
    else ([], c :: cs)
  | [] => ([], [])

/-- Digits of the given kind with underscores between them. -/
def digits? (isDigit : Char → Bool) : List Char → Option (List Char × List Char)
  | c :: cs =>
    if isDigit c then
      let (ds, rest) := moreDigits isDigit cs
      some (c :: ds, rest)
    else none
  | [] => none

/-- The digits of a decimal number: a single zero, or no zero first. -/
def wholeDigits? : List Char → Option (List Char × List Char)
  | '0' :: cs => some (['0'], cs)
  | cs => digits? Char.isDigit cs

/-- The least and the greatest integer. -/
def isInteger (n : Int) : Bool := -9223372036854775808 ≤ n && n < 9223372036854775808

/-- The number that digits of the given base denote. -/
def valueIn (base : Nat) (ds : List Char) : Nat :=
  ds.foldl (fun n d => base * n + (Text.hexDigit? d).getD 0) 0

/-- An integer in a base other than ten, behind its mark. -/
def based? (base : Nat) (isDigit : Char → Bool) (cs : List Char) : Option (Int × List Char) :=
  match digits? isDigit cs with
  | some (ds, rest) =>
    let n : Int := valueIn base ds
    if isInteger n then some (n, rest) else none
  | none => none

/-- An integer in decimal. -/
def decimal? (cs : List Char) : Option (Int × List Char) :=
  let (negative, cs) := Decimal.spanSign cs
  match wholeDigits? cs with
  | some (ds, rest) =>
    let m : Int := Decimal.digitsValue 0 ds
    let n := if negative then -m else m
    if isInteger n then some (n, rest) else none
  | none => none

def isHexDigit (c : Char) : Bool := (Text.hexDigit? c).isSome

def isOctalDigit (c : Char) : Bool := '0' ≤ c && c ≤ '7'

def isBinaryDigit (c : Char) : Bool := c = '0' || c = '1'

/-- An integer. -/
def integer? : List Char → Option (Int × List Char)
  | '0' :: 'x' :: cs => based? 16 isHexDigit cs
  | '0' :: 'o' :: cs => based? 8 isOctalDigit cs
  | '0' :: 'b' :: cs => based? 2 isBinaryDigit cs
  | cs => decimal? cs

/-- The exponent of a float, if there is one. -/
def exponent? : List Char → Option (Option Int × List Char)
  | [] => some (none, [])
  | c :: cs =>
    if c = 'e' ∨ c = 'E' then
      let (negative, cs) := Decimal.spanSign cs
      (digits? Char.isDigit cs).map fun (ds, rest) =>
        let n : Int := Decimal.digitsValue 0 ds
        (some (if negative then -n else n), rest)
    else some (none, c :: cs)

/-- The digits behind the point of a float, if there is one. -/
def places? : List Char → Option (Option (List Char) × List Char)
  | '.' :: cs => (digits? Char.isDigit cs).map fun (ds, rest) => (some ds, rest)
  | cs => some (none, cs)

/-- A float in digits. It has a point or an exponent, and may be too
small but not too large. -/
def plainFloat? (cs : List Char) : Option (Float × List Char) := do
  let (negative, cs) := Decimal.spanSign cs
  let (whole, cs) ← wholeDigits? cs
  let (places, cs) ← places? cs
  let (exponent, cs) ← exponent? cs
  if places.isNone && exponent.isNone then none
  else
    let places := places.getD []
    let digits := Decimal.digitsValue (Decimal.digitsValue 0 whole) places
    let x := Decimal.nearestDecimal negative digits (exponent.getD 0 - places.length)
    -- only the positive infinity is refused
    if x.isInf && !negative then none else some (x, cs)

/-- An infinite float, or one that is no number. -/
def specialFloat? (cs : List Char) : Option (Float × List Char) :=
  let (negative, cs) := Decimal.spanSign cs
  match Text.dropLeading? "inf".toList cs with
  | some rest => (Decimal.readMagnitude? negative "inf".toList).map fun x => (x, rest)
  | none =>
    match Text.dropLeading? "nan".toList cs with
    | some rest => (Decimal.readMagnitude? negative "nan".toList).map fun x => (x, rest)
    | none => none

/-- A float. -/
def float? (cs : List Char) : Option (Float × List Char) :=
  match plainFloat? cs with
  | some r => some r
  | none => specialFloat? cs

/-- A number of exactly `count` digits. -/
def fixedDigits? (count : Nat) (cs : List Char) : Option (Nat × List Char) :=
  let ds := cs.take count
  if ds.length = count && ds.all Char.isDigit then
    some (Decimal.digitsValue 0 ds, cs.drop count)
  else none

/-- A number of two digits in a range. -/
def twoDigits? (least most : Nat) (cs : List Char) : Option (Nat × List Char) :=
  match fixedDigits? 2 cs with
  | some (n, rest) => if least ≤ n && n ≤ most then some (n, rest) else none
  | none => none

/-- The days of a month. -/
def daysIn (year month : Nat) : Nat :=
  if month = 2 then
    if year % 4 = 0 && (year % 100 ≠ 0 || year % 400 = 0) then 29 else 28
  else if month = 4 || month = 6 || month = 9 || month = 11 then 30
  else 31

/-- A date, such as `1979-05-27`. -/
def day? (cs : List Char) : Option (List Char) := do
  let (year, cs) ← fixedDigits? 4 cs
  let cs ← Text.dropLeading? ['-'] cs
  let (month, cs) ← twoDigits? 1 12 cs
  let cs ← Text.dropLeading? ['-'] cs
  let (_, cs) ← twoDigits? 1 (daysIn year month) cs
  some cs

/-- The fraction of a second, if there is one. -/
def secondFraction? : List Char → Option (List Char)
  | '.' :: cs =>
    match Decimal.spanDigits cs with
    | (_ :: _, rest) => some rest
    | ([], _) => none
  | cs => some cs

/-- A time of day, such as `07:32:00.5`. A minute may have a leap
second. -/
def clock? (cs : List Char) : Option (List Char) := do
  let (_, cs) ← twoDigits? 0 23 cs
  let cs ← Text.dropLeading? [':'] cs
  let (_, cs) ← twoDigits? 0 59 cs
  let cs ← Text.dropLeading? [':'] cs
  let (_, cs) ← twoDigits? 0 60 cs
  secondFraction? cs

/-- The offset from universal time, if there is one. -/
def offset? : List Char → Option (List Char)
  | [] => some []
  | c :: cs =>
    if c = 'Z' || c = 'z' then some cs
    else if c = '+' || c = '-' then do
      let (_, cs) ← twoDigits? 0 23 cs
      let cs ← Text.dropLeading? [':'] cs
      let (_, cs) ← twoDigits? 0 59 cs
      some cs
    else some (c :: cs)

/-- The time behind a date and its offset, if there is one. -/
def clockBehindDay? : List Char → Option (List Char)
  | [] => some []
  | c :: cs =>
    if c = 'T' || c = 't' || c = ' ' then
      match clock? cs with
      | some cs => offset? cs
      | none => some (c :: cs)
    else some (c :: cs)

/-- A date, a time, or both: what follows it. -/
def date? (cs : List Char) : Option (List Char) :=
  match day? cs with
  | some cs => clockBehindDay? cs
  | none => clock? cs

end GcodeSender.Toml
