import Mathlib.Data.Rat.Defs
import EnjoyThings.Services.GoStd

/-!
# The parts of Python's library the fraud worker uses

Strings with `strip` and `replace`, what `json` reads and writes, and `datetime`
with its ISO form. A string is a list of code points, and surrogates may stand
alone in it; `Go.ofPython` is what Go's decoder makes of such a string.
Floating-point numbers are rationals, infinities and NaN.

`datetime.fromisoformat` accepts more forms than the services write, so it is a
parameter: `IsoLib` says how it reads the extended form with an offset.
-/

namespace EnjoyThings

namespace Py

/-! ## Strings -/

/-- A code point of a string. -/
abbrev CodePoint : Type := Fin 0x110000

abbrev Str : Type := List CodePoint

def ofChar (c : Char) : CodePoint :=
  ⟨c.toNat, by
    have h := c.valid
    simp only [UInt32.isValidChar, Nat.isValidChar] at h
    show c.val.toNat < 0x110000
    omega⟩

/-- A text without surrogates. -/
def ofString (s : String) : Str :=
  s.toList.map ofChar

/-- `str.replace` of a text that is not empty, up to the given number of letters. -/
def replaceIn (old new : Str) : Nat → Str → Str
  | 0, s => s
  | _, [] => []
  | n + 1, c :: cs =>
    if old.isPrefixOf (c :: cs) then new ++ replaceIn old new n ((c :: cs).drop old.length)
    else c :: replaceIn old new n cs

def replace (s old new : Str) : Str :=
  replaceIn old new s.length s

/-- `str.isspace` of one code point. -/
def isSpace (c : CodePoint) : Bool :=
  let n := c.val
  (9 ≤ n && n ≤ 13) || (28 ≤ n && n ≤ 32) || n = 0x85 || n = 0xA0 || n = 0x1680 ||
    (0x2000 ≤ n && n ≤ 0x200A) || n = 0x2028 || n = 0x2029 || n = 0x202F || n = 0x205F ||
    n = 0x3000

/-- `str.strip`. -/
def strip (s : Str) : Str :=
  ((s.dropWhile isSpace).reverse.dropWhile isSpace).reverse

def isHighSurrogate (c : CodePoint) : Bool :=
  0xD800 ≤ c.val && c.val ≤ 0xDBFF

def isLowSurrogate (c : CodePoint) : Bool :=
  0xDC00 ≤ c.val && c.val ≤ 0xDFFF

def isSurrogate (c : CodePoint) : Bool :=
  isHighSurrogate c || isLowSurrogate c

/-- `str.encode()`: UTF-8 has no form for a surrogate. -/
def encodes (s : Str) : Bool :=
  !s.any isSurrogate

/-! ## Documents -/

/-- A `float`. -/
inductive Float
  | finite (q : Rat)
  | infinite (negative : Bool)
  | nan
  deriving DecidableEq

/-- What `json.loads` returns. The keys of a dictionary are distinct. -/
inductive Json
  | null
  | bool (b : Bool)
  | int (n : Int)
  | float (x : Float)
  | str (s : Str)
  | arr (items : List Json)
  | obj (fields : List (Str × Json))

/-- What a function raises: the error of `json.loads` that the callers expect, or another one
    (bytes that are not UTF-8, nesting that is too deep, a number that is too large). -/
inductive Exn
  | jsonDecodeError
  | other
  deriving DecidableEq

/-- `dict.get`. -/
def Json.get (fields : List (Str × Json)) (key : String) : Option Json :=
  fields.lookup (ofString key)

/-- `value == 1`, which holds of `True` and of `1.0` as well. -/
def Json.isOne : Json → Bool
  | .int n => n = 1
  | .bool b => b
  | .float (.finite q) => q = 1
  | _ => false

/-! ## Dates -/

/-- A `datetime`. The offset is in microseconds, `none` for a naive one. -/
structure DateTime where
  year : Nat
  month : Nat
  day : Nat
  hour : Nat
  minute : Nat
  second : Nat
  microsecond : Nat
  utcoffset : Option Int
  deriving DecidableEq

/-- `datetime` in UTC at a number of microseconds since the start of the year 1. -/
def DateTime.utc (micros : Nat) : DateTime :=
  let seconds := micros / 1000000
  let date := Go.civil (seconds / 86400)
  { year := date.1, month := date.2.1, day := date.2.2, hour := seconds / 3600 % 24
    minute := seconds / 60 % 60, second := seconds % 60, microsecond := micros % 1000000
    utcoffset := some 0 }

end Py

/-! ## Dates as texts -/

/-- Date and time of day, as they stand in a timestamp. -/
structure Stamp where
  year : Nat
  month : Nat
  day : Nat
  hour : Nat
  minute : Nat
  second : Nat
  deriving DecidableEq

namespace Stamp

/-- `YYYY-MM-DDTHH:MM:SS`. -/
def text (s : Stamp) : String :=
  Go.padded 4 s.year ++ "-" ++ Go.padded 2 s.month ++ "-" ++ Go.padded 2 s.day ++ "T" ++
    Go.padded 2 s.hour ++ ":" ++ Go.padded 2 s.minute ++ ":" ++ Go.padded 2 s.second

def isLeap (year : Nat) : Bool :=
  year % 4 = 0 && (year % 100 ≠ 0 || year % 400 = 0)

def daysIn (year month : Nat) : Nat :=
  if month = 2 then if isLeap year then 29 else 28
  else if month = 4 ∨ month = 6 ∨ month = 9 ∨ month = 11 then 30
  else 31

/-- A date that exists, with a year of four digits, and a time of day without leap seconds. -/
def Valid (s : Stamp) : Prop :=
  1 ≤ s.year ∧ s.year ≤ 9999 ∧ 1 ≤ s.month ∧ s.month ≤ 12 ∧ 1 ≤ s.day ∧
    s.day ≤ daysIn s.year s.month ∧ s.hour < 24 ∧ s.minute < 60 ∧ s.second < 60

instance (s : Stamp) : Decidable s.Valid :=
  inferInstanceAs (Decidable (_ ∧ _))

/-- The day counted from 1 January of the year 1: the inverse of `Go.civil`. -/
def dayNumber (s : Stamp) : Nat :=
  let year := if s.month ≤ 2 then s.year - 1 else s.year
  let mp := (s.month + 9) % 12
  let yoe := year % 400
  year / 400 * 146097 + (365 * yoe + yoe / 4 - yoe / 100) + ((153 * mp + 2) / 5 + s.day - 1) - 306

/-- Seconds since the start of the year 1. -/
def seconds (s : Stamp) : Nat :=
  s.dayNumber * 86400 + s.hour * 3600 + s.minute * 60 + s.second

/-- The end of the year 9999, in seconds. -/
def lastSecond : Nat := 3652059 * 86400

/-- The stamp of a number of seconds since the start of the year 1. -/
def ofSeconds (n : Nat) : Stamp :=
  let date := Go.civil (n / 86400)
  { year := date.1, month := date.2.1, day := date.2.2, hour := n / 3600 % 24
    minute := n / 60 % 60, second := n % 60 }

end Stamp

/-- The decimals of a fraction as a number of the given width: those after it are dropped. -/
def decimals (width : Nat) (digits : List Char) : Nat :=
  Nat.ofDigitChars 10 ((digits ++ List.replicate width '0').take width) 0

/-- A fraction as it stands in a timestamp. -/
def fractionText (digits : List Char) : String :=
  if digits = [] then "" else "." ++ String.ofList digits

namespace Py

/-- `datetime.fromisoformat`, `none` for a `ValueError`, from Python 3.11 on: the extended form
    may have any number of decimals. -/
class IsoLib where
  fromisoformat : Str → Option DateTime
  reads : ∀ (s : Stamp) (digits : List Char), s.Valid → digits.all Char.isDigit = true →
    fromisoformat (ofString (s.text ++ fractionText digits ++ "+00:00")) =
      some { year := s.year, month := s.month, day := s.day, hour := s.hour, minute := s.minute
             second := s.second, microsecond := decimals 6 digits, utcoffset := some 0 }

/-- `_format_offset`. -/
def formatOffset (offset : Int) : String :=
  let micros := offset.natAbs
  let seconds := micros / 1000000
  (if offset < 0 then "-" else "+") ++ Go.padded 2 (seconds / 3600) ++ ":" ++
    Go.padded 2 (seconds / 60 % 60) ++
    (if seconds % 60 = 0 ∧ micros % 1000000 = 0 then "" else ":" ++ Go.padded 2 (seconds % 60)) ++
    (if micros % 1000000 = 0 then "" else "." ++ Go.padded 6 (micros % 1000000))

/-- `datetime.isoformat`. -/
def isoformat (dt : DateTime) : Str :=
  let stamp : Stamp :=
    { year := dt.year, month := dt.month, day := dt.day, hour := dt.hour, minute := dt.minute
      second := dt.second }
  ofString <| stamp.text ++
    (if dt.microsecond = 0 then "" else "." ++ Go.padded 6 dt.microsecond) ++
    dt.utcoffset.elim "" formatOffset

/-- `_parse_time` of the worker. -/
def parseTime [IsoLib] (value : Str) : Option DateTime :=
  IsoLib.fromisoformat (replace value (ofString "Z") (ofString "+00:00"))

/-- `_timestamp`, for a clock in UTC that reads the given microseconds. -/
def timestamp (micros : Nat) : Str :=
  replace (isoformat (DateTime.utc micros)) (ofString "+00:00") (ofString "Z")

end Py

namespace Go

/-- What the JSON decoder makes of a string that `json.dumps` wrote: two surrogates that form
    a pair are one letter, and others become U+FFFD. -/
def decodeCodePoints : Py.Str → List Char
  | [] => []
  | [c] => [if Py.isSurrogate c then Char.ofNat 0xFFFD else Char.ofNat c.val]
  | c :: d :: rest =>
    if Py.isHighSurrogate c && Py.isLowSurrogate d then
      Char.ofNat (0x10000 + (c.val - 0xD800) * 0x400 + (d.val - 0xDC00)) :: decodeCodePoints rest
    else
      (if Py.isSurrogate c then Char.ofNat 0xFFFD else Char.ofNat c.val) ::
        decodeCodePoints (d :: rest)

def ofPython (s : Py.Str) : String :=
  String.ofList (decodeCodePoints s)

/-- A number of `width` decimal digits and what follows it. -/
def readDigits (width : Nat) (cs : List Char) : Option (Nat × List Char) :=
  let digits := cs.take width
  if digits.length = width ∧ digits.all Char.isDigit then
    some (Nat.ofDigitChars 10 digits 0, cs.drop width)
  else none

/-- The letter `c` and what follows it. -/
def expect (c : Char) : List Char → Option (List Char)
  | d :: cs => if d = c then some cs else none
  | [] => none

/-- Date and time of day of a timestamp, and what follows them. -/
def readStamp (cs : List Char) : Option (Stamp × List Char) := do
  let (year, cs) ← readDigits 4 cs
  let cs ← expect '-' cs
  let (month, cs) ← readDigits 2 cs
  let cs ← expect '-' cs
  let (day, cs) ← readDigits 2 cs
  let cs ← expect 'T' cs
  let (hour, cs) ← readDigits 2 cs
  let cs ← expect ':' cs
  let (minute, cs) ← readDigits 2 cs
  let cs ← expect ':' cs
  let (second, cs) ← readDigits 2 cs
  some (⟨year, month, day, hour, minute, second⟩, cs)

/-- The decimals after a point, if there is one, and what follows them. -/
def readFraction : List Char → Option (List Char × List Char)
  | '.' :: cs =>
    let digits := cs.takeWhile Char.isDigit
    if digits = [] then none else some (digits, cs.dropWhile Char.isDigit)
  | cs => some ([], cs)

/-- The offset of a timestamp in seconds. -/
def readZone : List Char → Option Int
  | ['Z'] => some 0
  | sign :: cs => do
    let (hour, cs) ← readDigits 2 cs
    let cs ← expect ':' cs
    let (minute, cs) ← readDigits 2 cs
    if cs ≠ [] ∨ 24 ≤ hour ∨ 60 ≤ minute then none
    else if sign = '+' then some (hour * 3600 + minute * 60)
    else if sign = '-' then some (-(hour * 3600 + minute * 60))
    else none
  | [] => none

/-- `time.Time.UnmarshalJSON`: the instant with the offset it was written with. Times before
    the year 1 are not in `Time`. -/
def parseRFC3339 (s : String) : Option (Time × Int) := do
  let (stamp, cs) ← readStamp s.toList
  let (digits, cs) ← readFraction cs
  let offset ← readZone cs
  if stamp.Valid ∧ offset * 1000000000 ≤ stamp.seconds * 1000000000 + decimals 9 digits then
    some ((stamp.seconds * 1000000000 + decimals 9 digits - offset * 1000000000 : Int).toNat,
      offset)
  else none

end Go

end EnjoyThings
