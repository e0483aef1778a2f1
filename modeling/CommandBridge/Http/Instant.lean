import CommandBridge.Text.Basic
import CommandBridge.Text.Utf8

/-! Dates in headers. A date is read in any of three forms, must exist in the calendar, and must
fall on the day of the week that it names; it stands for a number of seconds since the beginning of
1970. -/
namespace CommandBridge.Http

/-- A date with its time of day. Months count from one, and days of the week from one for Monday. -/
structure Instant where
  year : Nat
  month : Nat
  day : Nat
  hour : Nat
  minute : Nat
  second : Nat
  weekday : Nat
deriving DecidableEq

namespace Instant

def isLeap (year : Nat) : Bool := year % 4 == 0 && (year % 100 != 0 || year % 400 == 0)

def monthLengths (year : Nat) : List Nat :=
  [31, if isLeap year then 29 else 28, 31, 30, 31, 30, 31, 31, 30, 31, 30, 31]

def leapsBefore (year : Nat) : Nat := (year - 1) / 4 - (year - 1) / 100 + (year - 1) / 400

/-- The days from the first of 1970. -/
def days (t : Instant) : Nat :=
  (t.year - 1970) * 365 + (leapsBefore t.year - leapsBefore 1970) +
    ((monthLengths t.year).take (t.month - 1)).foldl (· + ·) 0 + (t.day - 1)

def seconds (t : Instant) : Nat := t.days * 86400 + t.hour * 3600 + t.minute * 60 + t.second

/-- The first of 1970 was a Thursday. -/
def weekdayOf (days : Nat) : Nat := (days + 3) % 7 + 1

def isReal (t : Instant) : Bool :=
  1970 ≤ t.year && 1 ≤ t.month && t.month ≤ 12 && 1 ≤ t.day &&
    t.day ≤ (monthLengths t.year).getD (t.month - 1) 0 &&
    t.hour < 24 && t.minute < 60 && t.second < 60 && weekdayOf t.days == t.weekday

def monthNames : List String :=
  ["Jan", "Feb", "Mar", "Apr", "May", "Jun", "Jul", "Aug", "Sep", "Oct", "Nov", "Dec"]

def weekdayNames : List String :=
  ["Monday", "Tuesday", "Wednesday", "Thursday", "Friday", "Saturday", "Sunday"]

def numberOf? (names : List String) (name : List Char) : Option Nat :=
  (names.idxOf? (String.ofList name)).map (· + 1)

def month? (name : List Char) : Option Nat := numberOf? monthNames name

def weekday? (short : Bool) (name : List Char) : Option Nat :=
  let shown (name : String) : String := if short then String.ofList (name.toList.take 3) else name
  numberOf? (weekdayNames.map shown) name

def digits? (cs : List Char) : Option Nat :=
  if cs.all Char.isDigit then some (cs.foldl (fun n c => n * 10 + (c.toNat - 48)) 0) else none

/-- Cuts a text after each of the given widths; nothing unless they add up to its length. -/
def cut? : List Nat → List Char → Option (List (List Char))
  | [], [] => some []
  | [], _ :: _ => none
  | width :: widths, cs =>
    if cs.length < width then none else (cut? widths (cs.drop width)).map (cs.take width :: ·)

def ofFields? (year weekday : Option Nat) (month day hour minute second : List Char) :
    Option Instant := do
  some ⟨← year, ← month? month, ← digits? day, ← digits? hour, ← digits? minute,
    ← digits? second, ← weekday⟩

/-- Reads `Sun, 06 Nov 1994 08:49:37 GMT`. -/
def ofFixed? (cs : List Char) : Option Instant := do
  match ← cut? [3, 2, 2, 1, 3, 1, 4, 1, 2, 1, 2, 1, 2, 4] cs with
  | [w, [',', ' '], d, [' '], m, [' '], y, [' '], h, [':'], n, [':'], s, [' ', 'G', 'M', 'T']] =>
    ofFields? (digits? y) (weekday? true w) m d h n s
  | _ => none

/-- Reads `Sunday, 06-Nov-94 08:49:37 GMT`. Years of two digits lie from 1970 to 2069. -/
def ofDashed? (cs : List Char) : Option Instant := do
  let w ← weekday? false (cs.takeWhile (· != ','))
  match ← cut? [2, 2, 1, 3, 1, 2, 1, 2, 1, 2, 1, 2, 4] (cs.dropWhile (· != ',')) with
  | [[',', ' '], d, ['-'], m, ['-'], y, [' '], h, [':'], n, [':'], s, [' ', 'G', 'M', 'T']] =>
    let year := (digits? y).map fun y => if y < 70 then y + 2000 else y + 1900
    ofFields? year (some w) m d h n s
  | _ => none

/-- Reads `Sun Nov  6 08:49:37 1994`. -/
def ofPlain? (cs : List Char) : Option Instant := do
  match ← cut? [3, 1, 3, 1, 2, 1, 2, 1, 2, 1, 2, 1, 4] cs with
  | [w, [' '], m, [' '], d, [' '], h, [':'], n, [':'], s, [' '], y] =>
    let d := match d with
      | [' ', unit] => [unit]
      | d => d
    ofFields? (digits? y) (weekday? true w) m d h n s
  | _ => none

/-- The date that the value of a header spells, with blanks around it or without. All of it is
ASCII. -/
def ofHeader? (value : Bytes) : Option Instant := do
  let cs ← Utf8.decode? value
  let date := Text.trimEnd (Text.trimStart cs)
  let t ← ((ofFixed? date).or (ofDashed? date)).or (ofPlain? date)
  if t.isReal && cs.all (·.toNat < 0x80) then some t else none

end Instant

end CommandBridge.Http
