import DeployService.Text.Blank
import DeployService.Text.Digits
import DeployService.Text.Split

/-!
# Cookies in headers

A `Set-Cookie` header: a pair of a name and a value, then attributes after semicolons. A header
without such a pair, or with an empty name, is none. An attribute that is not understood is ignored.

An expiry date may be written in the forms that servers have used over time. Two-digit years lie
between 1969 and 2068.
-/

namespace DeployService.Http

open DeployService.Text

/-- What a `Set-Cookie` header says. -/
structure SetCookie where
  /-- The name of the cookie. -/
  name : String
  value : String
  /-- It is sent over secure connections only. -/
  secure : Bool
  /-- It is used by the HTTP schemes only. -/
  httpOnly : Bool
  /-- For how many seconds it is kept. -/
  maxAge : Option Nat
  /-- When it expires, in seconds since 1970. -/
  expires : Option Int
  /-- The domain it is for, without a leading dot. -/
  domain : Option String
  /-- The path it is for. -/
  path : Option String
  deriving DecidableEq, Repr

/-! ## Dates -/

/-- The short names of the months, in order. -/
def monthNames : List String :=
  ["Jan", "Feb", "Mar", "Apr", "May", "Jun", "Jul", "Aug", "Sep", "Oct", "Nov", "Dec"]

/-- The names of the days of the week. -/
def weekdayNames : List String :=
  ["Monday", "Tuesday", "Wednesday", "Thursday", "Friday", "Saturday", "Sunday"]

/-- The short names of the days of the week. -/
def shortWeekdayNames : List String := weekdayNames.map fun s => String.ofList (s.toList.take 3)

/-- The year is a leap year. -/
def isLeapYear (year : Nat) : Bool := year % 4 == 0 && (year % 100 != 0 || year % 400 == 0)

/-- How many days the months have, in order. -/
def monthLengths (year : Nat) : List Nat :=
  [31, if isLeapYear year then 29 else 28, 31, 30, 31, 30, 31, 31, 30, 31, 30, 31]

/-- The days between the first of January of the year 0 and that of the given year. -/
def daysBeforeYear (year : Nat) : Nat :=
  365 * year + (year + 3) / 4 - (year + 99) / 100 + (year + 399) / 400

/-- The seconds since 1970 at a date and time, if there is such a date. Months count from zero. -/
def secondsAt? (year month day hour minute second : Nat) : Option Int :=
  match (monthLengths year)[month]? with
  | none => none
  | some length =>
    if 1 ≤ day ∧ day ≤ length ∧ hour < 24 ∧ minute < 60 ∧ second < 60 then
      let days := daysBeforeYear year + ((monthLengths year).take month).foldl (· + ·) 0 + (day - 1)
      some ((days : Int) * 86400 - (daysBeforeYear 1970 : Int) * 86400 +
        ((hour * 60 + minute) * 60 + second : Nat))
    else none

/-- A number of exactly two digits. -/
def twoDigits? (s : String) : Option Nat :=
  if s.length = 2 then readNat? s.toList else none

/-- A number of two places whose first one may be a space. -/
def paddedDigits? (s : String) : Option Nat :=
  match s.toList with
  | [' ', d] => readNat? [d]
  | [c, d] => readNat? [c, d]
  | _ => none

/-- A year of at most four digits. One of two digits lies between 1969 and 2068. -/
def year? (s : String) : Option Nat :=
  if s.length ≤ 4 then
    (readNat? s.toList).map fun y => if y ≤ 68 then y + 2000 else if y ≤ 99 then y + 1900 else y
  else none

/-- The time of day, as hours, minutes and seconds. -/
def timeOfDay? (s : String) : Option (Nat × Nat × Nat) :=
  match (splitOn ':' s).mapM twoDigits? with
  | some [h, m, s] => some (h, m, s)
  | _ => none

/-- The seconds since 1970 for the written parts of a date. -/
def dateOf? (day month year time : String) (readDay : String → Option Nat) : Option Int := do
  let d ← readDay day
  let m ← monthNames.idxOf? month
  let y ← year? year
  let (h, mi, s) ← timeOfDay? time
  secondsAt? y m d h mi s

/-- One of the names, with a comma after it. -/
def isListed (names : List String) (s : String) : Bool := names.any fun name => name ++ "," == s

/-- A date in one of the forms `Thu, 01 Jan 1970 00:00:00 GMT`, `Thursday, 01-Jan-70 00:00:00 GMT`,
`Thu, 01-Jan-1970 00:00:00 GMT` and `Thu Jan  1 00:00:00 1970`. -/
def readDate? (s : String) : Option Int :=
  match splitOn ' ' s with
  | [weekday, day, month, year, time, "GMT"] =>
    if isListed shortWeekdayNames weekday then
      dateOf? day month year time twoDigits?
    else none
  | [weekday, date, time, "GMT"] =>
    match splitOn '-' date with
    | [day, month, year] =>
      if isListed shortWeekdayNames weekday ||
          (isListed weekdayNames weekday && year.length == 2) then
        dateOf? day month year time twoDigits?
      else none
    | _ => none
  | [weekday, month, "", day, time, year] =>
    if shortWeekdayNames.contains weekday then dateOf? (" " ++ day) month year time paddedDigits?
    else none
  | [weekday, month, day, time, year] =>
    if shortWeekdayNames.contains weekday then dateOf? day month year time paddedDigits? else none
  | _ => none

/-! ## The header -/

/-- The greatest number of seconds that a cookie is kept. -/
def maxSeconds : Nat := 9223372036854775807

/-- For how many seconds a cookie is kept. A negative number counts as zero, and one that is missing
or too large as `maxSeconds`. -/
def readMaxAge? (s : String) : Option Nat :=
  let (negative, digits) :=
    match s.toList with
    | '-' :: rest => (true, rest)
    | cs => (false, cs)
  if digits.all Char.isDigit then
    if negative then some 0
    else some (min maxSeconds ((readNat? digits).getD maxSeconds))
  else none

/-- The text without one leading dot. -/
def dropDot (s : String) : String :=
  match s.toList with
  | '.' :: rest => String.ofList rest
  | _ => s

/-- What the attribute `key`, in lower case, adds. -/
def SetCookie.withAttribute (c : SetCookie) (key : String) (value : Option String) : SetCookie :=
  match key, value with
  | "secure", _ => { c with secure := true }
  | "httponly", _ => { c with httpOnly := true }
  | "max-age", some v =>
    match readMaxAge? v with
    | some n => { c with maxAge := some n }
    | none => c
  | "domain", some v => if v = "" then c else { c with domain := some (dropDot v) }
  | "path", some v => { c with path := some v }
  | "expires", some v =>
    match readDate? v with
    | some t => { c with expires := some t }
    | none => c
  | _, _ => c

/-- What a written attribute adds. -/
def SetCookie.withText (c : SetCookie) (written : String) : SetCookie :=
  match cut? '=' written with
  | some (key, value) => c.withAttribute (lowerAscii (trim key)) (some (trim value))
  | none => c.withAttribute (lowerAscii (trim written)) none

/-- Reads a `Set-Cookie` header. -/
def SetCookie.ofText? (s : String) : Option SetCookie :=
  match splitOn ';' s with
  | [] => none
  | pair :: attributes =>
    match cut? '=' pair with
    | none => none
    | some (name, value) =>
      if trim name = "" then none
      else
        some (attributes.foldl SetCookie.withText
          { name := trim name
            value := trim value
            secure := false
            httpOnly := false
            maxAge := none
            expires := none
            domain := none
            path := none })

end DeployService.Http
