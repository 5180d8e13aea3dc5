import BatchBayes.Decimal.Reader
import BatchBayes.Text.Blank
import BatchBayes.Time.Calendar
/-!
Points in time and their texts, as RFC 3339 lays them out.
-/

namespace BatchBayes

/-- A point in time: seconds since 1970-01-01T00:00:00Z and nanoseconds of the
second, which run on past `10 ^ 9` in a leap second. -/
structure Instant where
  seconds : Int
  nanoseconds : Nat
deriving DecidableEq, Repr

instance : Inhabited Instant := ⟨⟨0, 0⟩⟩

namespace Instant

/-! ## Writing -/

/-- A number with at least `width` digits. -/
def padded (width value : Nat) : String :=
  let digits := Nat.toDigits 10 value
  String.ofList (List.replicate (width - digits.length) '0' ++ digits)

/-- Four digits, or a sign and at least four digits outside them. -/
def yearText (year : Int) : String :=
  if 0 ≤ year ∧ year ≤ 9999 then padded 4 year.toNat
  else (if year < 0 then "-" else "+") ++ padded 4 year.natAbs

/-- No fraction, or the fewest of three, six and nine digits that give it. -/
def fractionText (nanoseconds : Nat) : String :=
  if nanoseconds = 0 then ""
  else if nanoseconds % 1000000 = 0 then "." ++ padded 3 (nanoseconds / 1000000)
  else if nanoseconds % 1000 = 0 then "." ++ padded 6 (nanoseconds / 1000)
  else "." ++ padded 9 nanoseconds

/-- The instant in universal time. -/
def text (instant : Instant) : String :=
  let days := Int.fdiv instant.seconds 86400
  let second := (instant.seconds - days * 86400).toNat
  let date := CalendarDate.ofDays days
  let leap := instant.nanoseconds / 1000000000
  yearText date.year ++ "-" ++ padded 2 date.month ++ "-" ++ padded 2 date.day ++
    "T" ++ padded 2 (second / 3600) ++ ":" ++ padded 2 (second / 60 % 60) ++ ":" ++
    padded 2 (second % 60 + leap) ++
    fractionText (instant.nanoseconds % 1000000000) ++ "Z"

/-! ## Reading -/

/-- Up to `limit` digits, after blanks; at least one must be there. -/
def readDigits? (limit : Nat) (text : List Char) :
    Option (Nat × List Char) :=
  let digits := (Decimal.spanDigits (dropBlank text)).1.take limit
  if digits.isEmpty then none
  else some (Decimal.digitsValue digits, (dropBlank text).drop digits.length)

/-- A year of up to four digits, or of any number of them after a sign. -/
def readYear? (text : List Char) : Option (Int × List Char) :=
  match dropBlank text with
  | '-' :: rest =>
      if rest.head?.any Char.isDigit then
        (readDigits? rest.length rest).map fun (year, rest) => (-(year : Int), rest)
      else none
  | '+' :: rest =>
      if rest.head?.any Char.isDigit then
        (readDigits? rest.length rest).map fun (year, rest) => ((year : Int), rest)
      else none
  | rest => (readDigits? 4 rest).map fun (year, rest) => ((year : Int), rest)

/-- The character `mark`, after blanks. -/
def expect? (mark : Char) (text : List Char) : Option (List Char) :=
  match dropBlank text with
  | first :: rest => if first = mark then some rest else none
  | [] => none

/-- A date and what follows it. -/
def readDate? (text : List Char) : Option (CalendarDate × List Char) := do
  let (year, text) ← readYear? text
  let text ← expect? '-' text
  let (month, text) ← readDigits? 2 text
  let text ← expect? '-' text
  let (day, text) ← readDigits? 2 text
  let date : CalendarDate := ⟨year, month, day⟩
  if date.isValid then some (date, text) else none

/-- The nanoseconds after a point. Digits beyond the ninth are dropped. -/
def readFraction? (text : List Char) : Option (Nat × List Char) :=
  match text with
  | '.' :: rest =>
      let (digits, rest) := Decimal.spanDigits rest
      if digits.isEmpty then none
      else
        let kept := digits.take 9
        some (Decimal.digitsValue kept * Nat.pow 10 (9 - kept.length), rest)
  | _ => some (0, text)

/-- A time of the day in seconds and nanoseconds, and what follows it. A
sixtieth second is a leap second. -/
def readTime? (text : List Char) : Option (Nat × Nat × List Char) := do
  let (hour, text) ← readDigits? 2 text
  let text ← expect? ':' text
  let (minute, text) ← readDigits? 2 text
  let text ← expect? ':' text
  let (second, text) ← readDigits? 2 text
  let (nanoseconds, text) ← readFraction? text
  if hour < 24 ∧ minute < 60 ∧ second ≤ 60 then
    let leap := if second = 60 then 1 else 0
    some (3600 * hour + 60 * minute + (second - leap),
      nanoseconds + leap * 1000000000, text)
  else none

/-- Exactly two digits. -/
def readPair? : List Char → Option (Nat × List Char)
  | first :: second :: rest =>
      if first.isDigit && second.isDigit then
        some (Decimal.digitsValue [first, second], rest)
      else none
  | _ => none

/-- A distance from universal time in seconds: a sign, two digits of hours and
two of minutes, with colons and blanks between them. -/
def readDistance? (text : List Char) : Option (Int × List Char) := do
  let (negative, text) ←
    match text with
    | '+' :: rest => some (false, rest)
    | '-' :: rest => some (true, rest)
    | '\u2212' :: rest => some (true, rest)
    | _ => none
  let (hours, text) ← readPair? text
  let (minutes, text) ←
    readPair? (text.dropWhile fun char => char == ':' || isBlank char)
  let seconds : Int := (3600 * hours + 60 * minutes : Nat)
  if minutes < 60 ∧ seconds < 86400 then
    some (if negative then -seconds else seconds, text)
  else none

/-- The zone of a local time: `Z`, `UTC` or a distance from it. -/
def readZone? (text : List Char) : Option (Int × List Char) :=
  let name := String.ofList ((text.take 3).map Char.toLower)
  if name = "utc" then some (0, text.drop 3)
  else
    match text with
    | 'Z' :: rest | 'z' :: rest => some (0, rest)
    | _ => readDistance? text

/-- The instant of a date, a time of the day and a zone. Its day must exist in
universal time too. -/
def ofText? (text : String) : Option Instant := do
  let (date, text) ← readDate? text.toList
  let text ←
    match text with
    | 'T' :: rest | 't' :: rest | ' ' :: rest => some rest
    | _ => none
  let (second, nanoseconds, text) ← readTime? text
  let (distance, text) ← readZone? (dropBlank text)
  let seconds := date.toDays * 86400 + second - distance
  if (dropBlank text).isEmpty ∧ (CalendarDate.ofDays (Int.fdiv seconds 86400)).isValid
  then some ⟨seconds, nanoseconds⟩
  else none

end Instant

end BatchBayes
