import ConfigTree.Toml.Text
import ConfigTree.Value

/-!
# Dates and times in TOML

A date, a time, or both, and then perhaps how far the time is ahead of the world's.
Values have no kind for these: a moment is a mapping with one entry, which holds its
text in one form.

## Main definitions

* `date`, `time`, `offset` — the parts.
* `moment` — a date or a time, or both.
-/

namespace ConfigTree.Toml

/-- The key of the text of a moment. -/
def momentKey : String := "$__toml_private_datetime"

/-- A number of exactly the given count of digits, within bounds. -/
def figure (digits low high : Nat) : Reader (List Char) := fun cs => do
  let text := cs.take digits
  let n ← Number.digits? 10 text
  if text.length = digits && low ≤ n && n ≤ high then return (text, cs.drop digits) else none

/-- What follows a character. -/
def expect (c : Char) : List Char → Option (List Char)
  | [] => none
  | d :: cs => if c == d then some cs else none

/-- Years of 366 days. -/
def isLeap (year : Nat) : Bool := year % 4 == 0 && (year % 100 != 0 || year % 400 == 0)

/-- The days of a month. -/
def monthLength (year month : Nat) : Nat :=
  if month = 2 then (if isLeap year then 29 else 28)
  else if [4, 6, 9, 11].contains month then 30
  else 31

/-- The number that digits write. -/
def worth (digits : List Char) : Nat := (Number.digits? 10 digits).getD 0

/-- A day of the calendar. -/
def date : Reader (List Char) := fun cs => do
  let (year, cs) ← figure 4 0 9999 cs
  let (month, cs) ← figure 2 1 12 (← expect '-' cs)
  let (day, cs) ← figure 2 1 (monthLength (worth year) (worth month)) (← expect '-' cs)
  return (year ++ '-' :: (month ++ '-' :: day), cs)

/-- A fraction of a second, if there is one: nine digits count, and zeros at the end do not. -/
def secondFraction : Reader (List Char)
  | '.' :: cs =>
    let digits := cs.takeWhile Text.isDigit
    let kept := ((digits.take 9).reverse.dropWhile (· == '0')).reverse
    if digits.isEmpty then none
    else some (if kept.isEmpty then [] else '.' :: kept, cs.dropWhile Text.isDigit)
  | cs => some ([], cs)

/-- A time of the day. -/
def time : Reader (List Char) := fun cs => do
  let (hour, cs) ← figure 2 0 23 cs
  let (minute, cs) ← figure 2 0 59 (← expect ':' cs)
  let (second, cs) ← figure 2 0 60 (← expect ':' cs)
  let (fraction, cs) ← secondFraction cs
  return (hour ++ ':' :: (minute ++ ':' :: (second ++ fraction)), cs)

/-- Hours and minutes ahead of or behind the world's time. -/
def shift (sign : Char) : Reader (List Char) := fun cs => do
  let (hour, cs) ← figure 2 0 23 cs
  let (minute, cs) ← figure 2 0 59 (← expect ':' cs)
  let sign := if worth hour = 0 && worth minute = 0 then '+' else sign
  return (sign :: (hour ++ ':' :: minute), cs)

/-- How far a time is ahead, if that is told. -/
def offset : Reader (List Char)
  | 'Z' :: cs => some (['Z'], cs)
  | 'z' :: cs => some (['Z'], cs)
  | '+' :: cs => shift '+' cs
  | '-' :: cs => shift '-' cs
  | cs => some ([], cs)

/-- A time behind a date, if there is one. -/
def timeAfterDate : Reader (List Char) := fun cs =>
  match cs with
  | c :: rest =>
    if c == 'T' || c == 't' || c == ' ' then
      match time rest with
      | some (time, rest) => do
        let (offset, rest) ← offset rest
        return ('T' :: (time ++ offset), rest)
      | none => some ([], cs)
    else some ([], cs)
  | [] => some ([], cs)

/-- A date or a time, or both. -/
def moment : Reader Value := fun cs => do
  let (text, cs) ← match date cs with
    | some (date, rest) => do
      let (time, rest) ← timeAfterDate rest
      pure (date ++ time, rest)
    | none => time cs
  return (.map [(momentKey, .str (String.ofList text))], cs)

end ConfigTree.Toml
