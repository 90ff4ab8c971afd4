import BlockDiscovery.Text.Blank

/-!
# Dates and times of a configuration

A moment is a date, a time, or both with an optional offset.  Seconds may be left out.
`moment?` checks that the moment exists and gives its normalized text: a `T` between
date and time, at most nine digits of a second without trailing zeros, and a `Z` or an
offset in hours and minutes.
-/

namespace BlockDiscovery.Toml

open BlockDiscovery

/-- A number of exactly `count` digits. -/
def fixedDigits? (count : Nat) (s : List Char) : Option (Nat × List Char) :=
  let digits := s.take count
  if digits.length = count ∧ digits.all Char.isDigit then
    some (Text.digitsValue digits, s.drop count)
  else none

def expect? (c : Char) : List Char → Option (List Char)
  | d :: rest => if d = c then some rest else none
  | [] => none

def isLeap (year : Nat) : Bool := year % 4 = 0 && (year % 100 ≠ 0 || year % 400 = 0)

def daysIn (year month : Nat) : Nat :=
  if month = 2 then if isLeap year then 29 else 28
  else if month = 4 ∨ month = 6 ∨ month = 9 ∨ month = 11 then 30
  else 31

def padded (width n : Nat) : List Char :=
  let digits := Text.decimal n
  List.replicate (width - digits.length) '0' ++ digits

/-- The text of a date at the start of a text, and the rest. -/
def date? (s : List Char) : Option (List Char × List Char) := do
  let (year, s) ← fixedDigits? 4 s
  let s ← expect? '-' s
  let (month, s) ← fixedDigits? 2 s
  let s ← expect? '-' s
  let (day, s) ← fixedDigits? 2 s
  if 1 ≤ month ∧ month ≤ 12 ∧ 1 ≤ day ∧ day ≤ daysIn year month then
    some (padded 4 year ++ '-' :: padded 2 month ++ '-' :: padded 2 day, s)
  else none

/-- The digits of a part of a second as they are written out. -/
def fractionText (digits : List Char) : List Char :=
  let kept := Text.dropEndWhile (· = '0') (digits.take 9)
  if kept.isEmpty then ['0'] else kept

/-- The seconds behind the minutes, if there are any, and the rest. -/
def seconds? (s : List Char) : Option (List Char × List Char) :=
  match s with
  | ':' :: s => do
    let (second, s) ← fixedDigits? 2 s
    -- a leap second is allowed
    if 60 < second then none
    else
      match s with
      | '.' :: s =>
        let digits := s.takeWhile Char.isDigit
        if digits.isEmpty then none
        else some (':' :: padded 2 second ++ '.' :: fractionText digits, s.dropWhile Char.isDigit)
      | s => some (':' :: padded 2 second, s)
  | s => some ([], s)

/-- The text of a time of day at the start of a text, and the rest. -/
def time? (s : List Char) : Option (List Char × List Char) := do
  let (hour, s) ← fixedDigits? 2 s
  let s ← expect? ':' s
  let (minute, s) ← fixedDigits? 2 s
  if hour ≤ 23 ∧ minute ≤ 59 then
    let (rest, s) ← seconds? s
    some (padded 2 hour ++ ':' :: padded 2 minute ++ rest, s)
  else none

/-- The text of an offset: nothing, `Z`, or hours and minutes. -/
def offset? (s : List Char) : Option (List Char) :=
  match s with
  | [] => some []
  | ['Z'] => some ['Z']
  | ['z'] => some ['Z']
  | sign :: s =>
    if sign = '+' ∨ sign = '-' then do
      let (hour, s) ← fixedDigits? 2 s
      let s ← expect? ':' s
      let (minute, s) ← fixedDigits? 2 s
      if hour ≤ 23 ∧ minute ≤ 59 ∧ s.isEmpty then
        -- there is no negative offset of zero
        let sign := if hour = 0 ∧ minute = 0 then '+' else sign
        some (sign :: padded 2 hour ++ ':' :: padded 2 minute)
      else none
    else none

/-- Whether a character stands between a date and a time. -/
def joinsTime (c : Char) : Bool := c = 'T' || c = 't' || c = ' '

/-- The normalized text of the moment that a word writes. -/
def moment? (word : List Char) : Option (List Char) :=
  match date? word with
  | some (date, []) => some date
  | some (date, c :: rest) =>
    if joinsTime c then do
      let (time, rest) ← time? rest
      let offset ← offset? rest
      some (date ++ 'T' :: time ++ offset)
    else none
  | none =>
    match time? word with
    | some (time, []) => some time
    | _ => none

end BlockDiscovery.Toml
