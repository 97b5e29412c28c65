import BucketSteward.Json.Reader
import BucketSteward.Text.Affix
import BucketSteward.Text.Blank
import BucketSteward.Timestamp

/-!
The written form of a point in time, `2030-01-01T00:00:00Z`, after RFC 3339.

It is written in UTC. A year outside 0 to 9999 carries its sign; a fraction takes three, six or
nine digits, as few as show it; a leap second is second 60.

It is read with some freedom: blanks may stand between the parts, a date and a time are divided by
`T`, `t` or one blank, a field may have fewer digits than it is written with, a year with a sign
may have any number of digits, and digits of a fraction after the ninth are dropped. An offset is
needed: `Z`, `z`, `UTC` in any case, or hours and minutes after a sign.
-/

namespace BucketSteward.Timestamp

open Json (isDigit ofDigits)
open Text (trimLeft)

/-! ## Writing -/

/-- Decimal digits with zeros before them, up to a width. -/
def padded (width n : Nat) : List Char :=
  let digits := Nat.toDigits 10 n
  List.replicate (width - digits.length) '0' ++ digits

def writeYear (year : Int) : List Char :=
  if 0 ≤ year ∧ year ≤ 9999 then padded 4 year.toNat
  else (if year < 0 then '-' else '+') :: padded 4 year.natAbs

/-- The fraction of a second, in as few groups of three digits as show it. -/
def writeFraction (nano : Nat) : List Char :=
  if nano = 0 then []
  else if nano % 1000000 = 0 then '.' :: padded 3 (nano / 1000000)
  else if nano % 1000 = 0 then '.' :: padded 6 (nano / 1000)
  else '.' :: padded 9 nano

/-- The written form up to the whole second, without offset. -/
def writeWhole (t : Timestamp) : List Char :=
  let date := Date.ofDays (t.second / 86400)
  let time := (t.second % 86400).toNat
  let second := time % 60 + if t.isLeap then 1 else 0
  writeYear date.year ++ '-' :: padded 2 date.month.toNat ++ '-' :: padded 2 date.day.toNat
    ++ 'T' :: padded 2 (time / 3600) ++ ':' :: padded 2 (time / 60 % 60) ++ ':' :: padded 2 second

def write (t : Timestamp) : String :=
  String.ofList (writeWhole t ++ writeFraction (t.nano % 1000000000) ++ ['Z'])

/-- The written form with whole seconds; a fraction is cut off. -/
def writeSeconds (t : Timestamp) : String :=
  String.ofList (writeWhole t ++ ['Z'])

/-! ## Reading -/

/-- At least one and at most `most` digits. -/
def digits? (most : Nat) (text : List Char) : Option (Nat × List Char) :=
  let digits := (text.take most).takeWhile isDigit
  if digits.isEmpty then none else some (ofDigits digits, text.drop digits.length)

/-- A field of at most two digits, blanks before it allowed. -/
def field? (text : List Char) : Option (Nat × List Char) :=
  digits? 2 (trimLeft text)

/-- One character, blanks before it allowed. -/
def mark? (c : Char) (text : List Char) : Option (List Char) :=
  match trimLeft text with
  | d :: rest => if c = d then some rest else none
  | [] => none

def year? (text : List Char) : Option (Int × List Char) :=
  match trimLeft text with
  | '-' :: rest => (digits? rest.length rest).map fun (n, rest) => (-(n : Int), rest)
  | '+' :: rest => (digits? rest.length rest).map fun (n, rest) => ((n : Int), rest)
  | rest => (digits? 4 rest).map fun (n, rest) => ((n : Int), rest)

/-- The nanoseconds of a fraction, when one is written; digits after the ninth do not count. -/
def nanos? : List Char → Option (Nat × List Char)
  | '.' :: rest =>
      let digits := rest.takeWhile isDigit
      if digits.isEmpty then none
      else
        let counted := digits.take 9
        some (ofDigits (counted ++ List.replicate (9 - counted.length) '0'), rest.dropWhile isDigit)
  | text => some (0, text)

/-- The two digits of an offset's hours or minutes. -/
def twoDigits? : List Char → Option (Nat × List Char)
  | a :: b :: rest => if isDigit a && isDigit b then some (ofDigits [a, b], rest) else none
  | _ => none

/-- Seconds east of Greenwich: hours, then colons and blanks as one likes, then minutes. -/
def offset? (text : List Char) : Option (Int × List Char) :=
  if (text.take 3).map Text.lowerAscii = ['u', 't', 'c'] then some (0, text.drop 3)
  else
    match text with
    | [] => none
    | c :: rest =>
        if c = 'Z' ∨ c = 'z' then some (0, rest)
        else do
          let sign ← if c = '+' then some (1 : Int)
            else if c = '-' ∨ c = '\u2212' then some (-1) else none
          let (hours, rest) ← twoDigits? rest
          let (minutes, rest) ← twoDigits? (rest.dropWhile fun d => d == ':' || Text.isBlank d)
          if minutes < 60 ∧ hours < 24 then
            some (sign * ((hours * 60 + minutes) * 60 : Nat), rest)
          else none

def read? (text : String) : Option Timestamp := do
  let (year, rest) ← year? text.toList
  let (month, rest) ← mark? '-' rest >>= field?
  let (day, rest) ← mark? '-' rest >>= field?
  let rest ← match rest with
    | c :: rest => if c = 'T' ∨ c = 't' ∨ c = ' ' then some rest else none
    | [] => none
  let (hour, rest) ← field? rest
  let (minute, rest) ← mark? ':' rest >>= field?
  let (second, rest) ← mark? ':' rest >>= field?
  let (nano, rest) ← nanos? rest
  let (offset, rest) ← offset? (trimLeft rest)
  let date : Date := ⟨year, month, day⟩
  if (trimLeft rest).isEmpty ∧ date.Exists ∧ firstYear ≤ year ∧ year ≤ lastYear
      ∧ hour ≤ 23 ∧ minute ≤ 59 ∧ second ≤ 60 then
    let leap := second = 60
    let second := if leap then 59 else second
    let nano := if leap then nano + 1000000000 else nano
    at? (date.toDays * 86400 + ((hour * 60 + minute) * 60 + second : Nat) - offset) nano
  else none

end BucketSteward.Timestamp
