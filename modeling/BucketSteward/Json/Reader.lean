import BucketSteward.Json

/-!
Reading a JSON text. A reader takes the characters that are left and answers a value with the
characters after it; `parse?` reads a whole text, blanks around it allowed. Every level of nesting
consumes at least one character, so the length of the text bounds the recursion.

When an object writes a name more than once, the last value stands, at the place of the first.
-/

namespace BucketSteward.Json

/-- The four characters that may stand between tokens. -/
def isSpace (c : Char) : Bool :=
  c == ' ' || c == '\n' || c == '\r' || c == '\t'

def skipSpace (text : List Char) : List Char :=
  text.dropWhile isSpace

/-- The rest after a fixed word. -/
def expect? : List Char → List Char → Option (List Char)
  | [], text => some text
  | w :: word, c :: text => if w == c then expect? word text else none
  | _ :: _, [] => none

def hexValue? (c : Char) : Option Nat :=
  if '0' ≤ c ∧ c ≤ '9' then some (c.toNat - '0'.toNat)
  else if 'a' ≤ c ∧ c ≤ 'f' then some (c.toNat - 'a'.toNat + 10)
  else if 'A' ≤ c ∧ c ≤ 'F' then some (c.toNat - 'A'.toNat + 10)
  else none

/-- The four hexadecimal digits of an escaped code unit. -/
def codeUnit? : List Char → Option (Nat × List Char)
  | a :: b :: c :: d :: rest => do
      let a ← hexValue? a
      let b ← hexValue? b
      let c ← hexValue? c
      let d ← hexValue? d
      some (((a * 16 + b) * 16 + c) * 16 + d, rest)
  | _ => none

def isHighSurrogate (unit : Nat) : Bool :=
  0xD800 ≤ unit && unit < 0xDC00

def isLowSurrogate (unit : Nat) : Bool :=
  0xDC00 ≤ unit && unit < 0xE000

/-- The character after a `\u`; a high surrogate has to be followed by an escaped low one. -/
def escapedChar? (text : List Char) : Option (Char × List Char) := do
  let (unit, rest) ← codeUnit? text
  if isHighSurrogate unit then
    let (low, rest) ← expect? ['\\', 'u'] rest >>= codeUnit?
    if isLowSurrogate low then
      some (Char.ofNat (0x10000 + (unit - 0xD800) * 0x400 + (low - 0xDC00)), rest)
    else none
  else if isLowSurrogate unit then none
  else some (Char.ofNat unit, rest)

/-- The characters that a backslash and one letter stand for. -/
def shortEscape? : Char → Option Char
  | '"' => some '"'
  | '\\' => some '\\'
  | '/' => some '/'
  | 'b' => some '\x08'
  | 'f' => some '\x0c'
  | 'n' => some '\n'
  | 'r' => some '\r'
  | 't' => some '\t'
  | _ => none

/-- The rest of a string after its opening quote; `read` holds the characters so far, last
first. -/
def stringBody? : Nat → List Char → List Char → Option (String × List Char)
  | 0, _, _ => none
  | _ + 1, _, [] => none
  | _ + 1, read, '"' :: rest => some (String.ofList read.reverse, rest)
  | n + 1, read, '\\' :: 'u' :: rest => do
      let (c, rest) ← escapedChar? rest
      stringBody? n (c :: read) rest
  | n + 1, read, '\\' :: e :: rest => do
      let c ← shortEscape? e
      stringBody? n (c :: read) rest
  | n + 1, read, c :: rest =>
      if c == '\\' || c.toNat < 0x20 then none else stringBody? n (c :: read) rest

def isDigit (c : Char) : Bool :=
  '0' ≤ c && c ≤ '9'

/-- The value of a run of decimal digits. -/
def ofDigits (digits : List Char) : Nat :=
  digits.foldl (fun n c => n * 10 + (c.toNat - '0'.toNat)) 0

/-- A fraction, when one is written: a point and at least one digit. -/
def fraction? : List Char → Option (List Char × List Char)
  | '.' :: rest =>
      let digits := rest.takeWhile isDigit
      if digits.isEmpty then none else some ('.' :: digits, rest.dropWhile isDigit)
  | text => some ([], text)

/-- An exponent, when one is written: its mark, an optional sign and at least one digit. -/
def exponent? : List Char → Option (List Char × List Char)
  | c :: rest =>
      if c == 'e' || c == 'E' then
        let (sign, rest) := match rest with
          | '+' :: rest => (['+'], rest)
          | '-' :: rest => (['-'], rest)
          | rest => ([], rest)
        let digits := rest.takeWhile isDigit
        if digits.isEmpty then none else some (c :: sign ++ digits, rest.dropWhile isDigit)
      else some ([], c :: rest)
  | [] => some ([], [])

/-- A numeral. Its whole part has no needless leading zero; minus zero is not an integer. -/
def numeral? (text : List Char) : Option (Json × List Char) := do
  let (negative, unsigned) := match text with
    | '-' :: rest => (true, rest)
    | text => (false, text)
  let whole := unsigned.takeWhile isDigit
  if whole.isEmpty || (whole.length > 1 && whole.head? == some '0') then none
  else
    let (frac, rest) ← fraction? (unsigned.dropWhile isDigit)
    let (expo, rest) ← exponent? rest
    let n := ofDigits whole
    if frac.isEmpty && expo.isEmpty && !(negative && n == 0) then
      some (.int (if negative then -n else n), rest)
    else
      let sign := if negative then ['-'] else []
      some (.real (String.ofList (sign ++ whole ++ frac ++ expo)), rest)

/-- The members with one more written after them: a name that is there already keeps its place
and takes the new value. -/
def putMember (name : String) (value : Json) : List (String × Json) → List (String × Json)
  | [] => [(name, value)]
  | m :: rest =>
      if m.1 == name then (name, value) :: rest else m :: putMember name value rest

mutual

def value? : Nat → List Char → Option (Json × List Char)
  | 0, _ => none
  | n + 1, text =>
      match skipSpace text with
      | 'n' :: rest => (expect? ['u', 'l', 'l'] rest).map fun rest => (.null, rest)
      | 't' :: rest => (expect? ['r', 'u', 'e'] rest).map fun rest => (.bool true, rest)
      | 'f' :: rest => (expect? ['a', 'l', 's', 'e'] rest).map fun rest => (.bool false, rest)
      | '"' :: rest => (stringBody? (rest.length + 1) [] rest).map fun (s, rest) => (.str s, rest)
      | '[' :: rest =>
          match skipSpace rest with
          | ']' :: rest => some (.arr [], rest)
          | rest => (items? n [] rest).map fun (items, rest) => (.arr items, rest)
      | '\x7b' :: rest =>
          match skipSpace rest with
          | '\x7d' :: rest => some (.obj [], rest)
          | rest => (members? n [] rest).map fun (members, rest) => (.obj members, rest)
      | rest => numeral? rest

/-- The elements of a list up to its closing bracket; `read` holds those so far, last first. -/
def items? : Nat → List Json → List Char → Option (List Json × List Char)
  | 0, _, _ => none
  | n + 1, read, text => do
      let (item, rest) ← value? n text
      match skipSpace rest with
      | ',' :: rest => items? n (item :: read) rest
      | ']' :: rest => some ((item :: read).reverse, rest)
      | _ => none

/-- The members of an object up to its closing brace. -/
def members? : Nat → List (String × Json) → List Char → Option (List (String × Json) × List Char)
  | 0, _, _ => none
  | n + 1, read, text =>
      match skipSpace text with
      | '"' :: rest => do
          let (name, rest) ← stringBody? (rest.length + 1) [] rest
          let rest ← expect? [':'] (skipSpace rest)
          let (value, rest) ← value? n rest
          match skipSpace rest with
          | ',' :: rest => members? n (putMember name value read) rest
          | '\x7d' :: rest => some (putMember name value read, rest)
          | _ => none
      | _ => none

end

/-- The document that a whole text holds. -/
def parse? (text : String) : Option Json :=
  let chars := text.toList
  match value? (chars.length + 1) chars with
  | some (document, rest) => if (skipSpace rest).isEmpty then some document else none
  | none => none

end BucketSteward.Json
