/-!
XML documents as they are sent. An element always has a start tag and an end tag, also when there is
nothing between them; in a text the five characters of markup are written by name and the line ends
by number. Any text can be written, but a document is readable only if XML has all its characters
(`Xml.isText`).
-/

namespace BucketSteward

inductive Xml where
  | text (value : String)
  | element (name : String) (attributes : List (String × String)) (children : List Xml)
  deriving Inhabited

namespace Xml

/-- The characters that XML has: no control characters but the tab and the line ends, and not the
last two of the basic plane. -/
def isChar (c : Char) : Bool :=
  let n := c.toNat
  (0x20 ≤ n && n != 0xFFFE && n != 0xFFFF) || n == 0x9 || n == 0xA || n == 0xD

/-- Whether a text can be read from a document. -/
def isText (value : String) : Bool :=
  value.toList.all isChar

/-- The written form of one character. -/
def escape (c : Char) : List Char :=
  if c == '&' then "&amp;".toList
  else if c == '<' then "&lt;".toList
  else if c == '>' then "&gt;".toList
  else if c == '"' then "&quot;".toList
  else if c == '\'' then "&apos;".toList
  else if c == '\n' then "&#xA;".toList
  else if c == '\r' then "&#xD;".toList
  else if c == '\u0085' then "&#x85;".toList
  else if c == '\u2028' then "&#x2028;".toList
  else [c]

def escaped (value : String) : String :=
  String.ofList (value.toList.flatMap escape)

def printAttribute (a : String × String) : String :=
  " " ++ a.1 ++ "=\"" ++ escaped a.2 ++ "\""

mutual

def print : Xml → String
  | text value => escaped value
  | element name attributes children =>
      "<" ++ name ++ String.join (attributes.map printAttribute) ++ ">" ++ printAll children
        ++ "</" ++ name ++ ">"

def printAll : List Xml → String
  | [] => ""
  | child :: rest => print child ++ printAll rest

end

/-- An element with a text, or nothing where there is none. -/
def leaf (name : String) : Option String → List Xml
  | some value => [element name [] [text value]]
  | none => []

end Xml

end BucketSteward
