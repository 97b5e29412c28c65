import BucketSteward.Json.Reader

/-!
JSON pointers. A pointer is empty, or a `/` before each of its tokens; in a token `~1` stands for a
slash and `~0` for a tilde. A token selects a member of an object by name and an element of a list
by its decimal position, written without sign and without leading zeros.
-/

namespace BucketSteward.Json

/-- The token that a written token stands for. -/
def unescapeToken : List Char → List Char
  | '~' :: '1' :: rest => '/' :: unescapeToken rest
  | '~' :: '0' :: rest => '~' :: unescapeToken rest
  | c :: rest => c :: unescapeToken rest
  | [] => []

/-- A position in a list, as a pointer writes it. -/
def position? (token : List Char) : Option Nat :=
  if token.isEmpty || !token.all isDigit || (token.length > 1 && token.head? == some '0') then none
  else some (ofDigits token)

/-- What one token selects. -/
def select? (token : List Char) : Json → Option Json
  | .obj members => members.lookup (String.ofList token)
  | .arr items => (position? token).bind fun i => items[i]?
  | _ => none

/-- What a pointer selects in a document. -/
def pointer? (document : Json) (pointer : String) : Option Json :=
  match pointer.toList.splitOn '/' with
  | [[]] => some document
  | [] :: tokens =>
      tokens.foldlM (fun found token => select? (unescapeToken token) found) document
  | _ => none

end BucketSteward.Json
