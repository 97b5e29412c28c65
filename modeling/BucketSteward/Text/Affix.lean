/-!
Parts of a text: its beginning, its end and the pieces between delimiters, and its form with the
ASCII letters in lower case.
-/

namespace BucketSteward.Text

/-- What follows a given beginning. -/
def afterPrefix? : List Char → List Char → Option (List Char)
  | [], text => some text
  | p :: beginning, c :: text => if p = c then afterPrefix? beginning text else none
  | _ :: _, [] => none

theorem afterPrefix?_eq_some_iff {beginning text rest : List Char} :
    afterPrefix? beginning text = some rest ↔ text = beginning ++ rest := by
  induction beginning generalizing text with
  | nil => simp [afterPrefix?]
  | cons p beginning ih =>
    cases text with
    | nil => simp [afterPrefix?]
    | cons c text =>
      by_cases h : p = c
      · simp [afterPrefix?, h, ih]
      · simp [afterPrefix?, h, Ne.symm h]

def hasPrefix (beginning text : String) : Bool :=
  beginning.toList.isPrefixOf text.toList

def hasSuffix (ending text : String) : Bool :=
  ending.toList.isSuffixOf text.toList

theorem hasSuffix_iff {ending text : String} :
    hasSuffix ending text = true ↔ ending.toList <:+ text.toList := by
  simp [hasSuffix]

/-- Upper case ASCII letters in lower case; every other character stays. -/
def lowerAscii (c : Char) : Char :=
  if 'A' ≤ c ∧ c ≤ 'Z' then Char.ofNat (c.toNat + 32) else c

end BucketSteward.Text
