import BucketSteward.Text.Blank
import Mathlib.Data.List.DropRight

/-! Texts without the blanks at their ends. A word is what trimming leaves of a text exactly when no blank
stands at the ends of the word and the text is the word with blanks around it. -/
namespace BucketSteward.Text

/-- No blank stands at either end of a text. -/
structure IsTrimmed (text : List Char) : Prop where
  first : ∀ c, text.head? = some c → isBlank c = false
  last : ∀ c, text.getLast? = some c → isBlank c = false

theorem isTrimmed_of_plain {word : List Char} (plain : ∀ c ∈ word, isBlank c = false) :
    IsTrimmed word where
  first c begins := plain c (List.mem_of_head? begins)
  last c ends := plain c (List.mem_of_getLast? ends)

theorem IsTrimmed.reverse {text : List Char} (trimmed : IsTrimmed text) : IsTrimmed text.reverse where
  first c begins := trimmed.last c (by rwa [List.head?_reverse] at begins)
  last c ends := trimmed.first c (by rwa [List.getLast?_reverse] at ends)

/-- Blanks before a word are dropped, and no more. -/
theorem IsTrimmed.dropWhile_append {word before : List Char} (trimmed : IsTrimmed word)
    (after : List Char) (filled : word ≠ []) (left : ∀ c ∈ before, isBlank c = true) :
    (before ++ (word ++ after)).dropWhile isBlank = word ++ after := by
  rw [List.dropWhile_append_of_pos left]
  cases word with
  | nil => exact absurd rfl filled
  | cons c rest => exact List.dropWhile_cons_of_neg (by simp [trimmed.first c rfl])

/-- Blanks around a word are trimmed. -/
theorem trim_padded {before word after : List Char} (left : ∀ c ∈ before, isBlank c = true)
    (right : ∀ c ∈ after, isBlank c = true) (trimmed : IsTrimmed word) :
    trim (before ++ word ++ after) = word := by
  rw [trim, trimLeft, List.append_assoc]
  by_cases empty : word = []
  · subst empty
    rw [List.nil_append, List.dropWhile_append_of_pos left, List.dropWhile_eq_nil_iff.mpr right]
    rfl
  · -- The end of a text is the beginning of the text backwards.
    have backwards : ∀ c ∈ after.reverse, isBlank c = true := fun c among =>
      right c (List.mem_reverse.mp among)
    have filled : word.reverse ≠ [] := by simpa using empty
    have ended : (after.reverse ++ word.reverse).dropWhile isBlank = word.reverse := by
      simpa using trimmed.reverse.dropWhile_append [] filled backwards
    rw [trimmed.dropWhile_append after empty left, trimRight, List.reverse_append, ended,
      List.reverse_reverse]

/-- A text is what trimming leaves of it, with blanks around. -/
theorem exists_padded (text : List Char) :
    ∃ before after : List Char, text = before ++ trim text ++ after ∧
      (∀ c ∈ before, isBlank c = true) ∧ ∀ c ∈ after, isBlank c = true := by
  refine ⟨text.takeWhile isBlank, (text.dropWhile isBlank).rtakeWhile isBlank, ?_,
    fun c => List.mem_takeWhile_imp, fun c => List.mem_rtakeWhile_imp⟩
  have kept : trim text = (text.dropWhile isBlank).rdropWhile isBlank := rfl
  rw [kept, List.append_assoc, List.rdropWhile_append_rtakeWhile, List.takeWhile_append_dropWhile]

theorem isTrimmed_trim (text : List Char) : IsTrimmed (trim text) where
  first c begins := by
    -- Trimming the end leaves the beginning alone, and that was trimmed before.
    obtain ⟨after, whole⟩ := List.rdropWhile_prefix isBlank (l := text.dropWhile isBlank)
    have begun : (text.dropWhile isBlank).head? = some c := by
      rw [← whole, List.head?_append]
      exact Option.or_eq_some_iff.mpr (.inl begins)
    simpa [begun] using List.head?_dropWhile_not isBlank text
  last c ends := by
    have filled : trim text ≠ [] := by
      rintro nothing
      simp [nothing] at ends
    have same : (trim text).getLast filled = c := by
      simpa [List.getLast?_eq_some_getLast filled] using ends
    have ended := List.rdropWhile_last_not isBlank (text.dropWhile isBlank) filled
    exact same ▸ Bool.eq_false_iff.mpr ended

theorem trim_eq_iff {text word : List Char} :
    trim text = word ↔ IsTrimmed word ∧ ∃ before after : List Char, text = before ++ word ++ after ∧
      (∀ c ∈ before, isBlank c = true) ∧ ∀ c ∈ after, isBlank c = true := by
  constructor
  · rintro rfl
    exact ⟨isTrimmed_trim text, exists_padded text⟩
  · rintro ⟨trimmed, before, after, rfl, left, right⟩
    exact trim_padded left right trimmed

/-- Nothing is left of a text exactly when it is blank throughout. -/
theorem trim_eq_nil_iff {text : List Char} : trim text = [] ↔ ∀ c ∈ text, isBlank c = true := by
  rw [trim_eq_iff]
  constructor
  · rintro ⟨-, before, after, rfl, left, right⟩ c among
    rcases List.mem_append.mp among with early | late
    · exact left c (by simpa using early)
    · exact right c late
  · intro blank
    exact ⟨isTrimmed_of_plain (by simp), text, [], by simp, blank, by simp⟩

theorem mem_of_mem_trim {text : List Char} {c : Char} (among : c ∈ trim text) : c ∈ text := by
  have left := (List.dropWhile_sublist _).subset (List.mem_reverse.mp among)
  exact (List.dropWhile_sublist _).subset (List.mem_reverse.mp left)

end BucketSteward.Text
