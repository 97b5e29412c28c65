import BucketSteward.Proofs.Calendar
import BucketSteward.Timestamp.Notation
import Mathlib.Algebra.Group.Nat.Defs
import Mathlib.Data.List.TakeWhile

/-! Every point in time is read back from its written form, so two points with one written form
are the same point. The parts of the notation are read back one after the other, each up to the
mark that ends it. -/
namespace BucketSteward.Timestamp
open Json (isDigit ofDigits)
open Text (trimLeft isBlank)

/-! ## Digits -/

theorem isDigit_eq (c : Char) : isDigit c = c.isDigit := by
  simp only [isDigit, Char.isDigit, Char.le_def, ge_iff_le]

theorem ofDigits_eq (digits : List Char) : ofDigits digits = Nat.ofDigitChars 10 digits 0 := by
  simp only [ofDigits, Nat.ofDigitChars_eq_foldl, Nat.mul_comm]

theorem not_blank_of_digit {c : Char} (digit : isDigit c = true) : isBlank c = false := by
  have bounds : 48 ≤ c.toNat ∧ c.toNat ≤ 57 := by
    simpa [isDigit, Char.le_def, UInt32.le_iff_toNat_le] using digit
  simp only [isBlank, Bool.or_eq_false_iff, Bool.and_eq_false_iff, decide_eq_false_iff_not,
    beq_eq_false_iff_ne]
  omega

theorem isDigit_of_mem_padded (width n : Nat) {c : Char} (member : c ∈ padded width n) :
    isDigit c = true := by
  rw [isDigit_eq]
  rcases List.mem_append.mp member with zero | digit
  · rw [List.eq_of_mem_replicate zero]
    decide
  · exact Nat.isDigit_of_mem_toDigits (by decide) (by decide) digit

theorem padded_ne_nil (width n : Nat) : padded width n ≠ [] := by
  simp [padded]

theorem ofDigits_padded (width n : Nat) : ofDigits (padded width n) = n := by
  simp [ofDigits_eq, padded, Nat.ofDigitChars_append]

theorem length_padded {width : Nat} (n : Nat) (positive : 0 < width) (fits : n < 10 ^ width) :
    (padded width n).length = width := by
  have short := (Nat.length_toDigits_le_iff (by decide) positive).mpr fits
  simp only [padded, List.length_append, List.length_replicate]
  omega

/-- A run of digits that ends at another character. -/
theorem takeWhile_digits {digits : List Char} (rest : List Char) (all : ∀ c ∈ digits, isDigit c = true)
    (ends : ∀ c ∈ rest.head?, isDigit c = false) :
    (digits ++ rest).takeWhile isDigit = digits ∧ (digits ++ rest).dropWhile isDigit = rest := by
  rw [List.takeWhile_append_of_pos all, List.dropWhile_append_of_pos all]
  cases rest with
  | nil => simp
  | cons c rest =>
    have stop : isDigit c = false := ends c rfl
    simp [stop]

theorem digits?_append {most : Nat} {digits : List Char} (rest : List Char) (nonempty : digits ≠ [])
    (all : ∀ c ∈ digits, isDigit c = true) (fits : digits.length ≤ most)
    (ends : digits.length = most ∨ ∀ c ∈ rest.head?, isDigit c = false) :
    digits? most (digits ++ rest) = some (ofDigits digits, rest) := by
  have run : ((digits ++ rest).take most).takeWhile isDigit = digits := by
    rcases ends with full | ends
    · rw [← full, List.take_left', List.takeWhile_eq_self_iff]
      · exact all
      · rfl
    · rw [List.take_append, List.take_of_length_le fits]
      refine (takeWhile_digits _ all fun c member => ends c ?_).1
      cases rest with
      | nil => simp at member
      | cons d rest =>
        cases hroom : most - digits.length with
        | zero => simp [hroom] at member
        | succ room => simpa [hroom] using member
  simp [digits?, run, nonempty]

theorem trimLeft_of_head {c : Char} {rest : List Char} (dark : isBlank c = false) :
    trimLeft (c :: rest) = c :: rest := by
  simp [trimLeft, dark]

theorem trimLeft_digits {digits rest : List Char} (nonempty : digits ≠ [])
    (all : ∀ c ∈ digits, isDigit c = true) : trimLeft (digits ++ rest) = digits ++ rest := by
  cases digits with
  | nil => exact absurd rfl nonempty
  | cons c digits => exact trimLeft_of_head (not_blank_of_digit (all c List.mem_cons_self))

/-! ## The parts of the notation -/

theorem field?_padded {n : Nat} (fits : n < 100) (rest : List Char) :
    field? (padded 2 n ++ rest) = some (n, rest) := by
  have length : (padded 2 n).length = 2 := length_padded n (by decide) fits
  have read := digits?_append rest (padded_ne_nil 2 n)
    (fun _ => isDigit_of_mem_padded 2 n) length.le (.inl length)
  rw [field?, trimLeft_digits (padded_ne_nil 2 n) (fun _ => isDigit_of_mem_padded 2 n), read,
    ofDigits_padded]

theorem mark?_self {c : Char} (dark : isBlank c = false) (rest : List Char) :
    mark? c (c :: rest) = some rest := by
  simp [mark?, trimLeft_of_head dark]

theorem year?_write (year : Int) (rest : List Char) :
    year? (writeYear year ++ '-' :: rest) = some (year, '-' :: rest) := by
  have digits := fun c => @isDigit_of_mem_padded 4 year.natAbs c
  have nonempty := padded_ne_nil 4 year.natAbs
  have ends : ∀ c ∈ ('-' :: rest).head?, isDigit c = false := by simp; decide
  have signed (most : Nat) (fits : (padded 4 year.natAbs).length ≤ most) :=
    digits?_append ('-' :: rest) nonempty digits fits (.inr ends)
  by_cases plain : 0 ≤ year ∧ year ≤ 9999
  · have size : year.natAbs < 10 ^ 4 := by omega
    have length := length_padded year.natAbs (by decide) size
    have same : year.toNat = year.natAbs := by omega
    rw [writeYear, if_pos plain, same, year?, trimLeft_digits nonempty digits]
    split
    · rename_i negative
      rcases List.append_eq_cons_iff.mp negative with ⟨empty, -⟩ | ⟨tail, head, -⟩
      · exact absurd empty nonempty
      · exact absurd (digits '-' (head ▸ List.mem_cons_self)) (by decide)
    · rename_i positive
      rcases List.append_eq_cons_iff.mp positive with ⟨empty, -⟩ | ⟨tail, head, -⟩
      · exact absurd empty nonempty
      · exact absurd (digits '+' (head ▸ List.mem_cons_self)) (by decide)
    · rw [signed 4 length.le, ofDigits_padded]
      simp only [Option.map_some, Option.some.injEq, Prod.mk.injEq, and_true]
      omega
  · have read := signed (padded 4 year.natAbs ++ '-' :: rest).length (by simp)
    rw [ofDigits_padded] at read
    rw [writeYear, if_neg plain]
    by_cases negative : year < 0
    · rw [if_pos negative, List.cons_append, year?, trimLeft_of_head (by decide)]
      simp only [read, Option.map_some, Option.some.injEq, Prod.mk.injEq, and_true]
      omega
    · rw [if_neg negative, List.cons_append, year?, trimLeft_of_head (by decide)]
      simp only [read, Option.map_some, Option.some.injEq, Prod.mk.injEq, and_true]
      omega

/-- A fraction is read back to the nanosecond, whichever number of digits shows it. -/
theorem nanos?_padded (width nano scale : Nat) (positive : 0 < width) (short : width ≤ 9)
    (scaled : scale = 10 ^ (9 - width)) (fits : nano / scale < 10 ^ width)
    (whole : nano % scale = 0) :
    nanos? ('.' :: padded width (nano / scale) ++ ['Z']) = some (nano, ['Z']) := by
  have length := length_padded (nano / scale) positive fits
  have all := fun c => @isDigit_of_mem_padded width (nano / scale) c
  obtain ⟨take, drop⟩ := takeWhile_digits ['Z'] all (by simp; decide)
  have value : ofDigits (padded width (nano / scale) ++ List.replicate (9 - width) '0') = nano := by
    have digits := ofDigits_padded width (nano / scale)
    rw [ofDigits_eq] at digits
    rw [ofDigits_eq, Nat.ofDigitChars_append, digits, Nat.ofDigitChars_replicate_zero, ← scaled]
    have := Nat.div_add_mod nano scale
    omega
  have counted : (padded width (nano / scale)).take 9 = padded width (nano / scale) :=
    List.take_of_length_le (by omega)
  have nonempty : (padded width (nano / scale)).isEmpty = false := by
    simpa using padded_ne_nil width (nano / scale)
  rw [List.cons_append, nanos?]
  simp only [take, drop, nonempty, counted, length, value, Bool.false_eq_true, ↓reduceIte]

theorem nanos?_write (nano : Nat) (bound : nano < 1000000000) :
    nanos? (writeFraction nano ++ ['Z']) = some (nano, ['Z']) := by
  unfold writeFraction
  split
  case isTrue zero => simp [nanos?, zero]
  split
  case isTrue whole => exact nanos?_padded _ _ _ (by decide) (by decide) rfl (by omega) whole
  split
  case isTrue whole => exact nanos?_padded _ _ _ (by decide) (by decide) rfl (by omega) whole
  case isFalse =>
    have read := nanos?_padded 9 nano 1 (by decide) (by decide) rfl (by omega) (by omega)
    rwa [Nat.div_one] at read

theorem offset?_utc : offset? ['Z'] = some (0, []) := by decide

/-! ## The whole notation -/

theorem at?_self (t : Timestamp) : at? t.second t.nano = some t := by
  rw [at?, dif_pos ⟨t.nano_lt, t.second_of_leap, t.first_le, t.le_last⟩]

/-- The second of the minute that is written is 60 in a leap second and only then. -/
theorem writtenSecond_eq (t : Timestamp) :
    let second := (t.second % 86400).toNat % 60 + if t.isLeap then 1 else 0
    second ≤ 60 ∧ (if second = 60 then 59 else second) = (t.second % 86400).toNat % 60 ∧
      (if second = 60 then t.nano % 1000000000 + 1000000000 else t.nano % 1000000000) = t.nano := by
  intro second
  have bound := t.nano_lt
  by_cases late : 1000000000 ≤ t.nano
  · have last := t.second_of_leap late
    have leap : second = 60 := by
      simp only [second, isLeap, late, decide_true, ↓reduceIte]
      omega
    rw [leap, if_pos rfl, if_pos rfl]
    omega
  · have plain : second = (t.second % 86400).toNat % 60 := by
      simp only [second, isLeap, late, decide_false, Bool.false_eq_true, ↓reduceIte, Nat.add_zero]
    have less : second ≠ 60 := by omega
    rw [if_neg less, if_neg less]
    omega

/-- **Reading undoes writing.** -/
theorem read?_write (t : Timestamp) : read? t.write = some t := by
  obtain ⟨date, hdate⟩ : ∃ date, date = Date.ofDays (t.second / 86400) := ⟨_, rfl⟩
  obtain ⟨time, htime⟩ : ∃ time, time = (t.second % 86400).toNat := ⟨_, rfl⟩
  have exist : date.Exists := hdate ▸ Date.exists_ofDays _
  have days : date.toDays = t.second / 86400 := hdate ▸ Date.toDays_ofDays _
  have years : firstYear ≤ date.year ∧ date.year ≤ lastYear := by
    have first := t.first_le
    have last := t.le_last
    simp only [firstSecond, lastSecond, firstYear, lastYear] at first last ⊢
    rw [hdate]
    exact Date.year_ofDays_bounds (by omega) (by omega)
  obtain ⟨monthLower, monthUpper, dayLower, dayUpper⟩ := id exist
  have dayBound : date.day ≤ 31 := by
    refine Int.le_trans dayUpper ?_
    unfold Date.daysInMonth
    split
    · split <;> decide
    · split <;> decide
  obtain ⟨second, hsecond⟩ : ∃ s, s = time % 60 + if t.isLeap then 1 else 0 := ⟨_, rfl⟩
  have timeBound : time < 86400 := by omega
  obtain ⟨secondBound, minute, nanos⟩ := t.writtenSecond_eq
  rw [← htime, ← hsecond] at secondBound minute nanos
  have text : t.write.toList = writeYear date.year ++ '-' :: (padded 2 date.month.toNat
      ++ '-' :: (padded 2 date.day.toNat ++ 'T' :: (padded 2 (time / 3600)
      ++ ':' :: (padded 2 (time / 60 % 60) ++ ':' :: (padded 2 second
      ++ (writeFraction (t.nano % 1000000000) ++ ['Z'])))))) := by
    simp only [write, writeWhole, ← hdate, ← htime, ← hsecond, String.toList_ofList,
      List.append_assoc, List.cons_append]
  have rest : (['Z'] : List Char) = trimLeft ['Z'] := by decide
  simp only [read?, text, year?_write, mark?_self (c := '-') (by decide),
    mark?_self (c := ':') (by decide), Option.bind_eq_bind, Option.bind_some, true_or, ↓reduceIte,
    field?_padded (n := date.month.toNat) (by omega),
    field?_padded (n := date.day.toNat) (by omega),
    field?_padded (n := time / 3600) (by omega),
    field?_padded (n := time / 60 % 60) (by omega),
    field?_padded (n := second) (by omega),
    nanos?_write (t.nano % 1000000000) (by omega), ← rest, offset?_utc]
  have sameDate : (⟨date.year, date.month.toNat, date.day.toNat⟩ : Date) = date := by
    rw [Int.toNat_of_nonneg (by omega), Int.toNat_of_nonneg (by omega)]
  have clock : date.toDays * 86400
      + ((((time / 3600 * 60 + time / 60 % 60) * 60 + if second = 60 then 59 else second : Nat)) : Int)
      - 0 = t.second := by
    rw [days, minute]
    omega
  rw [sameDate, clock, nanos, at?_self,
    if_pos ⟨rfl, exist, years.1, years.2, by omega, by omega, secondBound⟩]

end BucketSteward.Timestamp
