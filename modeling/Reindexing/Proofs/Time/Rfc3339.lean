import Reindexing.Proofs.Decimal.Digits
import Reindexing.Proofs.Time.Calendar
import Reindexing.Time.Rfc3339

/-!
# Instants read back

The lenient reader undoes the written form of an instant. The form has no sign for
a leap second in the middle of a minute, so instants are expressible that lie in
the years that exist and whose leap seconds are the last of a minute.
-/
namespace Reindexing

/-- An instant that exists, and whose second is a leap second only at the end of a minute. -/
structure Instant.Expressible (t : Instant) : Prop where
  range : Instant.inRange t.second = true
  nano : t.nano < Instant.nanosPerSecond ∨ t.second % 60 = 59 ∧ t.nano < 2 * Instant.nanosPerSecond

instance (t : Instant) : Decidable t.Expressible :=
  decidable_of_iff (Instant.inRange t.second = true ∧
      (t.nano < Instant.nanosPerSecond ∨ t.second % 60 = 59 ∧ t.nano < 2 * Instant.nanosPerSecond))
    ⟨fun ⟨range, nano⟩ => ⟨range, nano⟩, fun ⟨range, nano⟩ => ⟨range, nano⟩⟩

namespace Time

open Decimal

/-! ### Numbers -/

variable {least most width n : Nat} {ds rest : List Char}

theorem isBlank_of_isDigit {c : Char} (digit : isDigit c = true) : Text.isBlank c = false := by
  obtain ⟨first, last⟩ := isDigit_iff.mp digit
  simp only [Text.isBlank, Text.inRanges, Text.blankRanges, List.any_cons, List.any_nil, Bool.or_eq_false_iff,
    Bool.and_eq_false_iff, decide_eq_false_iff_not, and_true]
  omega

theorem trimStartChars_of_digits (filled : ds ≠ []) (digits : ∀ c ∈ ds, isDigit c = true) :
    Text.trimStartChars (ds ++ rest) = ds ++ rest := by
  cases ds with
  | nil => exact absurd rfl filled
  | cons c ds =>
    have front := isBlank_of_isDigit (digits c List.mem_cons_self)
    exact List.dropWhile_cons_of_neg (by simp [front])

theorem number?_append (digits : ∀ c ∈ ds, isDigit c = true) (enough : least ≤ ds.length)
    (few : ds.length ≤ most) (ends : ds.length = most ∨ EndsDigits rest) :
    number? least most (ds ++ rest) = some (valueOf ds, rest) := by
  have none_left : (rest.take (most - ds.length)).takeWhile isDigit = [] := by
    rcases ends with full | ends
    · simp [full]
    · cases rest with
      | nil => simp
      | cons c rest =>
        have other := ends c rfl
        cases most - ds.length with
        | zero => rfl
        | succ more => simp [other]
  have kept : ((ds ++ rest).take most).takeWhile isDigit = ds := by
    rw [List.take_append, List.take_of_length_le few, List.takeWhile_append_of_pos digits, none_left,
      List.append_nil]
  rw [number?, kept, if_neg (Nat.not_lt.mpr enough), List.drop_left]

/-- Two digits are a number of at most two digits. -/
theorem looseNumber?_two (small : n < 100) : looseNumber? 2 (paddedDigits 2 n ++ rest) = some (n, rest) := by
  have width : (paddedDigits 2 n).length = 2 := length_paddedDigits (by decide) small
  have digits : ∀ c ∈ paddedDigits 2 n, isDigit c = true := fun c member => isDigit_of_mem_paddedDigits member
  rw [looseNumber?, trimStartChars_of_digits (List.ne_nil_of_length_pos (by omega)) digits,
    number?_append digits (by omega) (by omega) (.inl width), valueOf_paddedDigits]

theorem looseExpect?_cons {c : Char} (filled : Text.isBlank c = false) :
    looseExpect? c (c :: rest) = some rest := by
  have front : Text.trimStartChars (c :: rest) = c :: rest := List.dropWhile_cons_of_neg (by simp [filled])
  rw [looseExpect?, front, expect?, if_pos rfl]

/-! ### Years -/

/-- Behind a sign a number may have any length. -/
theorem number?_signed (ends : EndsDigits rest) :
    number? 1 (paddedDigits 4 n ++ rest).length (paddedDigits 4 n ++ rest) = some (n, rest) := by
  have width := le_length_paddedDigits 4 n
  have digits : ∀ c ∈ paddedDigits 4 n, isDigit c = true := fun c member => isDigit_of_mem_paddedDigits member
  rw [number?_append digits (by omega) (by simp) (.inr ends), valueOf_paddedDigits]

theorem looseYear?_digits (filled : ds ≠ []) (digits : ∀ c ∈ ds, isDigit c = true) :
    looseYear? (ds ++ rest) = (number? 1 4 (ds ++ rest)).map fun (n, cs) => ((n : Int), cs) := by
  unfold looseYear?
  rw [trimStartChars_of_digits filled digits]
  cases ds with
  | nil => exact absurd rfl filled
  | cons c ds =>
    have digit := digits c List.mem_cons_self
    rw [List.cons_append]
    split
    · next eq =>
      obtain ⟨rfl, _⟩ := List.cons.inj eq
      exact absurd digit (by decide)
    · next eq =>
      obtain ⟨rfl, _⟩ := List.cons.inj eq
      exact absurd digit (by decide)
    · rfl

theorem looseYear?_minus (cs : List Char) :
    looseYear? ('-' :: cs) = (number? 1 cs.length cs).map fun (n, cs) => (-(n : Int), cs) := rfl

theorem looseYear?_plus (cs : List Char) :
    looseYear? ('+' :: cs) = (number? 1 cs.length cs).map fun (n, cs) => ((n : Int), cs) := rfl

theorem looseYear?_yearText (year : Int) (ends : EndsDigits rest) :
    looseYear? ((yearText year).toList ++ rest) = some (year, rest) := by
  unfold yearText
  split
  · next common =>
    have width : (paddedDigits 4 year.toNat).length = 4 := length_paddedDigits (by decide) (by omega)
    have digits : ∀ c ∈ paddedDigits 4 year.toNat, isDigit c = true :=
      fun c member => isDigit_of_mem_paddedDigits member
    have value : (year.toNat : Int) = year := Int.toNat_of_nonneg common.1
    rw [padded, String.toList_ofList, looseYear?_digits (List.ne_nil_of_length_pos (by omega)) digits,
      number?_append digits (by omega) (by omega) (.inl width), valueOf_paddedDigits]
    simp only [Option.map_some, value]
  · split
    · next before =>
      have value : -(year.natAbs : Int) = year := by omega
      have sign : "-".toList = ['-'] := rfl
      rw [String.toList_append, sign, padded, String.toList_ofList, List.append_assoc, List.singleton_append,
        looseYear?_minus, number?_signed ends]
      simp only [Option.map_some, value]
    · next after =>
      have value : (year.natAbs : Int) = year := by omega
      have sign : "+".toList = ['+'] := rfl
      rw [String.toList_append, sign, padded, String.toList_ofList, List.append_assoc, List.singleton_append,
        looseYear?_plus, number?_signed ends]
      simp only [Option.map_some, value]

/-! ### Fractions -/

theorem fraction?_padded {places nano : Nat} (some_place : 0 < places) (few : places ≤ 9)
    (whole : 10 ^ (9 - places) ∣ nano) (small : nano < Instant.nanosPerSecond) (ends : EndsDigits rest) :
    fraction? (paddedDigits places (nano / 10 ^ (9 - places)) ++ rest) = some (nano, rest) := by
  have power : 10 ^ places * 10 ^ (9 - places) = Instant.nanosPerSecond := by
    rw [← Nat.pow_add, Nat.add_sub_cancel' few]
    rfl
  have fits : nano / 10 ^ (9 - places) < 10 ^ places :=
    Nat.div_lt_of_lt_mul (by rw [Nat.mul_comm, power]; exact small)
  have width : (paddedDigits places (nano / 10 ^ (9 - places))).length = places :=
    length_paddedDigits some_place fits
  have filled : paddedDigits places (nano / 10 ^ (9 - places)) ≠ [] := List.ne_nil_of_length_pos (by omega)
  have digits : ∀ c ∈ paddedDigits places (nano / 10 ^ (9 - places)), isDigit c = true :=
    fun c member => isDigit_of_mem_paddedDigits member
  simp only [fraction?, spanDigits_append digits ends, if_neg filled, List.take_of_length_le (width ▸ few), width,
    valueOf_paddedDigits]
  congr
  exact Nat.div_mul_cancel whole

/-- A fraction is written with no point, or with places that lose nothing. -/
theorem fractionText_cases (nano : Nat) :
    nano = 0 ∧ (fractionText nano).toList = [] ∨
      ∃ places, 0 < places ∧ places ≤ 9 ∧ 10 ^ (9 - places) ∣ nano ∧
        (fractionText nano).toList = '.' :: paddedDigits places (nano / 10 ^ (9 - places)) := by
  have point (places n : Nat) : ("." ++ padded places n).toList = '.' :: paddedDigits places n := by
    simp only [padded, String.toList_append, String.toList_ofList]
    rfl
  unfold fractionText
  split
  · next zero => exact .inl ⟨zero, rfl⟩
  · refine .inr ?_
    split
    · next whole => exact ⟨3, by decide, by decide, Nat.dvd_of_mod_eq_zero whole, point 3 _⟩
    · split
      · next whole => exact ⟨6, by decide, by decide, Nat.dvd_of_mod_eq_zero whole, point 6 _⟩
      · refine ⟨9, by decide, by decide, Nat.one_dvd nano, ?_⟩
        rw [point, Nat.sub_self, Nat.pow_zero, Nat.div_one]

theorem optionalFraction?_fractionText {nano : Nat} (small : nano < Instant.nanosPerSecond)
    (ends : EndsDigits rest) (other : rest.head? ≠ some '.') :
    optionalFraction? ((fractionText nano).toList ++ rest) = some (nano, rest) := by
  rcases fractionText_cases nano with ⟨rfl, none_written⟩ | ⟨places, some_place, few, whole, written⟩
  · rw [none_written, List.nil_append]
    unfold optionalFraction?
    split
    · exact absurd rfl other
    · rfl
  · rw [written]
    exact fraction?_padded some_place few whole small ends

/-! ### Date and time of day -/

/-- The written form of a date and a time of day in UTC. -/
def Fields.chars (f : Fields) : List Char :=
  (yearText f.year).toList ++ '-' :: (paddedDigits 2 f.month ++ '-' :: (paddedDigits 2 f.day ++ 'T' ::
    (paddedDigits 2 f.hour ++ ':' :: (paddedDigits 2 f.minute ++ ':' :: (paddedDigits 2 f.second ++
      ((fractionText f.nano).toList ++ ['Z']))))))

/-- Fields of two digits each, in UTC. -/
structure Fields.Fits (f : Fields) : Prop where
  month : f.month < 100
  day : f.day < 100
  hour : f.hour < 100
  minute : f.minute < 100
  second : f.second < 100
  nano : f.nano < Instant.nanosPerSecond
  offset : f.offset = 0

theorem looseFields?_chars {f : Fields} (fits : f.Fits) : looseFields? f.chars = some (f, []) := by
  have dash (rest : List Char) : looseExpect? '-' ('-' :: rest) = some rest := looseExpect?_cons (by decide)
  have colon (rest : List Char) : looseExpect? ':' (':' :: rest) = some rest := looseExpect?_cons (by decide)
  have mark (rest : List Char) : timeMark? ('T' :: rest) = some rest := rfl
  have zone : looseOffset? (Text.trimStartChars ['Z']) = some (0, []) := rfl
  have ends : EndsDigits ['Z'] := endsDigits_cons (by decide)
  have year (rest : List Char) : looseYear? ((yearText f.year).toList ++ '-' :: rest) = some (f.year, '-' :: rest) :=
    looseYear?_yearText f.year (endsDigits_cons (by decide))
  have fraction := optionalFraction?_fractionText fits.nano ends (by decide)
  simp only [looseFields?, Fields.chars, year, dash, looseNumber?_two fits.month, looseNumber?_two fits.day, mark,
    looseNumber?_two fits.hour, colon, looseNumber?_two fits.minute, looseNumber?_two fits.second, fraction, zone,
    bind, Option.bind, ← fits.offset]

/-- The second of the day. -/
def clockOf (t : Instant) : Nat := (t.second % Instant.secondsPerDay).toNat

/-- The second of the minute as it is written, and the nanoseconds in it. -/
def writtenSecond (t : Instant) : Nat × Nat :=
  if t.isLeap then (clockOf t % 60 + 1, t.nano - Instant.nanosPerSecond) else (clockOf t % 60, t.nano)

/-- The fields of an instant. -/
def fieldsOf (t : Instant) : Fields :=
  let date := Date.ofDays (t.second / Instant.secondsPerDay)
  ⟨date.year, date.month, date.day, clockOf t / 3600, clockOf t / 60 % 60, (writtenSecond t).1, (writtenSecond t).2, 0⟩

variable {t : Instant}

theorem clockOf_lt (t : Instant) : clockOf t < 86400 := by
  unfold clockOf Instant.secondsPerDay
  omega

theorem second_eq (t : Instant) :
    t.second = t.second / Instant.secondsPerDay * Instant.secondsPerDay + clockOf t := by
  unfold clockOf Instant.secondsPerDay
  omega

theorem clockOf_mod (t : Instant) : ((clockOf t % 60 : Nat) : Int) = t.second % 60 := by
  unfold clockOf Instant.secondsPerDay
  omega

theorem toList_toText (t : Instant) : t.toText.toList = (fieldsOf t).chars := by
  have zone : "Z".toList = ['Z'] := rfl
  have dash : "-".toList = ['-'] := rfl
  have colon : ":".toList = [':'] := rfl
  have mark : "T".toList = ['T'] := rfl
  simp only [Instant.toText, write, Fields.chars, fieldsOf, writtenSecond, clockOf, String.toList_append, padded,
    String.toList_ofList, zone, dash, colon, mark, List.append_assoc, List.cons_append, List.nil_append]

/-- The second that is written is 60 for a leap second and the second of the minute for any other. -/
theorem writtenSecond_cases (expressible : t.Expressible) :
    (writtenSecond t).2 < Instant.nanosPerSecond ∧
      ((writtenSecond t).1 = 60 ∧ clockOf t % 60 = 59 ∧ (writtenSecond t).2 + Instant.nanosPerSecond = t.nano ∨
        (writtenSecond t).1 < 60 ∧ (writtenSecond t).1 = clockOf t % 60 ∧ (writtenSecond t).2 = t.nano) := by
  have nano := expressible.nano
  have clock := clockOf_mod t
  by_cases leap : Instant.nanosPerSecond ≤ t.nano
  · have decided : t.isLeap = true := decide_eq_true leap
    simp only [writtenSecond, if_pos decided]
    omega
  · have decided : ¬ t.isLeap = true := by simpa [Instant.isLeap] using leap
    simp only [writtenSecond, if_neg decided, and_true]
    exact ⟨Nat.lt_of_not_le leap, .inr (Nat.mod_lt _ (by decide))⟩

theorem isValid_bounds {date : Date} (valid : date.isValid = true) : date.month ≤ 12 ∧ date.day ≤ 31 := by
  simp only [Date.isValid, Bool.and_eq_true, decide_eq_true_eq] at valid
  have days : daysInMonth date.year date.month ≤ 31 := by
    unfold daysInMonth
    repeat' split
    all_goals decide
  omega

theorem fits_fieldsOf (expressible : t.Expressible) : (fieldsOf t).Fits := by
  obtain ⟨month, day⟩ := isValid_bounds (isValid_ofDays (t.second / Instant.secondsPerDay))
  have clock := clockOf_lt t
  obtain ⟨nano, second⟩ := writtenSecond_cases expressible
  refine ⟨?_, ?_, ?_, ?_, ?_, nano, rfl⟩ <;> simp only [fieldsOf] <;> omega

/-- The fields of an instant are those of the instant alone. -/
theorem toInstant?_fieldsOf (expressible : t.Expressible) : (fieldsOf t).toInstant? = some t := by
  have date := isValid_ofDays (t.second / Instant.secondsPerDay)
  have clock := clockOf_lt t
  obtain ⟨nano, second⟩ := writtenSecond_cases expressible
  have read : (if (writtenSecond t).1 = 60 then (59, (writtenSecond t).2 + Instant.nanosPerSecond)
      else ((writtenSecond t).1, (writtenSecond t).2)) = (clockOf t % 60, t.nano) := by
    split <;> simp only [Prod.mk.injEq] <;> omega
  have time : clockOf t / 3600 * 3600 + clockOf t / 60 % 60 * 60 + clockOf t % 60 = clockOf t := by omega
  have hour : clockOf t / 3600 < 24 := by omega
  have minute : clockOf t / 60 % 60 < 60 := by omega
  have last : (writtenSecond t).1 ≤ 60 := by omega
  have whole := toDays_ofDays (t.second / Instant.secondsPerDay)
  dsimp only [Fields.toInstant?, fieldsOf]
  rw [read]
  simp only [time, hour, minute, last, date, whole, ← second_eq t, Int.sub_zero, expressible.range, decide_true,
    Bool.and_self]
  rfl

/-- An instant is read from its written form. -/
theorem readLoose?_toText (expressible : t.Expressible) : readLoose? t.toText = some t := by
  simp only [readLoose?, toList_toText, looseFields?_chars (fits_fieldsOf expressible), bind, Option.bind,
    List.all_nil, toInstant?_fieldsOf expressible, if_true]

/-! ### What texts express -/

/-- Of the places of a fraction nine count. -/
theorem fraction?_lt {cs : List Char} {nano : Nat} (read : fraction? cs = some (nano, rest)) :
    nano < Instant.nanosPerSecond := by
  have digits : ∀ c ∈ (cs.takeWhile isDigit).take 9, isDigit c = true := fun c member =>
    List.all_eq_true.mp List.all_takeWhile c (List.mem_of_mem_take member)
  have few : ((cs.takeWhile isDigit).take 9).length ≤ 9 := List.length_take_le 9 _
  have meaning : fraction? cs = if cs.takeWhile isDigit = [] then none
      else some (valueOf ((cs.takeWhile isDigit).take 9) * 10 ^ (9 - ((cs.takeWhile isDigit).take 9).length),
        cs.dropWhile isDigit) := rfl
  rw [meaning] at read
  generalize (cs.takeWhile isDigit).take 9 = kept at *
  by_cases empty : cs.takeWhile isDigit = []
  · rw [if_pos empty] at read
    cases read
  · rw [if_neg empty] at read
    obtain ⟨rfl, _⟩ := Prod.mk.inj (Option.some.inj read)
    calc valueOf kept * 10 ^ (9 - kept.length)
        < 10 ^ kept.length * 10 ^ (9 - kept.length) :=
          Nat.mul_lt_mul_of_pos_right (valueOf_lt digits) (Nat.pow_pos (by decide))
      _ = 10 ^ 9 := by rw [← Nat.pow_add, Nat.add_sub_cancel' few]
      _ = Instant.nanosPerSecond := rfl

theorem optionalFraction?_lt {cs : List Char} {nano : Nat} (read : optionalFraction? cs = some (nano, rest)) :
    nano < Instant.nanosPerSecond := by
  unfold optionalFraction? at read
  split at read
  · exact fraction?_lt read
  · obtain ⟨rfl, _⟩ := Prod.mk.inj (Option.some.inj read)
    decide

/-- An offset is made of whole minutes. -/
theorem offset?_minutes {colon : List Char → Option (List Char)} {cs : List Char} {offset : Int}
    (read : offset? colon cs = some (offset, rest)) : offset % 60 = 0 := by
  unfold offset? at read
  split at read
  · cases read
  · split at read
    · obtain ⟨rfl, _⟩ := Prod.mk.inj (Option.some.inj read)
      rfl
    · split at read
      · simp only [Option.bind_eq_bind, Option.bind_eq_some_iff, Prod.exists] at read
        obtain ⟨hours, _, _, _, _, minutes, _, _, read⟩ := read
        split at read
        · cases read
        · obtain ⟨rfl, _⟩ := Prod.mk.inj (Option.some.inj read)
          split <;> omega
      · cases read

theorem looseOffset?_minutes {cs : List Char} {offset : Int} (read : looseOffset? cs = some (offset, rest)) :
    offset % 60 = 0 := by
  unfold looseOffset? at read
  split at read
  · split at read
    · obtain ⟨rfl, _⟩ := Prod.mk.inj (Option.some.inj read)
      rfl
    · exact offset?_minutes read
  · exact offset?_minutes read

theorem looseFields?_bounds {cs : List Char} {f : Fields} (read : looseFields? cs = some (f, rest)) :
    f.nano < Instant.nanosPerSecond ∧ f.offset % 60 = 0 := by
  simp only [looseFields?, Option.bind_eq_bind, Option.bind_eq_some_iff, Prod.exists] at read
  obtain ⟨_, _, -, _, -, _, _, -, _, -, _, _, -, _, -, _, _, -, _, -, _, _, -, _, -, _, _, -,
    nano, _, fraction, offset, _, zone, read⟩ := read
  obtain ⟨rfl, _⟩ := Prod.mk.inj (Option.some.inj read)
  exact ⟨optionalFraction?_lt fraction, looseOffset?_minutes zone⟩

theorem expressible_of_toInstant? {f : Fields} (nano : f.nano < Instant.nanosPerSecond)
    (offset : f.offset % 60 = 0) (read : f.toInstant? = some t) : t.Expressible := by
  by_cases leap : f.second = 60
  · simp only [Fields.toInstant?, if_pos leap] at read
    split at read
    · next checked =>
      obtain rfl := Option.some.inj read
      simp only [Bool.and_eq_true, decide_eq_true_eq] at checked
      refine ⟨checked.2, .inr ⟨?_, ?_⟩⟩
      · simp only [Instant.secondsPerDay]
        omega
      · change f.nano + Instant.nanosPerSecond < _
        omega
    · cases read
  · simp only [Fields.toInstant?, if_neg leap] at read
    split at read
    · next checked =>
      obtain rfl := Option.some.inj read
      simp only [Bool.and_eq_true, decide_eq_true_eq] at checked
      exact ⟨checked.2, .inl nano⟩
    · cases read

/-- The expressible instants are those that some text denotes. -/
theorem expressible_iff : t.Expressible ↔ ∃ s, readLoose? s = some t := by
  constructor
  · intro expressible
    exact ⟨t.toText, readLoose?_toText expressible⟩
  · rintro ⟨s, read⟩
    simp only [readLoose?, Option.bind_eq_bind, Option.bind_eq_some_iff, Prod.exists] at read
    obtain ⟨f, rest, fields, read⟩ := read
    split at read
    · obtain ⟨nano, offset⟩ := looseFields?_bounds fields
      exact expressible_of_toInstant? nano offset read
    · cases read

end Time

end Reindexing
