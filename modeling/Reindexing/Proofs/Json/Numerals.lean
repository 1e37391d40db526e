import Reindexing.Json.Document
import Reindexing.Json.Printer
import Reindexing.Proofs.Decimal.Digits

/-!
# Numerals are read back

A numeral is read from its characters, whatever follows that does not continue it: a
sign, digits, perhaps a fraction, perhaps an exponent. An integer of 64 bits is written
as a numeral with that value.
-/
namespace Reindexing

/-- Whether a number is an integer that fits into 64 bits, with a sign or without. -/
def Number.IsExact : Number → Prop
  | .int i => -(Word.maxInt64 : Int) - 1 ≤ i ∧ i ≤ Word.max64
  | .real _ => False

/-- The number that the text of a number is read as. -/
def Number.reread? (n : Number) : Option Number :=
  match Json.readNumeral (Json.numberChars n) with
  | .ok (numeral, []) => numeral.value?
  | _ => none

namespace Json

/-! ### Readers of numerals -/

/-- What follows does not continue a numeral. -/
def EndsNumeral (rest : List Char) : Prop :=
  ∀ c ∈ rest.head?, Decimal.isDigit c = false ∧ c ≠ '.' ∧ c ≠ 'e' ∧ c ≠ 'E'

theorem EndsNumeral.digits {rest : List Char} (ends : EndsNumeral rest) : Decimal.EndsDigits rest :=
  fun c first => (ends c first).1

theorem readDigits_append {ds rest : List Char} (filled : ds ≠ []) (all : ∀ c ∈ ds, Decimal.isDigit c = true)
    (ends : Decimal.EndsDigits rest) : readDigits (ds ++ rest) = .ok (ds, rest) := by
  rw [readDigits, Decimal.spanDigits_append all ends]
  cases ds with
  | nil => exact absurd rfl filled
  | cons => rfl

theorem readFraction_of_ends {rest : List Char} (ends : EndsNumeral rest) :
    readFraction rest = .ok (none, rest) := by
  cases rest with
  | nil => rfl
  | cons c rest =>
    rw [readFraction.eq_2]
    · rfl
    · rintro _ eq
      exact (ends c rfl).2.1 (List.cons.inj eq).1

theorem readExponent_of_ends {rest : List Char} (ends : EndsNumeral rest) :
    readExponent rest = .ok (none, rest) := by
  cases rest with
  | nil => rfl
  | cons c rest =>
    obtain ⟨_, _, small, large⟩ := ends c rfl
    simp [readExponent, small, large, pure, Except.pure]

/-- A reader that takes in no more when something follows that ends numerals. -/
def StopsAtEnds {α : Type} (read : List Char → Except Flaw (α × List Char)) : Prop :=
  ∀ {cs left rest : List Char} {a : α}, read cs = .ok (a, left) → EndsNumeral rest →
    read (cs ++ rest) = .ok (a, left ++ rest)

theorem spanDigits_append_of_ends (cs : List Char) {rest : List Char} (ends : Decimal.EndsDigits rest) :
    Decimal.spanDigits (cs ++ rest) = ((Decimal.spanDigits cs).1, (Decimal.spanDigits cs).2 ++ rest) := by
  induction cs with
  | nil => exact @Decimal.spanDigits_append [] rest nofun ends
  | cons c cs ih =>
    simp only [Decimal.spanDigits, Prod.mk.injEq] at ih ⊢
    by_cases digit : Decimal.isDigit c = true
    · simp [digit, ih]
    · simp [digit]

theorem readDigits_ok_iff {cs ds left : List Char} :
    readDigits cs = .ok (ds, left) ↔ ds ≠ [] ∧ Decimal.spanDigits cs = (ds, left) := by
  unfold readDigits
  rcases Decimal.spanDigits cs with ⟨_ | ⟨d, rest⟩, _ | ⟨c, behind⟩⟩ <;> simp <;> grind

theorem readDigits_stops : StopsAtEnds readDigits := by
  intro cs left rest ds read ends
  obtain ⟨filled, span⟩ := readDigits_ok_iff.mp read
  refine readDigits_ok_iff.mpr ⟨filled, ?_⟩
  rw [spanDigits_append_of_ends cs ends.digits, span]

/-- The characters that were read may be taken for something else. -/
theorem StopsAtEnds.map {α β : Type} {read : List Char → Except Flaw (α × List Char)} (stops : StopsAtEnds read)
    (f : α → β) : StopsAtEnds fun cs => (read cs).map fun (a, rest) => (f a, rest) := by
  intro cs left rest b success ends
  dsimp only at success ⊢
  cases result : read cs with
  | error flaw => rw [result] at success; cases success
  | ok value =>
    obtain ⟨a, behind⟩ := value
    rw [result] at success
    obtain ⟨rfl, rfl⟩ := Prod.mk.inj (Except.ok.inj success)
    rw [stops result ends]
    rfl

theorem readFraction_stops : StopsAtEnds readFraction := by
  intro cs left rest fraction read ends
  cases cs with
  | nil =>
    obtain ⟨rfl, rfl⟩ := Prod.mk.inj (Except.ok.inj read)
    exact readFraction_of_ends ends
  | cons c cs =>
    by_cases point : c = '.'
    · subst point
      exact readDigits_stops.map some read ends
    · have other (tail more : List Char) : c :: tail = '.' :: more → False :=
        fun same => point (List.cons.inj same).1
      rw [readFraction.eq_2 _ (other _)] at read
      rw [List.cons_append, readFraction.eq_2 _ (other _)]
      obtain ⟨rfl, rfl⟩ := Prod.mk.inj (Except.ok.inj read)
      rfl

/-- The digits of an exponent, with the sign in front of them. -/
theorem readDigits_bind_signed (minus : Bool) (cs : List Char) :
    (readDigits cs >>= fun (ds, rest) => pure (some (minus, ds), rest)) =
      (readDigits cs).map fun (ds, rest) => (some (minus, ds), rest) := by
  cases readDigits cs <;> rfl

theorem readExponent_stops : StopsAtEnds readExponent := by
  intro cs left rest exponent read ends
  have signed (minus : Bool) {tail : List Char}
      (read : (readDigits tail >>= fun (ds, rest) => pure (some (minus, ds), rest)) = .ok (exponent, left)) :
      (readDigits (tail ++ rest) >>= fun (ds, rest) => pure (some (minus, ds), rest)) =
        .ok (exponent, left ++ rest) := by
    rw [readDigits_bind_signed] at read ⊢
    exact readDigits_stops.map (fun ds => some (minus, ds)) read ends
  cases cs with
  | nil =>
    obtain ⟨rfl, rfl⟩ := Prod.mk.inj (Except.ok.inj read)
    exact readExponent_of_ends ends
  | cons c cs =>
    simp only [readExponent, List.cons_append] at read ⊢
    split at read
    · next marks =>
      rw [if_pos marks]
      cases cs with
      | nil => cases read
      | cons d cs =>
        by_cases minus : d = '-'
        · subst minus
          exact signed true read
        · by_cases plus : d = '+'
          · subst plus
            exact signed false read
          · have reads := @signed false (d :: cs)
            simp only [List.cons_append] at read reads ⊢
            split at read
            · next same => exact absurd (List.cons.inj same).1 minus
            · next same => exact absurd (List.cons.inj same).1 plus
            · split
              · next same => exact absurd (List.cons.inj same).1 minus
              · next same => exact absurd (List.cons.inj same).1 plus
              · exact reads read
    · next marks =>
      rw [if_neg marks]
      obtain ⟨rfl, rfl⟩ := Prod.mk.inj (Except.ok.inj read)
      rfl

theorem splitMinus_cons_append (c : Char) (cs rest : List Char) : splitMinus (c :: cs ++ rest) =
    ((splitMinus (c :: cs)).1, (splitMinus (c :: cs)).2 ++ rest) := by
  by_cases minus : c = '-'
  · subst minus; rfl
  · simp [splitMinus, minus]

/-- What follows a numeral makes no difference. -/
theorem readNumeral_stops : StopsAtEnds readNumeral := by
  intro cs left rest n read ends
  cases cs with
  | nil => cases read
  | cons c cs =>
    simp only [readNumeral, splitMinus_cons_append, bind, Except.bind] at read ⊢
    cases whole : readDigits (splitMinus (c :: cs)).2 with
    | error => simp [whole] at read
    | ok value =>
      rw [whole] at read
      rw [readDigits_stops whole ends]
      dsimp only at read ⊢
      split at read
      · cases read
      · next zero =>
        rw [if_neg zero]
        cases fraction : readFraction value.2 with
        | error => simp [fraction] at read
        | ok places =>
          rw [fraction] at read
          rw [readFraction_stops fraction ends]
          dsimp only at read ⊢
          cases exponent : readExponent places.2 with
          | error => simp [exponent] at read
          | ok power =>
            rw [exponent] at read
            rw [readExponent_stops exponent ends]
            obtain ⟨rfl, rfl⟩ := Prod.mk.inj (Except.ok.inj read)
            rfl

/-- A numeral starts with a digit or a minus. -/
def startsNumeral (c : Char) : Bool := c = '-' || Decimal.isDigit c

theorem readNumeral_front {cs : List Char} {result : Numeral × List Char}
    (read : readNumeral cs = .ok result) : ∃ c tail, cs = c :: tail ∧ startsNumeral c = true := by
  cases cs with
  | nil => cases read
  | cons c tail =>
    refine ⟨c, tail, rfl, ?_⟩
    by_cases minus : c = '-'
    · simp [startsNumeral, minus]
    · have sign : splitMinus (c :: tail) = (false, c :: tail) := by simp [splitMinus, minus]
      cases digits : readDigits (c :: tail) with
      | error =>
        simp only [readNumeral, sign, digits, bind, Except.bind] at read
        cases read
      | ok value =>
        obtain ⟨filled, span⟩ := readDigits_ok_iff.mp digits
        obtain ⟨front, _⟩ := Prod.mk.inj span
        rw [List.takeWhile_cons] at front
        split at front
        · next digit => simp [startsNumeral, digit]
        · exact absurd front.symm filled

/-- A text that is read as a number is one numeral from start to end. -/
theorem numeral_of_reread? {n m : Number} (reads : n.reread? = some m) :
    ∃ numeral, readNumeral (numberChars n) = .ok (numeral, []) ∧ numeral.value? = some m := by
  unfold Number.reread? at reads
  split at reads
  · next numeral read => exact ⟨numeral, read, reads⟩
  · cases reads

/-! ### The characters of a numeral -/

namespace Numeral

def exponentChars : Option (Bool × List Char) → List Char
  | none => []
  | some (minus, ds) => 'e' :: (if minus then '-' else '+') :: ds

def fractionChars : Option (List Char) → List Char
  | none => []
  | some ds => '.' :: ds

/-- The characters of a numeral, with a sign in front of every exponent. -/
def chars (n : Numeral) : List Char :=
  (if n.negative then ['-'] else []) ++ (n.whole ++ (fractionChars n.fraction ++ exponentChars n.exponent))

/-- Every part has digits, and a zero in front stands alone. -/
structure WellFormed (n : Numeral) : Prop where
  filled : n.whole ≠ []
  whole : ∀ c ∈ n.whole, Decimal.isDigit c = true
  zero : n.whole.head? = some '0' → n.whole.length = 1
  fraction : ∀ ds, n.fraction = some ds → ds ≠ [] ∧ ∀ c ∈ ds, Decimal.isDigit c = true
  exponent : ∀ minus ds, n.exponent = some (minus, ds) → ds ≠ [] ∧ ∀ c ∈ ds, Decimal.isDigit c = true

/-- The power of ten that the exponent tells. -/
def power (n : Numeral) : Int :=
  match n.exponent with
  | none => 0
  | some (true, ds) => -(Decimal.valueOf ds : Int)
  | some (false, ds) => Decimal.valueOf ds

variable {n : Numeral}

theorem readExponent_exponentChars {exponent : Option (Bool × List Char)}
    (digits : ∀ minus ds, exponent = some (minus, ds) → ds ≠ [] ∧ ∀ c ∈ ds, Decimal.isDigit c = true) :
    readExponent (exponentChars exponent) = .ok (exponent, []) := by
  cases exponent with
  | none => rfl
  | some signed =>
    obtain ⟨minus, ds⟩ := signed
    obtain ⟨filled, all⟩ := digits minus ds rfl
    have read : readDigits (ds ++ []) = .ok (ds, []) := readDigits_append filled all nofun
    rw [List.append_nil] at read
    cases minus with
    | true => simp [exponentChars, readExponent, read, bind, Except.bind, pure, Except.pure]
    | false => simp [exponentChars, readExponent, read, bind, Except.bind, pure, Except.pure]

theorem endsDigits_exponentChars (exponent : Option (Bool × List Char)) :
    Decimal.EndsDigits (exponentChars exponent) := by
  cases exponent with
  | none => exact nofun
  | some => exact Decimal.endsDigits_cons (by decide)

theorem readFraction_fractionChars {fraction : Option (List Char)} (exponent : Option (Bool × List Char))
    (digits : ∀ ds, fraction = some ds → ds ≠ [] ∧ ∀ c ∈ ds, Decimal.isDigit c = true) :
    readFraction (fractionChars fraction ++ exponentChars exponent) = .ok (fraction, exponentChars exponent) := by
  cases fraction with
  | some ds =>
    obtain ⟨filled, all⟩ := digits ds rfl
    have read := readDigits_append filled all (endsDigits_exponentChars exponent)
    simp only [fractionChars, List.cons_append, readFraction, read, bind, Except.bind, pure, Except.pure]
  | none => cases exponent <;> rfl

/-- The characters of a numeral are read as the numeral. -/
theorem WellFormed.readNumeral_chars (formed : n.WellFormed) : readNumeral n.chars = .ok (n, []) := by
  have ends : Decimal.EndsDigits (fractionChars n.fraction ++ exponentChars n.exponent) := by
    cases n.fraction with
    | none => exact endsDigits_exponentChars n.exponent
    | some => exact Decimal.endsDigits_cons (by decide)
  have sign : splitMinus n.chars =
      (n.negative, n.whole ++ (fractionChars n.fraction ++ exponentChars n.exponent)) := by
    obtain ⟨c, ds, whole⟩ := List.exists_cons_of_ne_nil formed.filled
    have digit := formed.whole c (whole ▸ List.mem_cons_self)
    cases negative : n.negative with
    | true => simp [chars, negative, splitMinus]
    | false =>
      rw [chars, negative, if_neg Bool.false_ne_true, List.nil_append, whole, List.cons_append, splitMinus.eq_2]
      intro _ same
      rw [(List.cons.inj same).1] at digit
      exact absurd digit (by decide)
  have whole := readDigits_append formed.filled formed.whole ends
  have zero : (n.whole.head? = some '0' && decide (n.whole.length ≠ 1)) = false := by
    by_cases first : n.whole.head? = some '0'
    · simp [formed.zero first]
    · simp [first]
  have fraction := readFraction_fractionChars n.exponent formed.fraction
  have exponent := readExponent_exponentChars formed.exponent
  simp only [readNumeral, sign, whole, zero, fraction, exponent, bind, Except.bind, pure, Except.pure,
    if_neg Bool.false_ne_true]

end Numeral

/-! ### Integers -/

/-- The integer of a sign and digits. -/
def signed (negative : Bool) (n : Nat) : List Char :=
  if negative then '-' :: Decimal.digits n else Decimal.digits n

theorem signed_eq (negative : Bool) (n : Nat) :
    signed negative n = (⟨negative, Decimal.digits n, none, none⟩ : Numeral).chars := by
  cases negative <;> simp [signed, Numeral.chars, Numeral.fractionChars, Numeral.exponentChars]

theorem readNumeral_signed (negative : Bool) (n : Nat) :
    readNumeral (signed negative n) = .ok (⟨negative, Decimal.digits n, none, none⟩, []) := by
  have formed : (⟨negative, Decimal.digits n, none, none⟩ : Numeral).WellFormed := by
    refine ⟨Decimal.digits_ne_nil n, fun c => Decimal.isDigit_of_mem_digits, fun zero => ?_, nofun, nofun⟩
    rcases Nat.eq_zero_or_pos n with rfl | positive
    · rfl
    · exact absurd zero (Decimal.head?_digits positive)
  rw [signed_eq]
  exact formed.readNumeral_chars

/-- Digits are collected as a whole when their value fits into a word. -/
theorem fillWord_of_fits (ds : List Char) {n : Nat} (fits : Nat.ofDigitChars 10 ds n ≤ Word.max64) :
    fillWord n ds = (Nat.ofDigitChars 10 ds n, []) := by
  induction ds generalizing n with
  | nil => rfl
  | cons d ds ih =>
    have next : 10 * n + Decimal.digitValue d ≤ Word.max64 := by
      refine Nat.le_trans ?_ fits
      rw [Nat.ofDigitChars_cons, Nat.ofDigitChars_eq_ofDigitChars_zero]
      exact Nat.le_trans (Nat.le_mul_of_pos_left _ (Nat.pow_pos (by decide))) (Nat.le_add_right _ _)
    rw [fillWord, if_pos next]
    exact ih fits

theorem numberChars_int (i : Int) : numberChars (.int i) = signed (decide (i < 0)) i.natAbs := by
  rw [numberChars]
  cases i with
  | ofNat n => simp [Decimal.ofInt, Decimal.ofNat, signed]
  | negSucc n =>
    have negative : Int.negSucc n < 0 := Int.negSucc_lt_zero n
    simp [Decimal.ofInt, Decimal.ofNat, signed, negative]

theorem value?_signed {i : Int} (exact_ : (Number.int i).IsExact) :
    (⟨decide (i < 0), Decimal.digits i.natAbs, none, none⟩ : Numeral).value? = some (.int i) := by
  obtain ⟨lower, upper⟩ := exact_
  simp only [Word.maxInt64, Word.max64] at lower upper
  have value : Nat.ofDigitChars 10 (Decimal.digits i.natAbs) 0 = i.natAbs := Decimal.valueOf_digits _
  have fits : i.natAbs ≤ Word.max64 := by
    simp only [Word.max64]
    omega
  have filled := fillWord_of_fits (Decimal.digits i.natAbs) (n := 0) (by rw [value]; exact fits)
  rw [value] at filled
  simp only [Numeral.value?, filled]
  by_cases negative : i < 0
  · have small : 1 ≤ i.natAbs ∧ i.natAbs ≤ Word.maxInt64 + 1 := by
      simp only [Word.maxInt64]
      omega
    have signed : -(i.natAbs : Int) = i := by omega
    rw [signed]
    simp [negative, small]
  · have unsigned : (i.natAbs : Int) = i := by omega
    rw [unsigned]
    simp [negative]

theorem reread?_of_exact {n : Number} (exact_ : n.IsExact) : n.reread? = some n := by
  cases n with
  | real => exact absurd exact_ id
  | int i =>
    rw [Number.reread?, numberChars_int, readNumeral_signed]
    exact value?_signed exact_

end Json

end Reindexing
