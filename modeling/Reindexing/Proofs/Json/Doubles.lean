import Reindexing.Proofs.Decimal.Rounding
import Reindexing.Proofs.Json.Numerals

/-!
# Doubles are read back as doubles

A double is written by its shortest decimal, positionally or with an exponent. What
is read collects the digits in a word and scales it by a power of ten; the result is
a double again, though not always the same one. The three largest doubles, which are
too close to the limit for a bound on rounding, are read one by one. So every number
that there is can be read.
-/
namespace Reindexing

/-- Whether a number is one of those that there are: an integer that fits into 64 bits, or a finite double. -/
def Number.IsHeld : Number → Prop
  | .int i => (Number.int i).IsExact
  | .real bits => ∃ b, Decimal.classify bits = .finite b

theorem Number.IsExact.held {n : Number} (exact_ : n.IsExact) : n.IsHeld := by
  cases n with
  | int => exact exact_
  | real => exact absurd exact_ id

namespace Json

/-! ### Scaling by a power of ten -/

theorem scaleTen_of_neg (x : Float) {e : Int} (negative : e < 0) (fuel : Nat) : (scaleTen x e fuel).isSome = true := by
  induction fuel generalizing x e with
  | zero => rfl
  | succ fuel ih =>
    rw [scaleTen]
    split
    · rw [if_neg (by omega)]
      rfl
    · split
      · rfl
      · rw [if_neg (by omega)]
        exact ih _ (by omega)

theorem le_of_pow_le_limit {s : Nat} (within : 10 ^ s ≤ Decimal.roundingLimit) : s ≤ 308 := by
  have limit : Decimal.roundingLimit < 10 ^ 309 := by decide +kernel
  have power := (Nat.pow_lt_pow_iff_right (by decide)).mp (Nat.lt_of_le_of_lt within limit)
  omega

/-- A word is scaled to a double unless the result is beyond the limit. -/
theorem scaleTen_isSome {w : Nat} {e : Int} (word : w ≤ Word.max64)
    (bounded : 0 ≤ e → w * 10 ^ e.toNat ≤ Decimal.roundingLimit) (fuel : Nat) :
    (scaleTen (UInt64.ofNat w).toFloat e fuel).isSome = true := by
  rcases Int.lt_or_le e 0 with negative | whole
  · exact scaleTen_of_neg _ negative fuel
  · cases fuel with
    | zero => rfl
    | succ fuel =>
      have bound := bounded whole
      have same : e.toNat = e.natAbs := by omega
      rw [same] at bound
      rw [scaleTen]
      split
      · next small =>
        have product := Decimal.isInf_mul_ofScientific (Nat.lt_succ_of_le word) small bound
        simp only [product]
        rfl
      · next large =>
        -- Only zero is scaled by so large a power.
        rcases Nat.eq_zero_or_pos w with rfl | positive
        · have zero : ((UInt64.ofNat 0).toFloat == 0.0) = true := by decide +kernel
          rw [if_pos zero]
          rfl
        · exact absurd (le_of_pow_le_limit (Nat.le_trans (Nat.le_mul_of_pos_left _ positive) bound)) large

/-- The digits that are collected are worth no more than all digits. -/
theorem fillWord_le (ds : List Char) {n : Nat} (small : n ≤ Word.max64) :
    (fillWord n ds).1 ≤ Word.max64 ∧ (fillWord n ds).2.length ≤ ds.length ∧
      (fillWord n ds).1 * 10 ^ (fillWord n ds).2.length ≤ Nat.ofDigitChars 10 ds n := by
  induction ds generalizing n with
  | nil => exact ⟨small, Nat.le_refl _, by simp [fillWord, Nat.ofDigitChars]⟩
  | cons d ds ih =>
    rw [fillWord]
    split
    · next fits =>
      obtain ⟨word, shorter, worth⟩ := ih fits
      exact ⟨word, Nat.le_succ_of_le shorter, worth⟩
    · refine ⟨small, Nat.le_refl _, ?_⟩
      rw [Nat.ofDigitChars_eq_ofDigitChars_zero, Nat.mul_comm]
      exact Nat.le_add_right _ _

namespace Numeral

variable {n : Numeral}

/-- The power of ten that belongs to the collected digits. -/
def scale (n : Numeral) (ignored : Nat) : Int := n.power - ((n.fraction.getD []).length - ignored : Nat)

/-- A numeral with a fraction or an exponent has a value unless it is beyond the limit. -/
theorem value?_isSome {significand : Nat} (whole : fillWord 0 n.whole = (significand, []))
    (word : significand ≤ Word.max64) (real : n.fraction ≠ none ∨ n.exponent ≠ none)
    (short : ∀ ds, n.exponent = some (false, ds) → Decimal.valueOf ds ≤ maxExponent)
    (bounded : 0 ≤ n.scale (fillWord significand (n.fraction.getD [])).2.length →
      (fillWord significand (n.fraction.getD [])).1 *
        10 ^ (n.scale (fillWord significand (n.fraction.getD [])).2.length).toNat ≤ Decimal.roundingLimit) :
    n.value?.isSome = true := by
  obtain ⟨small, _⟩ := fillWord_le (n.fraction.getD []) word
  have scaled := scaleTen_isSome small bounded 8
  unfold value?
  simp only [whole]
  split
  · next no_fraction no_exponent _ => simp [no_fraction, no_exponent] at real
  · simp only [scale, power] at scaled
    generalize fillWord significand (n.fraction.getD []) = collected at scaled ⊢
    generalize (n.fraction.getD []).length - collected.2.length = places at scaled ⊢
    rw [show ((([] : List Char).length : Int)) = 0 from rfl]
    cases exponent : n.exponent with
    | none =>
      rw [exponent] at scaled
      rwa [Option.isSome_map]
    | some signed =>
      obtain ⟨minus, ds⟩ := signed
      rw [exponent] at scaled
      dsimp only
      cases minus with
      | true =>
        rw [Bool.not_true, Bool.and_false, if_neg Bool.false_ne_true, if_pos rfl]
        split
        · rfl
        · have same : (0 : Int) - places - Decimal.valueOf ds = -Decimal.valueOf ds - places := by omega
          rwa [Option.isSome_map, same]
      | false =>
        have same : (0 : Int) - places + Decimal.valueOf ds = Decimal.valueOf ds - places := by omega
        rwa [if_neg (Nat.not_lt.mpr (short ds exponent)), Option.isSome_map, if_neg Bool.false_ne_true, same]

end Numeral

/-! ### Written doubles -/

/-- Digits in front of the point and behind it. -/
def withPoint (negative : Bool) (whole places : List Char) : Numeral := ⟨negative, whole, some places, none⟩

/-- Few digits in front of the point have a value. -/
theorem value?_withPoint {negative : Bool} {whole places : List Char}
    (all : ∀ c ∈ whole, Decimal.isDigit c = true) (few : whole.length ≤ 16) :
    (withPoint negative whole places).value?.isSome = true := by
  have small : Nat.ofDigitChars 10 whole 0 ≤ Word.max64 := by
    have below := Decimal.valueOf_lt all
    have power : 10 ^ whole.length ≤ 10 ^ 16 := Nat.pow_le_pow_right (by decide) few
    exact Nat.le_trans (Nat.le_of_lt (Nat.lt_of_lt_of_le below power)) (by decide)
  refine Numeral.value?_isSome (fillWord_of_fits whole small) small (.inl nofun) nofun fun above => ?_
  obtain ⟨word, _⟩ := fillWord_le places small
  have limit : Word.max64 ≤ Decimal.roundingLimit := by decide +kernel
  have zero : ((withPoint negative whole places).scale (fillWord (Nat.ofDigitChars 10 whole 0)
      ((withPoint negative whole places).fraction.getD [])).2.length).toNat = 0 := by
    simp only [Numeral.scale, Numeral.power, withPoint]
    omega
  rw [zero, Nat.pow_zero, Nat.mul_one]
  exact Nat.le_trans word limit

theorem wellFormed_withPoint (negative : Bool) {whole places : List Char} (filled : whole ≠ [] ∧ places ≠ [])
    (digits : ∀ c ∈ whole ++ places, Decimal.isDigit c = true)
    (zero : whole.head? = some '0' → whole.length = 1) : (withPoint negative whole places).WellFormed := by
  refine ⟨filled.1, fun c member => digits c (List.mem_append_left _ member), zero, ?_, nofun⟩
  rintro ds same
  obtain rfl := Option.some.inj same
  exact ⟨filled.2, fun c member => digits c (List.mem_append_right _ member)⟩

theorem isDigit_of_mem_replicate {count : Nat} {c : Char} (member : c ∈ List.replicate count '0') :
    Decimal.isDigit c = true := by
  rw [List.eq_of_mem_replicate member]
  rfl

/-- Positional notation has a point, with a well-formed numeral around it. -/
theorem positional_eq (negative : Bool) {n : Nat} {k : Int} (positive : 0 < n)
    (few : k + (Decimal.digits n).length ≤ 16) :
    ∃ whole places, (withPoint negative whole places).WellFormed ∧ whole.length ≤ 16 ∧
      Decimal.positional realFormat (Decimal.digits n) k = whole ++ '.' :: places := by
  have digit (c : Char) (member : c ∈ Decimal.digits n) := Decimal.isDigit_of_mem_digits member
  have first := Decimal.head?_digits positive
  have filled := Decimal.digits_ne_nil n
  cases k with
  | ofNat k =>
    rw [Int.ofNat_eq_natCast] at few
    refine ⟨Decimal.digits n ++ List.replicate k '0', ['0'], wellFormed_withPoint _ ⟨?_, ?_⟩ ?_ ?_, ?_, ?_⟩
    · exact List.append_ne_nil_of_left_ne_nil filled _
    · exact List.cons_ne_nil _ _
    · simp only [List.forall_mem_append, List.forall_mem_singleton]
      exact ⟨⟨digit, fun c => isDigit_of_mem_replicate⟩, rfl⟩
    · rw [List.head?_append, Option.or_of_isSome (List.isSome_head?.mpr filled)]
      exact fun zero => absurd zero first
    · rw [List.length_append, List.length_replicate]
      omega
    · simp [Decimal.positional, realFormat]
  | negSucc k =>
    by_cases inside : k + 1 < (Decimal.digits n).length
    · have split := List.take_append_drop ((Decimal.digits n).length - (k + 1)) (Decimal.digits n)
      refine ⟨_, _, wellFormed_withPoint negative ⟨?_, ?_⟩ (split.symm ▸ digit) ?_, ?_,
        by simp [Decimal.positional, inside]⟩
      · simpa using ⟨by omega, filled⟩
      · simp
        omega
      · rw [List.head?_take, if_neg (by omega)]
        exact fun zero => absurd zero first
      · rw [List.length_take]
        omega
    · refine ⟨['0'], List.replicate (k + 1 - (Decimal.digits n).length) '0' ++ Decimal.digits n,
        wellFormed_withPoint _ ⟨List.cons_ne_nil _ _, List.append_ne_nil_of_right_ne_nil _ filled⟩ ?_ fun _ => rfl,
        by decide, by simp [Decimal.positional, inside]⟩
      simp only [List.forall_mem_append, List.forall_mem_singleton]
      exact ⟨rfl, fun c => isDigit_of_mem_replicate, digit⟩

/-- A digit, perhaps more behind a point, and an exponent. -/
def withExponent (negative : Bool) (d : Char) (places : List Char) (leading : Int) : Numeral :=
  ⟨negative, [d], if places = [] then none else some places,
    some (decide (leading < 0), Decimal.digits leading.natAbs)⟩

theorem power_withExponent (negative : Bool) (d : Char) (places : List Char) (leading : Int) :
    (withExponent negative d places leading).power = leading := by
  simp only [Numeral.power, withExponent]
  by_cases below : leading < 0
  · simp only [below, decide_true, Decimal.valueOf_digits]
    omega
  · simp only [below, decide_false, Decimal.valueOf_digits]
    omega

theorem getD_withExponent (negative : Bool) (d : Char) (places : List Char) (leading : Int) :
    (withExponent negative d places leading).fraction.getD [] = places := by
  cases places <;> rfl

/-- An exponent is written with its sign. -/
theorem signed_exponent (leading : Int) :
    (if realFormat.signsExponent && decide (0 ≤ leading) then ['+'] else []) ++ (Decimal.ofInt leading).toList =
      (if decide (leading < 0) then '-' else '+') :: Decimal.digits leading.natAbs := by
  cases leading with
  | ofNat i => simp [realFormat, Decimal.ofInt, Decimal.ofNat]
  | negSucc i =>
    have below : Int.negSucc i < 0 := Int.negSucc_lt_zero i
    simp [realFormat, Decimal.ofInt, Decimal.ofNat, below]

theorem scientific_eq {n : Nat} {d : Char} {rest : List Char} (written : Decimal.digits n = d :: rest)
    (negative : Bool) (leading : Int) :
    (withExponent negative d rest leading).WellFormed ∧
      (if negative then ['-'] else []) ++ Decimal.scientific realFormat (Decimal.digits n) leading =
        (withExponent negative d rest leading).chars := by
  have digit (c : Char) (member : c ∈ d :: rest) : Decimal.isDigit c = true :=
    Decimal.isDigit_of_mem_digits (written ▸ member)
  constructor
  · refine ⟨List.cons_ne_nil _ _, fun c member => ?_, fun _ => rfl, ?_, ?_⟩
    · exact digit c ((List.mem_singleton.mp member) ▸ List.mem_cons_self)
    · intro ds same
      simp only [withExponent] at same
      split at same
      · cases same
      · next filled =>
        obtain rfl := Option.some.inj same
        exact ⟨filled, fun c member => digit c (List.mem_cons_of_mem _ member)⟩
    · intro minus ds same
      obtain ⟨_, rfl⟩ := Prod.mk.inj (Option.some.inj same)
      exact ⟨Decimal.digits_ne_nil _, fun c => Decimal.isDigit_of_mem_digits⟩
  · simp only [written, Decimal.scientific, signed_exponent, Numeral.chars, withExponent, Numeral.exponentChars]
    cases rest <;> rfl

/-- A part of the digits may be scaled as far as all digits are. -/
theorem part_le {n a i : Nat} {k : Int}
    (bounded : n * 10 ^ k.toNat ≤ Decimal.roundingLimit * 10 ^ (-k).toNat) (part : a * 10 ^ i ≤ n)
    (above : 0 ≤ k + i) : a * 10 ^ (k + i).toNat ≤ Decimal.roundingLimit := by
  have exponents : (k + i).toNat + (-k).toNat = i + k.toNat := by omega
  refine Nat.le_of_mul_le_mul_right ?_ (Nat.pow_pos (by decide) : 0 < 10 ^ (-k).toNat)
  calc a * 10 ^ (k + i).toNat * 10 ^ (-k).toNat = a * 10 ^ i * 10 ^ k.toNat := by
        rw [Nat.mul_assoc, ← Nat.pow_add, exponents, Nat.pow_add, Nat.mul_assoc]
    _ ≤ n * 10 ^ k.toNat := Nat.mul_le_mul_right _ part
    _ ≤ Decimal.roundingLimit * 10 ^ (-k).toNat := bounded

/-- Scientific notation of a number within the limit has a value. -/
theorem value?_withExponent {n : Nat} {k : Int} {d : Char} {rest : List Char} (negative : Bool) (positive : 0 < n)
    (written : Decimal.digits n = d :: rest)
    (bounded : n * 10 ^ k.toNat ≤ Decimal.roundingLimit * 10 ^ (-k).toNat) :
    (withExponent negative d rest (k + rest.length)).value?.isSome = true := by
  have digit (c : Char) (member : c ∈ d :: rest) : Decimal.isDigit c = true :=
    Decimal.isDigit_of_mem_digits (written ▸ member)
  have all : Nat.ofDigitChars 10 rest (Nat.ofDigitChars 10 [d] 0) = n := by
    have value := Decimal.valueOf_digits n
    rwa [written] at value
  have first : Nat.ofDigitChars 10 [d] 0 ≤ Word.max64 := by
    have below : Nat.ofDigitChars 10 [d] 0 < 10 ^ 1 :=
      Decimal.valueOf_lt fun c member => digit c ((List.mem_singleton.mp member) ▸ List.mem_cons_self)
    exact Nat.le_trans below.le (by decide)
  obtain ⟨_, shorter, part⟩ := fillWord_le rest first
  rw [all] at part
  refine Numeral.value?_isSome (fillWord_of_fits [d] first) first (.inr nofun) ?_ ?_
  · -- An exponent above zero is that of the first digit, which is one at least.
    intro ds same
    obtain ⟨above, rfl⟩ := Prod.mk.inj (Option.some.inj same)
    have whole : 0 ≤ k + rest.length := Int.not_lt.mp (of_decide_eq_false above)
    have leading : 1 * 10 ^ rest.length ≤ n := by
      rw [Nat.one_mul]
      have power := Decimal.pow_le_of_digits positive
      rwa [written] at power
    have within := part_le bounded leading whole
    have small := le_of_pow_le_limit (Nat.one_mul _ ▸ within)
    rw [Decimal.valueOf_digits, maxExponent]
    omega
  · rw [getD_withExponent, Numeral.scale, power_withExponent, getD_withExponent]
    intro above
    have same : k + rest.length - (rest.length - (fillWord (Nat.ofDigitChars 10 [d] 0) rest).2.length : Nat) =
        k + (fillWord (Nat.ofDigitChars 10 [d] 0) rest).2.length := by omega
    rw [same] at above ⊢
    exact part_le bounded part above

theorem reread?_of_chars {n : Number} {numeral : Numeral} (written : numberChars n = numeral.chars)
    (formed : numeral.WellFormed) (value : numeral.value?.isSome = true) : n.reread?.isSome = true := by
  rw [Number.reread?, written, formed.readNumeral_chars]
  exact value

/-- The three largest doubles, and the three smallest. -/
def topDoubles : List UInt64 :=
  [0x7feffffffffffffd, 0x7feffffffffffffe, 0x7fefffffffffffff,
    0xffeffffffffffffd, 0xffeffffffffffffe, 0xffefffffffffffff]

theorem reread?_topDoubles : topDoubles.all (fun bits => (Number.real bits).reread?.isSome) = true := by
  decide +kernel

theorem biased_eq (bits : UInt64) : ((bits >>> 52) &&& 0x7ff).toNat = bits.toNat / 2 ^ 52 % 2 ^ 11 := by
  rw [UInt64.toNat_and, UInt64.toNat_shiftRight]
  exact (Nat.and_two_pow_sub_one_eq_mod _ 11).trans (by rw [Nat.shiftRight_eq_div_pow]; rfl)

theorem fraction_eq (bits : UInt64) : (bits &&& 0xfffffffffffff).toNat = bits.toNat % 2 ^ 52 := by
  rw [UInt64.toNat_and]
  exact Nat.and_two_pow_sub_one_eq_mod _ 52

theorem toNat_of_notMem_topDoubles {bits : UInt64} (other : bits ∉ topDoubles) :
    bits.toNat ∉ [0x7feffffffffffffd, 0x7feffffffffffffe, 0x7fefffffffffffff,
      0xffeffffffffffffd, 0xffeffffffffffffe, 0xffefffffffffffff] := by
  have numbers : topDoubles.map UInt64.toNat = [0x7feffffffffffffd, 0x7feffffffffffffe, 0x7fefffffffffffff,
    0xffeffffffffffffd, 0xffeffffffffffffe, 0xffefffffffffffff] := by decide
  rw [← numbers]
  intro listed
  obtain ⟨double, member, same⟩ := List.mem_map.mp listed
  exact other (UInt64.toNat_inj.mp same ▸ member)

/-- All other doubles are far enough below the largest one. -/
theorem isBelowTop_of_classify {bits : UInt64} {b : Decimal.Binary} (finite : Decimal.classify bits = .finite b)
    (other : bits ∉ topDoubles) : b.IsBelowTop := by
  have bound := bits.toNat_lt
  simp only [Decimal.classify, biased_eq, fraction_eq] at finite
  split at finite
  · split at finite <;> cases finite
  · next ordinary =>
    split at finite
    · obtain rfl := Decimal.Class.finite.inj finite
      refine ⟨show (-1074 : Int) ≤ 971 by decide, ?_⟩
      rw [if_neg (show ¬ (-1074 : Int) = 971 by decide)]
      dsimp only
      omega
    · obtain rfl := Decimal.Class.finite.inj finite
      refine ⟨by dsimp only; omega, ?_⟩
      dsimp only
      split
      · next top =>
        have values := toNat_of_notMem_topDoubles other
        simp only [List.mem_cons, List.not_mem_nil, or_false, not_or] at values
        omega
      · omega

/-- A double whose decimals can be rounded is written as a numeral with a value. -/
theorem reread?_of_decimal {bits : UInt64} {b : Decimal.Binary} (finite : Decimal.classify bits = .finite b)
    (filled : b.mantissa ≠ 0) (below : b.IsBelowTop) : (Number.real bits).reread?.isSome = true := by
  cases decimal : Decimal.shortest b with
  | mk n k =>
    obtain ⟨positive, bounded⟩ := below.shortest_le filled decimal
    rcases Decimal.toList_write_decimal realFormat finite filled decimal with ⟨few, text⟩ | text
    · have short := few 15 rfl
      obtain ⟨whole, places, formed, shorter, point⟩ := positional_eq b.negative positive (k := k) (by omega)
      refine reread?_of_chars (text.trans ?_) formed (value?_withPoint formed.whole shorter)
      change _ = (if b.negative then ['-'] else []) ++ (whole ++ ('.' :: places ++ []))
      rw [point, List.append_nil]
    · obtain ⟨d, rest, written⟩ := List.exists_cons_of_ne_nil (Decimal.digits_ne_nil n)
      have leading : k + (Decimal.digits n).length - 1 = k + rest.length := by
        rw [written, List.length_cons]
        omega
      obtain ⟨formed, same⟩ := scientific_eq written b.negative (k + rest.length)
      rw [leading] at text
      exact reread?_of_chars (text.trans same) formed (value?_withExponent b.negative positive written bounded)

/-- The text of a double is read as a double. -/
theorem reread?_of_finite {bits : UInt64} {b : Decimal.Binary} (finite : Decimal.classify bits = .finite b) :
    (Number.real bits).reread?.isSome = true := by
  by_cases filled : b.mantissa = 0
  · have zeros (c : Char) (member : c ∈ List.replicate 2 '0') := isDigit_of_mem_replicate member
    have formed : (withPoint b.negative ['0'] ['0']).WellFormed :=
      wellFormed_withPoint _ (by decide) zeros fun _ => rfl
    have text : numberChars (.real bits) = (withPoint b.negative ['0'] ['0']).chars :=
      Decimal.toList_write_zero finite filled
    exact reread?_of_chars text formed (value?_withPoint formed.whole (by decide))
  · by_cases top : bits ∈ topDoubles
    · exact List.all_eq_true.mp reread?_topDoubles bits top
    · exact reread?_of_decimal finite filled (isBelowTop_of_classify finite top)

/-- The text of a number is read as a number. -/
theorem reread?_of_held {n : Number} (held : n.IsHeld) : n.reread?.isSome = true := by
  cases n with
  | int i => exact Option.isSome_iff_exists.mpr ⟨_, reread?_of_exact held⟩
  | real bits =>
    obtain ⟨b, finite⟩ := held
    exact reread?_of_finite finite

end Json

end Reindexing
