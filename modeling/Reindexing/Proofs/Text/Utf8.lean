import Reindexing.Text.Charset

/-!
# UTF-8 is read back

The first byte of a character tells how many bytes it has, and every further byte
adds six bits to it. The bounds of the second byte leave out characters that are
written with fewer bytes, halves of surrogate pairs and what comes after the last
character; no character is among those, so the bytes of a text are always read as
the text. A client that guesses a character set by a mark at the front reads them
as well, if the text starts with an ASCII character.
-/
namespace Reindexing.Text

variable {b : Nat} {rest : List UInt8}

/-! ### First bytes -/

theorem startChar_ascii (ascii : b < 0x80) : startChar b = ([some (Char.ofNat b)], none) := if_pos ascii

theorem startChar_of_two (first : 0xc2 ≤ b) (last : b < 0xe0) :
    startChar b = ([], some ⟨b - 0xc0, 0x80, 0xbf, 1⟩) := by
  rw [startChar, if_neg (by omega), if_neg (by omega), if_pos last]

/-- The second byte has closer bounds where the character would be one of two bytes or half a surrogate pair. -/
theorem startChar_of_three (first : 0xe0 ≤ b) (last : b < 0xf0) : startChar b =
    ([], some ⟨b - 0xe0, if b = 0xe0 then 0xa0 else 0x80, if b = 0xed then 0x9f else 0xbf, 2⟩) := by
  rw [startChar, if_neg (by omega), if_neg (by omega), if_neg (by omega)]
  by_cases least : b = 0xe0
  · subst least
    rfl
  · by_cases surrogate : b = 0xed
    · subst surrogate
      rfl
    · rw [if_neg least, if_neg surrogate, if_pos last, if_neg least, if_neg surrogate]

/-- The second byte has closer bounds where the character would be one of three bytes or none. -/
theorem startChar_of_four (first : 0xf0 ≤ b) (last : b ≤ 0xf4) : startChar b =
    ([], some ⟨b - 0xf0, if b = 0xf0 then 0x90 else 0x80, if b = 0xf4 then 0x8f else 0xbf, 3⟩) := by
  rw [startChar, if_neg (by omega), if_neg (by omega), if_neg (by omega), if_neg (by omega), if_neg (by omega),
    if_neg (by omega)]
  by_cases least : b = 0xf0
  · subst least
    rfl
  · by_cases greatest : b = 0xf4
    · subst greatest
      rfl
    · rw [if_neg least, if_pos (by omega), if_neg least, if_neg greatest]

/-! ### Characters -/

theorem decodeFrom_first (small : b < 0x100) {chars : List (Option Char)} {next : Option PartialChar}
    (starts : startChar b = (chars, next)) :
    decodeFrom none (UInt8.ofNat b :: rest) = chars ++ decodeFrom next rest := by
  have byte : (UInt8.ofNat b).toNat = b := Nat.mod_eq_of_lt small
  rw [decodeFrom, byte, starts]

/-- A byte within the bounds adds six bits, and may be the last one. -/
theorem decodeFrom_next {value low high left : Nat} (above : low ≤ 0x80 + b) (below : 0x80 + b ≤ high)
    (bits : b < 64) :
    decodeFrom (some ⟨value, low, high, left⟩) (UInt8.ofNat (b + 0x80) :: rest) =
      if left = 1 then some (Char.ofNat (value * 64 + b)) :: decodeFrom none rest
      else decodeFrom (some ⟨value * 64 + b, 0x80, 0xbf, left - 1⟩) rest := by
  have byte : (UInt8.ofNat (b + 0x80)).toNat = b + 0x80 := Nat.mod_eq_of_lt (by omega)
  have low_bits : (b + 0x80) % 64 = b := by omega
  rw [decodeFrom, byte]
  dsimp only
  rw [if_pos (by omega), low_bits]

/-- The bytes of a character are read as the character. -/
theorem decodeFrom_utf8EncodeChar (c : Char) (rest : List UInt8) :
    decodeFrom none (String.utf8EncodeChar c ++ rest) = some c :: decodeFrom none rest := by
  have valid : c.toNat < 0xd800 ∨ 0xdfff < c.toNat ∧ c.toNat < 0x110000 := c.valid
  have same (n : Nat) (eq : n = c.toNat) : Char.ofNat n = c := by rw [eq, Char.ofNat_toNat]
  have code : c.val.toNat = c.toNat := rfl
  unfold String.utf8EncodeChar
  dsimp only
  rw [code]
  split
  · next one =>
    rw [List.singleton_append, decodeFrom_first (by omega) (startChar_ascii (by omega)), same _ rfl]
    rfl
  split
  · next two =>
    simp only [List.cons_append, List.nil_append]
    rw [decodeFrom_first (by omega) (startChar_of_two (by omega) (by omega)), List.nil_append,
      decodeFrom_next (by omega) (by omega) (by omega), if_pos rfl, same]
    omega
  split
  · next three =>
    simp only [List.cons_append, List.nil_append]
    rw [decodeFrom_first (by omega) (startChar_of_three (by omega) (by omega)), List.nil_append,
      decodeFrom_next (by split <;> omega) (by split <;> omega) (by omega), if_neg (by decide),
      decodeFrom_next (by omega) (by omega) (by omega), if_pos rfl, same]
    omega
  · simp only [List.cons_append, List.nil_append]
    rw [decodeFrom_first (by omega) (startChar_of_four (by omega) (by omega)), List.nil_append,
      decodeFrom_next (by split <;> omega) (by split <;> omega) (by omega), if_neg (by decide),
      decodeFrom_next (by omega) (by omega) (by omega), if_neg (by decide),
      decodeFrom_next (by omega) (by omega) (by omega), if_pos rfl, same]
    omega

theorem decodeFrom_flatMap (cs : List Char) :
    decodeFrom none (cs.flatMap String.utf8EncodeChar) = cs.map some := by
  induction cs with
  | nil => rfl
  | cons c cs ih => rw [List.flatMap_cons, decodeFrom_utf8EncodeChar, ih, List.map_cons]

/-! ### Texts -/

theorem ofUtf8?_utf8 (s : String) : ofUtf8? (utf8 s) = some s := by
  have all (cs : List Char) : (cs.map some).mapM id = some cs := by
    induction cs with
    | nil => rfl
    | cons c cs ih => simp [ih]
  rw [ofUtf8?, utf8, decodeFrom_flatMap, all, Option.map_some, String.ofList_toList]

/-- Bytes that start with an ASCII character have no mark. -/
theorem ofMark?_of_ascii (small : b < 0x80) : Charset.ofMark? (UInt8.ofNat b :: rest) = none := by
  have byte : (UInt8.ofNat b).toNat = b := Nat.mod_eq_of_lt (by omega)
  have other {mark : UInt8} (high : 0x80 ≤ mark.toNat) {behind : List UInt8}
      (same : UInt8.ofNat b :: rest = mark :: behind) : False := by
    rw [← (List.cons.inj same).1, byte] at high
    omega
  unfold Charset.ofMark?
  split
  · next same => exact (other (by decide) same).elim
  · next same => exact (other (by decide) same).elim
  · next same => exact (other (by decide) same).elim
  · rfl

/-- A text that starts with an ASCII character is read back where no character set is named. -/
theorem decodeAs_utf8 {c : Char} {cs : List Char} (ascii : c.toNat < 0x80) :
    decodeAs none (utf8 (String.ofList (c :: cs))) = String.ofList (c :: cs) := by
  have one : String.utf8EncodeChar c = [UInt8.ofNat c.toNat] := if_pos (Nat.le_of_lt_succ ascii)
  have unmarked : Charset.ofMark? (utf8 (String.ofList (c :: cs))) = none := by
    rw [utf8, String.toList_ofList, List.flatMap_cons, one]
    exact ofMark?_of_ascii ascii
  simp only [decodeAs, unmarked, Option.map_none, Option.getD_none, Charset.decode]
  rw [utf8, decodeFrom_flatMap, String.toList_ofList, List.map_map]
  exact congrArg String.ofList (List.map_id _)

end Reindexing.Text
