import Mathlib.Algebra.Group.Nat.Defs
import Reindexing.Json.Document
import Reindexing.Json.Printer

/-!
# Hexadecimal digits read back

Hexadecimal digits of a fixed width have the number as their value. Escapes of
characters are read by it, and so are identifiers.
-/
namespace Reindexing.Json

/-- The number that the values of hexadecimal digits give. -/
def ofHexValues (ds : List Nat) : Nat := ds.foldl (fun n d => 16 * n + d) 0

theorem ofHexValues_append (front : List Nat) (d : Nat) :
    ofHexValues (front ++ [d]) = 16 * ofHexValues front + d := by
  simp [ofHexValues]

theorem ofHexValues_zeros (count : Nat) (ds : List Nat) :
    ofHexValues (List.replicate count 0 ++ ds) = ofHexValues ds := by
  induction count with
  | zero => rfl
  | succ count ih => exact ih

theorem hexValue?_digitChar : ∀ d < 16, hexValue? d.digitChar = some d := by decide

theorem mapM_toDigits (n : Nat) :
    ∃ ds, (Nat.toDigits 16 n).mapM hexValue? = some ds ∧ ofHexValues ds = n := by
  induction n using Nat.strongRecOn with
  | ind n ih =>
    rw [Nat.toDigits_eq_if (by decide)]
    split
    · next small =>
      refine ⟨[n], ?_, ?_⟩
      · simp [hexValue?_digitChar n small]
      · simp [ofHexValues]
    · next large =>
      obtain ⟨ds, front, value⟩ := ih (n / 16) (by omega)
      have last := hexValue?_digitChar (n % 16) (Nat.mod_lt n (by decide))
      refine ⟨ds ++ [n % 16], ?_, ?_⟩
      · simp [List.mapM_append, front, last]
      · rw [ofHexValues_append, value]
        omega

theorem mapM_hexDigits (width n : Nat) :
    ∃ ds, (hexDigits width n).mapM hexValue? = some ds ∧ ofHexValues ds = n := by
  obtain ⟨ds, read, value⟩ := mapM_toDigits n
  have zeros : ∀ count, (List.replicate count '0').mapM hexValue? = some (List.replicate count 0) := by
    intro count
    induction count with
    | zero => rfl
    | succ count ih =>
      rw [List.replicate_succ, List.mapM_cons, ih]
      rfl
  refine ⟨List.replicate (width - (Nat.toDigits 16 n).length) 0 ++ ds, ?_, ?_⟩
  · simp [hexDigits, List.mapM_append, zeros, read]
  · rw [ofHexValues_zeros, value]

theorem length_hexDigits {width n : Nat} (positive : 0 < width) (small : n < 16 ^ width) :
    (hexDigits width n).length = width := by
  have fits : (Nat.toDigits 16 n).length ≤ width :=
    (Nat.length_toDigits_le_iff (by decide) positive).mpr small
  simp only [hexDigits, List.length_append, List.length_replicate]
  omega

theorem exists_digitChar {n : Nat} {c : Char} (member : c ∈ Nat.toDigits 16 n) : ∃ d < 16, c = d.digitChar := by
  induction n using Nat.strongRecOn with
  | ind n ih =>
    rw [Nat.toDigits_eq_if (by decide)] at member
    split at member
    · next small => exact ⟨n, small, List.mem_singleton.mp member⟩
    · next large =>
      rcases List.mem_append.mp member with front | last
      · exact ih (n / 16) (by omega) front
      · exact ⟨n % 16, Nat.mod_lt n (by decide), List.mem_singleton.mp last⟩

theorem printable_hexDigits {width n : Nat} {c : Char} (member : c ∈ hexDigits width n) : 0x20 ≤ c.toNat := by
  rcases List.mem_append.mp member with zero | digit
  · rw [List.eq_of_mem_replicate zero]
    decide
  · obtain ⟨d, small, rfl⟩ := exists_digitChar digit
    have all : ∀ d < 16, 0x20 ≤ d.digitChar.toNat := by decide
    exact all d small

/-- Four hexadecimal digits are one unit. -/
theorem readUnit_hexDigits {n : Nat} (small : n < 0x10000) (rest : List Char) :
    readUnit (hexDigits 4 n ++ rest) = .ok (n, rest) := by
  obtain ⟨ds, read, value⟩ := mapM_hexDigits 4 n
  have width : (hexDigits 4 n).length = 4 := length_hexDigits (by decide) small
  match hexDigits 4 n, width, read with
  | [a, b, c, d], _, read =>
    simp only [List.mapM_cons, List.mapM_nil, Option.bind_eq_bind, Option.bind_eq_some_iff, Option.pure_def,
      Option.some.injEq] at read
    obtain ⟨w, first, _, ⟨x, second, _, ⟨y, third, _, ⟨z, fourth, _, rfl, rfl⟩, rfl⟩, rfl⟩, rfl⟩ := read
    simp only [ofHexValues, List.foldl_cons, List.foldl_nil] at value
    simp only [List.cons_append, List.nil_append, readUnit, first, second, third, fourth]
    congr 2
    omega

end Reindexing.Json
