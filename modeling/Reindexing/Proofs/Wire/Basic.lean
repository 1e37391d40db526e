import Reindexing.Proofs.Json.Codecs
import Reindexing.Proofs.Json.Hex
import Reindexing.Proofs.Keyed
import Reindexing.Proofs.Scope.Canonical
import Reindexing.Proofs.Time.Rfc3339
import Reindexing.Uuid
import Reindexing.Wire.Basic

/-!
# Simple values on the wire

Texts, words, identifiers, instants, names and scopes are returned by their codecs.
Words must be as small as their type has it, instants expressible, and scopes
accepted; everything else is returned whatever it is. The written form of an identifier
is read as the identifier: its five groups are found again between the hyphens, and
together they are its 32 digits.
-/
namespace Reindexing

namespace Uuid

/-- The digits of five groups are read as if no hyphens stood between them. -/
theorem ofGroups?_of_lengths {a b c d e : List Char} (length_a : a.length = 8) (length_b : b.length = 4)
    (length_c : c.length = 4) (length_d : d.length = 4) (length_e : e.length = 12) :
    ofGroups? (a ++ '-' :: b ++ '-' :: c ++ '-' :: d ++ '-' :: e) = ofHex? (a ++ b ++ c ++ d ++ e) := by
  have size : (a ++ '-' :: b ++ '-' :: c ++ '-' :: d ++ '-' :: e).length = 36 := by
    simp only [List.length_append, List.length_cons]
    omega
  have hyphens : [8, 13, 18, 23].all
      (fun i => (a ++ '-' :: b ++ '-' :: c ++ '-' :: d ++ '-' :: e)[i]? == some '-') = true := by
    simp [List.getElem?_append, length_a, length_b, length_c, length_d]
  rw [ofGroups?, if_pos (by simp only [size, hyphens, decide_true, Bool.and_self])]
  simp [List.drop_append, length_a, length_b, length_c, length_d, List.drop_of_length_le]

theorem ofHex?_hexChars (u : Uuid) : ofHex? u.hexChars = some u := by
  have width : u.hexChars.length = 32 := Json.length_hexDigits (by decide) (n := u.value) u.isLt
  obtain ⟨ds, read, value⟩ := Json.mapM_hexDigits 32 u.value
  change u.hexChars.mapM Json.hexValue? = some ds at read
  rw [ofHex?, if_pos width, read]
  change some (ofNat (Json.ofHexValues ds)) = some u
  rw [value, ofNat]
  simp only [Nat.mod_eq_of_lt u.isLt]

theorem ofText?_toText (u : Uuid) : ofText? u.toText = some u := by
  have width : u.hexChars.length = 32 := Json.length_hexDigits (by decide) (n := u.value) u.isLt
  have groups : u.hexChars.take 8 ++ (u.hexChars.drop 8).take 4 ++ (u.hexChars.drop 12).take 4 ++
      (u.hexChars.drop 16).take 4 ++ u.hexChars.drop 20 = u.hexChars := by
    rw [← List.take_add, ← List.take_add, ← List.take_add, List.take_append_drop]
  have size : u.toText.toList.length = 36 := by
    simp [toText, width]
  rw [ofText?, if_neg (by omega), if_pos size, toText, String.toList_ofList,
    ofGroups?_of_lengths (by simp [width]) (by simp [width]) (by simp [width]) (by simp [width])
      (by simp [width]), groups, ofHex?_hexChars]

end Uuid

end Reindexing

namespace Reindexing.Wire

open Json

variable {α : Type}

theorem text_returns (s : String) : text.Returns 0 s where
  legible := trivial
  filled := nofun
  shallow := Nat.le_refl 0
  reads _ _ := rfl

/-- Whole numbers up to a bound that fits into a word. -/
theorem nat_returns {most n : Nat} (word : most ≤ Word.max64) (small : n ≤ most) :
    Codec.Returns ⟨.nat, Decode.nat most⟩ 0 n where
  legible := by
    constructor
    · simp only [Word.maxInt64]
      omega
    · exact Int.ofNat_le.mpr (Nat.le_trans small word)
  filled := nofun
  shallow := Nat.le_refl 0
  reads _ _ := if_pos small

theorem word_returns {n : Nat} (small : n ≤ Word.max64) : word.Returns 0 n :=
  nat_returns (Nat.le_refl _) small

theorem count_returns {n : Nat} (small : n ≤ Word.max32) : count.Returns 0 n :=
  nat_returns (by decide) small

theorem viaText_returns {toText : α → String} {ofText? : String → Option α} {a : α}
    (inverse : ofText? (toText a) = some a) : (viaText toText ofText?).Returns 0 a where
  legible := trivial
  filled := nofun
  shallow := Nat.le_refl 0
  reads _ _ := by
    simp only [viaText, Decode.refine, Document.ofJson, Document.asText, bind, Except.bind, inverse]

theorem instant_returns {t : Instant} (expressible : t.Expressible) : instant.Returns 0 t :=
  viaText_returns (Time.readLoose?_toText expressible)

theorem taskId_returns (id : TaskId) : taskId.Returns 0 id :=
  viaText_returns (by simp [TaskId.toText, Uuid.ofText?_toText])

theorem entryId_returns (id : EntryId) : entryId.Returns 0 id :=
  viaText_returns (by simp [EntryId.toText, Uuid.ofText?_toText])

/-! ### Names -/

theorem lookup_of_mem {choices : List (String × α)} {name : String} {a : α} (member : (name, a) ∈ choices)
    (distinct : (choices.map Prod.fst).Nodup) : Decode.lookup choices name = .ok a := by
  have found : choices.find? (·.1 == name) = some (name, a) := Keyed.find?_of_mem distinct member
  rw [Decode.lookup, found]

theorem choice_returns {name : α → String} {every : List α} {a : α} (member : a ∈ every)
    (distinct : (every.map name).Nodup) : (choice name every).Returns 0 a where
  legible := trivial
  filled := nofun
  shallow := Nat.le_refl 0
  reads origin _ := by
    have pairs : ((every.map fun a => (name a, a)).map Prod.fst).Nodup := by
      rw [List.map_map]
      exact distinct
    have listed : (name a, a) ∈ every.map fun a => (name a, a) := List.mem_map_of_mem member
    have looked := lookup_of_mem listed pairs
    cases origin <;> exact looked

theorem taskStatus_returns (s : TaskStatus) : taskStatus.Returns 0 s :=
  choice_returns (by cases s <;> decide) (by decide)

theorem queueStatus_returns (s : QueueStatus) : queueStatus.Returns 0 s :=
  choice_returns (by cases s <;> decide) (by decide)

theorem retryMode_returns (m : RetryMode) : retryMode.Returns 0 m :=
  choice_returns (by cases m <;> decide) (by decide)

theorem mutationKind_returns (k : MutationKind) : mutationKind.Returns 0 k :=
  choice_returns (by cases k <;> decide) (by decide)

/-! ### Scopes -/

theorem mapM_text? (keys : List String) : (keys.map Json.text).mapM Json.text? = some keys := by
  induction keys with
  | nil => rfl
  | cons key rest ih =>
    rw [List.map_cons, List.mapM_cons, ih]
    rfl

/-- A text or a list of texts is collected as it is. -/
theorem scopeInput_returns (input : ScopeInput) : scopeInput.Returns 1 input := by
  have shallow : input.toJson.nesting ≤ 1 := by
    cases input with
    | keyword word => exact Nat.zero_le 1
    | several keys =>
      refine Nat.succ_le_succ (nestingItems_le_iff.mpr fun j member => ?_)
      obtain ⟨key, _, rfl⟩ := List.mem_map.mp member
      exact Nat.le_refl 0
  have legible : input.toJson.Legible := by
    cases input with
    | keyword word => trivial
    | several keys =>
      refine legibleItems_iff.mpr fun j member => ?_
      obtain ⟨key, _, rfl⟩ := List.mem_map.mp member
      trivial
  have read : ScopeInput.ofJson? input.toJson = some input := by
    cases input with
    | keyword word => rfl
    | several keys => exact congrArg (Option.map ScopeInput.several) (mapM_text? keys)
  refine ⟨legible, ?_, shallow, fun origin admits => ?_⟩
  · cases input <;> exact nofun
  · have whole := whole_ofJson input.toJson (admits.mono shallow)
    simp only [scopeInput, whole, read, bind, Except.bind, pure, Except.pure]

/-- The form in which a scope is written, as input. -/
def scopeForm : Scope → ScopeInput
  | .all => .keyword Scope.keyword
  | .sources keys => .several keys

theorem ofKeys_scopeForm {s : Scope} (accepted : s.IsAccepted) : Scope.ofKeys (scopeForm s).toKeys = .ok s := by
  cases s with
  | all => decide
  | sources keys => exact accepted.ofKeys

/-- An accepted scope is accepted again in the form in which it is written. -/
theorem scope_returns {s : Scope} (accepted : s.IsAccepted) : scope.Returns 1 s := by
  have form : scope.write s = scopeInput.write (scopeForm s) := by cases s <;> rfl
  have input := scopeInput_returns (scopeForm s)
  refine ⟨form ▸ input.legible, form ▸ input.filled, form ▸ input.shallow, fun origin admits => ?_⟩
  have read := input.reads origin admits
  rw [← form] at read
  simp only [scope] at read ⊢
  simp only [read, bind, Except.bind, ofKeys_scopeForm accepted, pure, Except.pure]

end Reindexing.Wire
