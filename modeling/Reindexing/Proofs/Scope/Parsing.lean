import Reindexing.Error
import Reindexing.Proofs.Scope.Canonical
import Reindexing.Proofs.Scope.Grammar
import Reindexing.Proofs.Wire.Basic

/-!
# Parsing of scopes

What a list of keys is read as, and what a scope that was read is written as: the text
`all`, or the list of its keys in strictly increasing order. Written forms are canonical
lists of keys themselves, so that reading one gives back the scope it was written from.
-/
namespace Reindexing.Scope

/-- The written form of a scope: the text `all`, or its keys in strictly increasing order. -/
inductive IsWrittenAs : Scope → Json → Prop where
  | all : IsWrittenAs .all (.text "all")
  | sources {keys : List String} (increasing : keys.Pairwise (· < ·)) :
    IsWrittenAs (.sources keys) (.list (keys.map .text))

theorem IsAccepted.isWrittenAs {s : Scope} (accepted : s.IsAccepted) : s.IsWrittenAs (Wire.scope.write s) := by
  cases s with
  | all => exact .all
  | sources keys => exact .sources accepted.areKeys.increasing

/-- A scope is refused exactly for the empty list and where a blank key comes first, as an invalid scope; it is
all sources exactly where a key that names them comes first, and otherwise the set of the trimmed keys. A scope
that was read is written in canonical form, which is read as the same scope. It overlaps itself, and overlaps
another one, in either order, exactly if some source key belongs to both. -/
theorem scopes_are_read_exactly_and_canonically (raws : List String) :
    (((∃ r, ofKeys raws = .error r) ↔ raws = [] ∨ Ahead IsBlankKey NamesAll raws) ∧
      ∀ r, ofKeys raws = .error r → (Error.ofScope r).code = .invalidScope) ∧
    (ofKeys raws = .ok .all ↔ Ahead NamesAll IsBlankKey raws) ∧
    (raws ≠ [] → ¬ Ahead IsBlankKey NamesAll raws → ¬ Ahead NamesAll IsBlankKey raws →
      ∃ keys, ofKeys raws = .ok (.sources keys) ∧ IsSetOf keys raws) ∧
    ∀ s, ofKeys raws = .ok s →
      s.IsWrittenAs (Wire.scope.write s) ∧
      Json.decodeText Wire.scope.read (Wire.scope.write s).compact = .ok s ∧
      s.overlaps s = true ∧
      ∀ others t, ofKeys others = .ok t → s.overlaps t = t.overlaps s ∧
        (s.overlaps t = true ↔ ∃ key, IsKey key ∧ s.Holds key ∧ t.Holds key) := by
  refine ⟨⟨ofKeys_error_iff, fun _ _ => rfl⟩, gather_all_iff, exists_isSetOf, fun s read => ?_⟩
  have accepted : s.IsAccepted := ⟨raws, read⟩
  refine ⟨accepted.isWrittenAs, (Wire.scope_returns accepted).decodeText (by decide),
    accepted.overlaps_self, fun others t other => ?_⟩
  exact ⟨overlaps_comm s t, accepted.overlaps_iff ⟨others, other⟩⟩

/-- Sources in no order, with blanks around them and one of them twice; a list in which `ALL` comes before a
blank key, and one in which it comes behind. -/
theorem reading_of_sources_and_of_lists_that_name_all :
    let raws := ["news ", "\tfilings", "news"]
    (∃ keys, ofKeys raws = .ok (.sources keys) ∧ IsSetOf keys raws) ∧
      Json.decodeText Wire.scope.read "[\"filings\",\"news\"]" = .ok (.sources ["filings", "news"]) ∧
      ofKeys ["news", " ALL", ""] = .ok .all ∧ (∃ r, ofKeys ["news", "", "ALL"] = .error r) ∧
      (Scope.all.overlaps (.sources ["filings", "news"]) = true ↔
        ∃ key, IsKey key ∧ Scope.all.Holds key ∧ (Scope.sources ["filings", "news"]).Holds key) := by
  intro raws
  have read : ofKeys raws = .ok (.sources ["filings", "news"]) := by decide
  have all_read : ofKeys ["news", " ALL", ""] = .ok .all := by decide
  obtain ⟨_, _, otherwise, parsed⟩ := scopes_are_read_exactly_and_canonically raws
  have everything := scopes_are_read_exactly_and_canonically ["news", " ALL", ""]
  have refused := scopes_are_read_exactly_and_canonically ["news", "", "ALL"]
  refine ⟨otherwise (by decide) (by decide) (by decide), (parsed _ read).2.1,
    everything.2.1.mpr (by decide), refused.1.1.mpr (by decide), ?_⟩
  exact (everything.2.2.2 .all all_read).2.2.2 raws _ read |>.2

end Reindexing.Scope
