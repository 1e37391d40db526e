import Reindexing.Text.Blank
import Reindexing.Text.Lowercase
import Reindexing.Text.Search

/-!
# Scopes

The data sources that a task reindexes: all of them, or a set of source keys
kept as a strictly increasing list. Keys are trimmed, a key that reads `all`
stands for all sources, and a blank key or an empty list is refused. Two scopes
overlap when some source belongs to both.
-/
namespace Reindexing

inductive Scope where
  | all
  | sources (keys : List String)
  deriving DecidableEq, Repr, Inhabited

namespace Scope

inductive Refusal where
  | blankKey
  | noKeys
  deriving DecidableEq, Repr

def Refusal.message : Refusal → String
  | .blankKey => "source keys must not be blank"
  | .noKeys => "scope must not be empty"

def keyword : String := "all"

/-- Puts a key into an increasing list that may hold it already. -/
def insertKey (key : String) : List String → List String
  | [] => [key]
  | k :: rest =>
    if key = k then k :: rest
    else if key < k then key :: k :: rest
    else k :: insertKey key rest

/-- Reads keys from left to right; the first blank key or `all` decides. -/
def gather (keys : List String) : List String → Except Refusal Scope
  | [] => if keys = [] then .error .noKeys else .ok (.sources keys)
  | raw :: rest =>
    let key := Text.trim raw
    if key = "" then .error .blankKey
    else if Text.equalsIgnoringCase key keyword then .ok .all
    else gather (insertKey key keys) rest

/-- The scope of a list of source keys. -/
def ofKeys (keys : List String) : Except Refusal Scope := gather [] keys

/-- The canonical label: `all`, or the keys joined by commas. -/
def label : Scope → String
  | .all => keyword
  | .sources keys => Text.join "," keys

def overlaps : Scope → Scope → Bool
  | .sources a, .sources b => a.any fun key => b.contains key
  | _, _ => true

def isAll : Scope → Bool
  | .all => true
  | .sources _ => false

/-- Whether a key contains `needle`, which is lowercase. -/
def matchesText (scope : Scope) (needle : String) : Bool :=
  match scope with
  | .all => Text.contains keyword needle
  | .sources keys => keys.any fun key => Text.contains (Text.lowercase key) needle

end Scope

end Reindexing
