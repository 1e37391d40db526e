import Reindexing.Api
import Reindexing.Proofs.Engine.Runs

/-!
# Stamps

A response should carry the version of the interface and the identifier of its request. The stamp is
put on behind the check of the content type and below compression and the fields for browsers. So what
the routes answer is stamped, whether they answer with data, turn the request away or do not know the
path, and nothing that comes later takes the stamp off; but what the check itself answers never gets one.
-/
namespace Reindexing

namespace Http.Response

/-- The values of a header field. -/
def values (r : Response) (name : String) : List String := (r.headers.filter (·.1 = name)).map (·.2)

/-- Setting a field leaves one value of it, and every other field alone. -/
theorem values_withHeader (r : Response) (name value other : String) :
    (r.withHeader name value).values other = if name = other then [value] else r.values other := by
  simp only [values, withHeader, List.filter_append, List.filter_filter, List.map_append]
  by_cases same : name = other
  · subst same
    simp
  · have kept : ∀ field : String × String,
        (decide (field.1 = other) && decide (field.1 ≠ name)) = decide (field.1 = other) := by
      intro field
      by_cases h : field.1 = other <;> simp [h, Ne.symm same]
    simp only [kept, List.filter_cons, same, decide_false, List.filter_nil, Bool.false_eq_true, if_false,
      List.map_nil, List.append_nil]

theorem values_json (status : Nat) (value : Json) {name : String} (other : "content-type" ≠ name) :
    (json status value).values name = [] := by
  simp [values, json, other]

theorem values_compressFor (r : Response) (request : Request) {name : String}
    (other : "content-encoding" ≠ name) : (r.compressFor request).values name = r.values name := by
  unfold compressFor
  dsimp only
  split
  · exact (r.values_withHeader _ _ name).trans (if_neg other)
  · rfl

theorem status_compressFor (r : Response) (request : Request) : (r.compressFor request).status = r.status := by
  unfold compressFor
  dsimp only
  split <;> rfl

end Http.Response

namespace Api

open Http (Request Response)

/-- A request whose method brings content, of a type that is missing or is not JSON. -/
def LacksJsonType (r : Request) : Prop :=
  r.method ∈ ["POST", "PUT", "PATCH"] ∧
    ∀ type, r.header? "content-type" = some type → Text.contains type "application/json" = false

/-- A response with the version of the interface and with an identifier, which is the one that the
request brings if it brings one. -/
structure Stamped (r : Request) (response : Response) : Prop where
  version : response.values "x-api-version" = ["1.0"]
  requestId : ∃ id, response.values requestIdHeader = [id] ∧
    ∀ own, r.header? requestIdHeader = some own → id = own

/-- A refusal without version and without identifier. -/
structure RefusedUnstamped (response : Response) : Prop where
  status : response.status = 415
  version : response.values "x-api-version" = []
  requestId : response.values requestIdHeader = []

theorem contentTypeFault?_eq_none (r : Request) : contentTypeFault? r = none ↔ ¬ LacksJsonType r := by
  unfold contentTypeFault? LacksJsonType
  by_cases brings : r.method ∈ ["POST", "PUT", "PATCH"]
  · have listed : ["POST", "PUT", "PATCH"].contains r.method = true := List.contains_iff_mem.mpr brings
    rw [if_pos listed]
    cases type : r.header? "content-type" with
    | none => simp [brings]
    | some type => simp [brings]
  · have unlisted : ¬ ["POST", "PUT", "PATCH"].contains r.method = true := by
      rwa [List.contains_iff_mem]
    rw [if_neg unlisted]
    simp [brings]

theorem stamped_stamp (s : Server) (r : Request) (response : Response) : Stamped r (s.stamp r response) where
  version := by
    simp [Server.stamp, Response.values_withHeader, requestIdHeader]
  requestId := by
    refine ⟨s.requestId r, ?_, fun own brought => ?_⟩
    · simp [Server.stamp, Response.values_withHeader]
    · rw [Server.requestId, brought, Option.getD_some]

/-- The engine inside the span of a request. -/
def entered (r : Request) (e : Engine) : Engine :=
  { (e.openSpan (requestSpan r)).2 with surroundings := (e.openSpan (requestSpan r)).1 }

/-- What comes after the check of the content type sets no field but its own, and keeps the status. -/
theorem respond_keeps (s : Server) {r : Request} (e : Engine) (ordinary : r.method ≠ "OPTIONS") :
    (s.respond r e).2.status = (s.checkAndRoute r (entered r e)).2.status ∧
    ∀ name, name ∉ ["content-encoding", "access-control-allow-origin", "allow"] →
      (s.respond r e).2.values name = (s.checkAndRoute r (entered r e)).2.values name := by
  have handled : (s.handle r e).2 = (s.checkAndRoute r (entered r e)).2.compressFor r := rfl
  have answered : (s.respond r e).2 =
      (allowed? r).elim ((s.handle r e).2.withHeader "access-control-allow-origin" "*") fun methods =>
        ((s.handle r e).2.withHeader "access-control-allow-origin" "*").withHeader "allow"
          (Text.join "," methods) := by
    unfold Server.respond
    rw [if_neg ordinary]
    cases allowed? r <;> rfl
  rw [answered, handled]
  constructor
  · cases allowed? r <;> exact Response.status_compressFor _ r
  · intro name other
    simp only [List.mem_cons, List.not_mem_nil, or_false, not_or] at other
    obtain ⟨encoding, origin, allow⟩ := other
    cases allowed? r <;>
      simp only [Option.elim, Response.values_withHeader, if_neg (Ne.symm origin), if_neg (Ne.symm allow),
        Response.values_compressFor _ r (Ne.symm encoding)]

/-- Every request but a preflight is answered with a stamped response, in every state of the engine and
whatever comes of it, unless its content type is refused: that refusal is sent before the stamp. -/
theorem stamps_follow_the_content_type (s : Server) (r : Request) (e : Engine) (ordinary : r.method ≠ "OPTIONS") :
    (¬ LacksJsonType r → Stamped r (s.respond r e).2) ∧
    (LacksJsonType r → RefusedUnstamped (s.respond r e).2) := by
  obtain ⟨status, fields⟩ := respond_keeps s e ordinary
  have version := fields "x-api-version" (by decide)
  have requestId := fields requestIdHeader (by decide)
  constructor
  · intro accepted
    have stamped : (s.checkAndRoute r (entered r e)).2 = s.stamp r (s.route r (entered r e)).2 := by
      simp only [Server.checkAndRoute, (contentTypeFault?_eq_none r).mpr accepted]
    have carries := stamped_stamp s r (s.route r (entered r e)).2
    rw [← stamped] at carries
    exact ⟨version.trans carries.version, requestId ▸ carries.requestId⟩
  · intro lacks
    have fault : contentTypeFault? r ≠ none := fun none => (contentTypeFault?_eq_none r).mp none lacks
    obtain ⟨⟨message, code⟩, refused⟩ := Option.ne_none_iff_exists'.mp fault
    have bare : (s.checkAndRoute r (entered r e)).2 = .json 415 (Wire.answer.write (.ofCode message code)) := by
      simp only [Server.checkAndRoute, refused]
    rw [bare] at status version requestId
    exact ⟨status, version.trans (Response.values_json 415 _ (by decide)),
      requestId.trans (Response.values_json 415 _ (by decide))⟩

/-- A submission that brings an identifier, but whose content ends too early. -/
theorem stamp_of_a_malformed_submission :
    ∃ (s : Server) (r : Request) (e : Engine), r.method ≠ "OPTIONS" ∧ (s.respond r e).2.status = 400 ∧
      r.header? requestIdHeader = some "abc" ∧ Stamped r (s.respond r e).2 := by
  let s : Server := ⟨none, "", "fresh"⟩
  let r : Request :=
    ⟨"POST", "/reindex", none, [("content-type", "application/json"), ("x-request-id", "abc")], "["⟩
  let e : Engine := .ofConfig .default (.inMemory 100) .empty .parked
    ⟨fun _ => .epoch, fun n => ⟨.ofNat n⟩, fun n => ⟨.ofNat n⟩, fun _ => 0, 0, 0, 0, 0⟩
  have accepted : ¬ LacksJsonType r := (contentTypeFault?_eq_none r).mp (by decide +kernel)
  exact ⟨s, r, e, by decide, by decide +kernel, by decide +kernel,
    (stamps_follow_the_content_type s r e (by decide)).1 accepted⟩

/-- Content of no declared type is refused without a stamp, though the request brings an identifier. -/
theorem refusal_without_a_stamp :
    ∃ (s : Server) (r : Request) (e : Engine), e.Reachable ∧ r.method ≠ "OPTIONS" ∧
      r.header? requestIdHeader = some "abc" ∧ ¬ Stamped r (s.respond r e).2 := by
  let s : Server := ⟨none, "", "fresh"⟩
  let r : Request := ⟨"POST", "/reindex", none, [("x-request-id", "abc")], "["⟩
  let supply : Supply := ⟨fun _ => .epoch, fun n => ⟨.ofNat n⟩, fun n => ⟨.ofNat n⟩, fun _ => 0, 0, 0, 0, 0⟩
  let e : Engine := .ofConfig .default (.inMemory 100) .empty .parked supply
  refine ⟨s, r, e, .start .., by decide, by decide +kernel, fun stamped => ?_⟩
  have bare : (s.respond r e).2.values "x-api-version" = [] := by decide +kernel
  rw [stamped.version] at bare
  cases bare

end Api

end Reindexing
