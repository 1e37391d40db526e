import Reindexing.Proofs.Queue.Calls

/-!
# Entries told by mutations

The mutations that calls answer, read for each entry apart: the first tells that
the entry was created, every other one shows it as it is from then on, and after
the one that tells that it is gone there is none. So the mutations tell which
entries there are, and how they are: all that changes in an entry without a word
is the task that it names, and a cooldown that is dropped once it has ended.
-/
namespace Reindexing

/-- Whether an entry is gone after a mutation of this kind. -/
def MutationKind.isFinal : MutationKind → Bool
  | .resolved | .removed => true
  | _ => false

/-- The mutations that tell of an entry. -/
def mutationsOf (id : EntryId) (told : List Mutation) : List Mutation := told.filter (·.entry.id = id)

/-- How the mutations of an entry follow each other, and what they show of it in the end. -/
inductive Course : List Mutation → Option QueueEntry → Prop where
  | unknown : Course [] none
  | created {m : Mutation} : m.kind = .created → Course [m] (some m.entry)
  | changed {told : List Mutation} {e : QueueEntry} {m : Mutation} : Course told (some e) →
      m.kind.isFinal = false → Course (told ++ [m]) (some m.entry)
  | ended {told : List Mutation} {e : QueueEntry} {m : Mutation} : Course told (some e) →
      m.kind.isFinal = true → Course (told ++ [m]) none

/-- An entry is as it was shown, but for the task that it names and for a cooldown that has ended. -/
structure QueueEntry.Resembles (past : Instant → Prop) (shown e : QueueEntry) : Prop where
  same : e = { shown with currentTask := e.currentTask, cooldownUntil := e.cooldownUntil }
  cooldown : e.cooldownUntil = shown.cooldownUntil ∨
    e.cooldownUntil = none ∧ ∃ ending, shown.cooldownUntil = some ending ∧ past ending

/-- The mutations tell of every entry that was ever given an identifier, and of no other. -/
structure Books.Retold (past : Instant → Prop) (told : List Mutation) (b : Books) : Prop where
  unknown : ∀ id, id ∉ b.entryIds → mutationsOf id told = []
  course : ∀ id, ∃ shown, Course (mutationsOf id told) shown ∧
    Option.Rel (QueueEntry.Resembles past) shown (b.queue.find? id)

/-! ### Courses -/

section
variable {told new first : List Mutation} {shown : Option QueueEntry} {e : QueueEntry} {m : Mutation}
  {id : EntryId}

@[simp] theorem mutationsOf_append (id : EntryId) (told new : List Mutation) :
    mutationsOf id (told ++ new) = mutationsOf id told ++ mutationsOf id new :=
  List.filter_append ..

theorem mutationsOf_of_same (about : ∀ m ∈ new, m.entry.id = id) : mutationsOf id new = new :=
  List.filter_eq_self.mpr fun m member => decide_eq_true (about m member)

theorem mutationsOf_of_other {other : EntryId} (about : ∀ m ∈ new, m.entry.id = id) (different : other ≠ id) :
    mutationsOf other new = [] := by
  refine List.filter_eq_nil_iff.mpr fun m member same => different ?_
  rw [← about m member]
  exact (of_decide_eq_true same).symm

namespace Course

/-- An entry that is there was shown by the last mutation. -/
theorem shown_last (course : Course told (some e)) :
    ∃ m, told.getLast? = some m ∧ m.entry = e ∧ m.kind.isFinal = false := by
  cases course with
  | @created m kind =>
    refine ⟨m, rfl, rfl, ?_⟩
    rw [kind]
    rfl
  | @changed told _ m _ ordinary => exact ⟨m, List.getLast?_concat, rfl, ordinary⟩

theorem created_first (course : Course told shown) (first : told.head? = some m) : m.kind = .created := by
  induction course with
  | unknown => cases first
  | created kind =>
    cases first
    exact kind
  | @changed told _ last before _ ih | @ended told _ last before _ ih =>
    cases told with
    | nil =>
      obtain ⟨_, none, _⟩ := before.shown_last
      cases none
    | cons => exact ih first

/-- Of an entry that is not there nothing was told, or last that it is gone. -/
theorem gone_last (course : Course told none) :
    told = [] ∨ ∃ m, told.getLast? = some m ∧ m.kind.isFinal = true := by
  cases course with
  | unknown => exact .inl rfl
  | @ended told _ m _ final => exact .inr ⟨m, List.getLast?_concat, final⟩

theorem there_iff (course : Course told shown) :
    (∃ e, shown = some e) ↔ ∃ m, told.getLast? = some m ∧ m.kind.isFinal = false := by
  constructor
  · rintro ⟨e, rfl⟩
    obtain ⟨m, last, _, ordinary⟩ := course.shown_last
    exact ⟨m, last, ordinary⟩
  · rintro ⟨m, last, ordinary⟩
    cases shown with
    | some e => exact ⟨e, rfl⟩
    | none =>
      rcases course.gone_last with rfl | ⟨n, final_one, final⟩
      · cases last
      · rw [last] at final_one
        cases final_one
        rw [ordinary] at final
        cases final

/-- Nothing is told of an entry after it was told that it is gone. -/
theorem final_last (course : Course told shown) {later : List Mutation} (parts : told = first ++ m :: later)
    (final : m.kind.isFinal = true) : later = [] := by
  -- Whatever comes last, the mutations before it leave an entry that is there, so none of them is final.
  have ends : ∀ {told later : List Mutation} {e : QueueEntry} {last : Mutation}, Course told (some e) →
      (∀ {later : List Mutation}, told = first ++ m :: later → later = []) →
      told ++ [last] = first ++ m :: later → later = [] := by
    intro told later e last course ih parts
    rcases later.eq_nil_or_concat with rfl | ⟨init, other, rfl⟩
    · rfl
    · have inner : told = first ++ m :: init := by
        rw [List.concat_eq_append, ← List.cons_append, ← List.append_assoc] at parts
        exact (List.append_inj' parts rfl).1
      obtain rfl := ih inner
      obtain ⟨last, at_end, _, ordinary⟩ := course.shown_last
      rw [inner, List.getLast?_concat] at at_end
      cases at_end
      rw [final] at ordinary
      cases ordinary
  induction course generalizing later with
  | unknown => simp at parts
  | created =>
    cases first with
    | nil => exact (List.cons.inj parts).2.symm
    | cons => simp at parts
  | changed before _ ih | ended before _ ih => exact ends before (fun inner => ih inner) parts

theorem append (course : Course told (some e)) (ordinary : ∀ n ∈ first ++ [m], n.kind.isFinal = false) :
    Course (told ++ (first ++ [m])) (some m.entry) := by
  induction first generalizing told e with
  | nil => exact course.changed (ordinary m (List.mem_singleton_self m))
  | cons n rest ih =>
    have next := course.changed (ordinary n List.mem_cons_self)
    have tail := ih next fun k member => ordinary k (List.mem_cons_of_mem n member)
    rwa [List.append_assoc] at tail

end Course

end

/-! ### Resemblance -/

namespace QueueEntry.Resembles

variable {past later : Instant → Prop} {shown e : QueueEntry} {now : Instant}

theorem refl (past : Instant → Prop) (e : QueueEntry) : e.Resembles past e := ⟨rfl, .inl rfl⟩

theorem mono (before : shown.Resembles past e) (grows : ∀ ending, past ending → later ending) :
    shown.Resembles later e where
  same := before.same
  cooldown := before.cooldown.imp (fun kept => kept) fun ⟨cleared, ending, cools, reached⟩ =>
    ⟨cleared, ending, cools, grows ending reached⟩

theorem attach (before : shown.Resembles past e) (task : TaskId) :
    shown.Resembles past { e with currentTask := some task } where
  same := congrArg (fun f : QueueEntry => { f with currentTask := some task }) before.same
  cooldown := before.cooldown

theorem clearElapsed (before : shown.Resembles past e) (reached : ∀ ending, ending ≤ now → past ending) :
    shown.Resembles past (e.clearElapsed now) := by
  rcases e.clearElapsed_eq now with same | ⟨ending, cools, elapsed, same⟩
  · rwa [same]
  · rw [same]
    refine ⟨congrArg (fun f : QueueEntry => { f with cooldownUntil := none }) before.same, .inr ⟨rfl, ?_⟩⟩
    rcases before.cooldown with kept | ⟨cleared, _⟩
    · exact ⟨ending, kept ▸ cools, reached ending elapsed⟩
    · rw [cools] at cleared
      cases cleared

end QueueEntry.Resembles

/-! ### Steps -/

variable {past later : Instant → Prop} {told new : List Mutation} {b after : Books} {l : Ledger}
  {c : Queue.Call}

namespace Books.Retold

theorem mono (before : b.Retold past told) (grows : ∀ ending, past ending → later ending) :
    b.Retold later told where
  unknown := before.unknown
  course id := by
    obtain ⟨shown, course, rel⟩ := before.course id
    refine ⟨shown, course, ?_⟩
    generalize b.queue.find? id = found at rel
    cases rel with
    | some alike => exact .some (alike.mono grows)
    | none => exact .none

theorem empty (past : Instant → Prop) (policy : CooldownPolicy) (maxAttempts : Nat) (ids : List EntryId) :
    Books.Retold past [] ⟨.empty policy maxAttempts, ids⟩ :=
  ⟨fun _ _ => rfl, fun _ => ⟨none, .unknown, .none⟩⟩

/-- What was told of an entry that is there leaves it as it was shown last. -/
theorem course_of_find? (before : b.Retold past told) {e : QueueEntry} (found : b.queue.find? e.id = some e) :
    ∃ shown, Course (mutationsOf e.id told) (some shown) ∧ shown.Resembles past e := by
  obtain ⟨shown, course, rel⟩ := before.course e.id
  rw [found] at rel
  cases rel with
  | some alike => exact ⟨_, course, alike⟩

/-- The last mutation of an entry tells whether it is there. -/
theorem there_iff (before : b.Retold past told) (id : EntryId) :
    (∃ e, b.queue.find? id = some e) ↔
      ∃ m, (mutationsOf id told).getLast? = some m ∧ m.kind.isFinal = false := by
  obtain ⟨shown, course, rel⟩ := before.course id
  rw [← course.there_iff]
  generalize b.queue.find? id = found at rel
  cases rel with
  | some => exact ⟨fun _ => ⟨_, rfl⟩, fun _ => ⟨_, rfl⟩⟩
  | none => exact Iff.rfl

/-- Mutations that tell of one entry, which alone is not as before. -/
theorem of_one {id : EntryId} (before : b.Retold past told) (given : id ∈ after.entryIds)
    (grow : ∀ other ∈ b.entryIds, other ∈ after.entryIds) (about : ∀ m ∈ new, m.entry.id = id)
    (others : ∀ other, other ≠ id → after.queue.find? other = b.queue.find? other)
    (this : ∃ shown, Course (mutationsOf id told ++ new) shown ∧
      Option.Rel (QueueEntry.Resembles past) shown (after.queue.find? id)) :
    after.Retold past (told ++ new) where
  unknown other absent := by
    have different : other ≠ id := fun same => absent (same ▸ given)
    rw [mutationsOf_append, mutationsOf_of_other about different, List.append_nil]
    exact before.unknown other fun known => absent (grow other known)
  course other := by
    rw [mutationsOf_append]
    by_cases same : other = id
    · rw [same, mutationsOf_of_same about]
      exact this
    · rw [mutationsOf_of_other about same, List.append_nil, others other same]
      exact before.course other

end Books.Retold

namespace Ledger

/-- A change of an entry is told and shows the entry as it is then, or it is one of those that are not. -/
theorem Revises.tells {e next : QueueEntry} (revises : l.Revises e c next new) (same : next.id = e.id)
    (reached : ∀ now, c.time? = some now → ∀ ending, ending ≤ now → past ending) :
    (new = [] ∧ ∀ shown : QueueEntry, shown.Resembles past e → shown.Resembles past next) ∨
    ∃ first m, new = first ++ [m] ∧ m.entry = next ∧
      ∀ n ∈ new, n.entry.id = e.id ∧ n.kind.isFinal = false := by
  have one : ∀ {m : Mutation}, m.entry = next → m.kind.isFinal = false →
      ∀ n ∈ [m], n.entry.id = e.id ∧ n.kind.isFinal = false := by
    intro m shows ordinary n member
    obtain rfl := List.mem_singleton.mp member
    exact ⟨(congrArg QueueEntry.id shows).trans same, ordinary⟩
  cases revises with
  | failed | retryFailed | modeSet => exact .inr ⟨[], _, rfl, rfl, one rfl rfl⟩
  | released => exact .inr ⟨[], _, rfl, rfl, one rfl rfl⟩
  | @claimed _ _ _ _ _ _ first _ switched =>
    refine .inr ⟨first, _, rfl, rfl, fun n member => ?_⟩
    rcases List.mem_append.mp member with earlier | last
    · obtain ⟨kind, about⟩ := switched n earlier
      exact ⟨about, by rw [kind]; rfl⟩
    · exact one rfl rfl n last
  | refused => exact .inl ⟨rfl, fun shown alike => alike.clearElapsed (reached _ rfl)⟩
  | attached => exact .inl ⟨rfl, fun shown alike => alike.attach _⟩

/-- What a step tells brings what was told before up to date. -/
theorem Step.retold (step : l.Step c new after) (sound : l.Sound) (listed : c.ReleasesFrom l.claims)
    (fresh : l.Renews after) (reached : ∀ now, c.time? = some now → ∀ ending, ending ≤ now → past ending)
    (before : l.Retold past told) : after.Retold past (told ++ new) := by
  have given : ∀ {e : QueueEntry}, e ∈ l.queue.entries → e.id ∈ l.entryIds := fun {e} member =>
    sound.issued e.standing (List.mem_map_of_mem member)
  cases step with
  | idle =>
    rw [List.append_nil]
    exact before
  | @revised _ _ e next _ member revises =>
    have same := (revises.keeps sound listed member).1
    obtain ⟨shown, course, alike⟩ := before.course_of_find? (sound.find?_of_mem member)
    have found (overflow : Bool) : ((l.queue.noteOverflow overflow).replace next).find? e.id = some next :=
      Queue.find?_replace (sound.find?_of_mem member) same
    have others (overflow : Bool) : ∀ other, other ≠ e.id →
        ((l.queue.noteOverflow overflow).replace next).find? other = l.queue.find? other :=
      fun other different => Queue.find?_replace_of_ne (l.queue.noteOverflow overflow) (same.symm ▸ different)
    refine before.of_one (given member) (fun _ known => known) (fun m told => ?_) (others _) ?_
    · rcases revises.tells same reached with ⟨rfl, _⟩ | ⟨_, _, _, _, about⟩
      · cases told
      · exact (about m told).1
    · rw [found]
      rcases revises.tells same reached with ⟨rfl, keeps⟩ | ⟨first, m, rfl, rfl, about⟩
      · rw [List.append_nil]
        exact ⟨_, course, .some (keeps shown alike)⟩
      · exact ⟨_, course.append fun n told => (about n told).2, .some (.refl past _)⟩
  | cleared now =>
    rw [List.append_nil]
    refine ⟨before.unknown, fun id => ?_⟩
    obtain ⟨shown, course, rel⟩ := before.course id
    refine ⟨shown, course, ?_⟩
    rw [Queue.find?_clearElapsed]
    generalize l.queue.find? id = found at rel
    cases rel with
    | some alike => exact .some (alike.clearElapsed (reached now rfl))
    | none => exact .none
  | @created overflow failed mode now id draw label =>
    have unknown : id ∉ l.entryIds := fresh id rfl
    have absent : l.queue.find? id = none := Queue.find?_eq_none.mpr fun s member same =>
      unknown (same ▸ sound.issued s member)
    have given_now : id ∈ l.entryIds ++ [id] := List.mem_append_right _ (List.mem_singleton_self _)
    refine before.of_one given_now (fun _ known => List.mem_append_left _ known) (fun m told => ?_)
      (fun other different => Queue.find?_add_of_ne (l.queue.noteOverflow overflow) different) ?_
    · obtain rfl := List.mem_singleton.mp told
      rfl
    · rw [before.unknown id unknown, List.nil_append]
      have found : ((l.queue.noteOverflow overflow).add (l.queue.newEntry id failed mode now draw)).find? id =
          some (l.queue.newEntry id failed mode now draw) := Queue.find?_add_self absent
      refine ⟨_, .created rfl, ?_⟩
      rw [found]
      exact .some (.refl past _)
  | @dropped _ old m member about final =>
    obtain ⟨shown, course, _⟩ := before.course_of_find? (sound.find?_of_mem member)
    refine before.of_one (given member) (fun _ known => known) (fun n told => ?_)
      (fun other different => ?_) ?_
    · rw [List.mem_singleton.mp told]
      exact about
    · rw [Queue.find?_drop, if_neg different]
    · refine ⟨none, course.ended ?_, ?_⟩
      · rcases final with kind | kind <;> rw [kind] <;> rfl
      · rw [Queue.find?_drop, if_pos rfl]
        exact .none

end Ledger

end Reindexing
