import Reindexing.Disk

/-!
# What stays on a disk

Creating directories and files takes no name away: whatever a path led to, it still
leads to. Nor does writing to an open file move any name.
-/
namespace Reindexing.Disk

variable {d later made : Disk} {path : Path}

/-- Every name still leads to what it led to. -/
def Keeps (d later : Disk) : Prop := ∀ path node, d.node? path = some node → later.node? path = some node

theorem Keeps.refl (d : Disk) : Keeps d d := fun _ _ found => found

theorem Keeps.trans {last : Disk} (first : Keeps d later) (second : Keeps later last) : Keeps d last :=
  fun path node found => second path node (first path node found)

/-- A name that is added behind others hides none of them. -/
theorem node?_added (d : Disk) (path : Path) (node : Node) (contents : List (Option String)) (other : Path) :
    (Disk.mk (d.nodes ++ [(path, node)]) contents).node? other =
      (d.node? other).or (if path = other then some node else none) := by
  unfold node?
  by_cases null : other = ["dev", "null"]
  · simp [null]
  · by_cases full : other = ["dev", "full"]
    · simp [full]
    · rw [if_neg null, if_neg null, if_neg full, if_neg full]
      split
      · rfl
      · rw [List.find?_append, Option.map_or]
        congr 1
        by_cases same : path = other <;> simp [same]

theorem keeps_added (d : Disk) (path : Path) (node : Node) (contents : List (Option String)) :
    Keeps d ⟨d.nodes ++ [(path, node)], contents⟩ := by
  intro other found known
  rw [node?_added, known, Option.some_or]

/-! ### Paths -/

theorem Keeps.enter (keeps : Keeps d later) {names : List String} {start : Path}
    (enters : d.enter start names = .ok path) : later.enter start names = .ok path := by
  induction names generalizing start with
  | nil => exact enters
  | cons name rest ih =>
    simp only [Disk.enter, bind, Except.bind] at enters ⊢
    cases next : follow start name with
    | error e => simp [next] at enters
    | ok above =>
      simp only [next] at enters ⊢
      cases known : d.node? above with
      | none => simp [known] at enters
      | some node =>
        rw [known] at enters
        rw [keeps above node known]
        cases node with
        | directory => exact ih enters
        | _ => cases enters

/-- Where a file can be created, a path leads to the same place later, for whatever purpose. -/
theorem Keeps.locate (keeps : Keeps d later) {start : Path} {s : String}
    (located : d.locate true start s = .ok path) (creates : Bool) : later.locate creates start s = .ok path := by
  simp only [Disk.locate, bind, Except.bind, pure, Except.pure, throw, throwThe, MonadExceptOf.throw] at located ⊢
  by_cases long : longestPath < s.utf8ByteSize
  · rw [if_pos long] at located
    cases located
  · rw [if_neg long] at located ⊢
    generalize ((Text.splitAt (· == '/') s.toList).map String.ofList).filter (· ≠ "") = names at located ⊢
    generalize (s.toList.getLast? == some '/' || names.getLast?.getD "." == "." || names.getLast?.getD "." == "..") =
      endsAsDirectory at located ⊢
    generalize (if s.toList.head? = some '/' then [] else start) = root at located ⊢
    cases entered : d.enter root names.dropLast with
    | error fault => simp [entered] at located
    | ok above =>
      simp only [entered, keeps.enter entered] at located ⊢
      cases endsAsDirectory with
      | true => simp at located
      | false =>
        simp only [Bool.false_and, Bool.false_eq_true, if_false] at located ⊢
        exact located

/-! ### Directories -/

/-- Every file that has a name has a content. -/
def Sound (d : Disk) : Prop := ∀ named ∈ d.nodes, ∀ handle, named.2 = .file handle → handle < d.contents.length

theorem Sound.lt {handle : Nat} (sound : d.Sound) (found : d.node? path = some (.file handle)) :
    handle < d.contents.length := by
  unfold node? at found
  repeat' split at found
  case isFalse.isFalse.isFalse =>
    obtain ⟨named, first, is_file⟩ := Option.map_eq_some_iff.mp found
    exact sound named (List.mem_of_find?_eq_some first) handle is_file
  all_goals cases found

/-- A disk on which directories were created. -/
structure Furnished (d made : Disk) : Prop where
  keeps : Keeps d made
  contents : made.contents = d.contents
  sound : d.Sound → made.Sound

theorem Furnished.refl (d : Disk) : Furnished d d := ⟨.refl d, rfl, id⟩

theorem Furnished.trans {last : Disk} (first : Furnished d made) (second : Furnished made last) : Furnished d last :=
  ⟨first.keeps.trans second.keeps, second.contents.trans first.contents, second.sound ∘ first.sound⟩

theorem makeDirectory_furnishes (creates : d.makeDirectory path = .ok made) : Furnished d made := by
  unfold makeDirectory at creates
  split at creates
  · cases creates
    exact .refl d
  · cases creates
  · cases creates
    refine ⟨keeps_added _ _ _ _, rfl, fun sound named member handle is_file => ?_⟩
    rcases List.mem_append.mp member with old | added
    · exact sound named old handle is_file
    · obtain rfl := List.mem_singleton.mp added
      cases is_file

theorem makeDirectories_furnishes {names : List String} {above : Path}
    (creates : d.makeDirectories above names = .ok made) : Furnished d made := by
  induction names generalizing d above with
  | nil =>
    cases creates
    exact .refl _
  | cons name rest ih =>
    simp only [makeDirectories, bind, Except.bind] at creates
    split at creates
    · cases creates
    · split at creates
      · cases creates
      · split at creates
        · cases creates
        · next created => exact (makeDirectory_furnishes created).trans (ih creates)

/-! ### Files -/

/-- The text in a file, which is empty if the file is still to be created. -/
def textOf (d : Disk) (handle : Nat) : Option String := d.contents[handle]?.getD (some "")

/-- A file is opened as it is, or created without text. -/
theorem openAppend_file {handle : Nat} (opens : d.openAppend path = .ok (later, .file handle)) :
    Keeps d later ∧ later.node? path = some (.file handle) ∧
      (later = d ∧ d.node? path = some (.file handle) ∨
        handle = d.contents.length ∧ later.contents = d.contents ++ [some ""]) := by
  unfold openAppend at opens
  split at opens
  · cases opens
  · next known =>
    cases opens
    exact ⟨.refl d, known, .inl ⟨rfl, known⟩⟩
  · next free =>
    simp only [bind, Except.bind] at opens
    split at opens
    · cases opens
    · cases opens
      refine ⟨keeps_added _ _ _ _, ?_, .inr ⟨rfl, rfl⟩⟩
      rw [node?_added, free, Option.none_or, if_pos rfl]

/-- The text in an open file is what it was before. -/
theorem contents_openAppend {handle : Nat} {text : String} (sound : d.Sound)
    (opens : d.openAppend path = .ok (later, .file handle)) (held : d.textOf handle = some text) :
    later.contents[handle]? = some (some text) := by
  obtain ⟨_, _, ⟨rfl, known⟩ | ⟨rfl, contents⟩⟩ := openAppend_file opens
  · have inside := sound.lt known
    rw [textOf, List.getElem?_eq_getElem inside] at held
    rw [List.getElem?_eq_getElem inside]
    exact congrArg some held
  · rw [textOf, List.getElem?_eq_none (Nat.le_refl _)] at held
    rw [contents, List.getElem?_concat_length]
    exact congrArg some held

/-- Appending to a file moves no name and changes no other file. -/
theorem append_file {handle : Nat} {held : String} (text : String)
    (known : d.contents[handle]? = some (some held)) :
    ∃ later, d.append (.file handle) text = .ok later ∧ later.nodes = d.nodes ∧
      later.contents[handle]? = some (some (held ++ text)) := by
  refine ⟨_, rfl, rfl, ?_⟩
  simp [known]

theorem keeps_of_nodes (same : later.nodes = d.nodes) : Keeps d later := by
  intro path node known
  unfold node? at *
  rw [same]
  exact known

theorem read_file {handle : Nat} {text : String} (known : d.node? path = some (.file handle))
    (held : d.contents[handle]? = some (some text)) : d.read path = .ok text := by
  simp only [read, known, held]

end Reindexing.Disk
