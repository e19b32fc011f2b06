import FieldOcr.Storage.Disk
import Mathlib.Data.List.Basic

/-!
# Replacing a file

A disk that keeps its promises replaces a file in full or not at all.  Whether
or not it succeeds, nothing else changes but that directories on the way to
the file are created where they were missing, and no temporary file is left.
-/

namespace FieldOcr
namespace Storage

namespace Tree

variable {tree before after : Tree} {place other : List String} {node : Node}

/-! ## What stands at a place -/

@[simp] theorem node?_root (tree : Tree) : tree.node? [] = some .directory :=
  rfl

theorem ne_nil_of_node?_ne_directory
    (different : tree.node? place ≠ some .directory) :
    place ≠ [] := by
  rintro rfl
  exact different (node?_root tree)

theorem node?_of_ne_nil (named : place ≠ []) :
    tree.node? place = (tree.nodes.find? (·.1 = place)).map (·.2) := by
  simp [node?, named]

@[simp] theorem node?_put_same (named : place ≠ []) :
    (tree.put place node).node? place = some node := by
  rw [node?_of_ne_nil named]
  simp [put]

@[simp] theorem node?_put_of_ne (different : other ≠ place) :
    (tree.put place node).node? other = tree.node? other := by
  unfold node? put
  split
  · rfl
  · have same (entry : List String × Node) :
        (entry.1 ≠ place ∧ entry.1 = other) ↔ entry.1 = other :=
      and_iff_right_of_imp fun here => here ▸ different
    rw [List.find?_cons_of_neg (by simpa using different.symm),
      List.find?_filter]
    simp only [decide_eq_true_eq, same]

/-- Where nothing stands there is nothing to take away. -/
theorem filter_nodes_of_fresh (fresh : tree.node? place = none) :
    tree.nodes.filter (·.1 ≠ place) = tree.nodes := by
  have free : tree.node? place ≠ some .directory := by simp [fresh]
  have named := ne_nil_of_node?_ne_directory free
  rw [node?_of_ne_nil named, Option.map_eq_none_iff,
    List.find?_eq_none] at fresh
  rw [List.filter_eq_self]
  intro entry present
  simpa using fresh entry present

/-- A node that was put at a free place can be taken away again. -/
theorem remove_put_of_fresh (fresh : tree.node? place = none) :
    (tree.put place node).remove place = tree := by
  unfold remove put
  simp only [ne_eq, not_true, decide_false, Bool.false_eq_true,
    not_false_iff, List.filter_cons_of_neg, List.filter_filter,
    Bool.and_self]
  exact congrArg (Tree.mk tree.workingDirectory)
    (filter_nodes_of_fresh fresh)

/-- The last node that is put at a place counts. -/
theorem put_put (tree : Tree) (place : List String) (first second : Node) :
    (tree.put place first).put place second = tree.put place second := by
  unfold put
  simp only [ne_eq, not_true, decide_false, Bool.false_eq_true,
    not_false_iff, List.filter_cons_of_neg, List.filter_filter,
    Bool.and_self]

/-! ## Ways -/

/-- Whatever is a directory stays one. -/
def KeepsDirectories (before after : Tree) : Prop :=
  ∀ place,
    before.node? place = some .directory ->
      after.node? place = some .directory

/-- The first part leads somewhere, and the others on from there. -/
theorem walk_cons
    (tree : Tree)
    (place : List String)
    (part : String)
    (rest : List String) :
    tree.walk place (part :: rest) =
      (tree.walk place [part]).bind (tree.walk · rest) := by
  simp only [walk]
  by_cases self : part = "."
  · simp only [self, if_true, Except.bind]
  by_cases up : part = ".."
  · simp only [up, if_true, Except.bind]
    rfl
  by_cases long : nameLimit < part.utf8ByteSize
  · simp only [self, up, long, if_true, if_false, Except.bind]
  simp only [self, up, long, if_false]
  cases tree.node? (place ++ [part]) with
  | none => rfl
  | some node => cases node <;> rfl

/-- A part leads to the same place as long as the directories stay. -/
theorem walk_part_mono
    {part : String}
    (kept : before.KeepsDirectories after)
    (leads : before.walk other [part] = .ok place) :
    after.walk other [part] = .ok place := by
  simp only [walk] at leads ⊢
  split_ifs at leads ⊢
  · exact leads
  · exact leads
  cases stands : before.node? (other ++ [part]) with
  | none =>
      rw [stands] at leads
      exact nomatch leads
  | some node =>
      rw [stands] at leads
      cases node with
      | file contents => exact nomatch leads
      | directory =>
          rw [kept _ stands]
          exact leads

/-- Parts lead along the same way as long as its directories stay. -/
theorem walk_mono
    {parts : List String}
    (kept : before.KeepsDirectories after)
    (leads : before.walk other parts = .ok place) :
    after.walk other parts = .ok place := by
  induction parts generalizing other with
  | nil => exact leads
  | cons part rest inductionHypothesis =>
      rw [walk_cons] at leads ⊢
      cases first : before.walk other [part] with
      | error fault =>
          rw [first] at leads
          exact nomatch leads
      | ok inner =>
          rw [first] at leads
          rw [walk_part_mono kept first]
          exact inductionHypothesis leads

theorem walk_append
    {front rest : List String}
    (leads : tree.walk other front = .ok place) :
    tree.walk other (front ++ rest) = tree.walk place rest := by
  induction front generalizing other with
  | nil =>
      cases leads
      rfl
  | cons part front inductionHypothesis =>
      rw [walk_cons] at leads
      rw [List.cons_append, walk_cons]
      cases first : tree.walk other [part] with
      | error fault =>
          rw [first] at leads
          exact nomatch leads
      | ok inner =>
          rw [first] at leads
          exact inductionHypothesis leads

/-- Parts refer to an entry if all but the last lead to the directory that
holds it, and the last is a name. -/
theorem target_eq_entry_iff {parts : List String} :
    tree.target other parts = .ok (.entry place) ↔
      ∃ holder last,
        parts.getLast? = some last ∧
          tree.walk other parts.dropLast = .ok holder ∧
          last ≠ "." ∧ last ≠ ".." ∧ last.utf8ByteSize ≤ nameLimit ∧
          place = holder ++ [last] := by
  unfold target
  cases parts.getLast? with
  | none => simp
  | some last =>
      cases tree.walk other parts.dropLast with
      | error fault => simp
      | ok holder =>
          by_cases dots : last = "." ∨ last = ".."
          · simp only [Bool.or_eq_true, decide_eq_true_eq, dots, if_true]
            rcases dots with rfl | rfl <;> simp
          · simp only [Bool.or_eq_true, decide_eq_true_eq, dots, if_false]
            rw [not_or] at dots
            by_cases long : nameLimit < last.utf8ByteSize
            · simp [long, Nat.not_le_of_lt long]
            · simp [long, dots.1, dots.2, Nat.le_of_not_lt long, eq_comm]

/-- Parts refer to the same entry as long as the directories stay. -/
theorem target_mono
    {parts : List String}
    (kept : before.KeepsDirectories after)
    (refers : before.target other parts = .ok (.entry place)) :
    after.target other parts = .ok (.entry place) := by
  rw [target_eq_entry_iff] at refers ⊢
  obtain ⟨holder, last, final, leads, rest⟩ := refers
  exact ⟨holder, last, final, walk_mono kept leads, rest⟩

/-- Parts that refer to a directory lead to it. -/
theorem walk_of_target
    {parts : List String}
    (refers : tree.target other parts = .ok (.entry place))
    (stands : tree.node? place = some .directory) :
    tree.walk other parts = .ok place := by
  obtain ⟨holder, last, final, leads, self, up, short, rfl⟩ :=
    target_eq_entry_iff.mp refers
  rw [← List.dropLast_append_getLast? last final, walk_append leads]
  simp [walk, self, up, Nat.not_lt_of_le short, stands]

theorem keepsDirectories_put
    (node : Node)
    (different : tree.node? place ≠ some .directory) :
    tree.KeepsDirectories (tree.put place node) := by
  intro other stands
  have apart : other ≠ place := by
    rintro rfl
    exact different stands
  rw [node?_put_of_ne apart, stands]

/-! ## Growth -/

/-- A place is as it was, or a directory was created there because it was
missing on the way along some parts. -/
def Kept
    (start parts : List String)
    (before after : Tree)
    (place : List String) : Prop :=
  after.node? place = before.node? place ∨
    (before.node? place = none ∧ after.node? place = some .directory ∧
      ∃ front,
        front <+: parts ∧ after.walk start front = .ok place)

/-- A tree has grown by nothing but directories on the way along some
parts. -/
structure Grown
    (start parts : List String)
    (before after : Tree) : Prop where
  /-- Relative paths start where they did. -/
  workingDirectory : after.workingDirectory = before.workingDirectory
  /-- Every place is as it was, or on the way. -/
  kept : ∀ place, Kept start parts before after place

section

variable {start parts longer : List String} {middle : Tree}

theorem Kept.node?_eq_directory
    (kept : Kept start parts before after place)
    (stands : before.node? place = some .directory) :
    after.node? place = some .directory := by
  rcases kept with same | ⟨-, created, -⟩
  · rw [same, stands]
  · exact created

theorem Grown.keepsDirectories (grown : Grown start parts before after) :
    before.KeepsDirectories after :=
  fun place => (grown.kept place).node?_eq_directory

theorem Grown.refl (start parts : List String) (tree : Tree) :
    Grown start parts tree tree :=
  ⟨rfl, fun _ => .inl rfl⟩

/-- What is on the way along some parts is on the way along more of them. -/
theorem Grown.of_isPrefix
    (grown : Grown start parts before after)
    (leading : parts <+: longer) :
    Grown start longer before after where
  workingDirectory := grown.workingDirectory
  kept place := by
    rcases grown.kept place with same | ⟨free, created, front, short, leads⟩
    · exact Or.inl same
    · exact Or.inr ⟨free, created, front, short.trans leading, leads⟩

/-- A place that stays as it was behind some growth is on the way, if it was
before. -/
theorem Kept.trans
    (first : Kept start parts before middle place)
    (directories : middle.KeepsDirectories after)
    (second : Kept start parts middle after place) :
    Kept start parts before after place := by
  rcases second with same | ⟨free, created, way⟩
  · rcases first with again | ⟨free, created, front, short, leads⟩
    · exact Or.inl (same.trans again)
    · exact Or.inr
        ⟨free, same.trans created, front, short, walk_mono directories leads⟩
  · rcases first with again | ⟨-, already, -⟩
    · exact Or.inr ⟨again ▸ free, created, way⟩
    · rw [already] at free
      exact nomatch free

theorem Grown.trans
    (first : Grown start parts before middle)
    (second : Grown start parts middle after) :
    Grown start parts before after where
  workingDirectory := second.workingDirectory.trans first.workingDirectory
  kept place :=
    (first.kept place).trans second.keepsDirectories (second.kept place)

/-- A directory is only created where it was missing on its way. -/
theorem grown_of_createDirectory
    (created : before.createDirectory start parts = .ok after) :
    Grown start parts before after := by
  unfold createDirectory at created
  cases refers : before.target start parts with
  | error fault =>
      rw [refers] at created
      exact nomatch created
  | ok target =>
      rw [refers] at created
      cases target with
      | itself => exact nomatch created
      | entry entry =>
          cases stands : before.node? entry with
          | some node =>
              simp only [stands] at created
              exact nomatch created
          | none =>
              simp only [stands, Except.ok.injEq] at created
              subst created
              have free : before.node? entry ≠ some .directory := by
                simp [stands]
              have made : (before.put entry .directory).node? entry = _ :=
                node?_put_same (ne_nil_of_node?_ne_directory free)
              refine ⟨rfl, fun place => ?_⟩
              by_cases here : place = entry
              · subst here
                exact Or.inr ⟨stands, made, parts, List.prefix_rfl,
                  walk_of_target
                    (target_mono (keepsDirectories_put _ free) refers) made⟩
              · exact Or.inl (node?_put_of_ne here)

end

/-- Renaming a file to a path puts it there, if no directory stands there. -/
theorem put_of_rename
    {text : String}
    {contents : List UInt8}
    (renamed : before.rename text contents = .ok after) :
    ∃ place,
      after.target (after.start (Path.ofString text))
          (Path.ofString text).parts =
        .ok (.entry place) ∧
      before.node? place ≠ some .directory ∧
      after = before.put place (.file contents) ∧
      after.read text = .ok contents := by
  unfold rename at renamed
  by_cases clean : holdsNul text = true
  · simp only [clean, if_true] at renamed
    exact nomatch renamed
  by_cases empty : text.isEmpty = true
  · simp only [clean, empty, if_true] at renamed
    exact nomatch renamed
  by_cases long : pathLimit ≤ text.utf8ByteSize
  · simp only [clean, empty, long, if_true] at renamed
    exact nomatch renamed
  simp only [clean, empty, long, Bool.false_eq_true, if_false] at renamed
  split at renamed
  · exact nomatch renamed
  · exact nomatch renamed
  next place refers =>
  split at renamed
  · exact nomatch renamed
  next plain =>
  split at renamed
  · exact nomatch renamed
  next replaceable =>
  have free : before.node? place ≠ some .directory := replaceable
  cases renamed
  have target :=
    target_mono (keepsDirectories_put (.file contents) free) refers
  have stands :
      (before.put place (.file contents)).node? place =
        some (.file contents) :=
    node?_put_same (ne_nil_of_node?_ne_directory free)
  refine ⟨place, target, free, rfl, ?_⟩
  change
    (before.put place (.file contents)).target
      ((before.put place (.file contents)).start _) _ = _ at target
  unfold read
  simp only [clean, empty, long, target, stands, plain, if_false,
    Bool.false_eq_true]

end Tree

/-! ## Disks that keep their promises -/

namespace Disk

open Storage.Tree (Grown Kept)

/-- What is promised of the steps of a disk.  A step that succeeds changes the
tree as it is meant to, and nothing is promised of which steps succeed. -/
structure Lawful (disk : Disk) : Prop where
  /-- A directory is created where the tree takes one. -/
  createDirectory :
    ∀ {tree place parts created},
      disk.createDirectory tree place parts = .ok created ->
        tree.createDirectory place parts = .ok created
  /-- A temporary file has a new name. -/
  createTemporary :
    ∀ {tree directory place created},
      disk.createTemporary tree directory = .ok (place, created) ->
        tree.node? place = none ∧ created = tree.put place (.file [])
  /-- Writing changes what the temporary file holds, and is complete if it
  succeeds. -/
  write :
    ∀ tree temporary contents,
      ∃ kept,
        (disk.write tree temporary contents).1 =
            tree.put temporary (.file kept) ∧
          ((disk.write tree temporary contents).2 = .ok () -> kept = contents)
  /-- Renaming is done at once or not at all. -/
  persist :
    ∀ {tree temporary text replaced},
      disk.persist tree temporary text = .ok replaced ->
        renameFrom tree temporary text = .ok replaced
  /-- A temporary file that is discarded is removed. -/
  discard :
    ∀ tree temporary, disk.discard tree temporary = tree.remove temporary

variable {disk : Disk} {tree : Tree}

/-- Creating directories creates none but those on the way, however far it
goes. -/
theorem Lawful.grown_of_createDirectories
    (lawful : disk.Lawful)
    (tree : Tree)
    (place reversed : List String) :
    Grown place reversed.reverse tree
      (disk.createDirectories tree place reversed).1 := by
  induction reversed with
  | nil => exact .refl ..
  | cons last before inductionHypothesis =>
      have leading : before.reverse <+: (last :: before).reverse := by simp
      have onWay := inductionHypothesis.of_isPrefix leading
      unfold createDirectories
      simp only
      cases created :
          disk.createDirectory tree place (last :: before).reverse with
      | ok after =>
          exact Tree.grown_of_createDirectory (lawful.createDirectory created)
      | error fault =>
          by_cases missing : fault = .missing
          · subst missing
            simp only
            cases holding : disk.createDirectories tree place before with
            | mk prepared result =>
                rw [holding] at onWay
                cases result with
                | error fault => exact onWay
                | ok done =>
                    simp only
                    cases again :
                        disk.createDirectory prepared place
                          (last :: before).reverse with
                    | ok after =>
                        exact onWay.trans
                          (Tree.grown_of_createDirectory
                            (lawful.createDirectory again))
                    | error fault =>
                        simp only
                        split <;> exact onWay
          · simp only
            split <;> exact .refl ..

/-- A temporary file is renamed to a path with all its contents, or is gone. -/
theorem Lawful.finish_cases
    (lawful : disk.Lawful)
    {temporary : List String}
    (fresh : tree.node? temporary = none)
    (text : String)
    (contents : List UInt8) :
    (∃ fault,
      disk.finish (tree.put temporary (.file [])) temporary text contents =
        (tree, .error fault)) ∨
    (∃ replaced,
      tree.rename text contents = .ok replaced ∧
        disk.finish (tree.put temporary (.file [])) temporary text contents =
          (replaced, .ok ())) := by
  have free : tree.node? temporary ≠ some .directory := by simp [fresh]
  have named := Tree.ne_nil_of_node?_ne_directory free
  obtain ⟨kept, written, complete⟩ :=
    lawful.write (tree.put temporary (.file [])) temporary contents
  rw [Tree.put_put] at written
  have discarded :
      disk.discard (tree.put temporary (.file kept)) temporary = tree := by
    rw [lawful.discard, Tree.remove_put_of_fresh fresh]
  unfold finish
  cases writing :
      disk.write (tree.put temporary (.file [])) temporary contents with
  | mk after result =>
      rw [writing] at written complete
      have same : after = tree.put temporary (.file kept) := written
      subst same
      cases result with
      | error fault => exact Or.inl ⟨fault, by simp only [discarded]⟩
      | ok done =>
          have full : kept = contents := complete rfl
          subst full
          simp only
          cases disk.synchronize (tree.put temporary (.file kept)) temporary with
          | error fault => exact Or.inl ⟨fault, by simp only [discarded]⟩
          | ok done =>
              simp only
              cases persisted :
                  disk.persist (tree.put temporary (.file kept)) temporary
                    text with
              | error fault => exact Or.inl ⟨fault, by simp only [discarded]⟩
              | ok replaced =>
                  have renamed := lawful.persist persisted
                  simp only [renameFrom, Tree.node?_put_same named,
                    Tree.remove_put_of_fresh fresh] at renamed
                  exact Or.inr ⟨replaced, renamed, rfl⟩

/-- The way to the directory that holds the file at a path. -/
def holder (text : String) : List String :=
  (Path.ofString text).names.dropLast

/-- The file at a path is replaced in full, or there is a fault and no file
has changed.  In both cases the directories on its way may have been
created. -/
theorem Lawful.replace_cases
    (lawful : disk.Lawful)
    (tree : Tree)
    (text : String)
    (contents : List UInt8) :
    ∃ prepared,
      Grown (tree.start (Path.ofString text)) (holder text) tree prepared ∧
        ((∃ fault,
            disk.replace tree text contents = (prepared, .error fault)) ∨
          (∃ replaced,
            prepared.rename text contents = .ok replaced ∧
              disk.replace tree text contents = (replaced, .ok ()))) := by
  unfold replace
  have way :=
    lawful.grown_of_createDirectories tree (tree.start (Path.ofString text))
      (holder text).reverse
  rw [List.reverse_reverse] at way
  unfold holder at way ⊢
  simp only
  split
  · exact ⟨tree, .refl .., Or.inl ⟨_, rfl⟩⟩
  split
  · exact ⟨tree, .refl .., Or.inl ⟨_, rfl⟩⟩
  cases holding :
      disk.createDirectories tree (tree.start (Path.ofString text))
        (Path.ofString text).names.dropLast.reverse with
  | mk prepared result =>
      rw [holding] at way
      refine ⟨prepared, way, ?_⟩
      cases result with
      | error fault => exact Or.inl ⟨fault, rfl⟩
      | ok done =>
          simp only
          cases prepared.walk (prepared.start (Path.ofString text))
              (Path.ofString text).names.dropLast with
          | error fault => exact Or.inl ⟨fault, rfl⟩
          | ok directory =>
              simp only [replaceWithin]
              cases creation : disk.createTemporary prepared directory with
              | error fault => exact Or.inl ⟨fault, rfl⟩
              | ok made =>
                  obtain ⟨temporary, created⟩ := made
                  obtain ⟨fresh, rfl⟩ := lawful.createTemporary creation
                  exact lawful.finish_cases fresh text contents

/-- A replacement that fails leaves all places as they are, and one that
succeeds all but the one that the path refers to, which holds the contents
then.  Directories on the way may have been created. -/
theorem Lawful.replace_kept
    (lawful : disk.Lawful)
    (tree : Tree)
    (text : String)
    (contents : List UInt8) :
    let path := Path.ofString text
    let after := (disk.replace tree text contents).1
    ((∃ fault, (disk.replace tree text contents).2 = .error fault) ∧
      ∀ place, Kept (tree.start path) (holder text) tree after place) ∨
    ((disk.replace tree text contents).2 = .ok () ∧
      after.read text = .ok contents ∧
      ∀ place,
        after.target (after.start path) path.parts ≠ .ok (.entry place) ->
          Kept (tree.start path) (holder text) tree after place) := by
  intro path after
  obtain ⟨prepared, grown, ⟨fault, failed⟩ | ⟨replaced, renamed, done⟩⟩ :=
    lawful.replace_cases tree text contents
  · have same : after = prepared := congrArg Prod.fst failed
    exact Or.inl ⟨⟨fault, congrArg Prod.snd failed⟩, same ▸ grown.kept⟩
  · have same : after = replaced := congrArg Prod.fst done
    obtain ⟨entry, target, free, put, read⟩ := Tree.put_of_rename renamed
    rw [same]
    refine Or.inr ⟨congrArg Prod.snd done, read, fun place apart => ?_⟩
    have other : place ≠ entry := by
      rintro rfl
      exact apart target
    have directories : prepared.KeepsDirectories replaced :=
      put ▸ Tree.keepsDirectories_put _ free
    have stays : replaced.node? place = prepared.node? place :=
      put ▸ Tree.node?_put_of_ne other
    exact (grown.kept place).trans directories (Or.inl stays)

/-- The name of a temporary file is longer than all names in front of it. -/
theorem node?_freshName (tree : Tree) (directory : List String) :
    tree.node? (directory ++ [freshName tree]) = none := by
  rw [Tree.node?_of_ne_nil (by simp), Option.map_eq_none_iff,
    List.find?_eq_none]
  intro entry present same
  have place : entry.1 = directory ++ [freshName tree] :=
    of_decide_eq_true same
  have among : freshName tree ∈ tree.nodes.flatMap (·.1) :=
    List.mem_flatMap.mpr ⟨entry, present, by rw [place]; simp⟩
  have short :
      (freshName tree).toList.length ≤
        ((tree.nodes.flatMap (·.1)).flatMap String.toList).length :=
    (List.infix_of_mem_flatten (List.mem_map_of_mem among)).length_le
  rw [freshName, String.toList_ofList, List.length_cons] at short
  omega

/-- The disk without faults keeps its promises. -/
theorem ordinary_lawful : ordinary.Lawful where
  createDirectory := id
  createTemporary made := by
    cases made
    exact ⟨node?_freshName .., rfl⟩
  write _ _ contents := ⟨contents, rfl, fun _ => rfl⟩
  persist := id
  discard _ _ := rfl

end Disk
end Storage
end FieldOcr
