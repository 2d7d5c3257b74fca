import Mathlib
import Giskard.Analysis.LinkTargets

/-!
# Seeding never overwrites and never escapes

A plain path is a way of names below the worktree's root. One entry of the list leaves all that
stands as it is, and whatever it creates stands on its way (`copyIncludedFile_grows`), so the whole
list does the same, whatever earlier entries have put on the ways of later ones. An entry whose way
is still clear when its turn comes is copied, and no other one with the same names is.
-/

set_option autoImplicit false

namespace Giskard.Worktree

open Foundation FileTree

variable {ν α : Type} [DecidableEq ν]

/-! ## Plain paths -/

/-- A path is these names below wherever it is joined. -/
def Lists (relative : PathBuf ν) (names : List ν) : Prop :=
  relative.isAbsolute = false ∧ relative.components = names.map PathPiece.name

omit [DecidableEq ν] in
theorem isPlainRelative_iff {relative : PathBuf ν} :
    isPlainRelative relative = true ↔ ∃ names, Lists relative names := by
  unfold isPlainRelative
  rw [Bool.and_eq_true, Bool.not_eq_true', List.all_eq_true]
  constructor
  · rintro ⟨below, plain⟩
    obtain ⟨names, same⟩ := PathBuf.names_of_forall plain
    exact ⟨names, below, same.symm⟩
  · rintro ⟨names, below, same⟩
    refine ⟨below, fun component member => ?_⟩
    rw [same] at member
    obtain ⟨name, -, rfl⟩ := List.mem_map.1 member
    rfl

section Lists

variable {relative : PathBuf ν} {names : List ν}

omit [DecidableEq ν] in
theorem Lists.way (lists : Lists relative names) : Way relative.pieces names := by
  obtain ⟨below, same⟩ := lists
  unfold PathBuf.components at same
  rw [below] at same
  split at same
  · cases names with
    | nil => cases same
    | cons name names => cases (List.cons.inj same).1
  · exact same

omit [DecidableEq ν] in
theorem Lists.parent (lists : Lists relative names) :
    (relative.parent.map PathBuf.components).getD [] = names.dropLast.map PathPiece.name := by
  obtain ⟨below, same⟩ := lists
  unfold PathBuf.parent
  split
  · next nothing =>
    rw [same, List.map_eq_nil_iff] at nothing
    rw [nothing]
    rfl
  · rw [same, below, Option.map_some, Option.getD_some, ← List.map_dropLast]
    cases names.dropLast with
    | nil => rfl
    | cons name names => exact way_names (name :: names)

end Lists

/-! ## The parents -/

/-- Only directories stand on a way, or nothing. -/
def Clear (tree : FileTree ν α) (dir names : List ν) : Prop :=
  ∀ above, above <+: names → tree.entry (dir ++ above) = none ∨ tree.entry (dir ++ above) = some .dir

/-- How creating the parents on a way ends. -/
structure ParentsEnd (dir way : List ν) (before : Seeding ν α)
    (result : Seeding ν α × Parents) : Prop where
  grows : Grows dir {way} before.tree result.1.tree
  neverFails : ∀ error, result.2 ≠ .failed error
  made : result.2 = .made → result.1.tree.entry (dir ++ way) = some .dir
  clear : Clear before.tree dir way → result.2 = .made

section Parents

variable {toRoot : PathBuf ν} {real : List ν}

/-- From a directory on the way, the rest of the parents. -/
theorem makeParents_end {seeding : Seeding ν α} {done : List ν} (todo : List ν)
    (leads : seeding.tree.LeadsTo toRoot real)
    (stands : seeding.tree.entry (real ++ done) = some .dir) :
    ParentsEnd real (done ++ todo) seeding
      (makeParents toRoot seeding ⟨false, done.map .name⟩ (todo.map .name)) := by
  induction todo generalizing done seeding with
  | nil =>
    rw [List.append_nil]
    exact ⟨.refl _, nofun, fun _ => stands, fun _ => rfl⟩
  | cons n todo ih =>
    have further : PathBuf.join ⟨false, done.map .name⟩ ⟨false, [.name n]⟩ =
        ⟨false, (done ++ [n]).map PathPiece.name⟩ := by
      rw [List.map_append]
      rfl
    have split : ((done ++ [n]).map PathPiece.name) = done.map .name ++ [.name n] := List.map_append
    rw [List.map_cons, makeParents, further, List.append_cons]
    cases here : seeding.tree.entry (real ++ done ++ [n]) with
    | none =>
      rw [leads.lstat_missing rfl (way_names _) (by rwa [List.append_assoc] at here)
        (fun above part less => .inr (by
          rcases (List.prefix_concat_iff.1 part).resolve_left less with ⟨more, rfl⟩
          rw [← List.append_assoc] at stands
          by_cases last : more = []
          · rwa [last, List.append_nil] at stands
          · exact entry_append stands last))]
      unfold mkdir
      rw [leads.walk_free rfl split (way_names _) stands here]
      have grows : Grows real {done ++ [n] ++ todo} seeding.tree
          (seeding.tree.set (real ++ done ++ [n]) .dir) :=
        grows_set stands here (Set.mem_singleton _) (List.prefix_append _ _) .dir
      have next : (seeding.tree.set (real ++ done ++ [n]) .dir).entry (real ++ (done ++ [n])) =
          some .dir := by
        rw [set_entry stands here, if_pos (List.append_assoc _ _ _).symm]
      have rest := @ih ⟨seeding.tree.set (real ++ done ++ [n]) .dir, seeding.createdDirs ++
        [⟨false, (done ++ [n]).map .name⟩]⟩ (done ++ [n]) (leads.extends grows.keeps) next
      refine ⟨grows.trans rest.grows, rest.neverFails, rest.made, fun clear => rest.clear ?_⟩
      intro above part
      change (seeding.tree.set (real ++ done ++ [n]) .dir).entry _ = none ∨ _
      rw [set_entry stands here]
      split
      · exact .inr rfl
      · exact clear above part
    | some found =>
      rw [leads.lstat_found rfl split (way_names _) here]
      dsimp only
      split
      · next isDir =>
        rw [TreeEntry.isDir_iff] at isDir
        rw [isDir, List.append_assoc] at here
        exact ih leads here
      · next other =>
        refine ⟨.refl _, nofun, nofun, fun clear => ?_⟩
        have there := clear (done ++ [n]) (List.prefix_append _ _)
        rw [← List.append_assoc, here] at there
        rw [TreeEntry.isDir_iff] at other
        exact absurd (Option.some.inj (there.resolve_left nofun)) other

end Parents

/-! ## One entry of the list -/

/-- What a copied file or link is in the worktree. -/
def copyOf (fromRoot relative : PathBuf ν) : TreeEntry ν α → TreeEntry ν α
  | .link target => .link (worktreeLinkTarget fromRoot relative target)
  | entry => entry

/-- The ways that an entry of the list can go. -/
inductive Copying (fromRoot toRoot : PathBuf ν) (real : List ν) (before : Seeding ν α)
    (relative : PathBuf ν) (names : List ν) : Seeding ν α × Except PathError Bool → Prop
  | present {found : TreeEntry ν α} (there : before.tree.lstat (toRoot.join relative) = .ok found) :
      Copying fromRoot toRoot real before relative names (before, .ok false)
  | vanished (absent : ∀ found, before.tree.lstat (toRoot.join relative) ≠ .ok found)
      (gone : before.tree.lstat (fromRoot.join relative) = .error .notFound) :
      Copying fromRoot toRoot real before relative names (before, .ok false)
  | failed (absent : ∀ found, before.tree.lstat (toRoot.join relative) ≠ .ok found)
      {error : PathError} (fails : before.tree.lstat (fromRoot.join relative) = .error error)
      (other : error ≠ .notFound) :
      Copying fromRoot toRoot real before relative names (before, .error error)
  | blocked (absent : ∀ found, before.tree.lstat (toRoot.join relative) ≠ .ok found)
      {metadata : TreeEntry ν α} (finds : before.tree.lstat (fromRoot.join relative) = .ok metadata)
      (inWay : ¬Clear before.tree real names.dropLast) {after : Seeding ν α}
      (grows : Grows real {names.dropLast} before.tree after.tree) :
      Copying fromRoot toRoot real before relative names (after, .ok false)
  | noFile (absent : ∀ found, before.tree.lstat (toRoot.join relative) ≠ .ok found)
      (finds : before.tree.lstat (fromRoot.join relative) = .ok .dir) {after : Seeding ν α}
      (grows : Grows real {names.dropLast} before.tree after.tree) :
      Copying fromRoot toRoot real before relative names (after, .ok false)
  | copied (absent : ∀ found, before.tree.lstat (toRoot.join relative) ≠ .ok found)
      {metadata : TreeEntry ν α} (finds : before.tree.lstat (fromRoot.join relative) = .ok metadata)
      (noDir : metadata ≠ .dir) {between : Seeding ν α} {dir : List ν} {n : ν}
      (split : names = dir ++ [n]) (grows : Grows real {dir} before.tree between.tree)
      (above : between.tree.entry (real ++ dir) = some .dir)
      (missing : between.tree.entry (real ++ dir ++ [n]) = none) :
      Copying fromRoot toRoot real before relative names
        ({ between with
            tree := between.tree.set (real ++ dir ++ [n]) (copyOf fromRoot relative metadata) },
          .ok true)

section Entry

variable {fromRoot toRoot relative : PathBuf ν} {real names : List ν} {before : Seeding ν α}

omit [DecidableEq ν] in
theorem Lists.last {tree : FileTree ν α} {metadata : TreeEntry ν α} (lists : Lists relative names)
    (some_ : relative.pieces ≠ []) (finds : tree.lstat (fromRoot.join relative) = .ok metadata)
    (noDir : metadata ≠ .dir) :
    ∃ pieces dir n, relative.pieces = pieces ++ [.name n] ∧ names = dir ++ [n] ∧ Way pieces dir := by
  have joined : (fromRoot.join relative).pieces = fromRoot.pieces ++ relative.pieces := by
    unfold PathBuf.join
    rw [lists.1]
    rfl
  obtain ⟨left, place, walks⟩ := lstat_eq_ok.1 finds
  obtain ⟨front, n, same⟩ := walks.last_name rfl noDir (by
    rw [joined]
    exact List.append_ne_nil_of_right_ne_nil _ some_)
  have last := congrArg List.getLast? same
  rw [joined, List.getLast?_append_of_ne_nil _ some_, List.getLast?_concat] at last
  obtain ⟨pieces, same⟩ := List.getLast?_eq_some_iff.1 last
  have way := lists.way
  rw [same] at way
  obtain ⟨dir, names, way⟩ := way_concat way
  exact ⟨pieces, dir, n, same, names, way⟩

omit [DecidableEq ν] in
theorem some_of_absent (leads : before.tree.LeadsTo toRoot real) (lists : Lists relative names)
    (absent : ∀ found, before.tree.lstat (toRoot.join relative) ≠ .ok found) :
    relative.pieces ≠ [] := by
  intro nothing
  obtain ⟨found, finds⟩ := leads.lstat_nil
  refine absent found ?_
  rw [← finds]
  unfold lstat PathBuf.join
  rw [lists.1, nothing, List.append_nil]
  rfl

theorem copyEntry_file {tree : FileTree ν α} {createdDirs : List (PathBuf ν)} {metadata : TreeEntry ν α}
    {dir : List ν} {n : ν} (finds : tree.lstat (fromRoot.join relative) = .ok metadata)
    (noDir : metadata ≠ .dir)
    (free : ∀ follow, tree.walk follow maxLinks [] (toRoot.join relative).pieces = .free dir n) :
    copyEntry fromRoot toRoot relative ⟨tree, createdDirs⟩ metadata =
      (⟨tree.set (dir ++ [n]) (copyOf fromRoot relative metadata), createdDirs⟩, .ok true) := by
  cases metadata with
  | dir => exact absurd rfl noDir
  | link target =>
    unfold copyEntry readLink symlink
    rw [finds, free false]
    rfl
  | file content =>
    have reads : tree.read (fromRoot.join relative) = .ok content := by
      obtain ⟨left, place, walks⟩ := lstat_eq_ok.1 finds
      unfold FileTree.read
      rw [(walks.file_followed rfl).eq]
    unfold copyEntry copy write
    rw [reads, free true]
    rfl

/-- Once the parents are there, the copy is made. -/
theorem copying_made (leads : before.tree.LeadsTo toRoot real) (lists : Lists relative names)
    (absent : ∀ found, before.tree.lstat (toRoot.join relative) ≠ .ok found)
    {metadata : TreeEntry ν α} (finds : before.tree.lstat (fromRoot.join relative) = .ok metadata)
    (noDir : metadata ≠ .dir) {after : Seeding ν α}
    (parents : ParentsEnd real names.dropLast before (after, .made)) :
    Copying fromRoot toRoot real before relative names
      (copyEntry fromRoot toRoot relative after metadata) := by
  obtain ⟨pieces, dir, n, same, rfl, way⟩ :=
    lists.last (some_of_absent leads lists absent) finds noDir
  rw [List.dropLast_concat] at parents
  have grows := parents.grows
  have above := parents.made rfl
  have missing : after.tree.entry (real ++ dir ++ [n]) = none := by
    cases stands : after.tree.entry (real ++ dir ++ [n]) with
    | none => rfl
    | some found =>
      cases earlier : before.tree.entry (real ++ dir ++ [n]) with
      | some found => exact absurd (leads.lstat_found lists.1 same way earlier) (absent found)
      | none =>
        obtain ⟨_, rfl, front, part, -, place⟩ := grows.along _ found stands earlier
        rw [List.append_assoc] at place
        have shorter := part.length_le
        rw [← List.append_cancel_left place, List.length_append, List.length_singleton] at shorter
        exact absurd shorter (Nat.not_succ_le_self _)
  rw [copyEntry_file (lstat_extends finds grows.keeps) noDir
    ((leads.extends grows.keeps).walk_free lists.1 same way above missing)]
  exact .copied absent finds noDir rfl grows above missing

/-- One entry of the list goes one of the ways. -/
theorem copyIncludedFile_copying (leads : before.tree.LeadsTo toRoot real)
    (lists : Lists relative names) :
    Copying fromRoot toRoot real before relative names
      (copyIncludedFile fromRoot toRoot before relative) := by
  unfold copyIncludedFile
  rw [isPlainRelative_iff.2 ⟨names, lists⟩, if_neg (by exact Bool.false_ne_true)]
  cases there : before.tree.lstat (toRoot.join relative) with
  | ok found => exact .present there
  | error error =>
    have absent (found : TreeEntry ν α) : before.tree.lstat (toRoot.join relative) ≠ .ok found := by
      rw [there]
      nofun
    cases finds : before.tree.lstat (fromRoot.join relative) with
    | error error =>
      cases error with
      | notFound => exact .vanished absent finds
      | notADirectory => exact .failed absent finds nofun
      | tooManyLinks => exact .failed absent finds nofun
      | alreadyExists => exact .failed absent finds nofun
      | isADirectory => exact .failed absent finds nofun
      | notALink => exact .failed absent finds nofun
      | invalidInput => exact .failed absent finds nofun
    | ok metadata =>
      have parents := makeParents_end names.dropLast leads
        (by rw [List.append_nil]; exact leads.isDir)
      rw [List.nil_append] at parents
      dsimp only
      rw [lists.parent]
      change ParentsEnd real names.dropLast before
        (makeParents toRoot before .empty (names.dropLast.map .name)) at parents
      generalize makeParents toRoot before .empty (names.dropLast.map .name) = result
        at parents ⊢
      obtain ⟨after, ended⟩ := result
      cases ended with
      | failed error => exact absurd rfl (parents.neverFails error)
      | blocked =>
        exact .blocked absent finds (fun clear => nomatch parents.clear clear) parents.grows
      | made =>
        by_cases noDir : metadata = .dir
        · rw [noDir] at finds ⊢
          exact .noFile absent finds parents.grows
        · exact copying_made leads lists absent finds noDir parents

end Entry

section Facts

variable {fromRoot toRoot relative : PathBuf ν} {real names : List ν} {before : Seeding ν α}

omit [DecidableEq ν] in
theorem not_plain (refused : ¬∃ names, Lists relative names) : isPlainRelative relative = false :=
  Bool.not_eq_true _ ▸ fun plain => refused (isPlainRelative_iff.1 plain)

theorem copyIncludedFile_refused (refused : ¬∃ names, Lists relative names) :
    copyIncludedFile fromRoot toRoot before relative = (before, .ok false) := by
  unfold copyIncludedFile
  rw [not_plain refused]
  rfl

/-- Nothing is overwritten, and what is new stands on the way. -/
theorem copyIncludedFile_grows (fromRoot relative : PathBuf ν) (leads : before.tree.LeadsTo toRoot real) :
    Grows real {names | Lists relative names} before.tree
      (copyIncludedFile fromRoot toRoot before relative).1.tree := by
  by_cases listed : ∃ names, Lists relative names
  · obtain ⟨names, lists⟩ := listed
    have part {above : List ν} (before' : above <+: names) {first second : FileTree ν α}
        (grows : Grows real {above} first second) :
        Grows real {names | Lists relative names} first second := by
      refine ⟨grows.keeps, fun place found stands missing => ?_⟩
      obtain ⟨_, rfl, front, part, some_, same⟩ := grows.along place found stands missing
      exact ⟨names, lists, front, part.trans before', some_, same⟩
    have copying := @copyIncludedFile_copying ν α _ fromRoot _ _ _ _ _ leads lists
    generalize copyIncludedFile fromRoot toRoot before relative = result at copying ⊢
    cases copying with
    | present there => exact .refl _
    | vanished absent gone => exact .refl _
    | failed absent fails other => exact .refl _
    | blocked absent finds inWay grows => exact part names.dropLast_prefix grows
    | noFile absent finds grows => exact part names.dropLast_prefix grows
    | copied absent finds noDir split grows above missing =>
      refine (part (split ▸ List.prefix_append _ _) grows).trans
        (@grows_set _ _ _ _ _ {names | Lists relative names} _ _ _ above missing lists ?_ _)
      rw [split]
  · rw [copyIncludedFile_refused listed]
    exact .refl _

/-- It fails exactly if the lookup of the source fails, and not because there is nothing. -/
theorem copyIncludedFile_error (leads : before.tree.LeadsTo toRoot real) {error : PathError} :
    (copyIncludedFile fromRoot toRoot before relative).2 = .error error ↔
      isPlainRelative relative = true ∧
        (∀ found, before.tree.lstat (toRoot.join relative) ≠ .ok found) ∧
        before.tree.lstat (fromRoot.join relative) = .error error ∧ error ≠ .notFound := by
  by_cases listed : ∃ names, Lists relative names
  · obtain ⟨names, lists⟩ := listed
    rw [isPlainRelative_iff]
    have copying := @copyIncludedFile_copying ν α _ fromRoot _ _ _ _ _ leads lists
    generalize copyIncludedFile fromRoot toRoot before relative = result at copying ⊢
    cases copying with
    | present there => exact iff_of_false nofun fun holds => holds.2.1 _ there
    | vanished absent gone =>
      refine iff_of_false nofun fun holds => holds.2.2.2 ?_
      exact (Except.error.inj (gone.symm.trans holds.2.2.1)).symm
    | failed absent fails other =>
      refine ⟨fun same => ?_, fun holds => ?_⟩
      · rw [← Except.error.inj same]
        exact ⟨⟨names, lists⟩, absent, fails, other⟩
      · rw [Except.error.inj (fails.symm.trans holds.2.2.1)]
    | blocked absent finds inWay grows =>
      exact iff_of_false nofun fun holds => nomatch finds.symm.trans holds.2.2.1
    | noFile absent finds grows =>
      exact iff_of_false nofun fun holds => nomatch finds.symm.trans holds.2.2.1
    | copied absent finds noDir split grows above missing =>
      exact iff_of_false nofun fun holds => nomatch finds.symm.trans holds.2.2.1
  · rw [copyIncludedFile_refused listed, not_plain listed]
    exact iff_of_false nofun fun holds => nomatch holds.1

theorem copyIncludedFile_true (leads : before.tree.LeadsTo toRoot real)
    (lists : Lists relative names)
    (copies : (copyIncludedFile fromRoot toRoot before relative).2 = .ok true) :
    before.tree.entry (real ++ names) = none ∧ ∃ metadata,
      before.tree.lstat (fromRoot.join relative) = .ok metadata ∧
      (copyIncludedFile fromRoot toRoot before relative).1.tree.entry (real ++ names) =
        some (copyOf fromRoot relative metadata) := by
  have copying := @copyIncludedFile_copying ν α _ fromRoot _ _ _ _ _ leads lists
  generalize copyIncludedFile fromRoot toRoot before relative = result at copying copies ⊢
  cases copying with
  | present there => cases copies
  | vanished absent gone => cases copies
  | failed absent fails other => cases copies
  | blocked absent finds inWay grows => cases copies
  | noFile absent finds grows => cases copies
  | copied absent finds noDir split grows above missing =>
    rw [split, ← List.append_assoc]
    refine ⟨?_, _, finds, ?_⟩
    · cases earlier : before.tree.entry _ with
      | none => rfl
      | some found =>
        rw [grows.keeps _ _ earlier] at missing
        cases missing
    · rw [set_entry above missing, if_pos rfl]

theorem copyIncludedFile_copies (leads : before.tree.LeadsTo toRoot real)
    (lists : Lists relative names) {metadata : TreeEntry ν α}
    (finds : before.tree.lstat (fromRoot.join relative) = .ok metadata) (noDir : metadata ≠ .dir)
    (clear : Clear before.tree real names.dropLast)
    (missing : before.tree.entry (real ++ names) = none) :
    (copyIncludedFile fromRoot toRoot before relative).2 = .ok true := by
  have copying := @copyIncludedFile_copying ν α _ fromRoot _ _ _ _ _ leads lists
  generalize copyIncludedFile fromRoot toRoot before relative = result at copying ⊢
  cases copying with
  | present there =>
    have absent := leads.lstat_missing lists.1 lists.way missing fun above part less => by
      refine clear above ?_
      induction names using List.reverseRecOn with
      | nil => exact absurd (List.prefix_nil.1 part) less
      | append_singleton names n =>
        rw [List.dropLast_concat]
        exact (List.prefix_concat_iff.1 part).resolve_left less
    cases there.symm.trans absent
  | vanished absent gone => cases finds.symm.trans gone
  | failed absent fails other => cases finds.symm.trans fails
  | blocked absent finds inWay grows => exact absurd clear inWay
  | noFile absent found grows =>
    exact absurd (Except.ok.inj (finds.symm.trans found)) noDir
  | copied absent finds noDir split grows above missing => rfl

end Facts

/-! ## The whole list -/

section List

variable (fromRoot toRoot : PathBuf ν)

/-- The call comes to the entry after `front` in this state. -/
def Reaches (tree : FileTree ν α) (front : List (PathBuf ν)) (state : Seeding ν α) : Prop :=
  ∃ copied, copyListed fromRoot toRoot { tree } 0 front = (state, .ok copied)

/-- The entry after `front` is copied. -/
def CopiesAt (tree : FileTree ν α) (front : List (PathBuf ν)) (relative : PathBuf ν) : Prop :=
  ∃ state, Reaches fromRoot toRoot tree front state ∧
    (copyIncludedFile fromRoot toRoot state relative).2 = .ok true

/-- The ways of the listed plain paths. -/
def waysOf (paths : List (PathBuf ν)) : Set (List ν) :=
  {names | ∃ relative ∈ paths, Lists relative names}

variable {fromRoot toRoot} {real : List ν}

theorem copyListed_append (seeding : Seeding ν α) (copied : ℕ) (front back : List (PathBuf ν)) :
    copyListed fromRoot toRoot seeding copied (front ++ back) =
      match copyListed fromRoot toRoot seeding copied front with
      | (seeding, .ok copied) => copyListed fromRoot toRoot seeding copied back
      | (seeding, .error error) => (seeding, .error error) := by
  induction front generalizing seeding copied with
  | nil => rfl
  | cons relative front ih =>
    rw [List.cons_append, copyListed, copyListed]
    cases copyIncludedFile fromRoot toRoot seeding relative with
    | mk seeding answer =>
      cases answer with
      | ok was => exact ih _ _
      | error error => rfl

theorem copyListed_grows (seeding : Seeding ν α) (copied : ℕ) (paths : List (PathBuf ν))
    (leads : seeding.tree.LeadsTo toRoot real) :
    Grows real (waysOf paths) seeding.tree
      (copyListed fromRoot toRoot seeding copied paths).1.tree := by
  induction paths generalizing seeding copied with
  | nil => exact .refl _
  | cons relative paths ih =>
    have first := copyIncludedFile_grows fromRoot relative leads
    have here : Grows real (waysOf (relative :: paths)) seeding.tree
        (copyIncludedFile fromRoot toRoot seeding relative).1.tree :=
      first.mono fun names lists => ⟨relative, List.mem_cons_self, lists⟩
    rw [copyListed]
    generalize copyIncludedFile fromRoot toRoot seeding relative = result at first here ⊢
    obtain ⟨next, answer⟩ := result
    cases answer with
    | ok was =>
      refine here.trans ((ih next _ (leads.extends first.keeps)).mono ?_)
      rintro names ⟨path, member, lists⟩
      exact ⟨path, List.mem_cons_of_mem _ member, lists⟩
    | error error => exact here

section Reached

variable {tree : FileTree ν α} {front back : List (PathBuf ν)} {state : Seeding ν α}
  {relative : PathBuf ν} {names : List ν}

theorem Reaches.grows (reaches : Reaches fromRoot toRoot tree front state)
    (leads : tree.LeadsTo toRoot real) : Grows real (waysOf front) tree state.tree := by
  obtain ⟨copied, runs⟩ := reaches
  have grows := @copyListed_grows ν α _ fromRoot toRoot real { tree } 0 front leads
  rwa [runs] at grows

theorem Reaches.append (reaches : Reaches fromRoot toRoot tree front state)
    (back : List (PathBuf ν)) : ∃ copied, copyListed fromRoot toRoot { tree } 0 (front ++ back) =
      copyListed fromRoot toRoot state copied back := by
  obtain ⟨copied, runs⟩ := reaches
  exact ⟨copied, by rw [copyListed_append, runs]⟩

theorem Reaches.after (reaches : Reaches fromRoot toRoot tree front state)
    (leads : tree.LeadsTo toRoot real) (relative : PathBuf ν) (back : List (PathBuf ν)) :
    Extends (copyIncludedFile fromRoot toRoot state relative).1.tree
      (copyListed fromRoot toRoot { tree } 0 (front ++ relative :: back)).1.tree := by
  have there := leads.extends (reaches.grows leads).keeps
  obtain ⟨copied, runs⟩ := reaches.append (relative :: back)
  rw [runs, copyListed]
  have next := there.extends (copyIncludedFile_grows fromRoot relative there).keeps
  generalize copyIncludedFile fromRoot toRoot state relative = result at next ⊢
  obtain ⟨after, answer⟩ := result
  cases answer with
  | ok was => exact (copyListed_grows _ _ back next).keeps
  | error error => exact .refl _

theorem CopiesAt.stands (copies : CopiesAt fromRoot toRoot tree front relative)
    (leads : tree.LeadsTo toRoot real) (lists : Lists relative names)
    (reaches : Reaches fromRoot toRoot tree (front ++ relative :: back) state) :
    state.tree.entry (real ++ names) ≠ none := by
  obtain ⟨before, arrives, copied⟩ := copies
  obtain ⟨number, runs⟩ := reaches
  obtain ⟨-, metadata, -, stands⟩ := copyIncludedFile_true
    (leads.extends (arrives.grows leads).keeps) lists copied
  have still := arrives.after leads relative back _ _ stands
  rw [runs] at still
  rw [still]
  exact Option.some_ne_none _

end Reached

end List

section Seeding

variable {fromRoot toRoot : PathBuf ν} {real : List ν}

theorem copyIncludedFiles_tree (tree : FileTree ν α) (paths : List (PathBuf ν)) :
    (copyIncludedFiles fromRoot toRoot tree paths).1 =
      (copyListed fromRoot toRoot { tree } 0 paths).1.tree := by
  unfold copyIncludedFiles
  rcases copyListed fromRoot toRoot { tree } 0 paths with ⟨seeding, answer⟩
  cases answer <;> rfl

/-- An entry with the same names is copied nowhere else. -/
theorem copiesAt_unique {tree : FileTree ν α} {front front' back back' : List (PathBuf ν)}
    {relative relative' : PathBuf ν} {names : List ν} (leads : tree.LeadsTo toRoot real)
    (same : front ++ relative :: back = front' ++ relative' :: back')
    (lists : Lists relative names) (lists' : Lists relative' names)
    (copies : CopiesAt fromRoot toRoot tree front relative)
    (copies' : CopiesAt fromRoot toRoot tree front' relative') : front' = front := by
  have apart {front more : List (PathBuf ν)} {relative relative' : PathBuf ν}
      (lists : Lists relative names) (lists' : Lists relative' names)
      (copies : CopiesAt fromRoot toRoot tree front relative) :
      ¬CopiesAt fromRoot toRoot tree (front ++ relative :: more) relative' := by
    rintro ⟨state, reaches, copied⟩
    exact copies.stands leads lists reaches (copyIncludedFile_true
      (leads.extends (reaches.grows leads).keeps) lists' copied).1
  rcases List.append_eq_append_iff.1 same with ⟨more, later, rest⟩ | ⟨more, later, rest⟩
  · cases more with
    | nil => rw [later, List.append_nil]
    | cons path more =>
      obtain ⟨rfl, -⟩ := List.cons.inj rest
      rw [later] at copies'
      exact absurd copies' (apart lists lists' copies)
  · cases more with
    | nil => rw [later, List.append_nil]
    | cons path more =>
      obtain ⟨rfl, -⟩ := List.cons.inj rest
      rw [later] at copies
      exact absurd copies (apart lists' lists copies')

theorem reaches_or_fails (tree : FileTree ν α) (front : List (PathBuf ν)) :
    (∃ state, Reaches fromRoot toRoot tree front state) ∨
      ∃ earlier relative later state error, front = earlier ++ relative :: later ∧
        Reaches fromRoot toRoot tree earlier state ∧
        (copyIncludedFile fromRoot toRoot state relative).2 = .error error := by
  induction front using List.reverseRecOn with
  | nil => exact .inl ⟨{ tree }, 0, rfl⟩
  | append_singleton front relative ih =>
    rcases ih with ⟨state, reaches⟩ | ⟨earlier, path, later, state, error, rfl, reaches, fails⟩
    · obtain ⟨copied, runs⟩ := reaches.append [relative]
      rw [copyListed] at runs
      cases ends : copyIncludedFile fromRoot toRoot state relative with
      | mk after answer =>
        rw [ends] at runs
        cases answer with
        | ok was => exact .inl ⟨after, _, runs⟩
        | error error =>
          exact .inr ⟨front, relative, [], state, error, rfl, reaches, by rw [ends]⟩
    · exact .inr ⟨earlier, path, later ++ [relative], state, error, by simp, reaches, fails⟩

/-- Seeding leaves everything that stands as it is. Whatever it creates stands below the worktree's
root on the way of a listed plain path, and up to the root it is in directories. A listed file or
link is copied, and no other entry with its names is, if the call comes to it while nothing stands at
its destination and no more than directories on the way there. The call comes to every entry unless it
fails at an earlier one, and it fails at one exactly if that is a plain path the destination of which
cannot be looked up, and neither can its source, otherwise than because there is nothing.
SOURCE: worktree.rs:615-740. -/
theorem seeding_never_overwrites (fromRoot toRoot : PathBuf ν) (tree : FileTree ν α)
    (paths : List (PathBuf ν)) (leads : tree.LeadsTo toRoot real) :
    (∀ place found, tree.entry place = some found →
      (copyIncludedFiles fromRoot toRoot tree paths).1.entry place = some found) ∧
    (∀ place found, (copyIncludedFiles fromRoot toRoot tree paths).1.entry place = some found →
      tree.entry place = none → ∃ relative ∈ paths, ∃ names, Lists relative names ∧
        ∃ front, front <+: names ∧ front ≠ [] ∧ place = real ++ front ∧
          ∀ above, above <+: front → above ≠ front →
            (copyIncludedFiles fromRoot toRoot tree paths).1.entry (real ++ above) = some .dir) ∧
    (∀ front relative back names state metadata, paths = front ++ relative :: back →
      Lists relative names → tree.lstat (fromRoot.join relative) = .ok metadata → metadata ≠ .dir →
      Reaches fromRoot toRoot tree front state → Clear state.tree real names.dropLast →
      state.tree.entry (real ++ names) = none →
        CopiesAt fromRoot toRoot tree front relative ∧
        (copyIncludedFiles fromRoot toRoot tree paths).1.entry (real ++ names) =
          some (copyOf fromRoot relative metadata) ∧
        ∀ front' relative' back', paths = front' ++ relative' :: back' → Lists relative' names →
          CopiesAt fromRoot toRoot tree front' relative' → front' = front) ∧
    (∀ front relative state error, Reaches fromRoot toRoot tree front state →
      ((copyIncludedFile fromRoot toRoot state relative).2 = .error error ↔
        isPlainRelative relative = true ∧
          (∀ found, state.tree.lstat (toRoot.join relative) ≠ .ok found) ∧
          state.tree.lstat (fromRoot.join relative) = .error error ∧ error ≠ .notFound)) ∧
    (∀ front, (∃ state, Reaches fromRoot toRoot tree front state) ∨
      ∃ earlier relative later state error, front = earlier ++ relative :: later ∧
        Reaches fromRoot toRoot tree earlier state ∧
        (copyIncludedFile fromRoot toRoot state relative).2 = .error error) := by
  have grows := @copyListed_grows ν α _ fromRoot toRoot real { tree } 0 paths leads
  rw [copyIncludedFiles_tree]
  refine ⟨grows.keeps, fun place found stands missing => ?_, ?_, ?_, reaches_or_fails tree⟩
  · obtain ⟨names, ⟨relative, member, lists⟩, front, part, some_, rfl⟩ :=
      grows.along place found stands missing
    exact ⟨relative, member, names, lists, front, part, some_, rfl,
      fun above part less => entry_prefix stands part less⟩
  · intro front relative back names state metadata whole lists finds noDir reaches clear missing
    have there := leads.extends (reaches.grows leads).keeps
    have still := lstat_extends finds (reaches.grows leads).keeps
    have copied := copyIncludedFile_copies there lists still noDir clear missing
    have copies : CopiesAt fromRoot toRoot tree front relative := ⟨state, reaches, copied⟩
    obtain ⟨-, metadata', finds', stands⟩ := copyIncludedFile_true there lists copied
    rw [Except.ok.inj (finds'.symm.trans still)] at stands
    refine ⟨copies, ?_, fun front' relative' back' same lists' copies' => ?_⟩
    · rw [whole]
      exact reaches.after leads relative back _ _ stands
    · exact copiesAt_unique leads (whole.symm.trans same) lists lists' copies copies'
  · intro front relative state error reaches
    exact copyIncludedFile_error (leads.extends (reaches.grows leads).keeps)

/-- A checkout at `/1` with the files `5` and `7`, and an empty worktree at `/2`. -/
def sampleTree : FileTree ℕ ℕ :=
  ((((bare.set [1] .dir).set [1, 5] (.file 50)).set [1, 7] (.file 70)).set [2] .dir)

theorem seeding_never_overwrites_sample :
    (copyIncludedFiles ⟨true, [.name 1]⟩ ⟨true, [.name 2]⟩ sampleTree [⟨false, [.name 7]⟩]).1.entry
      ([2] ++ [7]) = some (.file 70) :=
  ((seeding_never_overwrites ⟨true, [.name 1]⟩ ⟨true, [.name 2]⟩ sampleTree [⟨false, [.name 7]⟩]
    ⟨maxLinks, walk_eq_iff.1 rfl⟩).2.2.1 [] ⟨false, [.name 7]⟩ [] [7] { tree := sampleTree } (.file 70)
    rfl ⟨rfl, rfl⟩ rfl nofun ⟨0, rfl⟩
    (fun above part => .inr (by rw [List.prefix_nil.1 part]; rfl)) rfl).2.1

/-- In the checkout at `/1` the file `5` is listed as if it were a directory, before `7`: the call
fails, and `7` is not copied although nothing is in its way. -/
theorem not_copied_after_failure :
    sampleTree.LeadsTo ⟨true, [.name 2]⟩ [2] ∧ Lists (⟨false, [.name 7]⟩ : PathBuf ℕ) [7] ∧
      sampleTree.lstat (PathBuf.join ⟨true, [.name 1]⟩ ⟨false, [.name 7]⟩) = .ok (.file 70) ∧
      Clear sampleTree [2] [] ∧ sampleTree.entry [2, 7] = none ∧
      (copyIncludedFiles ⟨true, [.name 1]⟩ ⟨true, [.name 2]⟩ sampleTree
        [⟨false, [.name 5, .name 6]⟩]).1.entry [2, 7] = none ∧
      (copyIncludedFiles ⟨true, [.name 1]⟩ ⟨true, [.name 2]⟩ sampleTree
        [⟨false, [.name 5, .name 6]⟩, ⟨false, [.name 7]⟩]).1.entry [2, 7] = none :=
  ⟨⟨maxLinks, walk_eq_iff.1 rfl⟩, ⟨rfl, rfl⟩, rfl,
    fun above part => .inr (by rw [List.prefix_nil.1 part]; rfl), rfl, rfl, rfl⟩

end Seeding

end Giskard.Worktree
