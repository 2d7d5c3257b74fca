import Mathlib
import Giskard.Model.PlanFile
import Giskard.Analysis.LinkTargets

/-!
# Where a saved plan lands

The check of the path reads its names alone, and what it lets through is the root followed by the
names that the path resolves to (`safePlanPath_eq`). The directories are then created from the first
missing place on, where the tree leads (`createDirAll_end`), and the file where the whole path leads.
Nothing there keeps to the root if a link on the way does not, so the plan stays in the workspace
exactly if the first missing place and the place of the file are under the root.
-/

set_option autoImplicit false

namespace Giskard.Plan

open Foundation FileTree

/-! ## The path -/

section Path

variable {done : List (List Char)} {components : List (PathPiece (List Char))}

theorem parent_names (done : List (List Char)) (name : List Char) :
    (⟨false, (done ++ [name]).map .name⟩ : PathBuf (List Char)).parent =
      some ⟨false, done.map .name⟩ := by
  have whole : (⟨false, (done ++ [name]).map .name⟩ : PathBuf (List Char)).components =
      (done ++ [name]).map .name := by
    cases done with
    | nil => rfl
    | cons first done => exact way_names (first :: done ++ [name])
  unfold PathBuf.parent
  rw [whole, if_neg (by simp), List.map_append, List.map_singleton, List.dropLast_concat]

/-- A path that stays within the root resolves to names. -/
theorem resolveComponents_some (stays : StaysWithin done.length components) :
    resolveComponents ⟨false, done.map .name⟩ components =
      some ⟨false, (resolve done components).map .name⟩ := by
  induction components generalizing done with
  | nil => rfl
  | cons component components ih =>
    cases component with
    | stay => exact ih (staysWithin_cons_stay.1 stays)
    | name name =>
      have further : PathBuf.push ⟨false, done.map .name⟩ name =
          ⟨false, (done ++ [name]).map PathPiece.name⟩ := by
        rw [List.map_append]
        rfl
      rw [resolveComponents, further]
      refine ih ?_
      rw [List.length_append, List.length_singleton]
      exact staysWithin_cons_name.1 stays
    | parent =>
      cases done using List.reverseRecOn with
      | nil => exact absurd stays not_staysWithin_parent
      | append_singleton done name =>
        rw [List.length_append, List.length_singleton] at stays
        rw [resolveComponents, parent_names]
        dsimp only
        rw [ih (staysWithin_cons_parent.1 stays), resolve_cons, PathPiece.step, List.dropLast_concat]

theorem resolveComponents_none (climbs : ¬StaysWithin done.length components) :
    resolveComponents ⟨false, done.map .name⟩ components = none := by
  induction components generalizing done with
  | nil => exact absurd (staysWithin_nil _) climbs
  | cons component components ih =>
    cases component with
    | stay => exact ih fun stays => climbs (staysWithin_cons_stay.2 stays)
    | name name =>
      have further : PathBuf.push ⟨false, done.map .name⟩ name =
          ⟨false, (done ++ [name]).map PathPiece.name⟩ := by
        rw [List.map_append]
        rfl
      rw [resolveComponents, further]
      refine ih fun stays => climbs (staysWithin_cons_name.2 ?_)
      rwa [List.length_append, List.length_singleton] at stays
    | parent =>
      cases done using List.reverseRecOn with
      | nil => rfl
      | append_singleton done name =>
        rw [List.length_append, List.length_singleton] at climbs
        rw [resolveComponents, parent_names]
        exact ih fun stays => climbs (staysWithin_cons_parent.2 stays)

/-- The pieces of a requested path. -/
def piecesOf (requested : List Char) : List (PathPiece (List Char)) :=
  (pathOf (requested.dropWhile (· = '/'))).pieces

theorem pathOf_relative (requested : List Char) :
    (pathOf (requested.dropWhile (· = '/'))).isAbsolute = false := by
  unfold pathOf
  split
  · rfl
  · next some_ =>
    refine decide_eq_false fun first => ?_
    have kept := List.head?_dropWhile_not (fun c : Char => decide (c = '/')) requested
    rw [first] at kept
    cases kept

theorem safePlanPath_eq {requested : List Char} (root : PathBuf (List Char))
    (stays : StaysWithin 0 (piecesOf requested)) (some_ : resolve [] (piecesOf requested) ≠ []) :
    safePlanPath root requested = some (root.below (resolve [] (piecesOf requested))) := by
  unfold safePlanPath
  dsimp only
  rw [pathOf_relative, if_neg Bool.false_ne_true]
  have inside : StaysWithin ([] : List (List Char)).length
      (pathOf (requested.dropWhile (· = '/'))).components := staysWithin_components.2 stays
  have resolved := resolveComponents_some inside
  rw [resolve_components] at resolved
  change resolveComponents .empty _ = _ at resolved
  rw [resolved]
  dsimp only
  exact if_neg fun nothing => some_ (List.map_eq_nil_iff.1 (List.isEmpty_iff.1 nothing))

theorem safePlanPath_none {requested : List Char} (root : PathBuf (List Char))
    (refused : StaysWithin 0 (piecesOf requested) → resolve [] (piecesOf requested) = []) :
    safePlanPath root requested = none := by
  unfold safePlanPath
  dsimp only
  rw [pathOf_relative, if_neg Bool.false_ne_true]
  by_cases stays : StaysWithin 0 (piecesOf requested)
  · have inside : StaysWithin ([] : List (List Char)).length
        (pathOf (requested.dropWhile (· = '/'))).components := staysWithin_components.2 stays
    have resolved := resolveComponents_some inside
    rw [resolve_components] at resolved
    change resolveComponents .empty _ = some ⟨false, (resolve [] (piecesOf requested)).map .name⟩
      at resolved
    rw [resolved, refused stays]
    rfl
  · have climbs : ¬StaysWithin ([] : List (List Char)).length
        (pathOf (requested.dropWhile (· = '/'))).components :=
      fun inside => stays (staysWithin_components.1 inside)
    have refuses := resolveComponents_none climbs
    change resolveComponents .empty _ = none at refuses
    rw [refuses]

end Path

/-! ## The directories -/

section Directories

variable {root : PathBuf (List Char)} {names : List (List Char)} {disk : Disk}

/-- The root with its pieces as `parent` leaves them. -/
def plainRoot (root : PathBuf (List Char)) : PathBuf (List Char) := ⟨root.isAbsolute, root.components⟩

theorem filter_components (path : PathBuf (List Char)) :
    path.components.filter (fun piece => !piece.isStay) =
      path.pieces.filter fun piece => !piece.isStay := by
  unfold PathBuf.components
  split
  · next rest _ same =>
    rw [same]
    change (rest.filter _).filter _ = rest.filter _
    exact List.filter_filter.trans (by simp)
  · exact List.filter_filter.trans (by simp)

theorem plainRoot_moving (root : PathBuf (List Char)) (names : List (List Char)) :
    ((plainRoot root).below names).pieces.filter (fun piece => !piece.isStay) =
      (root.below names).pieces.filter fun piece => !piece.isStay := by
  unfold PathBuf.below plainRoot
  rw [List.filter_append, List.filter_append, filter_components]

theorem leadsTo_plainRoot {tree : FileTree (List Char) (List Char)} {dir : List (List Char)} :
    tree.LeadsTo ((plainRoot root).below names) dir ↔ tree.LeadsTo (root.below names) dir :=
  ⟨fun leads => leads.moving (plainRoot_moving root names).symm,
    fun leads => leads.moving (plainRoot_moving root names)⟩

theorem firstMissing_plainRoot {tree : FileTree (List Char) (List Char)}
    {place : List (List Char)} :
    FirstMissing tree (plainRoot root) names place ↔ FirstMissing tree root names place := by
  unfold FirstMissing
  simp only [leadsTo_plainRoot]

theorem taken_plainRoot : taken ((plainRoot root).below names) = taken (root.below names) := by
  have moving (path : PathBuf (List Char)) :
      path.pieces.any hasNul = (path.pieces.filter fun piece => !piece.isStay).any hasNul := by
    rw [List.any_filter]
    congr 1
    funext piece
    cases piece <;> rfl
  unfold taken
  rw [moving, plainRoot_moving, ← moving]

theorem components_below (root : PathBuf (List Char)) (names : List (List Char)) :
    (root.below names).components = root.components ++ names.map .name := by
  have moving (pieces : List (PathPiece (List Char))) :
      (pieces ++ names.map PathPiece.name).filter (fun piece => !piece.isStay) =
        pieces.filter (fun piece => !piece.isStay) ++ names.map PathPiece.name := by
    rw [List.filter_append]
    exact congrArg _ (way_names names)
  obtain ⟨isAbsolute, pieces⟩ := root
  cases isAbsolute with
  | true => exact moving pieces
  | false =>
    cases pieces with
    | nil =>
      cases names with
      | nil => rfl
      | cons name names => exact moving []
    | cons piece pieces =>
      cases piece with
      | stay => exact congrArg _ (moving pieces)
      | parent => exact moving (.parent :: pieces)
      | name name => exact moving (.name name :: pieces)

theorem parent_below (root : PathBuf (List Char)) (names : List (List Char)) (name : List Char) :
    (root.below (names ++ [name])).parent = some ((plainRoot root).below names) := by
  unfold PathBuf.parent
  rw [components_below, if_neg (by simp), List.map_append, ← List.append_assoc, List.map_singleton,
    List.dropLast_concat]
  rfl

/-- How creating all directories on the way of names ends: they were there; they are created from the
first missing place on; or something else is in the way, and nothing is created. -/
inductive DirsEnd (disk : Disk) (root : PathBuf (List Char)) (names : List (List Char)) :
    Disk × Except PathError Unit → Prop
  | there {dir : List (List Char)} (leads : disk.tree.LeadsTo (root.below names) dir) :
      DirsEnd disk root names (disk, .ok ())
  | made {place dir : List (List Char)} (first : FirstMissing disk.tree root names place)
      {after : Disk} (keeps : Extends disk.tree after.tree)
      (leads : after.tree.LeadsTo (root.below names) dir) (under : place <+: dir)
      (nothing : ∀ n, after.tree.entry (dir ++ [n]) = none) {new : List (List (List Char))}
      (touched : after.touched = disk.touched ++ new) (here : place ∈ new)
      (all : ∀ other ∈ new, place <+: other)
      (changed : ∀ other, after.tree.entry other ≠ disk.tree.entry other → other ∈ new) :
      DirsEnd disk root names (after, .ok ())
  | refused {error : PathError} (fails : ∀ dir, ¬disk.tree.LeadsTo (root.below names) dir)
      (full : ∀ place, ¬FirstMissing disk.tree root names place) :
      DirsEnd disk root names (disk, .error error)

theorem DirsEnd.plainRoot {result : Disk × Except PathError Unit}
    (ends : DirsEnd disk (plainRoot root) names result) : DirsEnd disk root names result := by
  cases ends with
  | there leads => exact .there (leadsTo_plainRoot.1 leads)
  | made first keeps leads under nothing touched here all changed =>
    exact .made (firstMissing_plainRoot.1 first) keeps (leadsTo_plainRoot.1 leads) under nothing touched
      here all changed
  | refused fails full =>
    exact .refused (fun dir leads => fails dir (leadsTo_plainRoot.2 leads))
      (fun place first => full place (firstMissing_plainRoot.2 first))

theorem mkdir_below {dir : List (List Char)} {name : List Char}
    (takes : taken (root.below (names ++ [name])) = true)
    (leads : disk.tree.LeadsTo (root.below names) dir) :
    disk.mkdir (root.below (names ++ [name])) =
      if disk.tree.entry (dir ++ [name]) = none then
        .ok ⟨disk.tree.set (dir ++ [name]) .dir, disk.touched ++ [dir ++ [name]]⟩
      else .error .alreadyExists := by
  obtain ⟨left, walk⟩ := leads.walk_below name
  unfold Disk.mkdir FileTree.mkdir newPlace
  rw [takes]
  cases here : disk.tree.entry (dir ++ [name]) with
  | none =>
    rw [walk false _ (.free left here)]
    rfl
  | some found =>
    rw [if_neg (Option.some_ne_none _)]
    cases found with
    | dir => rw [walk false _ (.down here (.done _ _))]; rfl
    | file content => rw [walk false _ (.file left here)]; rfl
    | link target => rw [walk false _ (.link left here rfl)]; rfl

theorem createDirAll_eq (disk : Disk) (path : PathBuf (List Char)) :
    createDirAll disk path =
      if !path.isAbsolute && path.pieces.isEmpty then (disk, .ok ())
      else
        match disk.mkdir path with
        | .ok disk => (disk, .ok ())
        | .error .notFound =>
          match path.parent with
          | none => (disk, .error .notFound)
          | some above =>
            match createDirAll disk above with
            | (disk, .error error) => (disk, .error error)
            | (disk, .ok ()) =>
              match disk.mkdir path with
              | .ok disk => (disk, .ok ())
              | .error error => (disk, if disk.isDir path then .ok () else .error error)
        | .error error => (disk, if disk.isDir path then .ok () else .error error) := by
  rw [createDirAll]
  split
  · rfl
  · cases disk.mkdir path with
    | ok disk => rfl
    | error error =>
      cases error with
      | notFound =>
        dsimp only
        split
        · next nothing => simp only [nothing]
        · next above some_ => simp only [some_] <;> rfl
      | _ => rfl

theorem walk_refused (fails : ∀ dir, ¬disk.tree.LeadsTo (root.below names) dir) (name : List Char) :
    ∃ error, ∀ follow,
      disk.tree.walk follow maxLinks [] (root.below (names ++ [name])).pieces = .error error ∧
        ∀ place, FirstMissing disk.tree root (names ++ [name]) place → error = .notFound := by
  cases ends : (disk.tree.walk true maxLinks [] (root.below names).pieces).beyond with
  | none => exact absurd (leadsTo_iff.2 ends) fun ⟨dir, leads⟩ => fails dir leads
  | some error =>
    refine ⟨error, fun follow => ⟨walk_beyond ends name follow, fun place first => ?_⟩⟩
    rcases firstMissing_concat.1 first with first | ⟨dir, leads, -⟩
    · exact Option.some.inj (ends.symm.trans first.beyond)
    · exact absurd leads (fails dir)

theorem isDir_below (takes : taken (root.below names) = true) :
    disk.isDir (root.below names) = true ↔ ∃ dir, disk.tree.LeadsTo (root.below names) dir := by
  unfold Disk.isDir
  rw [takes, Bool.true_and, isDir_iff]

theorem nothing_below {tree : FileTree (List Char) (List Char)} {dir : List (List Char)}
    {name : List Char} (isDir : tree.entry dir = some .dir)
    (free : tree.entry (dir ++ [name]) = none) (n : List Char) :
    (tree.set (dir ++ [name]) .dir).entry (dir ++ [name] ++ [n]) = none := by
  rw [set_entry isDir free, if_neg (by simp)]
  cases stands : tree.entry (dir ++ [name] ++ [n]) with
  | none => rfl
  | some found => cases free.symm.trans (tree.inDir _ _ _ stands)

theorem DirsEnd.first {dir : List (List Char)} {name : List Char}
    (leads : disk.tree.LeadsTo (root.below names) dir)
    (free : disk.tree.entry (dir ++ [name]) = none) :
    DirsEnd disk root (names ++ [name])
      (⟨disk.tree.set (dir ++ [name]) .dir, disk.touched ++ [dir ++ [name]]⟩, .ok ()) := by
  have larger := extends_set leads.isDir free (.dir : TreeEntry (List Char) (List Char))
  have next : (disk.tree.set (dir ++ [name]) .dir).entry (dir ++ [name]) = some .dir := by
    rw [set_entry leads.isDir free, if_pos rfl]
  refine .made (firstMissing_concat.2 (.inr ⟨dir, leads, free, rfl⟩)) larger
    ((leads.extends larger).below_dir next) List.prefix_rfl (nothing_below leads.isDir free) rfl
    (List.mem_singleton_self _) (fun other member => ?_) (fun other differs => ?_)
  · rw [List.mem_singleton.1 member]
  · change (disk.tree.set (dir ++ [name]) .dir).entry other ≠ _ at differs
    rw [set_entry leads.isDir free] at differs
    split at differs
    · next same => exact List.mem_singleton.2 same
    · exact absurd rfl differs

/-- The rest of the directories, once those above are there. -/
theorem DirsEnd.further {after : Disk} {name : List Char}
    (takes : taken (root.below (names ++ [name])) = true)
    (above : DirsEnd disk root names (after, .ok ()))
    (fails : ∀ dir, ¬disk.tree.LeadsTo (root.below names) dir) :
    DirsEnd disk root (names ++ [name])
      (match after.mkdir (root.below (names ++ [name])) with
      | .ok disk => (disk, .ok ())
      | .error error =>
        (after, if after.isDir (root.below (names ++ [name])) then .ok () else .error error)) := by
  cases above with
  | there leads => exact absurd leads (fails _)
  | @made place dir first after keeps leads under nothing new touched here all changed =>
    have free := nothing name
    rw [mkdir_below takes leads, if_pos free]
    have larger := extends_set leads.isDir free (.dir : TreeEntry (List Char) (List Char))
    have next : (after.tree.set (dir ++ [name]) .dir).entry (dir ++ [name]) = some .dir := by
      rw [set_entry leads.isDir free, if_pos rfl]
    refine .made (firstMissing_concat.2 (.inl first)) (keeps.trans larger)
      ((leads.extends larger).below_dir next) (under.trans (List.prefix_append _ _))
      (nothing_below leads.isDir free) ?_ (List.mem_append_left [dir ++ [name]] here) ?_ ?_
    · change after.touched ++ [dir ++ [name]] = disk.touched ++ (new ++ [dir ++ [name]])
      rw [touched, List.append_assoc]
    · intro other member
      rcases List.mem_append.1 member with member | member
      · exact all other member
      · rw [List.mem_singleton.1 member]
        exact under.trans (List.prefix_append _ _)
    · intro other differs
      change (after.tree.set (dir ++ [name]) .dir).entry other ≠ _ at differs
      rw [set_entry leads.isDir free] at differs
      split at differs
      · next same => exact List.mem_append_right _ (List.mem_singleton.2 same)
      · exact List.mem_append_left _ (changed other differs)

theorem mkdir_walk {error : PathError} {path : PathBuf (List Char)} (takes : taken path = true)
    (fails : disk.tree.walk false maxLinks [] path.pieces = .error error) :
    disk.mkdir path = .error error := by
  unfold Disk.mkdir FileTree.mkdir
  rw [takes, fails]
  rfl

theorem mkdir_found {path : PathBuf (List Char)} (takes : taken path = true)
    (isDir : ∃ dir, disk.tree.LeadsTo path dir) : disk.mkdir path = .error .alreadyExists := by
  obtain ⟨dir, left, walks⟩ := isDir
  obtain ⟨_, _, found, on⟩ := walks.unfollowed rfl
  unfold Disk.mkdir FileTree.mkdir
  rw [takes, on.eq]
  rfl

theorem below_pieces_concat (root : PathBuf (List Char)) (names : List (List Char))
    (name : List Char) : (root.below (names ++ [name])).pieces.isEmpty = false := by
  rw [below_concat_pieces]
  exact List.isEmpty_eq_false_iff.2 (List.append_ne_nil_of_right_ne_nil _ (List.cons_ne_nil _ _))

theorem taken_below {name : List Char} (takes : taken (root.below (names ++ [name])) = true) :
    taken (root.below names) = true := by
  unfold taken at takes ⊢
  rw [below_concat_pieces, List.any_append, Bool.not_or, Bool.and_eq_true] at takes
  exact takes.1

/-- Creating all directories on the way of names goes one of the ways. -/
theorem createDirAll_end {real : List (List Char)} (names : List (List Char))
    (root : PathBuf (List Char)) (takes : taken (root.below names) = true)
    (leads : disk.tree.LeadsTo root real) :
    DirsEnd disk root names (createDirAll disk (root.below names)) := by
  induction names using List.reverseRecOn generalizing root with
  | nil =>
    have whole : root.below [] = root := by
      unfold PathBuf.below
      rw [List.map_nil, List.append_nil]
    rw [whole] at takes ⊢
    have there : disk.tree.LeadsTo (root.below []) real := whole.symm ▸ leads
    rw [createDirAll_eq]
    split
    · exact .there there
    · rw [mkdir_found takes ⟨real, leads⟩]
      dsimp only
      have isDir : disk.isDir (root.below []) = true :=
        (isDir_below (by rw [whole]; exact takes)).2 ⟨real, there⟩
      rw [whole] at isDir
      rw [isDir]
      exact .there there
  | append_singleton names name ih =>
    rw [createDirAll_eq, below_pieces_concat, Bool.and_false, if_neg Bool.false_ne_true]
    by_cases leading : ∃ dir, disk.tree.LeadsTo (root.below names) dir
    · obtain ⟨dir, here⟩ := leading
      rw [mkdir_below takes here]
      by_cases free : disk.tree.entry (dir ++ [name]) = none
      · rw [if_pos free]
        exact .first here free
      · rw [if_neg free]
        dsimp only
        split
        · next isDir =>
          obtain ⟨place, there⟩ := (isDir_below takes).1 isDir
          exact .there there
        · next fails =>
          refine .refused (fun place there => fails ((isDir_below takes).2 ⟨place, there⟩))
            fun place first => ?_
          rcases firstMissing_concat.1 first with first | ⟨dir', leads', missing, -⟩
          · exact first.not_leadsTo here
          · rw [here.unique leads'] at free
            exact free missing
    · have fails (dir : List (List Char)) : ¬disk.tree.LeadsTo (root.below names) dir :=
        fun there => leading ⟨dir, there⟩
      obtain ⟨error, ends⟩ := walk_refused fails name
      have nowhere (dir : List (List Char)) : ¬disk.tree.LeadsTo (root.below (names ++ [name])) dir := by
        intro there
        have none := leadsTo_iff.1 ⟨dir, there⟩
        rw [(ends true).1] at none
        cases none
      have noDir : disk.isDir (root.below (names ++ [name])) = false := by
        rw [← Bool.not_eq_true, isDir_below takes]
        exact fun ⟨dir, there⟩ => nowhere dir there
      rw [mkdir_walk takes (ends false).1, parent_below]
      have above := (ih (plainRoot root) (by rw [taken_plainRoot]; exact taken_below takes)
        (leads.moving (filter_components root))).plainRoot
      by_cases missing : error = .notFound
      · rw [missing]
        dsimp only
        generalize createDirAll disk ((plainRoot root).below names) = result at above ⊢
        obtain ⟨after, answer⟩ := result
        cases answer with
        | ok _ => exact above.further takes fails
        | error error =>
          cases above with
          | refused _ full =>
            refine .refused nowhere fun place first => ?_
            rcases firstMissing_concat.1 first with first | ⟨dir, there, -⟩
            · exact full place first
            · exact fails dir there
      · have refused : DirsEnd disk root (names ++ [name]) (disk, .error error) :=
          .refused nowhere fun place first => missing ((ends true).2 place first)
        cases error with
        | notFound => exact absurd rfl missing
        | _ => dsimp only; rw [noDir]; exact refused

theorem createDirAll_untaken {path : PathBuf (List Char)} (refused : taken path = false) :
    createDirAll disk path = (disk, .error .invalidInput) := by
  have some_ : path.pieces.isEmpty = false := by
    cases whole : path.pieces with
    | nil =>
      unfold taken at refused
      rw [whole] at refused
      cases refused
    | cons piece pieces => rfl
  rw [createDirAll_eq, some_, Bool.and_false, if_neg Bool.false_ne_true]
  unfold Disk.mkdir Disk.isDir
  rw [refused]
  rfl

end Directories

/-! ## The file -/

section File

variable {root path : PathBuf (List Char)} {names : List (List Char)} {disk : Disk}
  {tree : FileTree (List Char) (List Char)}

/-- How writing the file ends. -/
inductive WriteEnd (disk : Disk) (path : PathBuf (List Char)) : Except PathError Disk → Prop
  | failed {error : PathError}
      (nowhere : taken path = true → ∀ place, disk.tree.filePlace path ≠ some place) :
      WriteEnd disk path (.error error)
  | written {after : Disk} {place : List (List Char)} (takes : taken path = true)
      (here : disk.tree.filePlace path = some place) (touched : after.touched = disk.touched ++ [place])
      (changed : ∀ other, after.tree.entry other ≠ disk.tree.entry other → other = place) :
      WriteEnd disk path (.ok after)

theorem set_changed {place other : List (List Char)} {value : TreeEntry (List Char) (List Char)}
    (differs : (tree.set place value).entry other ≠ tree.entry other) : other = place := by
  by_contra elsewhere
  exact differs (if_neg fun holds => elsewhere holds.1)

theorem write_end (disk : Disk) (path : PathBuf (List Char)) (content : List Char) :
    WriteEnd disk path (disk.write path content) := by
  unfold Disk.write
  cases takes : taken path with
  | false => exact .failed fun takes' => nomatch takes.symm.trans takes'
  | true =>
    rw [if_neg (by exact Bool.false_ne_true)]
    unfold FileTree.write
    cases spot : disk.tree.walk true maxLinks [] path.pieces with
    | error error =>
      refine .failed fun _ place some_ => ?_
      unfold filePlace at some_
      rw [spot] at some_
      cases some_
    | free dir n =>
      have here : disk.tree.filePlace path = some (dir ++ [n]) := by
        unfold filePlace
        rw [spot]
      exact .written takes here (by rw [here]; rfl) fun other differs => set_changed differs
    | found left place found =>
      cases found with
      | file content =>
        have here : disk.tree.filePlace path = some place := by
          unfold filePlace
          rw [spot]
        exact .written takes here (by rw [here]; rfl) fun other differs => set_changed differs
      | dir =>
        refine .failed fun _ place some_ => ?_
        unfold filePlace at some_
        rw [spot] at some_
        cases some_
      | link target =>
        refine .failed fun _ place some_ => ?_
        unfold filePlace at some_
        rw [spot] at some_
        cases some_

/-- Where a plan lands below a root: at the first missing directory, or where its whole path leads to
a file or a free name. -/
def Lands (tree : FileTree (List Char) (List Char)) (root : PathBuf (List Char))
    (names place : List (List Char)) : Prop :=
  (∃ dir last, names = dir ++ [last] ∧ taken (root.below dir) = true ∧
      FirstMissing tree root dir place) ∨
    taken (root.below names) = true ∧ tree.filePlace (root.below names) = some place

/-- The places that a save touches or changes. -/
def Reached (tree : FileTree (List Char) (List Char)) (after : Disk) (place : List (List Char)) : Prop :=
  place ∈ after.touched ∨ after.tree.entry place ≠ tree.entry place

/-- All that is reached is where the plan lands, or below. -/
def LandsIn (tree : FileTree (List Char) (List Char)) (root : PathBuf (List Char))
    (names : List (List Char)) (after : Disk) : Prop :=
  (∀ place, Reached tree after place → ∃ landing, Lands tree root names landing ∧ landing <+: place) ∧
    ∀ landing, Lands tree root names landing → landing ∈ after.touched

theorem landsIn_nothing (nowhere : ∀ place, ¬Lands tree root names place) :
    LandsIn tree root names { tree } := by
  refine ⟨fun place reached => ?_, fun landing lands => absurd lands (nowhere landing)⟩
  rcases reached with member | differs
  · cases member
  · exact absurd rfl differs

theorem lands_concat {dir place : List (List Char)} {last : List Char} :
    Lands tree root (dir ++ [last]) place ↔
      taken (root.below dir) = true ∧ FirstMissing tree root dir place ∨
        taken (root.below (dir ++ [last])) = true ∧
          tree.filePlace (root.below (dir ++ [last])) = some place := by
  refine or_congr ⟨?_, fun ⟨takes, first⟩ => ⟨dir, last, rfl, takes, first⟩⟩ Iff.rfl
  rintro ⟨dir', last', same, takes, first⟩
  obtain ⟨rfl, -⟩ := List.append_inj' same rfl
  exact ⟨takes, first⟩

/-- Creating the directories and the file reaches where the plan lands. -/
theorem writePlan_landsIn {real : List (List Char)} (errorText : PathError → List Char)
    (markdown : List Char) (dir : List (List Char)) (last : List Char)
    (leads : tree.LeadsTo root real) :
    LandsIn tree root (dir ++ [last])
      (writePlan errorText { tree } root (root.below (dir ++ [last])) markdown).1 := by
  unfold writePlan
  rw [parent_below]
  dsimp only
  cases takes : taken (root.below dir) with
  | false =>
    rw [createDirAll_untaken (by rw [taken_plainRoot]; exact takes)]
    refine landsIn_nothing fun place lands => ?_
    rcases lands_concat.1 lands with ⟨takes', -⟩ | ⟨takes', -⟩
    · cases takes.symm.trans takes'
    · cases takes.symm.trans (taken_below takes')
  | true =>
    have ends := (@createDirAll_end { tree } real dir (plainRoot root)
      (by rw [taken_plainRoot]; exact takes) (leads.moving (filter_components root))).plainRoot
    generalize createDirAll { tree } ((plainRoot root).below dir) = result at ends ⊢
    cases ends with
    | refused fails full =>
      refine landsIn_nothing fun place lands => ?_
      rcases lands_concat.1 lands with ⟨-, first⟩ | ⟨-, here⟩
      · exact full place first
      · obtain ⟨error, walk⟩ := walk_refused fails last
        unfold filePlace at here
        rw [(walk true).1] at here
        cases here
    | @there there leadsThere =>
      have written := write_end { tree } (root.below (dir ++ [last])) markdown
      dsimp only
      generalize Disk.write { tree } (root.below (dir ++ [last])) markdown = result at written ⊢
      cases written with
      | failed nowhere =>
        refine landsIn_nothing fun place lands => ?_
        rcases lands_concat.1 lands with ⟨-, first⟩ | ⟨takes, here⟩
        · exact first.not_leadsTo leadsThere
        · exact nowhere takes place here
      | @written after place takes here touched changed =>
        have only : Lands tree root (dir ++ [last]) place := lands_concat.2 (.inr ⟨takes, here⟩)
        have same : after.touched = [place] := touched
        refine ⟨fun other reached => ⟨place, only, ?_⟩, fun landing lands => ?_⟩
        · rcases reached with member | differs
          · rw [same] at member
            rw [List.mem_singleton.1 member]
          · rw [changed other differs]
        · rcases lands_concat.1 lands with ⟨-, first⟩ | ⟨-, there⟩
          · exact absurd leadsThere first.not_leadsTo
          · show landing ∈ after.touched
            rw [same, Option.some.inj (there.symm.trans here)]
            exact List.mem_singleton_self _
    | @made place dir' first between keeps leadsThere under nothing new touched here all changed =>
      have only : Lands tree root (dir ++ [last]) place := lands_concat.2 (.inl ⟨takes, first⟩)
      have unique (landing : List (List Char)) (lands : Lands tree root (dir ++ [last]) landing) :
          landing = place := by
        rcases lands_concat.1 lands with ⟨-, first'⟩ | ⟨-, there⟩
        · exact first'.unique first
        · unfold filePlace at there
          rw [walk_beyond first.beyond last true] at there
          cases there
      have fresh : between.touched = new := touched
      have written := write_end between (root.below (dir ++ [last])) markdown
      dsimp only
      generalize between.write (root.below (dir ++ [last])) markdown = result at written ⊢
      cases written with
      | failed nowhere =>
        refine ⟨fun other reached => ⟨place, only, ?_⟩, fun landing lands => ?_⟩
        · rcases reached with member | differs
          · exact all other (fresh ▸ member)
          · exact all other (changed other differs)
        · rw [unique landing lands]
          exact fresh.symm ▸ here
      | @written after file takes at_ added changed' =>
        have below : place <+: file := by
          obtain ⟨left, walk⟩ := leadsThere.walk_below last
          unfold filePlace at at_
          rw [walk true _ (.free left (nothing last))] at at_
          rw [← Option.some.inj at_]
          exact under.trans (List.prefix_append _ _)
        rw [fresh] at added
        refine ⟨fun other reached => ⟨place, only, ?_⟩, fun landing lands => ?_⟩
        · rcases reached with member | differs
          · have member : other ∈ after.touched := member
            rw [added] at member
            rcases List.mem_append.1 member with member | member
            · exact all other member
            · rw [List.mem_singleton.1 member]
              exact below
          · by_cases here' : between.tree.entry other = tree.entry other
            · rw [changed' other (fun same => differs (same.trans here'))]
              exact below
            · exact all other (changed other here')
        · rw [unique landing lands]
          show place ∈ after.touched
          rw [added]
          exact List.mem_append_left _ here

end File

/-! ## The save -/

section Save

variable {env : SaveEnv} {tree : FileTree (List Char) (List Char)} {requestedPath : List Char}

/-- The save comes to the check of a path below a root. -/
def SavesTo (env : SaveEnv) (requestedPath : List Char) (root : PathBuf (List Char))
    (requested : List Char) : Prop :=
  ∃ title turns config, env.title = .ok title ∧ env.workspace = .ok root ∧ env.turns = .ok turns ∧
    (extractPlanMarkdown title turns).isSome ∧ env.config = .ok config ∧
    requested = planPath config title env.ts requestedPath

theorem SavesTo.unique {root root' : PathBuf (List Char)} {requested requested' : List Char}
    (saves : SavesTo env requestedPath root requested)
    (saves' : SavesTo env requestedPath root' requested') : root = root' ∧ requested = requested' := by
  obtain ⟨title, turns, config, titled, workspace, -, -, configured, rfl⟩ := saves
  obtain ⟨title', turns', config', titled', workspace', -, -, configured', rfl⟩ := saves'
  rw [Except.ok.inj (titled.symm.trans titled'), Except.ok.inj (configured.symm.trans configured')]
  exact ⟨Except.ok.inj (workspace.symm.trans workspace'), rfl⟩

/-- A save comes to the check, or nothing is reached. -/
theorem savePlan_cases (env : SaveEnv) (tree : FileTree (List Char) (List Char))
    (requestedPath : List Char) :
    (∃ error, savePlan env tree requestedPath = ({ tree }, .error error) ∧
      ∀ root requested, ¬SavesTo env requestedPath root requested) ∨
    ∃ root requested markdown, SavesTo env requestedPath root requested ∧
      savePlan env tree requestedPath =
        match safePlanPath root requested with
        | none => ({ tree }, .error "path escapes workspace root".toList)
        | some target => writePlan env.errorText { tree } root target markdown := by
  unfold savePlan SavesTo
  cases env.title with
  | error error => exact .inl ⟨error, rfl, nofun⟩
  | ok title =>
    cases env.workspace with
    | error error => exact .inl ⟨_, rfl, nofun⟩
    | ok root =>
      cases env.turns with
      | error error => exact .inl ⟨error, rfl, nofun⟩
      | ok turns =>
        dsimp only
        cases plan : extractPlanMarkdown title turns with
        | none =>
          refine .inl ⟨_, rfl, ?_⟩
          rintro root' requested ⟨title', turns', config', titled, -, turned, some_, -⟩
          rw [← Except.ok.inj titled, ← Except.ok.inj turned, plan] at some_
          cases some_
        | some markdown =>
          cases env.config with
          | error error => exact .inl ⟨error, rfl, nofun⟩
          | ok config =>
            refine .inr ⟨root, _, markdown, ⟨title, turns, config, rfl, rfl, rfl, ?_, rfl, rfl⟩, rfl⟩
            rw [plan]
            rfl

theorem not_reached_nothing (place : List (List Char)) : ¬Reached tree { tree } place := by
  rintro (member | differs)
  · cases member
  · exact differs rfl

/-- Everything that a save creates or writes over, links followed, is under the workspace's root, and
a path that climbs above the root is refused and nothing is reached, exactly if the places where the
plan lands are under the root: the first missing directory on the way of the names that the path
resolves to, and the place of the file that the whole way leads to. SOURCE: plan.rs:48-100,
ws.rs:2130-2183. -/
theorem plan_lands_in_workspace_iff (env : SaveEnv) (tree : FileTree (List Char) (List Char))
    (requestedPath : List Char) (real : List (List Char))
    (leads : ∀ root, env.workspace = .ok root → tree.LeadsTo root real) :
    ((∀ place, Reached tree (savePlan env tree requestedPath).1 place → real <+: place) ∧
      ∀ root requested, SavesTo env requestedPath root requested →
        ¬StaysWithin 0 (piecesOf requested) →
          (∃ error, (savePlan env tree requestedPath).2 = .error error) ∧
          ∀ place, ¬Reached tree (savePlan env tree requestedPath).1 place) ↔
    ∀ root requested, SavesTo env requestedPath root requested → StaysWithin 0 (piecesOf requested) →
      resolve [] (piecesOf requested) ≠ [] →
        ∀ place, Lands tree root (resolve [] (piecesOf requested)) place → real <+: place := by
  rcases savePlan_cases env tree requestedPath with
    ⟨error, result, never⟩ | ⟨root, requested, markdown, saves, result⟩
  · rw [result]
    exact ⟨fun _ root requested saves => absurd saves (never root requested), fun _ =>
      ⟨fun place reached => absurd reached (not_reached_nothing place),
        fun root requested saves => absurd saves (never root requested)⟩⟩
  · have rooted : tree.LeadsTo root real := by
      obtain ⟨-, -, -, -, workspace, -⟩ := saves
      exact leads root workspace
    rw [result]
    by_cases passes : StaysWithin 0 (piecesOf requested) ∧ resolve [] (piecesOf requested) ≠ []
    · rw [safePlanPath_eq root passes.1 passes.2]
      have landsIn : LandsIn tree root (resolve [] (piecesOf requested))
          (writePlan env.errorText { tree } root (root.below (resolve [] (piecesOf requested)))
            markdown).1 := by
        rcases List.eq_nil_or_concat' (resolve [] (piecesOf requested)) with
          nothing | ⟨dir, last, split⟩
        · exact absurd nothing passes.2
        · rw [split]
          exact writePlan_landsIn env.errorText markdown dir last rooted
      constructor
      · rintro ⟨inside, -⟩ root' requested' saves' - - place lands
        obtain ⟨rfl, rfl⟩ := saves.unique saves'
        exact inside place (.inl (landsIn.2 place lands))
      · intro inside
        refine ⟨fun place reached => ?_, fun root' requested' saves' climbs => ?_⟩
        · obtain ⟨landing, lands, under⟩ := landsIn.1 place reached
          exact (inside root requested saves passes.1 passes.2 landing lands).trans under
        · obtain ⟨rfl, rfl⟩ := saves.unique saves'
          exact absurd passes.1 climbs
    · have none := safePlanPath_none root fun stays => not_not.1 fun some_ => passes ⟨stays, some_⟩
      rw [none]
      constructor
      · intro _ root' requested' saves' stays some_
        obtain ⟨rfl, rfl⟩ := saves.unique saves'
        exact absurd ⟨stays, some_⟩ passes
      · intro _
        exact ⟨fun place reached => absurd reached (not_reached_nothing place),
          fun _ _ _ _ => ⟨⟨_, rfl⟩, not_reached_nothing⟩⟩

/-- A workspace at `/w` in which `d` is a link to `/o`. -/
def sampleTree : FileTree (List Char) (List Char) :=
  ((bare.set [['w']] .dir).set [['o']] .dir).set [['w'], ['d']] (.link ⟨true, [.name ['o']]⟩)

def sampleEnv : SaveEnv where
  title := .ok ['t']
  workspace := .ok ⟨true, [.name ['w']]⟩
  turns := .ok [⟨true, [.agentMessage ['x']]⟩]
  config := .ok ⟨['d'], ['p']⟩
  ts := []
  errorText _ := []

theorem sampleTree_leadsTo (root : PathBuf (List Char)) (workspace : sampleEnv.workspace = .ok root) :
    sampleTree.LeadsTo root [['w']] := by
  rw [← Except.ok.inj workspace]
  exact ⟨maxLinks, walk_eq_iff.1 rfl⟩

theorem sample_target (requested : List Char) (target : PathBuf (List Char))
    (checked : safePlanPath ⟨true, [.name ['w']]⟩ (planPath ⟨['d'], ['p']⟩ ['t'] [] requested) =
      some target) :
    savePlan sampleEnv sampleTree requested =
      writePlan (fun _ => []) { tree := sampleTree } ⟨true, [.name ['w']]⟩ target
        (['#', ' ', 't', '\n', '\n', 'x', '\n']) := by
  change (match safePlanPath ⟨true, [.name ['w']]⟩ (planPath ⟨['d'], ['p']⟩ ['t'] [] requested) with
    | none => _
    | some target => _) = _
  rw [checked]
  rfl

/-- A plan named `p` is kept in the workspace. -/
theorem plan_lands_in_workspace_sample :
    Reached sampleTree (savePlan sampleEnv sampleTree ['p']).1 [['w'], ['p']] ∧
      ¬Reached sampleTree (savePlan sampleEnv sampleTree ['p']).1 [['o'], ['p']] := by
  constructor
  · rw [sample_target ['p'] (PathBuf.below ⟨true, [.name ['w']]⟩ [['p']]) rfl]
    unfold writePlan
    rw [show (PathBuf.below ⟨true, [.name ['w']]⟩ [['p']]).parent = some ⟨true, [.name ['w']]⟩ from rfl]
    dsimp only
    rw [createDirAll_eq]
    exact .inl (List.mem_singleton_self _)
  · intro reached
    have under := ((plan_lands_in_workspace_iff sampleEnv sampleTree ['p'] [['w']]
      sampleTree_leadsTo).2 ?_).1 _ reached
    · exact absurd under (by decide)
    · rintro root requested ⟨title, turns, config, -, workspace, -, -, -, rfl⟩ - - place lands
      rw [← Except.ok.inj workspace] at lands
      rcases lands_concat.1 (show Lands sampleTree _ ([] ++ [['p']]) place from lands) with
        ⟨-, first⟩ | ⟨-, here⟩
      · exact absurd first not_firstMissing_nil
      · rw [← Option.some.inj here]
        exact List.prefix_append _ _

/-- A plan for `d/p` is written to `/o/p`, outside the workspace, through the link `d`. -/
theorem plan_leaves_workspace :
    sampleTree.LeadsTo ⟨true, [.name ['w']]⟩ [['w']] ∧
      Reached sampleTree (savePlan sampleEnv sampleTree ['d', '/', 'p']).1 [['o'], ['p']] ∧
      ¬[['w']] <+: [['o'], ['p']] := by
  refine ⟨sampleTree_leadsTo _ rfl, ?_, by decide⟩
  rw [sample_target ['d', '/', 'p'] (PathBuf.below ⟨true, [.name ['w']]⟩ [['d'], ['p']]) rfl]
  unfold writePlan
  rw [show (PathBuf.below ⟨true, [.name ['w']]⟩ [['d'], ['p']]).parent =
    some ⟨true, [.name ['w'], .name ['d']]⟩ from rfl]
  dsimp only
  rw [createDirAll_eq]
  exact .inl (List.mem_singleton_self _)

end Save

end Giskard.Plan
