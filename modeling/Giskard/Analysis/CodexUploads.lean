import Mathlib
import Giskard.Foundation.Records
import Giskard.Model.CodexUploads

/-!
# Where the files of a message go

Each file gets a path of its own in the directory of its message, whatever its name is. A turn that
starts has had all of its files written, and told the harness where; one that does not leaves no
directory behind.
-/

set_option autoImplicit false

namespace Giskard.CodexUploads

open Foundation

variable {env : Env}

/-! ## Names -/

/-- A name that stays in its directory. -/
structure PlainName (name : List Char) : Prop where
  chars : ∀ ch ∈ name, isNameChar ch = true
  dot : name ≠ ['.']
  dots : name ≠ ['.', '.']

theorem isNameChar_safeUploadFileName (name : List Char) :
    ∀ ch ∈ safeUploadFileName name, isNameChar ch = true := by
  have mapped : ∀ ch ∈ name.map fun ch => if isNameChar ch then ch else '_',
      isNameChar ch = true := by
    intro ch member
    obtain ⟨old, -, rfl⟩ := List.mem_map.1 member
    split
    · next plain => exact plain
    · decide
  have trimmed {text : List Char} {drops : Char → Bool} {ch : Char}
      (member : ch ∈ trimMatches drops text) : ch ∈ text :=
    (List.dropWhile_sublist _).subset (List.mem_reverse.1
      ((List.dropWhile_sublist _).subset (List.mem_reverse.1 member)))
  unfold safeUploadFileName
  dsimp only
  split
  · exact List.all_eq_true.1 (show "attachment".toList.all isNameChar = true by decide +kernel)
  · exact fun ch member => mapped ch (trimmed (trimmed (List.mem_of_mem_take member)))

theorem isNameChar_toDigits {number : ℕ} {ch : Char} (member : ch ∈ Nat.toDigits 10 number) :
    isNameChar ch = true := by
  simp [isNameChar, Char.isAlphanum, isDigit_of_mem_toDigits member]

theorem mem_twoDigits {index : ℕ} {ch : Char} (member : ch ∈ twoDigits index) :
    ch.isDigit = true := by
  unfold twoDigits at member
  split at member
  · rcases List.mem_cons.1 member with rfl | member
    · rfl
    · exact isDigit_of_mem_toDigits member
  · exact isDigit_of_mem_toDigits member

theorem ofDigitChars_twoDigits (index : ℕ) : Nat.ofDigitChars 10 (twoDigits index) 0 = index := by
  unfold twoDigits
  split
  · exact Nat.ofDigitChars_ten_toDigits
  · exact Nat.ofDigitChars_ten_toDigits

theorem uploadName_plain (index : ℕ) (attachment : UserAttachment) :
    PlainName (uploadName env index attachment) := by
  have dash : '-' ∈ uploadName env index attachment := by simp [uploadName]
  refine ⟨?_, fun same => ?_, fun same => ?_⟩
  · simp only [uploadName, List.forall_mem_append, List.forall_mem_cons]
    refine ⟨fun ch member => ?_, rfl, fun _ => isNameChar_toDigits, rfl,
      isNameChar_safeUploadFileName _⟩
    simp [isNameChar, Char.isAlphanum, mem_twoDigits member]
  · rw [same] at dash
    revert dash
    decide
  · rw [same] at dash
    revert dash
    decide

theorem uploadName_index {one two : ℕ} {first second : UserAttachment}
    (same : uploadName env one first = uploadName env two second) : one = two := by
  have plain (index : ℕ) : '-' ∉ twoDigits index := fun member => by
    cases mem_twoDigits member
  have cut := congrArg (splitOnce '-') same
  rw [uploadName, uploadName, splitOnce_append (plain one), splitOnce_append (plain two)] at cut
  rw [← ofDigitChars_twoDigits one, (Prod.mk.inj (Option.some.inj cut)).1, ofDigitChars_twoDigits]

/-! ## Requests -/

/-- The files among some attachments, each with its place in the message. -/
def files (attachments : List (UserAttachment × ℕ)) : List (UserAttachment × ℕ) :=
  attachments.filter fun attachment => attachment.1.kind = .file

def images (attachments : List (UserAttachment × ℕ)) : List UserAttachment :=
  (attachments.filter fun attachment => attachment.1.kind = .image).map Prod.fst

def pathOf (env : Env) (file : UserAttachment × ℕ) : List Char := codexUploadPath env file.2 file.1

/-- What is asked for to upload some files. -/
def uploads (env : Env) (files : List (UserAttachment × ℕ)) : List Request :=
  if files = [] then []
  else .createDirectory env.uploadDir ::
    files.map fun file => .writeFile (pathOf env file) file.1.dataBase64

def told (env : Env) (files : List (UserAttachment × ℕ)) : List (List Char × List Char) :=
  files.map fun file => (safeUploadFileName file.1.name.toList, pathOf env file)

/-- The state with some attachments dealt with. -/
def attached (env : Env) (done : List (UserAttachment × ℕ)) : Uploading :=
  ⟨uploads env (files done), images done, told env (files done), files done ≠ []⟩

theorem uploads_concat (done : List (UserAttachment × ℕ)) (file : UserAttachment × ℕ) :
    uploads env (done ++ [file]) =
      (if done = [] then [.createDirectory env.uploadDir] else uploads env done) ++
        [.writeFile (pathOf env file) file.1.dataBase64] := by
  by_cases none_ : done = []
  · simp [uploads, none_]
  · simp [uploads, none_]

/-- An attachment is dealt with, or some of its requests are made and the last one fails. -/
theorem attach_cases (done : List (UserAttachment × ℕ)) (attachment : UserAttachment × ℕ) :
    (attached env done).attach env attachment.1 attachment.2 =
        (attached env (done ++ [attachment]), none) ∨
      files (done ++ [attachment]) ≠ [] ∧ ∃ uploading error,
        (attached env done).attach env attachment.1 attachment.2 = (uploading, some error) ∧
          uploading.requests <+: uploads env (files (done ++ [attachment])) := by
  obtain ⟨attachment, index⟩ := attachment
  cases kind : attachment.kind with
  | image =>
    left
    have same : files (done ++ [(attachment, index)]) = files done := by simp [files, kind]
    simp [Uploading.attach, kind, attached, same, images]
  | file =>
    have grown : files (done ++ [(attachment, index)]) = files done ++ [(attachment, index)] := by
      simp [files, kind]
    have same : images (done ++ [(attachment, index)]) = images done := by simp [images, kind]
    have ready : (attached env done).ensureDir env =
        (⟨if files done = [] then [.createDirectory env.uploadDir] else uploads env (files done),
          images done, told env (files done), true⟩, none) ∨
      ∃ uploading error, (attached env done).ensureDir env = (uploading, some error) ∧
        uploading.requests = [.createDirectory env.uploadDir] := by
      by_cases none_ : files done = []
      · cases outcome : env.fails [] (.createDirectory env.uploadDir) with
        | none =>
          left
          simp [Uploading.ensureDir, Uploading.send, attached, uploads, none_, outcome]
        | some error =>
          right
          simp [Uploading.ensureDir, Uploading.send, attached, uploads, none_, outcome]
      · left
        simp [Uploading.ensureDir, attached, none_]
    unfold Uploading.attach
    rw [kind, grown, uploads_concat]
    dsimp only
    rcases ready with ready | ⟨uploading, error, ready, made⟩
    · rw [ready]
      dsimp only [Uploading.send]
      cases env.fails _ _ with
      | none =>
        left
        simp [attached, grown, same, uploads_concat, told, pathOf]
      | some error => exact .inr ⟨by simp, _, error, rfl, List.prefix_refl _⟩
    · rw [ready]
      refine .inr ⟨by simp, uploading, error, rfl, ?_⟩
      rw [made]
      by_cases none_ : files done = []
      · rw [if_pos none_]
        exact List.prefix_append _ _
      · rw [if_neg none_, uploads, if_neg none_]
        exact List.prefix_append _ _

theorem files_ne_nil {first second : List (UserAttachment × ℕ)} (some_ : files first ≠ []) :
    files (first ++ second) ≠ [] := by
  rw [files, List.filter_append]
  exact List.append_ne_nil_of_left_ne_nil some_ _

theorem uploads_prefix {first second : List (UserAttachment × ℕ)} :
    uploads env (files first) <+: uploads env (files (first ++ second)) := by
  rw [show files (first ++ second) = files first ++ files second from List.filter_append ..]
  by_cases none_ : files first = []
  · rw [none_]
    exact List.nil_prefix
  · rw [uploads, uploads, if_neg none_, if_neg (List.append_ne_nil_of_left_ne_nil none_ _),
      List.map_append, ← List.cons_append]
    exact List.prefix_append _ _

/-- The loop deals with every attachment, or stops at a request that fails. -/
theorem attachAll_cases (done rest : List (UserAttachment × ℕ)) :
    (attached env done).attachAll env rest = (attached env (done ++ rest), none) ∨
      files (done ++ rest) ≠ [] ∧ ∃ uploading error,
        (attached env done).attachAll env rest = (uploading, some error) ∧
          uploading.requests <+: uploads env (files (done ++ rest)) := by
  induction rest generalizing done with
  | nil => exact .inl (by rw [Uploading.attachAll, List.append_nil])
  | cons attachment rest ih =>
    rw [← List.append_cons done attachment rest |>.symm, Uploading.attachAll]
    rcases attach_cases done attachment with dealt | ⟨some_, uploading, error, failed, made⟩
    · rw [dealt]
      exact ih (done ++ [attachment])
    · rw [failed]
      exact .inr ⟨files_ne_nil some_, uploading, error, rfl, made.trans uploads_prefix⟩

/-! ## Turns -/

/-- The message as the harness is told it. -/
def toldInput (env : Env) (input : UserInput) : UserInput :=
  ⟨String.ofList (preparedText input.text.toList (told env (files input.attachments.zipIdx))),
    images input.attachments.zipIdx⟩

/-- The requests of a turn that starts. -/
def turnRequests (env : Env) (input : UserInput) : List Request :=
  uploads env (files input.attachments.zipIdx) ++ [.turnStart (toldInput env input)]

def dirOf (env : Env) (input : UserInput) : Option (List Char) :=
  if files input.attachments.zipIdx = [] then none else some env.uploadDir

theorem prepareUserInput_cases (input : UserInput) :
    prepareUserInput env input = (uploads env (files input.attachments.zipIdx),
        .ok ⟨toldInput env input, dirOf env input⟩) ∨
      dirOf env input = some env.uploadDir ∧ ∃ made error, prepareUserInput env input =
        (made ++ [.remove env.uploadDir], .error error) ∧
          made <+: uploads env (files input.attachments.zipIdx) := by
  unfold prepareUserInput
  by_cases none_ : input.attachments = []
  · left
    obtain ⟨text, attachments⟩ := input
    obtain rfl : attachments = [] := none_
    simp [files, images, told, toldInput, dirOf, uploads, preparedText]
  · rw [if_neg none_, show Uploading.new = attached env [] from rfl]
    rcases @attachAll_cases env [] input.attachments.zipIdx with
      dealt | ⟨some_, uploading, error, failed, made⟩
    · left
      rw [dealt]
      simp [attached, toldInput, dirOf]
    · right
      rw [failed]
      exact ⟨if_neg some_, _, error, rfl, made⟩

/-- Each file of a message has a path of its own in the directory of the message. A turn that
starts has had them all written and keeps the directory; one that does not makes some of the same
requests and then removes the directory. SOURCE: uploads.rs, lib.rs:1746-1793. -/
theorem uploads_accounted (refused : UserInput → Option HarnessError) (named : Option TurnId)
    (input : UserInput) :
    ((files input.attachments.zipIdx).map (pathOf env)).Nodup ∧
      (∀ file ∈ files input.attachments.zipIdx, ∃ name, PlainName name ∧
        pathOf env file = env.uploadDir ++ '/' :: name) ∧
      match handleStartTurn env refused named input with
      | (requests, .ok started) =>
        requests = turnRequests env input ∧ started.uploadDir = dirOf env input
      | (requests, .error _) => ∃ made, made <+: turnRequests env input ∧
        requests = made ++ cleanupCodexUploadDir (dirOf env input) := by
  refine ⟨?_, fun file _ => ⟨_, uploadName_plain file.2 file.1, rfl⟩, ?_⟩
  · have apart : ((files input.attachments.zipIdx).map Prod.snd).Nodup := by
      refine (List.filter_sublist.map _).nodup ?_
      rw [List.zipIdx_map_snd]
      exact List.nodup_range'
    refine List.pairwise_map.2 ((List.pairwise_map.1 apart).imp fun other same => other ?_)
    exact uploadName_index (List.cons.inj (List.append_cancel_left same)).2
  · unfold handleStartTurn
    rcases @prepareUserInput_cases env input with ok | ⟨dir, made, error, failed, same⟩
    · rw [ok]
      dsimp only
      cases refused (toldInput env input) with
      | some error => exact ⟨_, List.prefix_append _ _, rfl⟩
      | none =>
        dsimp only
        cases env.fails _ _ with
        | some error => exact ⟨_, List.prefix_refl _, rfl⟩
        | none =>
          cases named with
          | none => exact ⟨_, List.prefix_refl _, rfl⟩
          | some turn => exact ⟨rfl, rfl⟩
    · rw [failed]
      refine ⟨made, same.trans (List.prefix_append _ _), ?_⟩
      rw [dir]
      rfl

end Giskard.CodexUploads
