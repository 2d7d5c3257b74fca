import Mathlib
import Giskard.Model.Admission

/-!
# Files sent along with a message

Before a turn starts, the files attached to its message are written to a directory of their own on
the machine of the harness, and the prompt tells where they are. Whatever fails after that removes
the directory.

The random numbers in the names and what the harness answers to each request are given.

SOURCE: crates/giskard-harness-codex/src/uploads.rs, lib.rs:1746-1793.
-/

set_option autoImplicit false

namespace Giskard.CodexUploads

open Foundation

/-- A request to the harness. -/
inductive Request where
  | createDirectory (path : List Char)
  | writeFile (path : List Char) (dataBase64 : String)
  | remove (path : List Char)
  | turnStart (input : UserInput)
  deriving DecidableEq

/-- The directory of the uploads, the random number in the name of each file, and the error of a
request after those before it, if it fails. -/
structure Env where
  uploadDir : List Char
  nonce : ℕ → UInt64
  fails : List Request → Request → Option HarnessError

/-- SOURCE: `str::trim_matches`. -/
def trimMatches (drops : Char → Bool) (text : List Char) : List Char :=
  ((text.dropWhile drops).reverse.dropWhile drops).reverse

def isNameChar (ch : Char) : Bool := ch.isAlphanum || ch = '.' || ch = '-' || ch = '_'

/-- SOURCE: uploads.rs:171-188. -/
def safeUploadFileName (name : List Char) : List Char :=
  let sanitized := name.map fun ch => if isNameChar ch then ch else '_'
  let trimmed := trimText (trimMatches (fun ch => ch = '.' || ch = '_') sanitized)
  if trimmed = [] then "attachment".toList else trimmed.take 96

/-- A number with at least two digits. -/
def twoDigits (index : ℕ) : List Char :=
  if index < 10 then '0' :: Nat.toDigits 10 index else Nat.toDigits 10 index

/-- The last piece of a file's path. -/
def uploadName (env : Env) (index : ℕ) (attachment : UserAttachment) : List Char :=
  twoDigits index ++ '-' :: (Nat.toDigits 10 (env.nonce index).toNat ++
    '-' :: safeUploadFileName attachment.name.toList)

/-- SOURCE: uploads.rs:161-169. -/
def codexUploadPath (env : Env) (index : ℕ) (attachment : UserAttachment) : List Char :=
  env.uploadDir ++ '/' :: uploadName env index attachment

/-- SOURCE: uploads.rs:6-9. -/
structure PreparedUserInput where
  input : UserInput
  uploadDir : Option (List Char)

/-- What is done so far: the requests, the images, the files with their paths, and whether there is
a directory. -/
structure Uploading where
  requests : List Request
  imageAttachments : List UserAttachment
  uploadedFiles : List (List Char × List Char)
  ensuredUploadDir : Bool

def Uploading.new : Uploading := ⟨[], [], [], false⟩

section

variable (env : Env)

def Uploading.send (uploading : Uploading) (request : Request) :
    Uploading × Option HarnessError :=
  ({ uploading with requests := uploading.requests ++ [request] },
    env.fails uploading.requests request)

/-- SOURCE: uploads.rs:33-47. -/
def Uploading.ensureDir (uploading : Uploading) : Uploading × Option HarnessError :=
  if uploading.ensuredUploadDir then (uploading, none)
  else match uploading.send env (.createDirectory env.uploadDir) with
    | (uploading, some error) => (uploading, some error)
    | (uploading, none) => ({ uploading with ensuredUploadDir := true }, none)

/-- SOURCE: uploads.rs:30-69. -/
def Uploading.attach (uploading : Uploading) (attachment : UserAttachment) (index : ℕ) :
    Uploading × Option HarnessError :=
  match attachment.kind with
  | .image =>
    ({ uploading with imageAttachments := uploading.imageAttachments ++ [attachment] }, none)
  | .file =>
    match uploading.ensureDir env with
    | (uploading, some error) => (uploading, some error)
    | (uploading, none) =>
      let path := codexUploadPath env index attachment
      match uploading.send env (.writeFile path attachment.dataBase64) with
      | (uploading, some error) => (uploading, some error)
      | (uploading, none) =>
        ({ uploading with uploadedFiles := uploading.uploadedFiles ++
            [(safeUploadFileName attachment.name.toList, path)] }, none)

/-- SOURCE: uploads.rs:29-71. -/
def Uploading.attachAll (uploading : Uploading) :
    List (UserAttachment × ℕ) → Uploading × Option HarnessError
  | [] => (uploading, none)
  | (attachment, index) :: rest =>
    match uploading.attach env attachment index with
    | (uploading, some error) => (uploading, some error)
    | (uploading, none) => uploading.attachAll rest

/-- SOURCE: uploads.rs:77-89. -/
def preparedText (text : List Char) (uploadedFiles : List (List Char × List Char)) : List Char :=
  if uploadedFiles = [] then text
  else text ++ (if trimText text = [] then [] else ['\n', '\n']) ++
    "Attached files available on the harness host:\n".toList ++
    uploadedFiles.flatMap fun file => ['-', ' '] ++ file.1 ++ [':', ' '] ++ file.2 ++ ['\n']

/-- SOURCE: uploads.rs:11-95. -/
def prepareUserInput (input : UserInput) : List Request × Except HarnessError PreparedUserInput :=
  if input.attachments = [] then ([], .ok ⟨input, none⟩)
  else match Uploading.new.attachAll env input.attachments.zipIdx with
    | (uploading, some error) => (uploading.requests ++ [.remove env.uploadDir], .error error)
    | (uploading, none) =>
      (uploading.requests, .ok
        { input := ⟨String.ofList (preparedText input.text.toList uploading.uploadedFiles),
            uploading.imageAttachments⟩
          uploadDir := if uploading.ensuredUploadDir then some env.uploadDir else none })

/-- SOURCE: uploads.rs:119-148. -/
def cleanupCodexUploadDir (uploadDir : Option (List Char)) : List Request :=
  uploadDir.toList.map .remove

/-- SOURCE: lib.rs:1461-1464. -/
structure StartedTurn where
  turn : TurnId
  uploadDir : Option (List Char)

/-- Start a turn; the parameters may be refused, and the answer may name no turn. SOURCE:
lib.rs:1746-1794. -/
def handleStartTurn (refused : UserInput → Option HarnessError) (named : Option TurnId)
    (input : UserInput) : List Request × Except HarnessError StartedTurn :=
  match prepareUserInput env input with
  | (requests, .error error) => (requests, .error error)
  | (requests, .ok prepared) =>
    match refused prepared.input with
    | some error => (requests ++ cleanupCodexUploadDir prepared.uploadDir, .error error)
    | none =>
      let started := requests ++ [.turnStart prepared.input]
      match env.fails requests (.turnStart prepared.input) with
      | some error => (started ++ cleanupCodexUploadDir prepared.uploadDir, .error error)
      | none =>
        match named with
        | some turn => (started, .ok ⟨turn, prepared.uploadDir⟩)
        | none => (started ++ cleanupCodexUploadDir prepared.uploadDir,
            .error (.protocol "turn/start response did not include a turn id"))

end

end Giskard.CodexUploads
