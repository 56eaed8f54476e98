import S7cmd.Foundation.Stores
import S7cmd.UtilBin.Operands

/-!
# Saving an annotation

The payload of an annotation is written to a temporary file next to the output file, read
back and verified, and only then renamed over it. Whatever fails on the way, the output file
is either verified or as it was.
-/

namespace S7cmd.UtilBin

open Foundation

variable {Sse Algorithm Entry : Type}

/-! ## Integrity -/

/-- The checks that the library makes on a payload. -/
structure PayloadChecks (Sse Algorithm : Type) where
  /-- nothing is known about the tag of an object that is not encrypted with AES256 -/
  verifyETagMd5 : Bytes → Option Text → Option Sse → Option Bool
  isSupported : Algorithm → Bool
  verifyAdditionalChecksum : Bytes → Algorithm → Text → Bool
  asStr : Algorithm → Text

/-- What the response says about the payload. -/
structure Expected (Sse Algorithm : Type) where
  contentLength : Option Int
  eTag : Option Text
  sse : Option Sse
  checksum : Option (Algorithm × Text)
  bucket : Text
  key : Text

def Expected.url (expected : Expected Sse Algorithm) : Text :=
  "s3://".toList ++ expected.bucket ++ '/' :: expected.key

inductive IntegrityCheck where
  | verified
  | unverifiable
  deriving DecidableEq, Repr

def contentLengthMismatch (expected : Expected Sse Algorithm) (length : Int) (bytes : Bytes) :
    Chain :=
  ["content length mismatch for ".toList ++ expected.url ++ ": response said ".toList ++
    (toString length).toList ++ " bytes, received ".toList ++ (toString bytes.length).toList]

def eTagMismatch (expected : Expected Sse Algorithm) : Chain :=
  ["ETag (MD5) verification failed for ".toList ++ expected.url]

def unsupportedChecksum (checks : PayloadChecks Sse Algorithm)
    (expected : Expected Sse Algorithm) (algorithm : Algorithm) : Chain :=
  [expected.url ++ " carries a ".toList ++ checks.asStr algorithm ++
    " checksum, which s3util cannot verify".toList]

def checksumMismatch (checks : PayloadChecks Sse Algorithm) (expected : Expected Sse Algorithm)
    (algorithm : Algorithm) : Chain :=
  [checks.asStr algorithm ++ " checksum verification failed for ".toList ++ expected.url]

def checkContentLength (expected : Expected Sse Algorithm) (bytes : Bytes) : Except Chain Unit :=
  match expected.contentLength with
  | none => .ok ()
  | some length =>
      if length ≠ bytes.length then .error (contentLengthMismatch expected length bytes)
      else .ok ()

/-- Whether the tag verifies the bytes; it is an error if it disproves them. -/
def checkETag (checks : PayloadChecks Sse Algorithm) (expected : Expected Sse Algorithm)
    (bytes : Bytes) : Except Chain Bool :=
  match checks.verifyETagMd5 bytes expected.eTag expected.sse with
  | some true => .ok true
  | some false => .error (eTagMismatch expected)
  | none => .ok false

/-- Whether the checksum verifies the bytes. One that cannot be recomputed is an error. -/
def checkChecksum (checks : PayloadChecks Sse Algorithm) (expected : Expected Sse Algorithm)
    (bytes : Bytes) : Except Chain Bool :=
  match expected.checksum with
  | none => .ok false
  | some (algorithm, value) =>
      if checks.isSupported algorithm = false then
        .error (unsupportedChecksum checks expected algorithm)
      else if checks.verifyAdditionalChecksum bytes algorithm value then .ok true
      else .error (checksumMismatch checks expected algorithm)

def checkIntegrity (checks : PayloadChecks Sse Algorithm) (expected : Expected Sse Algorithm)
    (bytes : Bytes) : Except Chain IntegrityCheck := do
  checkContentLength expected bytes
  let byETag ← checkETag checks expected bytes
  let byChecksum ← checkChecksum checks expected bytes
  return if byETag || byChecksum then .verified else .unverifiable

/-- The bytes agree with everything the response says about them. -/
structure Intact (checks : PayloadChecks Sse Algorithm) (expected : Expected Sse Algorithm)
    (bytes : Bytes) : Prop where
  contentLength : ∀ length ∈ expected.contentLength, length = bytes.length
  eTag : checks.verifyETagMd5 bytes expected.eTag expected.sse ≠ some false
  checksum : ∀ algorithm value, expected.checksum = some (algorithm, value) →
    checks.isSupported algorithm = true ∧
      checks.verifyAdditionalChecksum bytes algorithm value = true

variable {checks : PayloadChecks Sse Algorithm} {expected : Expected Sse Algorithm}
  {bytes : Bytes}

theorem checkContentLength_ok_iff :
    checkContentLength expected bytes = .ok () ↔
      ∀ length ∈ expected.contentLength, length = bytes.length := by
  unfold checkContentLength
  cases expected.contentLength <;> simp

theorem exists_checkETag_ok_iff :
    (∃ verified, checkETag checks expected bytes = .ok verified) ↔
      checks.verifyETagMd5 bytes expected.eTag expected.sse ≠ some false := by
  unfold checkETag
  split <;> simp_all

theorem exists_checkChecksum_ok_iff :
    (∃ verified, checkChecksum checks expected bytes = .ok verified) ↔
      ∀ algorithm value, expected.checksum = some (algorithm, value) →
        checks.isSupported algorithm = true ∧
          checks.verifyAdditionalChecksum bytes algorithm value = true := by
  unfold checkChecksum
  rcases expected.checksum with _ | ⟨algorithm, value⟩
  · simp
  · dsimp only
    split
    · simp_all
    · split <;> simp_all

/-- The check passes exactly on intact bytes. -/
theorem exists_checkIntegrity_ok_iff :
    (∃ check, checkIntegrity checks expected bytes = .ok check) ↔
      Intact checks expected bytes := by
  have hlength := @checkContentLength_ok_iff _ _ expected bytes
  have htag := @exists_checkETag_ok_iff _ _ checks expected bytes
  have hchecksum := @exists_checkChecksum_ok_iff _ _ checks expected bytes
  unfold checkIntegrity
  constructor
  · rintro ⟨check, hcheck⟩
    cases hl : checkContentLength expected bytes <;>
      cases ht : checkETag checks expected bytes <;>
      cases hc : checkChecksum checks expected bytes <;>
      simp only [hl, ht, hc, bind, Except.bind, reduceCtorEq] at hcheck
    exact ⟨hlength.mp hl, htag.mp ⟨_, ht⟩, hchecksum.mp ⟨_, hc⟩⟩
  · intro hintact
    obtain ⟨byETag, ht⟩ := htag.mpr hintact.eTag
    obtain ⟨byChecksum, hc⟩ := hchecksum.mpr hintact.checksum
    rw [hlength.mpr hintact.contentLength, ht, hc]
    exact ⟨_, rfl⟩

/-! ## The temporary file -/

/-- The components at the end of a path that are none: empty ones, and `.` unless a
relative path starts with it. -/
def trimComponents (relative : Bool) (components : List Text) : List Text :=
  match components with
  | [] => []
  | first :: rest =>
      let rest := rest.rdropWhile fun part => part = [] ∨ part = ['.']
      if rest = [] ∧ (first = [] ∨ first = ['.'] ∧ relative = false) then [] else first :: rest

/-- `Path::parent` on Unix -/
def pathParent (path : Text) : Option Text :=
  let rooted := path.startsWith '/'
  let relative := !rooted
  let body := if rooted then path.tail else path
  let components := trimComponents relative (body.splitOn '/')
  if components = [] then none
  else
    let parent := Text.join ['/'] (trimComponents relative components.dropLast)
    some (if rooted then '/' :: parent else parent)

/-- The directory next to which the output file is staged. -/
def stagingDirectory (outfile : Text) : Text :=
  match pathParent outfile with
  | some parent => if parent ≠ [] then parent else ['.']
  | none => ['.']

/-- What the file system does at each step. Any of them may fail, and what a write leaves on
the disk need not be what was written. -/
structure Disk (Entry : Type) where
  /-- the entry that a path names -/
  locate : Text → Entry
  display : Entry → Text
  /-- a new file in a directory, under a name that no file has -/
  newIn : Text → (files : Files Entry Bytes) → Except Text { name : Entry // files name = none }
  writeAll : Bytes → Except Text Unit × Bytes
  flush : Bytes → Except Text Unit × Bytes
  /-- why the file cannot be read back, if it cannot -/
  readFault : Option Text
  /-- an atomic rename: if it fails, the target is untouched -/
  rename : Except Text Unit

def noSuchFile : Text := "No such file or directory (os error 2)".toList

/-- `fs::read` -/
def Disk.read (disk : Disk Entry) (files : Files Entry Bytes) (name : Entry) :
    Except Chain Bytes :=
  match disk.readFault, files name with
  | some cause, _ => .error [cause]
  | none, none => .error [noSuchFile]
  | none, some bytes => .ok bytes

def verifySavedFile (disk : Disk Entry) (checks : PayloadChecks Sse Algorithm)
    (expected : Expected Sse Algorithm) (files : Files Entry Bytes) (name : Entry) :
    Except Chain Unit := do
  let onDisk ← withContext ("re-reading the freshly-written temp file ".toList ++
    disk.display name ++ " for verification".toList) (disk.read files name)
  let _check ← withContext ("post-write verification failed for ".toList ++ expected.url ++
    ": the payload was corrupted while writing to disk".toList)
    (checkIntegrity checks expected onDisk)
  return ()

/-- What is verified is what the store holds under the name. -/
theorem exists_intact_of_verifySavedFile {disk : Disk Entry} {staged : Files Entry Bytes}
    {name : Entry} (hverify : verifySavedFile disk checks expected staged name = .ok ()) :
    ∃ bytes, staged name = some bytes ∧
      ∃ check, checkIntegrity checks expected bytes = .ok check := by
  unfold verifySavedFile Disk.read at hverify
  split at hverify
  next => cases hverify
  next => cases hverify
  next bytes _ hbytes =>
    refine ⟨bytes, hbytes, ?_⟩
    cases hcheck : checkIntegrity checks expected bytes with
    | error chain => simp [hcheck, withContext, Except.mapError, bind, Except.bind] at hverify
    | ok check => exact ⟨check, rfl⟩

variable [DecidableEq Entry]

/-- The write and the flush, with the bytes that they leave in the temporary file. -/
def fillTemp (disk : Disk Entry) (payload : Bytes) {files : Files Entry Bytes}
    (tmp : StagedFile files) : Except Chain Unit × StagedFile files :=
  match disk.writeAll payload with
  | (.error cause, bytes) =>
      (.error ["writing annotation payload to temp file".toList, cause], tmp.write bytes)
  | (.ok (), bytes) =>
      match disk.flush bytes with
      | (.error cause, bytes) =>
          (.error ["flushing annotation payload temp file".toList, cause], tmp.write bytes)
      | (.ok (), bytes) => (.ok (), tmp.write bytes)

def writeVerifiedOutput (disk : Disk Entry) (checks : PayloadChecks Sse Algorithm)
    (expected : Expected Sse Algorithm) (outfile : Text) (payload : Bytes)
    (files : Files Entry Bytes) : Except Chain Unit × Files Entry Bytes :=
  match disk.newIn (stagingDirectory outfile) files with
  | .error cause => (.error ["creating temp file next to ".toList ++ outfile, cause], files)
  | .ok ⟨name, free⟩ =>
      -- on every path that returns an error the temporary file is dropped, and so deleted
      match fillTemp disk payload ⟨name, free, []⟩ with
      | (.error chain, tmp) => (.error chain, tmp.discard)
      | (.ok (), tmp) =>
          match withContext ("aborted saving to ".toList ++ outfile ++
              "; the destination was left untouched".toList)
              (verifySavedFile disk checks expected tmp.files tmp.name) with
          | .error chain => (.error chain, tmp.discard)
          | .ok () =>
              match disk.rename with
              | .error cause =>
                  (.error ["persisting annotation payload to ".toList ++ outfile ++ ": ".toList ++
                    cause], tmp.discard)
              | .ok () => (.ok (), tmp.persist (disk.locate outfile))

/-! ## All or nothing -/

/-- How saving ends: the store is as it was, or a verified file took the name of the target. -/
inductive Written (checks : PayloadChecks Sse Algorithm) (expected : Expected Sse Algorithm)
    (target : Entry) (files : Files Entry Bytes) :
    Except Chain Unit × Files Entry Bytes → Prop
  | kept (chain : Chain) : Written checks expected target files (.error chain, files)
  | saved (tmp : StagedFile files) (check : IntegrityCheck)
      (hcheck : checkIntegrity checks expected tmp.content = .ok check) :
      Written checks expected target files (.ok (), tmp.persist target)

theorem written (disk : Disk Entry) (checks : PayloadChecks Sse Algorithm)
    (expected : Expected Sse Algorithm) (outfile : Text) (payload : Bytes)
    (files : Files Entry Bytes) :
    Written checks expected (disk.locate outfile) files
      (writeVerifiedOutput disk checks expected outfile payload files) := by
  unfold writeVerifiedOutput
  split
  next cause _ => exact .kept _
  next name free _ =>
    split
    next chain tmp _ => rw [tmp.discard_eq]; exact .kept _
    next tmp _ =>
      split
      next chain _ => rw [tmp.discard_eq]; exact .kept _
      next hverify =>
        split
        next cause _ => rw [tmp.discard_eq]; exact .kept _
        next =>
          rw [withContext_eq_ok_iff] at hverify
          obtain ⟨bytes, hbytes, check, hcheck⟩ := exists_intact_of_verifySavedFile hverify
          rw [tmp.files_name, Option.some.injEq] at hbytes
          exact .saved tmp check (hbytes ▸ hcheck)

/-- A save that succeeds leaves bytes under the target that pass the check, and one that
fails leaves the store as it was. No other entry changes, so no temporary file remains. -/
def AllOrNothing (checks : PayloadChecks Sse Algorithm) (expected : Expected Sse Algorithm)
    (target : Entry) (before : Files Entry Bytes) :
    Except Chain Unit × Files Entry Bytes → Prop
  | (.error _, after) => after = before
  | (.ok (), after) =>
      (∃ bytes check, after target = some bytes ∧
        checkIntegrity checks expected bytes = .ok check) ∧
      ∀ other, other ≠ target → after other = before other

theorem Written.allOrNothing {target : Entry} {before : Files Entry Bytes}
    {outcome : Except Chain Unit × Files Entry Bytes}
    (hwritten : Written checks expected target before outcome) :
    AllOrNothing checks expected target before outcome := by
  cases hwritten with
  | kept chain => rfl
  | saved tmp check hcheck =>
      refine ⟨⟨tmp.content, check, tmp.persist_target _, hcheck⟩, ?_⟩
      intro other hother
      exact tmp.persist_of_ne hother

/-- Saving is all or nothing, whatever the disk does. -/
theorem writeVerifiedOutput_allOrNothing (disk : Disk Entry)
    (checks : PayloadChecks Sse Algorithm) (expected : Expected Sse Algorithm) (outfile : Text)
    (payload : Bytes) (files : Files Entry Bytes) :
    AllOrNothing checks expected (disk.locate outfile) files
      (writeVerifiedOutput disk checks expected outfile payload files) :=
  (written disk checks expected outfile payload files).allOrNothing

example : ["dir/file", "dir//./file/", "/file", "file", "./file", "/", ""].map
    (stagingDirectory ·.toList) = ["dir", "dir", "/", ".", ".", ".", "."].map String.toList := by
  decide +kernel

end S7cmd.UtilBin
