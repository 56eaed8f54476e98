import S7cmd.UtilBin.GetObjectAnnotation
import S7cmd.UtilBin.Request

/-!
# Downloading an annotation

The payload is read in whole, but no more of it than an annotation may have. It is checked,
then saved or handed to stdout, and last the rest of the response is printed.
-/

namespace S7cmd.UtilBin

open Foundation

variable {Sse Entry : Type}

/-! ## The response -/

inductive ChecksumAlgorithm where
  | crc64Nvme
  | crc32
  | crc32C
  | sha1
  | sha256
  | sha512
  | md5
  | xxhash64
  | xxhash3
  | xxhash128
  deriving DecidableEq, Repr

/-- `GetObjectAnnotationOutput`, with its payload as it is streamed. -/
structure AnnotationOutput (Sse : Type) where
  eTag : Option Text := none
  sse : Option Sse := none
  contentLength : Option Int := none
  isComposite : Bool := false
  checksumCrc64Nvme : Option Text := none
  checksumCrc32 : Option Text := none
  checksumCrc32C : Option Text := none
  checksumSha1 : Option Text := none
  checksumSha256 : Option Text := none
  checksumSha512 : Option Text := none
  checksumMd5 : Option Text := none
  checksumXxhash64 : Option Text := none
  checksumXxhash3 : Option Text := none
  checksumXxhash128 : Option Text := none
  chunks : List Bytes
  /-- the error the body breaks off with, if it does -/
  fault : Option Text := none

/-- The checksums of a response in the order in which they are looked for: first those that
can be recomputed. -/
def AnnotationOutput.checksums (out : AnnotationOutput Sse) :
    List (ChecksumAlgorithm × Option Text) :=
  [(.crc64Nvme, out.checksumCrc64Nvme), (.crc32, out.checksumCrc32),
    (.crc32C, out.checksumCrc32C), (.sha1, out.checksumSha1), (.sha256, out.checksumSha256),
    (.sha512, out.checksumSha512), (.md5, out.checksumMd5),
    (.xxhash64, out.checksumXxhash64), (.xxhash3, out.checksumXxhash3),
    (.xxhash128, out.checksumXxhash128)]

def detectChecksum (out : AnnotationOutput Sse) : Option (ChecksumAlgorithm × Text) :=
  out.checksums.findSome? fun (algorithm, checksum) => checksum.map (algorithm, ·)

/-- A composite checksum is none of the payload. -/
def AnnotationOutput.expected (out : AnnotationOutput Sse) (bucket key : Text) :
    Expected Sse ChecksumAlgorithm where
  contentLength := out.contentLength
  eTag := out.eTag
  sse := out.sse
  checksum := if out.isComposite then none else detectChecksum out
  bucket
  key

/-! ## The payload -/

def payloadTooLong (cap : Nat) (bucket key : Text) : Chain :=
  ["annotation payload for ".toList ++ s3Object bucket key ++ " exceeds the 1 MiB limit (".toList ++
    (toString cap).toList ++ " bytes)".toList]

/-- The loop over the chunks of the body, from the payload read so far. -/
def readChunks (cap : Nat) (tooLong : Chain) (fault : Option Text) :
    Bytes → List Bytes → Except Chain Bytes
  | payload, [] =>
      match fault with
      | some cause => .error ["reading annotation payload body".toList, cause]
      | none => .ok payload
  | payload, chunk :: chunks =>
      if cap < (payload ++ chunk).length then .error tooLong
      else readChunks cap tooLong fault (payload ++ chunk) chunks

def AnnotationOutput.readPayload (out : AnnotationOutput Sse) (cap : Nat) (bucket key : Text) :
    Except Chain Bytes :=
  readChunks cap (payloadTooLong cap bucket key) out.fault [] out.chunks

theorem readChunks_eq_ok {cap : Nat} {tooLong : Chain} {fault : Option Text}
    {chunks : List Bytes} {read payload : Bytes} (hread : read.length ≤ cap)
    (hok : readChunks cap tooLong fault read chunks = .ok payload) :
    fault = none ∧ payload = read ++ chunks.flatten ∧ payload.length ≤ cap := by
  induction chunks generalizing read with
  | nil =>
      unfold readChunks at hok
      split at hok
      next => cases hok
      next =>
        cases hok
        exact ⟨rfl, by simp, hread⟩
  | cons chunk chunks ih =>
      unfold readChunks at hok
      split at hok
      next => cases hok
      next hlength =>
        obtain ⟨hfault, hpayload, hle⟩ := ih (Nat.le_of_not_lt hlength) hok
        exact ⟨hfault, by simpa using hpayload, hle⟩

/-- A payload that was read is the whole body, however it was cut into chunks, and no
longer than an annotation may be. -/
theorem AnnotationOutput.readPayload_eq_ok {out : AnnotationOutput Sse} {cap : Nat}
    {bucket key : Text} {payload : Bytes} (hok : out.readPayload cap bucket key = .ok payload) :
    out.fault = none ∧ payload = out.chunks.flatten ∧ payload.length ≤ cap := by
  have hread := readChunks_eq_ok (Nat.zero_le cap) hok
  rwa [List.nil_append] at hread

/-! ## The run -/

structure GetObjectAnnotationParams where
  bucket : Text
  key : Text
  annotationName : Text
  versionId : Option Text
  requestPayer : Option Text
  deriving DecidableEq, Repr

/-- What a download meets with outside this program. -/
structure DownloadWorld (Sse Entry : Type) where
  checks : PayloadChecks Sse ChecksumAlgorithm
  disk : Disk Entry
  validateAnnotationName : Text → Except Chain Unit
  maxAnnotationPayloadLen : Nat
  fetch : GetObjectAnnotationParams → Except ObjectAnnotationError (AnnotationOutput Sse)
  /-- the metadata of a response, as it is printed -/
  render : AnnotationOutput Sse → Except Text Text
  writeStdout : Bytes → Except Text Unit
  printStdout : Text → Except IoError Unit

/-- What a download leaves behind. -/
structure Surroundings (Entry : Type) where
  files : Files Entry Bytes
  /-- the payloads that were handed to stdout in whole -/
  payloads : List Bytes := []
  log : List (Level × Text) := []

/-- What a download does to its surroundings, up to its first error. -/
abbrev Download (Entry α : Type) : Type := Fallible (Surroundings Entry) Chain α

def Download.log (level : Level) (message : Text) : Download Entry Unit := fun around =>
  (.ok (), { around with log := around.log ++ [(level, message)] })

/-- The payload, verbatim: a reader that has gone is an error here. -/
def Download.writePayload (world : DownloadWorld Sse Entry) (payload : Bytes) :
    Download Entry Unit := fun around =>
  match world.writeStdout payload with
  | .error cause => (.error ["writing annotation payload to stdout".toList, cause], around)
  | .ok () => (.ok (), { around with payloads := around.payloads ++ [payload] })

def Download.save [DecidableEq Entry] (world : DownloadWorld Sse Entry)
    (expected : Expected Sse ChecksumAlgorithm) (outfile : Text) (payload : Bytes) :
    Download Entry Unit := fun around =>
  let (result, files) :=
    writeVerifiedOutput world.disk world.checks expected outfile payload around.files
  (result, { around with files })

/-- The metadata of a response. -/
def DownloadWorld.print (world : DownloadWorld Sse Entry) (out : AnnotationOutput Sse) :
    Except Chain Unit := do
  let json ← causedBy (world.render out)
  ignoreBrokenPipe (world.printStdout json)

def payloadUnverifiable : Text :=
  "payload integrity could not be verified (no AES256 ETag and no additional checksum).".toList

/-- What is done with a payload that has passed its checks. -/
def deliver [DecidableEq Entry] (world : DownloadWorld Sse Entry)
    (expected : Expected Sse ChecksumAlgorithm) (outfile : Text) (out : AnnotationOutput Sse)
    (payload : Bytes) : Download Entry ExitStatus := do
  if outfile = ['-'] then
    Download.writePayload world payload
    return .success
  else
    Download.save world expected outfile payload
    .ofExcept (world.print out)
    return .success

/-- What is done with a response. -/
def receive [DecidableEq Entry] (world : DownloadWorld Sse Entry) (bucket key outfile : Text)
    (out : AnnotationOutput Sse) : Download Entry ExitStatus := do
  let expected := out.expected bucket key
  let payload ← .ofExcept (out.readPayload world.maxAnnotationPayloadLen bucket key)
  let check ← .ofExcept (checkIntegrity world.checks expected payload)
  match check with
  | .verified => deliver world expected outfile out payload
  | .unverifiable => do
      Download.log .warn payloadUnverifiable
      deliver world expected outfile out payload

/-- What is logged of an annotation that is not there. -/
def absent (message : Text) : Download Entry ExitStatus := do
  Download.log .error message
  return .notFound

def runGetObjectAnnotation [DecidableEq Entry] (world : DownloadWorld Sse Entry)
    (args : UtilArgs) : Download Entry ExitStatus := do
  let (bucket, key) ← .ofExcept (trimmedError args.bucketKey)
  let annotationName ← .ofExcept (okOr "--annotation-name is required".toList args.annotationName)
  .ofExcept (world.validateAnnotationName annotationName)
  let outfile ← .ofExcept (okOr "outfile is required".toList args.outfile)
  match world.fetch ⟨bucket, key, annotationName, args.targetVersionId, args.requestPayer⟩ with
  | .ok out => receive world bucket key outfile out
  | .error .bucketNotFound => absent (bucketNotFound bucket)
  | .error .notFound => absent (notFound (versioned bucket key args.targetVersionId
      ("object ".toList ++ s3Object bucket key)))
  | .error .annotationNotFound =>
      absent ("annotation ".toList ++ annotationName ++ " not found for ".toList ++
        versioned bucket key args.targetVersionId (s3Object bucket key))
  | .error (.other chain) => .ofExcept (.error chain)

/-! ## How a download ends -/

theorem trimmedError_eq_ok_iff {α : Type} {result : Except Text α} {value : α} :
    trimmedError result = .ok value ↔ result = .ok value := by
  cases result <;> simp [trimmedError, Except.mapError]

/-- The response to the request that the arguments are for, with a body that is complete, no
longer than it may be, and agrees with what the response says of it. -/
structure Received (world : DownloadWorld Sse Entry) (args : UtilArgs) (bucket key : Text)
    (out : AnnotationOutput Sse) : Prop where
  bucketKey : args.bucketKey = .ok (bucket, key)
  fetched : ∃ annotationName, args.annotationName = some annotationName ∧
    world.fetch ⟨bucket, key, annotationName, args.targetVersionId, args.requestPayer⟩ = .ok out
  complete : out.fault = none
  bounded : out.chunks.flatten.length ≤ world.maxAnnotationPayloadLen
  intact : Intact world.checks (out.expected bucket key) out.chunks.flatten

/-- The output file holds bytes that agree with the response, and no other file has
changed. -/
structure Saved (world : DownloadWorld Sse Entry) (expected : Expected Sse ChecksumAlgorithm)
    (outfile : Text) (before after : Files Entry Bytes) : Prop where
  intact : ∃ bytes, after (world.disk.locate outfile) = some bytes ∧
    Intact world.checks expected bytes
  others : ∀ other, other ≠ world.disk.locate outfile → after other = before other

/-- The endings of a download. Only the last of them has an error after a change: the file
is saved, but its metadata could not be printed. -/
inductive Downloaded (world : DownloadWorld Sse Entry) (args : UtilArgs)
    (before : Surroundings Entry) : Except Chain ExitStatus × Surroundings Entry → Prop
  | failed (chain : Chain) (log : List (Level × Text)) :
      Downloaded world args before (.error chain, { before with log })
  | missing (log : List (Level × Text)) :
      Downloaded world args before (.ok .notFound, { before with log })
  | streamed (bucket key : Text) (out : AnnotationOutput Sse) (log : List (Level × Text))
      (hreceived : Received world args bucket key out) (houtfile : args.outfile = some ['-']) :
      Downloaded world args before (.ok .success,
        { before with payloads := before.payloads ++ [out.chunks.flatten], log })
  | saved (bucket key outfile : Text) (out : AnnotationOutput Sse) (files : Files Entry Bytes)
      (log : List (Level × Text)) (hreceived : Received world args bucket key out)
      (houtfile : args.outfile = some outfile) (hfile : outfile ≠ ['-'])
      (hsaved : Saved world (out.expected bucket key) outfile before.files files)
      (hprinted : world.print out = .ok ()) :
      Downloaded world args before (.ok .success, { before with files, log })
  | unprinted (bucket key outfile : Text) (out : AnnotationOutput Sse)
      (files : Files Entry Bytes) (log : List (Level × Text)) (chain : Chain)
      (hreceived : Received world args bucket key out) (houtfile : args.outfile = some outfile)
      (hfile : outfile ≠ ['-'])
      (hsaved : Saved world (out.expected bucket key) outfile before.files files)
      (hprinted : world.print out = .error chain) :
      Downloaded world args before (.error chain, { before with files, log })

variable {world : DownloadWorld Sse Entry} {args : UtilArgs} {bucket key outfile : Text}
  {out : AnnotationOutput Sse} {before : Surroundings Entry}

theorem saved_of_allOrNothing {expected : Expected Sse ChecksumAlgorithm}
    {files after : Files Entry Bytes}
    (hsaved : AllOrNothing world.checks expected (world.disk.locate outfile) files
      (.ok (), after)) : Saved world expected outfile files after := by
  obtain ⟨⟨bytes, check, hbytes, hcheck⟩, hothers⟩ := hsaved
  exact ⟨⟨bytes, hbytes, exists_checkIntegrity_ok_iff.mp ⟨check, hcheck⟩⟩, hothers⟩

theorem downloaded_absent (message : Text) :
    Downloaded world args before (absent message before) :=
  .missing (before.log ++ [(.error, message)])

variable [DecidableEq Entry]

theorem downloaded_deliver (hreceived : Received world args bucket key out)
    (houtfile : args.outfile = some outfile) (log : List (Level × Text)) :
    Downloaded world args before
      (deliver world (out.expected bucket key) outfile out out.chunks.flatten
        { before with log }) := by
  unfold deliver
  split
  next hdash =>
    subst hdash
    apply Fallible.bind_elim
    · intro chain after hwrite
      unfold Download.writePayload at hwrite
      split at hwrite
      next => cases hwrite; exact .failed _ log
      next => cases hwrite
    · intro _ after hwrite
      unfold Download.writePayload at hwrite
      split at hwrite
      next => cases hwrite
      next => cases hwrite; exact .streamed bucket key out log hreceived houtfile
  next hfile =>
    have hall := (written world.disk world.checks (out.expected bucket key) outfile
      out.chunks.flatten before.files).allOrNothing
    apply Fallible.bind_elim
    · intro chain after hsave
      rcases hwrite : writeVerifiedOutput world.disk world.checks (out.expected bucket key)
        outfile out.chunks.flatten before.files with ⟨result, files⟩
      rw [hwrite] at hall
      simp only [Download.save, hwrite] at hsave
      cases hsave
      cases hall
      exact .failed chain log
    · intro _ after hsave
      rcases hwrite : writeVerifiedOutput world.disk world.checks (out.expected bucket key)
        outfile out.chunks.flatten before.files with ⟨result, files⟩
      rw [hwrite] at hall
      simp only [Download.save, hwrite] at hsave
      cases hsave
      have hsaved := saved_of_allOrNothing hall
      apply Fallible.ofExcept_bind_elim
      · intro chain hprint
        exact .unprinted bucket key outfile out files log chain hreceived houtfile hfile hsaved hprint
      · intro _ hprint
        exact .saved bucket key outfile out files log hreceived houtfile hfile hsaved hprint

theorem downloaded_receive {annotationName : Text} (hbucketKey : args.bucketKey = .ok (bucket, key))
    (hname : args.annotationName = some annotationName)
    (hfetch : world.fetch ⟨bucket, key, annotationName, args.targetVersionId,
      args.requestPayer⟩ = .ok out) (houtfile : args.outfile = some outfile) :
    Downloaded world args before (receive world bucket key outfile out before) := by
  apply Fallible.ofExcept_bind_elim
  · intro chain _
    exact .failed chain before.log
  intro payload hread
  apply Fallible.ofExcept_bind_elim
  · intro chain _
    exact .failed chain before.log
  intro check hcheck
  obtain ⟨hfault, rfl, hlength⟩ := out.readPayload_eq_ok hread
  have hreceived : Received world args bucket key out :=
    { bucketKey := hbucketKey
      fetched := ⟨annotationName, hname, hfetch⟩
      complete := hfault
      bounded := hlength
      intact := exists_checkIntegrity_ok_iff.mp ⟨check, hcheck⟩ }
  cases check with
  | verified => exact downloaded_deliver hreceived houtfile before.log
  | unverifiable => exact downloaded_deliver hreceived houtfile _

/-- Whatever S3, the disk and stdout do, a download ends in one of these ways: it changes
nothing but the log, or it has handed the whole verified payload to stdout, or it has saved
verified bytes under the output file and touched no other. -/
theorem downloaded_runGetObject (world : DownloadWorld Sse Entry) (args : UtilArgs)
    (before : Surroundings Entry) :
    Downloaded world args before <| runGetObjectAnnotation world args before := by
  apply Fallible.ofExcept_bind_elim
  · intro chain _
    exact .failed chain before.log
  rintro ⟨bucket, key⟩ hbucketKey
  apply Fallible.ofExcept_bind_elim
  · intro chain _
    exact .failed chain before.log
  intro annotationName hname
  apply Fallible.ofExcept_bind_elim
  · intro chain _
    exact .failed chain before.log
  intro _ _
  apply Fallible.ofExcept_bind_elim
  · intro chain _
    exact .failed chain before.log
  intro outfile houtfile
  rcases hfetch : world.fetch ⟨bucket, key, annotationName, args.targetVersionId,
    args.requestPayer⟩ with (_ | _ | _ | chain) | out
  · exact downloaded_absent _
  · exact downloaded_absent _
  · exact downloaded_absent _
  · exact .failed chain before.log
  · exact downloaded_receive (trimmedError_eq_ok_iff.mp hbucketKey) (okOr_eq_ok_iff.mp hname)
      hfetch (okOr_eq_ok_iff.mp houtfile)

end S7cmd.UtilBin
