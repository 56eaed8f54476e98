import S7cmd.Cmd
import S7cmd.UtilBin.Operands

/-!
# Putting what an operand names

Nine subcommands put the configuration of a bucket and one puts the annotation of an object.
Each takes its body from a file or, if the operand is `-`, from stdin.
-/

namespace S7cmd.UtilBin

open Foundation

/-- The configurations that are parsed as JSON before they are put. -/
inductive Configuration where
  | lifecycle
  | encryption
  | cors
  | publicAccessBlock
  | website
  | logging
  | notification
  | replication
  deriving DecidableEq, Repr

inductive HeadError where
  | bucketNotFound
  | notFound
  | other (chain : Chain)
  deriving DecidableEq, Repr

structure PutObjectAnnotationParams where
  bucket : Text
  key : Text
  annotationName : Text
  versionId : Option Text
  contentMd5 : Text
  checksumCrc64Nvme : Text
  deriving DecidableEq, Repr

/-- What these subcommands ask of the file system, of the libraries and of S3. -/
structure PutWorld (Rest State : Type) where
  bucketName : Args Rest → Except Text Text
  bucketKey : Args Rest → Except Text (Text × Text)
  readToString : Text → Except Text Text
  /-- no more of a file than the cap -/
  readTake : Text → Nat → Except Text Bytes
  /-- `serde_json::from_str` -/
  fromStr : Configuration → Text → Except Text Rest
  intoSdk : Configuration → Rest → Except Chain Rest
  putConfiguration : Configuration → Args Rest → Text → Rest → State → Except Chain Unit × State
  putBucketPolicy : Args Rest → Text → Text → State → Except Chain Unit × State
  validateAnnotationName : Text → Except Chain Unit
  maxAnnotationPayloadLen : Nat
  validatePayloadLen : Nat → Except Chain Unit
  contentMd5Base64 : Bytes → Text
  crc64nvmeBase64 : Bytes → Text
  /-- with the checksum of the response -/
  putObjectAnnotation : Args Rest → PutObjectAnnotationParams → Bytes → State →
    Except HeadError (Option Text) × State
  verifyCrc64nvme : Text → Option Text → Except Chain Unit
  /-- printing the response -/
  printResponse : Option Text → Except Chain Unit

variable {Rest State : Type}

/-- The error of a conversion, without the blanks at its end. -/
def trimmedError {α : Type} (result : Except Text α) : Except Chain α :=
  result.mapError fun message => [message.trimEnd]

/-- `ok_or_else` -/
def okOr {α : Type} (message : Text) : Option α → Except Chain α
  | none => .error [message]
  | some value => .ok value

theorem okOr_eq_ok_iff {α : Type} {message : Text} {option : Option α} {value : α} :
    okOr message option = .ok value ↔ option = some value := by
  cases option <;> simp [okOr]

/-! ## The configurations of a bucket -/

/-- What tells the subcommands that put a configuration apart. -/
structure ConfigurationValues where
  configuration : Configuration
  required : Text
  reading : Text
  /-- the error for a body that does not parse -/
  unparsed : Text → Chain := fun cause => [cause]

def runPutConfiguration (values : ConfigurationValues) (world : PutWorld Rest State)
    (args : PutConfigurationArgs Rest) : Runner State Unit := do
  let bucket ← .ofExcept (trimmedError (world.bucketName args.toArgs))
  let operand ← .ofExcept (okOr values.required args.configuration)
  let body ← readOperand world.readToString values.reading operand
  let parsed ← .ofExcept (withContext ("parsing JSON from ".toList ++ operand)
    ((world.fromStr values.configuration body).mapError values.unparsed))
  let cfg ← .ofExcept (world.intoSdk values.configuration parsed)
  if args.dryRun then return ()
  else outside (world.putConfiguration values.configuration args.toArgs bucket cfg)

def lifecycleHint : Text := ("`TransitionDefaultMinimumObjectSize` is a request parameter, not " ++
  "part of the lifecycle configuration document: remove it from the JSON and pass it with " ++
  "--transition-default-minimum-object-size instead").toList

/-- The error of `parse_lifecycle_configuration`, with a hint for a field that a body read
back from S3 has. -/
def unparsedLifecycle (cause : Text) : Chain :=
  if cause.contains "unknown field `TransitionDefaultMinimumObjectSize`".toList then
    [lifecycleHint, cause]
  else [cause]

def runPutBucketLifecycleConfiguration (world : PutWorld Rest State) :
    PutConfigurationArgs Rest → Runner State Unit :=
  runPutConfiguration
    { configuration := .lifecycle
      required := "lifecycle-configuration source required".toList
      reading := "lifecycle configuration".toList
      unparsed := unparsedLifecycle } world

def runPutBucketEncryption (world : PutWorld Rest State) :
    PutConfigurationArgs Rest → Runner State Unit :=
  runPutConfiguration
    { configuration := .encryption
      required := "server-side-encryption-configuration source required".toList
      reading := "server-side-encryption configuration".toList } world

def runPutBucketCors (world : PutWorld Rest State) :
    PutConfigurationArgs Rest → Runner State Unit :=
  runPutConfiguration
    { configuration := .cors
      required := "cors-configuration source required".toList
      reading := "cors configuration".toList } world

def runPutPublicAccessBlock (world : PutWorld Rest State) :
    PutConfigurationArgs Rest → Runner State Unit :=
  runPutConfiguration
    { configuration := .publicAccessBlock
      required := "public-access-block-configuration source required".toList
      reading := "public-access-block configuration".toList } world

def runPutBucketWebsite (world : PutWorld Rest State) :
    PutConfigurationArgs Rest → Runner State Unit :=
  runPutConfiguration
    { configuration := .website
      required := "website-configuration source required".toList
      reading := "website configuration".toList } world

def runPutBucketLogging (world : PutWorld Rest State) :
    PutConfigurationArgs Rest → Runner State Unit :=
  runPutConfiguration
    { configuration := .logging
      required := "bucket-logging-status source required".toList
      reading := "bucket-logging-status".toList } world

def runPutBucketNotificationConfiguration (world : PutWorld Rest State) :
    PutConfigurationArgs Rest → Runner State Unit :=
  runPutConfiguration
    { configuration := .notification
      required := "notification-configuration source required".toList
      reading := "notification-configuration".toList } world

def runPutBucketReplication (world : PutWorld Rest State) :
    PutConfigurationArgs Rest → Runner State Unit :=
  runPutConfiguration
    { configuration := .replication
      required := "replication-configuration source required".toList
      reading := "replication configuration".toList } world

/-- A policy is put as it is read: S3 parses it. -/
def runPutBucketPolicy (world : PutWorld Rest State) (args : PutConfigurationArgs Rest) :
    Runner State Unit := do
  let bucket ← .ofExcept (trimmedError (world.bucketName args.toArgs))
  let operand ← .ofExcept (okOr "policy source required".toList args.configuration)
  let body ← readOperand world.readToString "policy".toList operand
  if args.dryRun then return ()
  else outside (world.putBucketPolicy args.toArgs bucket body)

/-! ## The annotation of an object -/

/-- What `put-object-annotation` returns once S3 has answered. -/
def annotationStatus (world : PutWorld Rest State) (crc64 : Text) :
    Except HeadError (Option Text) → Except Chain ExitStatus
  | .ok checksum => do
      world.verifyCrc64nvme crc64 checksum
      world.printResponse checksum
      return .success
  | .error .bucketNotFound => .ok .notFound
  | .error .notFound => .ok .notFound
  | .error (.other chain) => .error chain

def runPutObjectAnnotation (world : PutWorld Rest State) (args : PutObjectAnnotationArgs Rest) :
    Runner State ExitStatus := do
  let (bucket, key) ← .ofExcept (trimmedError (world.bucketKey args.toArgs))
  let annotationName ← .ofExcept (okOr "--annotation-name is required".toList args.annotationName)
  .ofExcept (world.validateAnnotationName annotationName)
  let operand ← .ofExcept (okOr "--annotation-payload is required".toList args.annotationPayload)
  -- one byte more than is allowed shows a payload that is too long
  let payload ← takeOperand world.readTake "annotation payload".toList operand
    (world.maxAnnotationPayloadLen + 1)
  .ofExcept (world.validatePayloadLen payload.length)
  let crc64 := world.crc64nvmeBase64 payload
  if args.dryRun then return .success
  else
    let params : PutObjectAnnotationParams :=
      { bucket
        key
        annotationName
        versionId := args.targetVersionId
        contentMd5 := world.contentMd5Base64 payload
        checksumCrc64Nvme := crc64 }
    outside fun state =>
      let (response, after) := world.putObjectAnnotation args.toArgs params payload state
      (annotationStatus world crc64 response, after)

/-! ## An operand that names a file -/

/-- An operand that was given, and names a file, is not `-`. -/
theorem ne_of_okOr {message operand : Text} {given : Option Text} (hfile : given ≠ some ['-'])
    (hoperand : okOr message given = .ok operand) : operand ≠ ['-'] := by
  rintro rfl
  exact hfile (okOr_eq_ok_iff.mp hoperand)

theorem leaves_runPutConfiguration (values : ConfigurationValues) (world : PutWorld Rest State)
    {args : PutConfigurationArgs Rest} (hfile : args.configuration ≠ some ['-']) :
    Leaves Process.operandReads (runPutConfiguration values world args) := by
  apply Leaves.bind_ofExcept
  intro bucket _
  apply Leaves.bind_ofExcept
  intro operand hoperand
  apply Leaves.bind (leaves_readOperand _ (ne_of_okOr hfile hoperand))
  intro body
  apply Leaves.bind_ofExcept
  intro parsed _
  apply Leaves.bind_ofExcept
  intro cfg _
  apply Leaves.ite
  · intro _
    apply Leaves.pure
  · intro _
    apply leaves_outside

theorem leaves_runPutBucketPolicy (world : PutWorld Rest State)
    {args : PutConfigurationArgs Rest} (hfile : args.configuration ≠ some ['-']) :
    Leaves Process.operandReads (runPutBucketPolicy world args) := by
  apply Leaves.bind_ofExcept
  intro bucket _
  apply Leaves.bind_ofExcept
  intro operand hoperand
  apply Leaves.bind (leaves_readOperand _ (ne_of_okOr hfile hoperand))
  intro body
  apply Leaves.ite
  · intro _
    apply Leaves.pure
  · intro _
    apply leaves_outside

theorem leaves_runPutObjectAnnotation (world : PutWorld Rest State)
    {args : PutObjectAnnotationArgs Rest} (hfile : args.annotationPayload ≠ some ['-']) :
    Leaves Process.operandReads <| runPutObjectAnnotation world args := by
  apply Leaves.bind_ofExcept
  rintro ⟨bucket, key⟩ _
  apply Leaves.bind_ofExcept
  intro annotationName _
  apply Leaves.bind_ofExcept
  intro _ _
  apply Leaves.bind_ofExcept
  intro operand hoperand
  apply Leaves.bind (leaves_takeOperand _ _ (ne_of_okOr hfile hoperand))
  intro payload
  apply Leaves.bind_ofExcept
  intro _ _
  apply Leaves.ite
  · intro _
    apply Leaves.pure
  · intro _
    apply leaves_outside

end S7cmd.UtilBin
