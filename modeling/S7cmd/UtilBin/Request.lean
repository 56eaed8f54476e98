import S7cmd.Foundation.Client
import S7cmd.UtilBin.PutConfiguration
import S7cmd.UtilBin.Tagging

/-!
# What the short subcommands ask for

Most subcommands check their arguments, send a request or two to S3 and print the answer.
They are clients: of S3, of stdout and of the log.
-/

namespace S7cmd.UtilBin

open Foundation

/-! ## Requests -/

/-- What is read of a bucket. -/
inductive BucketQuery where
  | head
  | tagging
  | policy
  | policyStatus
  | versioning
  | lifecycle
  | encryption
  | cors
  | publicAccessBlock
  | website
  | logging
  | notification
  | replication
  | accelerate
  | requestPayment
  deriving DecidableEq, Repr

structure HeadObjectOpts where
  versionId : Option Text
  sseC : Option Text
  sseCKey : Option Text
  sseCKeyMd5 : Option Text
  enableAdditionalChecksum : Bool
  requestPayer : Option Text
  deriving DecidableEq, Repr

/-- What is read of an object. -/
inductive ObjectQuery where
  | head (opts : HeadObjectOpts)
  | tagging (versionId requestPayer : Option Text)
  | annotations (annotationPrefix versionId requestPayer : Option Text)
  deriving DecidableEq, Repr

/-- What is deleted of a bucket, or that the bucket is. -/
inductive BucketPart where
  | bucket
  | tagging
  | policy
  | lifecycle
  | encryption
  | cors
  | publicAccessBlock
  | website
  | replication
  deriving DecidableEq, Repr

structure RenameObjectConditions where
  sourceIfMatch : Option Text := none
  sourceIfNoneMatch : Option Text := none
  destinationIfMatch : Option Text := none
  destinationIfNoneMatch : Option Text := none
  deriving DecidableEq, Repr

/-- `RestoreRequest`; the tier stands in its `GlacierJobParameters`. -/
structure RestoreRequest where
  days : Option Int
  tier : Option Text
  deriving DecidableEq, Repr

inductive ObjectAnnotationError where
  | bucketNotFound
  | notFound
  | annotationNotFound
  | other (chain : Chain)
  deriving DecidableEq, Repr

/-- The requests that change what S3 holds. -/
inductive Change where
  | createBucket (bucket : Text) (bucketNamespace locationConstraint : Option Text)
  | deleteBucketPart (part : BucketPart) (bucket : Text)
  | putBucketTagging (bucket : Text) (tags : List Tag)
  | putBucketVersioning (bucket status : Text)
  | putBucketAccelerateConfiguration (bucket status : Text)
  | putBucketRequestPayment (bucket payer : Text)
  | deleteObject (bucket key : Text) (versionId requestPayer : Option Text)
  | deleteObjectTagging (bucket key : Text) (versionId : Option Text)
  | putObjectTagging (bucket key : Text) (versionId : Option Text) (tags : List Tag)
      (requestPayer : Option Text)
  | deleteObjectAnnotation (bucket key annotationName : Text)
      (versionId requestPayer : Option Text)
  | renameObject (bucket sourceKey targetKey : Text) (conditions : RenameObjectConditions)
  | restoreObject (bucket key : Text) (versionId : Option Text) (request : RestoreRequest)
      (requestPayer : Option Text)
  deriving DecidableEq, Repr

/-- How a change fails: three of them tell what was not found. -/
abbrev Change.Failure : Change → Type
  | Change.deleteObjectAnnotation .. => ObjectAnnotationError
  | .renameObject .. | .restoreObject .. => HeadError
  | _ => Chain

inductive Level where
  | warn
  | error
  deriving DecidableEq, Repr

/-- The error of a write, as far as it is told apart. -/
inductive IoError where
  | brokenPipe
  | other (cause : Text)
  deriving DecidableEq, Repr

inductive Request where
  | readBucket (query : BucketQuery) (bucket : Text)
  | readObject (query : ObjectQuery) (bucket key : Text)
  /-- signed here, without S3 -/
  | presignGetObject (bucket key : Text) (expiresIn : Nat) (requestPayer : Option Text)
  | change (change : Change)
  | writeStdout (text : Text)
  | flushStdout
  /-- a warning may show the error that it passes over -/
  | log (level : Level) (message : Text) (cause : Option Chain)
  deriving DecidableEq, Repr

/-- The outputs of the SDK are not looked into here. -/
abbrev Answer (Output : Type) : Request → Type
  | .readBucket .. | .readObject .. => Except HeadError Output
  | .presignGetObject .. => Except Chain Text
  | .change change => Except change.Failure Unit
  | .writeStdout _ | .flushStdout => Except IoError Unit
  | .log .. => Unit

/-- Whether the request changes what S3 holds. -/
def Request.changes : Request → Bool
  | .change _ => true
  | _ => false

/-- Whether the request is for S3 or its signatures, and reads. -/
def Request.reads : Request → Bool
  | .readBucket .. | .readObject .. | .presignGetObject .. => true
  | _ => false

/-- What one of these subcommands asks for, up to its first error. -/
abbrev Exchange (Output α : Type) : Type := Client Request (Answer Output) Chain α

/-- What was asked and answered. -/
abbrev Transcript (Output : Type) : Type :=
  List ((request : Request) × Answer Output request)

variable {Output : Type}

/-- One request, for its answer. -/
def ask (request : Request) : Exchange Output (Answer Output request) := Client.ask request

def log (level : Level) (message : Text) : Exchange Output Unit := ask (.log level message none)

/-! ## Printing -/

/-- A reader that went away early is no error. -/
def ignoreBrokenPipe : Except IoError Unit → Except Chain Unit
  | .ok () => .ok ()
  | .error .brokenPipe => .ok ()
  | .error (.other cause) => .error [cause]

def printlnPipeSafe (text : Text) : Exchange Output Unit := do
  match ← ask (.writeStdout (text ++ ['\n'])) with
  | .error error => .done (ignoreBrokenPipe (.error error))
  | .ok () =>
      let flushed ← ask .flushStdout
      .done (ignoreBrokenPipe flushed)

/-- What the libraries make of texts and of outputs. -/
structure Codecs (Output Json : Type) where
  /-- `urlencoding::decode` -/
  decode : Text → Except Text Text
  validateAnnotationName : Text → Except Chain Unit
  bucketToJson : BucketQuery → Output → Json
  objectToJson : ObjectQuery → Output → Json
  isEmptyObject : Json → Bool
  toStringPretty : Json → Except Text Text
  fromStr : Text → Except Text Json
  policy : Output → Option Text

variable {Json : Type}

def Codecs.print (codecs : Codecs Output Json) (json : Json) : Exchange Output Unit := do
  let pretty ← .done (causedBy (codecs.toStringPretty json))
  printlnPipeSafe pretty

/-! ## Arguments -/

/-- What the runners read of their arguments and of the client's configuration. A
subcommand has those of them that its runner reads. -/
structure UtilArgs where
  bucketName : Except Text Text
  bucketKey : Except Text (Text × Text)
  dryRun : Bool := false
  requestPayer : Option Text := none
  sourceVersionId : Option Text := none
  targetVersionId : Option Text := none
  tagging : Option Text := none
  annotationName : Option Text := none
  annotationPrefix : Option Text := none
  outfile : Option Text := none
  policyOnly : Bool := false
  -- head-object
  sourceSseC : Option Text := none
  sourceSseCKey : Option Text := none
  sourceSseCKeyMd5 : Option Text := none
  enableAdditionalChecksum : Bool := false
  -- create-bucket
  ifNotExists : Bool := false
  bucketNamespace : Option Text := none
  createBucketConfiguration : Option Text := none
  -- rename
  sourceBucketKey : Except Text (Text × Text) := bucketKey
  targetBucketKey : Except Text (Text × Text) := bucketKey
  conditions : RenameObjectConditions := {}
  -- restore-object, presign
  days : Option Int := none
  tier : Option Text := none
  expiresIn : Nat
  -- what the state flags stand for
  versioningStatus : Text
  accelerateStatus : Text
  payer : Text

/-- A change, unless it is only rehearsed: then the subcommand has passed. -/
def unlessDryRun {α : Type} (args : UtilArgs) (passed : α) (change : Change)
    (next : Except change.Failure Unit → Exchange Output α) : Exchange Output α :=
  if args.dryRun then return passed
  else ask (.change change) >>= next

/-! ## What is not found -/

def s3Bucket (bucket : Text) : Text := "s3://".toList ++ bucket

def s3Object (bucket key : Text) : Text := s3Bucket bucket ++ '/' :: key

def notFound (what : Text) : Text := what ++ " not found".toList

def bucketNotFound (bucket : Text) : Text := notFound ("bucket ".toList ++ s3Bucket bucket)

/-- An object, or one of its versions. -/
def versioned (bucket key : Text) (versionId : Option Text) (unversioned : Text) : Text :=
  match versionId with
  | some version => s3Object bucket key ++ " (versionId=".toList ++ version ++ [')']
  | none => unversioned

/-- How a request ends that may have found nothing: that is logged, and is a status of its
own. -/
def orNotFound {α : Type} (level : Level) (bucket missing : Text)
    (found : α → Exchange Output ExitStatus) :
    Except HeadError α → Exchange Output ExitStatus
  | .ok output => found output
  | .error .bucketNotFound => do
      log level (bucketNotFound bucket)
      return .notFound
  | .error .notFound => do
      log level missing
      return .notFound
  | .error (.other chain) => .done (.error chain)

end S7cmd.UtilBin
