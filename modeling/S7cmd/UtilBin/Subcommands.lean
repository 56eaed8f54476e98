import S7cmd.UtilBin.Request

/-!
# The short subcommands

Families of them do the same with different values: they delete a part of a bucket, or
print what is read of it. Those that do more have bodies of their own.
-/

namespace S7cmd.UtilBin

open Foundation

variable {Output Json : Type}

/-! ## Deleting -/

def runDeleteBucketPart (part : BucketPart) (args : UtilArgs) : Exchange Output Unit := do
  let bucket ← .done (trimmedError args.bucketName)
  unlessDryRun args () (.deleteBucketPart part bucket) .done

def runDeleteBucket : UtilArgs → Exchange Output Unit := runDeleteBucketPart .bucket

def runDeleteBucketTagging : UtilArgs → Exchange Output Unit := runDeleteBucketPart .tagging

def runDeleteBucketPolicy : UtilArgs → Exchange Output Unit := runDeleteBucketPart .policy

def runDeleteBucketLifecycleConfiguration : UtilArgs → Exchange Output Unit :=
  runDeleteBucketPart .lifecycle

def runDeleteBucketEncryption : UtilArgs → Exchange Output Unit :=
  runDeleteBucketPart .encryption

def runDeleteBucketCors : UtilArgs → Exchange Output Unit := runDeleteBucketPart .cors

def runDeletePublicAccessBlock : UtilArgs → Exchange Output Unit :=
  runDeleteBucketPart .publicAccessBlock

def runDeleteBucketWebsite : UtilArgs → Exchange Output Unit := runDeleteBucketPart .website

def runDeleteBucketReplication : UtilArgs → Exchange Output Unit :=
  runDeleteBucketPart .replication

def runRm (args : UtilArgs) : Exchange Output Unit := do
  let (bucket, key) ← .done (trimmedError args.bucketKey)
  unlessDryRun args () (.deleteObject bucket key args.sourceVersionId args.requestPayer) .done

def runDeleteObjectTagging (args : UtilArgs) : Exchange Output Unit := do
  let (bucket, key) ← .done (trimmedError args.bucketKey)
  unlessDryRun args () (.deleteObjectTagging bucket key args.sourceVersionId) .done

/-- How the deletion of an annotation ends. -/
def annotationDeleted (args : UtilArgs) (bucket key annotationName : Text) :
    Except ObjectAnnotationError Unit → Exchange Output ExitStatus
  | .ok () => return .success
  | .error .bucketNotFound => do
      log .error (bucketNotFound bucket)
      return .notFound
  | .error .notFound => do
      log .error <| notFound <| versioned bucket key args.targetVersionId
        ("object ".toList ++ s3Object bucket key)
      return .notFound
  | .error .annotationNotFound => do
      let missing := "annotation ".toList ++ annotationName ++ " not found for ".toList
      log .error (missing ++ versioned bucket key args.targetVersionId (s3Object bucket key))
      return .notFound
  | .error (.other chain) => .done (.error chain)

def runDeleteObjectAnnotation (codecs : Codecs Output Json) (args : UtilArgs) :
    Exchange Output ExitStatus := do
  let (bucket, key) ← .done (trimmedError args.bucketKey)
  let annotationName ← .done (okOr "--annotation-name is required".toList args.annotationName)
  .done (codecs.validateAnnotationName annotationName)
  let deletion :=
    Change.deleteObjectAnnotation bucket key annotationName args.targetVersionId
      args.requestPayer
  unlessDryRun args .success deletion (annotationDeleted args bucket key annotationName)

/-! ## Putting -/

def runPutBucketVersioning (args : UtilArgs) : Exchange Output Unit := do
  let bucket ← .done (trimmedError args.bucketName)
  unlessDryRun args () (.putBucketVersioning bucket args.versioningStatus) .done

def runPutBucketAccelerateConfiguration (args : UtilArgs) : Exchange Output Unit := do
  let bucket ← .done (trimmedError args.bucketName)
  unlessDryRun args () (.putBucketAccelerateConfiguration bucket args.accelerateStatus) .done

def runPutBucketRequestPayment (args : UtilArgs) : Exchange Output Unit := do
  let bucket ← .done (trimmedError args.bucketName)
  unlessDryRun args () (.putBucketRequestPayment bucket args.payer) .done

def runPutBucketTagging (codecs : Codecs Output Json) (args : UtilArgs) :
    Exchange Output Unit := do
  let bucket ← .done (trimmedError args.bucketName)
  let tags ← .done (parseTaggingToTags codecs.decode (args.tagging.getD []))
  unlessDryRun args () (.putBucketTagging bucket tags) .done

def runPutObjectTagging (codecs : Codecs Output Json) (args : UtilArgs) :
    Exchange Output Unit := do
  let (bucket, key) ← .done (trimmedError args.bucketKey)
  let tags ← .done (parseTaggingToTags codecs.decode (args.tagging.getD []))
  unlessDryRun args ()
    (.putObjectTagging bucket key args.sourceVersionId tags args.requestPayer) .done

/-! ## Creating a bucket -/

def createdUntagged (bucket : Text) : Text :=
  "bucket ".toList ++ s3Bucket bucket ++ (" was created but PutBucketTagging failed; " ++
    "the bucket exists untagged. Retry tagging or delete the bucket manually.").toList

/-- The tags are parsed first, so that a dry run checks them too. -/
def parseTagging (codecs : Codecs Output Json) : Option Text → Except Chain (Option (List Tag))
  | none => .ok none
  | some raw => (parseTaggingToTags codecs.decode raw).map some

/-- The tags of a bucket that is there. That they cannot be put does not undo the bucket. -/
def tagCreated (bucket : Text) : Option (List Tag) → Exchange Output ExitStatus
  | none => return .success
  | some tags => do
      match ← ask (.change (.putBucketTagging bucket tags)) with
      | .ok () => return .success
      | .error chain =>
          ask (.log .warn (createdUntagged bucket) (some chain))
          return .warning

def createBucket (args : UtilArgs) (bucket : Text) (tagging : Option (List Tag)) :
    Exchange Output ExitStatus :=
  unlessDryRun args .success
    (.createBucket bucket args.bucketNamespace args.createBucketConfiguration) fun created => do
      .done created
      tagCreated bucket tagging

/-- With `--if-not-exists`, a bucket that is there already is left as it is. -/
def lookFirst (args : UtilArgs) (bucket : Text) (tagging : Option (List Tag)) :
    Exchange Output ExitStatus := do
  match ← ask (.readBucket .head bucket) with
  | .ok _ => return .success
  | .error .bucketNotFound => createBucket args bucket tagging
  | .error .notFound => createBucket args bucket tagging
  | .error (.other chain) => .done (.error chain)

def runCreateBucket (codecs : Codecs Output Json) (args : UtilArgs) :
    Exchange Output ExitStatus := do
  let bucket ← .done (trimmedError args.bucketName)
  let tagging ← .done (parseTagging codecs args.tagging)
  if args.ifNotExists then lookFirst args bucket tagging
  else createBucket args bucket tagging

/-! ## Renaming and restoring an object -/

def renamed (bucket key : Text) : Except HeadError Unit → Exchange Output ExitStatus
  | .ok () => return .success
  | .error .bucketNotFound => .done (.error [bucketNotFound bucket])
  | .error .notFound => .done (.error [notFound ("object ".toList ++ s3Object bucket key)])
  | .error (.other chain) => .done (.error chain)

/-- The target keeps to the bucket of the source. -/
def runRename (args : UtilArgs) : Exchange Output ExitStatus := do
  let (bucket, sourceKey) ← .done (trimmedError args.sourceBucketKey)
  let (_, targetKey) ← .done (trimmedError args.targetBucketKey)
  unlessDryRun args .success (.renameObject bucket sourceKey targetKey args.conditions)
    (renamed bucket sourceKey)

def runRestoreObject (args : UtilArgs) : Exchange Output ExitStatus := do
  let (bucket, key) ← .done (trimmedError args.bucketKey)
  unlessDryRun args .success
    (.restoreObject bucket key args.sourceVersionId ⟨args.days, args.tier⟩ args.requestPayer)
    (orNotFound .warn bucket (notFound ("object ".toList ++ s3Object bucket key))
      fun _ => return .success)

/-! ## Printing what a bucket has -/

/-- What tells the subcommands apart that print something of a bucket. -/
structure BucketReport where
  query : BucketQuery
  /-- what is missing from a bucket that is there, given the bucket's name -/
  missing : Text → Text
  /-- an empty object stands for what was never configured, and is not printed -/
  skipsEmpty : Bool := false

/-- The missing part of a bucket, under the name it is logged by. -/
def missingPart (part bucket : Text) : Text :=
  notFound (part ++ " for ".toList ++ s3Bucket bucket)

def runBucketReport (report : BucketReport) (codecs : Codecs Output Json) (args : UtilArgs) :
    Exchange Output ExitStatus := do
  let bucket ← .done (trimmedError args.bucketName)
  let answer ← ask (.readBucket report.query bucket)
  orNotFound .warn bucket (report.missing bucket) (fun output => do
    let json := codecs.bucketToJson report.query output
    if report.skipsEmpty && codecs.isEmptyObject json then return .success
    else
      codecs.print json
      return .success) answer

def runHeadBucket : Codecs Output Json → UtilArgs → Exchange Output ExitStatus :=
  runBucketReport { query := .head, missing := bucketNotFound }

def runGetBucketTagging : Codecs Output Json → UtilArgs → Exchange Output ExitStatus :=
  runBucketReport { query := .tagging, missing := missingPart "tags".toList }

def runGetBucketPolicyStatus : Codecs Output Json → UtilArgs → Exchange Output ExitStatus :=
  runBucketReport { query := .policyStatus, missing := missingPart "policy".toList }

def runGetBucketVersioning : Codecs Output Json → UtilArgs → Exchange Output ExitStatus :=
  runBucketReport { query := .versioning, missing := bucketNotFound, skipsEmpty := true }

def runGetBucketLifecycleConfiguration :
    Codecs Output Json → UtilArgs → Exchange Output ExitStatus :=
  runBucketReport
    { query := .lifecycle, missing := missingPart "lifecycle configuration".toList }

def runGetBucketEncryption : Codecs Output Json → UtilArgs → Exchange Output ExitStatus :=
  runBucketReport
    { query := .encryption, missing := missingPart "encryption configuration".toList }

def runGetBucketCors : Codecs Output Json → UtilArgs → Exchange Output ExitStatus :=
  runBucketReport { query := .cors, missing := missingPart "CORS configuration".toList }

def runGetPublicAccessBlock : Codecs Output Json → UtilArgs → Exchange Output ExitStatus :=
  runBucketReport
    { query := .publicAccessBlock
      missing := missingPart "public access block configuration".toList }

def runGetBucketWebsite : Codecs Output Json → UtilArgs → Exchange Output ExitStatus :=
  runBucketReport { query := .website, missing := missingPart "website configuration".toList }

def runGetBucketLogging : Codecs Output Json → UtilArgs → Exchange Output ExitStatus :=
  runBucketReport { query := .logging, missing := bucketNotFound, skipsEmpty := true }

def runGetBucketNotificationConfiguration :
    Codecs Output Json → UtilArgs → Exchange Output ExitStatus :=
  runBucketReport { query := .notification, missing := bucketNotFound, skipsEmpty := true }

def runGetBucketReplication : Codecs Output Json → UtilArgs → Exchange Output ExitStatus :=
  runBucketReport
    { query := .replication, missing := missingPart "replication configuration".toList }

def runGetBucketAccelerateConfiguration :
    Codecs Output Json → UtilArgs → Exchange Output ExitStatus :=
  runBucketReport { query := .accelerate, missing := bucketNotFound, skipsEmpty := true }

def runGetBucketRequestPayment : Codecs Output Json → UtilArgs → Exchange Output ExitStatus :=
  runBucketReport { query := .requestPayment, missing := bucketNotFound }

/-- The policy of a bucket, pretty-printed if it is JSON and verbatim if it is not. -/
def renderPolicyOnly (codecs : Codecs Output Json) : Option Text → Except Chain Text
  | none => .ok "{}".toList
  | some policy =>
      match codecs.fromStr policy with
      | .ok value => causedBy (codecs.toStringPretty value)
      | .error _ => .ok policy

def runGetBucketPolicy (codecs : Codecs Output Json) (args : UtilArgs) :
    Exchange Output ExitStatus := do
  let bucket ← .done (trimmedError args.bucketName)
  let answer ← ask (.readBucket .policy bucket)
  orNotFound .warn bucket (missingPart "policy".toList bucket) (fun output => do
    let pretty ← .done <|
      if args.policyOnly then renderPolicyOnly codecs (codecs.policy output)
      else causedBy (codecs.toStringPretty (codecs.bucketToJson .policy output))
    printlnPipeSafe pretty
    return .success) answer

/-! ## Printing what an object has -/

/-- The answer for an object, printed. -/
def printObject (query : ObjectQuery) (codecs : Codecs Output Json) (output : Output) :
    Exchange Output ExitStatus := do
  codecs.print (codecs.objectToJson query output)
  return .success

/-- A missing bucket and a missing object are logged alike. -/
def runHeadObject (codecs : Codecs Output Json) (args : UtilArgs) :
    Exchange Output ExitStatus := do
  let (bucket, key) ← .done (trimmedError args.bucketKey)
  let query := ObjectQuery.head
    { versionId := args.sourceVersionId
      sseC := args.sourceSseC
      sseCKey := args.sourceSseCKey
      sseCKeyMd5 := args.sourceSseCKeyMd5
      enableAdditionalChecksum := args.enableAdditionalChecksum
      requestPayer := args.requestPayer }
  let missing := notFound (versioned bucket key args.sourceVersionId (s3Object bucket key))
  match ← ask (.readObject query bucket key) with
  | .ok output => printObject query codecs output
  | .error .bucketNotFound => do
      log .warn missing
      return .notFound
  | .error .notFound => do
      log .warn missing
      return .notFound
  | .error (.other chain) => .done (.error chain)

def runGetObjectTagging (codecs : Codecs Output Json) (args : UtilArgs) :
    Exchange Output ExitStatus := do
  let (bucket, key) ← .done (trimmedError args.bucketKey)
  let query := ObjectQuery.tagging args.sourceVersionId args.requestPayer
  let answer ← ask (.readObject query bucket key)
  orNotFound .warn bucket
    (notFound (versioned bucket key args.sourceVersionId (s3Object bucket key)))
    (printObject query codecs) answer

def runListObjectAnnotations (codecs : Codecs Output Json) (args : UtilArgs) :
    Exchange Output ExitStatus := do
  let (bucket, key) ← .done (trimmedError args.bucketKey)
  let query := ObjectQuery.annotations args.annotationPrefix args.targetVersionId
    args.requestPayer
  let answer ← ask (.readObject query bucket key)
  orNotFound .error bucket
    (notFound (versioned bucket key args.targetVersionId
      ("object ".toList ++ s3Object bucket key)))
    (printObject query codecs) answer

/-- The URL is signed without asking S3. -/
def runPresign (args : UtilArgs) : Exchange Output ExitStatus := do
  let (bucket, key) ← .done (trimmedError args.bucketKey)
  let signed ← ask (.presignGetObject bucket key args.expiresIn args.requestPayer)
  let url ← .done signed
  printlnPipeSafe url
  return .success

end S7cmd.UtilBin
