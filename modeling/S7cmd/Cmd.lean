import S7cmd.UtilBin.Cp

/-!
# The subcommands

A parsed line is one of 56 subcommands. Of its arguments this program reads a few; the
libraries turn the rest into configurations.
-/

namespace S7cmd

open S7cmd.UtilBin

/-- The tracing flags, which every subcommand has. -/
structure TracingFlags where
  jsonTracing : Bool := false
  awsSdkTracing : Bool := false
  spanEventsTracing : Bool := false
  disableColorTracing : Bool := false
  deriving DecidableEq, Repr

def TracingFlags.any (flags : TracingFlags) : Bool :=
  flags.jsonTracing || flags.awsSdkTracing || flags.spanEventsTracing ||
    flags.disableColorTracing

/-- Arguments of which only the tracing flags are read here. The libraries read `rest`. -/
structure Args (Rest : Type) where
  common : TracingFlags
  rest : Rest

/-- The arguments of a `put-*` subcommand whose operand names a configuration. -/
structure PutConfigurationArgs (Rest : Type) extends Args Rest where
  configuration : Option Text
  dryRun : Bool

structure PutObjectAnnotationArgs (Rest : Type) extends Args Rest where
  annotationName : Option Text
  annotationPayload : Option Text
  targetVersionId : Option Text
  dryRun : Bool

structure StateFlagArgs (Rest : Type) extends Args Rest where
  enabled : Bool
  suspended : Bool

structure PutBucketRequestPaymentArgs (Rest : Type) extends Args Rest where
  requester : Bool
  bucketOwner : Bool

/-- The parsed subcommand of a line. The fields of `sync` are private to its library, and
those of a nested `batch-run` are never read. -/
inductive Cmd (Rest : Type) where
  -- object operations
  | ls (args : Args Rest)
  | cp (args : Args Rest)
  | mv (args : Args Rest)
  | rename (args : Args Rest)
  | rm (args : Args Rest)
  | restoreObject (args : Args Rest)
  | presign (args : Args Rest)
  | sync (args : Rest)
  | clean (args : Args Rest)
  -- object metadata
  | headObject (args : Args Rest)
  | getObjectTagging (args : Args Rest)
  | putObjectTagging (args : Args Rest)
  | deleteObjectTagging (args : Args Rest)
  -- object annotation
  | getObjectAnnotation (args : Args Rest)
  | putObjectAnnotation (args : PutObjectAnnotationArgs Rest)
  | deleteObjectAnnotation (args : Args Rest)
  | listObjectAnnotations (args : Args Rest)
  -- bucket operations
  | createBucket (args : Args Rest)
  | deleteBucket (args : Args Rest)
  | headBucket (args : Args Rest)
  | getBucketTagging (args : Args Rest)
  | putBucketTagging (args : Args Rest)
  | deleteBucketTagging (args : Args Rest)
  | getBucketPolicy (args : Args Rest)
  | putBucketPolicy (args : PutConfigurationArgs Rest)
  | deleteBucketPolicy (args : Args Rest)
  | getBucketVersioning (args : Args Rest)
  | putBucketVersioning (args : StateFlagArgs Rest)
  | getBucketLifecycleConfiguration (args : Args Rest)
  | putBucketLifecycleConfiguration (args : PutConfigurationArgs Rest)
  | deleteBucketLifecycleConfiguration (args : Args Rest)
  | getBucketEncryption (args : Args Rest)
  | putBucketEncryption (args : PutConfigurationArgs Rest)
  | deleteBucketEncryption (args : Args Rest)
  | getBucketCors (args : Args Rest)
  | putBucketCors (args : PutConfigurationArgs Rest)
  | deleteBucketCors (args : Args Rest)
  | getPublicAccessBlock (args : Args Rest)
  | putPublicAccessBlock (args : PutConfigurationArgs Rest)
  | deletePublicAccessBlock (args : Args Rest)
  | getBucketWebsite (args : Args Rest)
  | putBucketWebsite (args : PutConfigurationArgs Rest)
  | deleteBucketWebsite (args : Args Rest)
  | getBucketLogging (args : Args Rest)
  | putBucketLogging (args : PutConfigurationArgs Rest)
  | getBucketNotificationConfiguration (args : Args Rest)
  | putBucketNotificationConfiguration (args : PutConfigurationArgs Rest)
  | getBucketReplication (args : Args Rest)
  | putBucketReplication (args : PutConfigurationArgs Rest)
  | deleteBucketReplication (args : Args Rest)
  | getBucketAccelerateConfiguration (args : Args Rest)
  | putBucketAccelerateConfiguration (args : StateFlagArgs Rest)
  | getBucketRequestPayment (args : Args Rest)
  | putBucketRequestPayment (args : PutBucketRequestPaymentArgs Rest)
  | getBucketPolicyStatus (args : Args Rest)
  | batchRun (args : Rest)

/-- `s3sync::Config`, as far as it is read here -/
structure SyncConfig (Rest : Type) where
  reportSyncStatus : Bool
  dryRun : Bool
  tracingConfig : Option TracingFlags
  rest : Rest

/-- What the libraries make of arguments. A conversion may reject them. -/
structure Libraries (Rest : Type) where
  lsConfig : Args Rest → Except Text Rest
  cpConfig : Args Rest → Except Text UtilConfig
  mvConfig : Args Rest → Except Text UtilConfig
  /-- `RenameArgs::validate` -/
  renameValidate : Args Rest → Except Text Unit
  syncConfig : Rest → Except Text (SyncConfig Rest)
  cleanConfig : Args Rest → Except Text Rest

end S7cmd
