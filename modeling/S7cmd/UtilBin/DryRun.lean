import S7cmd.Dispatch
import S7cmd.UtilBin.Guards

/-!
# Dry runs

A dry run is the run up to its first change. So it does all the checks of the run, fails
as the run would, and passes where the run gets as far as a change.
-/

namespace S7cmd.UtilBin

open Foundation

variable {Output Json Rest State : Type}

/-! ## The runners of the short subcommands -/

/-- Those whose result goes through `unit_to_exit`. -/
def unitRunner (codecs : Codecs Output Json) :
    Cmd Rest → Option (UtilArgs → Exchange Output Unit)
  | .rm _ => some runRm
  | .deleteBucket _ => some runDeleteBucket
  | .putObjectTagging _ => some (runPutObjectTagging codecs)
  | .deleteObjectTagging _ => some runDeleteObjectTagging
  | .putBucketTagging _ => some (runPutBucketTagging codecs)
  | .deleteBucketTagging _ => some runDeleteBucketTagging
  | .deleteBucketPolicy _ => some runDeleteBucketPolicy
  | .putBucketVersioning _ => some runPutBucketVersioning
  | .deleteBucketLifecycleConfiguration _ => some runDeleteBucketLifecycleConfiguration
  | .deleteBucketEncryption _ => some runDeleteBucketEncryption
  | .deleteBucketCors _ => some runDeleteBucketCors
  | .deletePublicAccessBlock _ => some runDeletePublicAccessBlock
  | .deleteBucketWebsite _ => some runDeleteBucketWebsite
  | .deleteBucketReplication _ => some runDeleteBucketReplication
  | .putBucketAccelerateConfiguration _ => some runPutBucketAccelerateConfiguration
  | .putBucketRequestPayment _ => some runPutBucketRequestPayment
  | _ => none

/-- Those whose result goes through `status_to_exit`. -/
def statusRunner (codecs : Codecs Output Json) :
    Cmd Rest → Option (UtilArgs → Exchange Output ExitStatus)
  | .rename _ => some runRename
  | .restoreObject _ => some runRestoreObject
  | .presign _ => some runPresign
  | .headObject _ => some (runHeadObject codecs)
  | .getObjectTagging _ => some (runGetObjectTagging codecs)
  | Cmd.deleteObjectAnnotation _ => some <| runDeleteObjectAnnotation codecs
  | .listObjectAnnotations _ => some (runListObjectAnnotations codecs)
  | .createBucket _ => some (runCreateBucket codecs)
  | .headBucket _ => some (runHeadBucket codecs)
  | .getBucketTagging _ => some (runGetBucketTagging codecs)
  | .getBucketPolicy _ => some (runGetBucketPolicy codecs)
  | .getBucketVersioning _ => some (runGetBucketVersioning codecs)
  | .getBucketLifecycleConfiguration _ => some (runGetBucketLifecycleConfiguration codecs)
  | .getBucketEncryption _ => some (runGetBucketEncryption codecs)
  | .getBucketCors _ => some (runGetBucketCors codecs)
  | .getPublicAccessBlock _ => some (runGetPublicAccessBlock codecs)
  | .getBucketWebsite _ => some (runGetBucketWebsite codecs)
  | .getBucketLogging _ => some (runGetBucketLogging codecs)
  | .getBucketNotificationConfiguration _ => some (runGetBucketNotificationConfiguration codecs)
  | .getBucketReplication _ => some (runGetBucketReplication codecs)
  | .getBucketAccelerateConfiguration _ => some (runGetBucketAccelerateConfiguration codecs)
  | .getBucketRequestPayment _ => some (runGetBucketRequestPayment codecs)
  | .getBucketPolicyStatus _ => some (runGetBucketPolicyStatus codecs)
  | _ => none

/-- The changes that a subcommand is for, as its arguments give them. -/
def intended (codecs : Codecs Output Json) (args : UtilArgs) :
    Cmd Rest → Transcript Output → List Change
  | .rm _, _ =>
      planned (trimmedError args.bucketKey) fun (bucket, key) =>
        [.deleteObject bucket key args.sourceVersionId args.requestPayer]
  | .deleteBucket _, _ => deletedPart .bucket args
  | .deleteBucketTagging _, _ => deletedPart .tagging args
  | .deleteBucketPolicy _, _ => deletedPart .policy args
  | .deleteBucketLifecycleConfiguration _, _ => deletedPart .lifecycle args
  | .deleteBucketEncryption _, _ => deletedPart .encryption args
  | .deleteBucketCors _, _ => deletedPart .cors args
  | .deletePublicAccessBlock _, _ => deletedPart .publicAccessBlock args
  | .deleteBucketWebsite _, _ => deletedPart .website args
  | .deleteBucketReplication _, _ => deletedPart .replication args
  | .deleteObjectTagging _, _ =>
      planned (trimmedError args.bucketKey) fun (bucket, key) =>
        [.deleteObjectTagging bucket key args.sourceVersionId]
  | .putBucketVersioning _, _ =>
      planned (trimmedError args.bucketName) fun bucket =>
        [.putBucketVersioning bucket args.versioningStatus]
  | .putBucketAccelerateConfiguration _, _ =>
      planned (trimmedError args.bucketName) fun bucket =>
        [.putBucketAccelerateConfiguration bucket args.accelerateStatus]
  | .putBucketRequestPayment _, _ =>
      planned (trimmedError args.bucketName) fun bucket =>
        [.putBucketRequestPayment bucket args.payer]
  | .putBucketTagging _, _ =>
      planned (trimmedError args.bucketName) fun bucket =>
        planned (parseTaggingToTags codecs.decode (args.tagging.getD [])) fun tags =>
          [.putBucketTagging bucket tags]
  | .putObjectTagging _, _ =>
      planned (trimmedError args.bucketKey) fun (bucket, key) =>
        planned (parseTaggingToTags codecs.decode (args.tagging.getD [])) fun tags =>
          [.putObjectTagging bucket key args.sourceVersionId tags args.requestPayer]
  | Cmd.deleteObjectAnnotation _, _ =>
      planned (trimmedError args.bucketKey) fun (bucket, key) =>
        planned (okOr "--annotation-name is required".toList args.annotationName) fun name =>
          planned (codecs.validateAnnotationName name) fun _ =>
            Change.deleteObjectAnnotation bucket key name args.targetVersionId
              args.requestPayer :: []
  | .rename _, _ =>
      planned (trimmedError args.sourceBucketKey) fun (bucket, sourceKey) =>
        planned (trimmedError args.targetBucketKey) fun (_, targetKey) =>
          [.renameObject bucket sourceKey targetKey args.conditions]
  | .restoreObject _, _ =>
      planned (trimmedError args.bucketKey) fun (bucket, key) =>
        [.restoreObject bucket key args.sourceVersionId ⟨args.days, args.tier⟩
          args.requestPayer]
  | .createBucket _, transcript =>
      planned (trimmedError args.bucketName) fun bucket =>
        planned (parseTagging codecs args.tagging) fun tagging =>
          newBucket args bucket tagging transcript
  | _, _ => []

theorem guards_unitRunner {codecs : Codecs Output Json} {cmd : Cmd Rest}
    {runner : UtilArgs → Exchange Output Unit} (hrunner : unitRunner codecs cmd = some runner)
    (args : UtilArgs) : Guarded args (intended codecs args cmd) () runner := by
  cases cmd <;> cases hrunner
  case rm => exact guards_runRm args
  case putObjectTagging => exact guards_runPutObjectTagging args codecs
  case deleteObjectTagging => exact guards_runDeleteObjectTagging args
  case putBucketTagging => exact guards_runPutBucketTagging args codecs
  case putBucketVersioning => exact guards_runPutBucketVersioning args
  case putBucketAccelerateConfiguration =>
    exact guards_runPutBucketAccelerateConfiguration args
  case putBucketRequestPayment => exact guards_runPutBucketRequestPayment args
  all_goals exact guards_runDeleteBucketPart args _

theorem guards_statusRunner {codecs : Codecs Output Json} {cmd : Cmd Rest}
    {runner : UtilArgs → Exchange Output ExitStatus}
    (hrunner : statusRunner codecs cmd = some runner) (args : UtilArgs) :
    Guarded args (intended codecs args cmd) .success runner := by
  cases cmd <;> cases hrunner
  case rename => exact guards_runRename args
  case restoreObject => exact guards_runRestoreObject args
  case presign => exact guards_runPresign args
  case headObject => exact guards_runHeadObject args codecs
  case getObjectTagging => exact guards_runGetObjectTagging args codecs
  case deleteObjectAnnotation => exact guards_runDeleteObjectAnnotation args codecs
  case listObjectAnnotations => exact guards_runListObjectAnnotations args codecs
  case createBucket => exact guards_runCreateBucket args codecs
  case getBucketPolicy => exact guards_runGetBucketPolicy args codecs
  all_goals exact guards_runBucketReport args codecs _

/-! ## What a dry run says of the run -/

/-- The dry run keeps what S3 holds. The run is the dry run, with its result and its
requests, or the dry run has passed and the run goes on from it with a change. -/
structure Foretells {Store α : Type} (server : Server Request (Answer Output) State)
    (store : State → Store) (passed : α) (dry real : Exchange Output α) (state : State) :
    Prop where
  kept : store (dry.run server state).2 = store state
  agrees : (real.run server state = dry.run server state ∧
      real.requests server state = dry.requests server state) ∨
    (dry.run server state).1 = .ok passed ∧
      ∃ change later, real.requests server state =
        dry.requests server state ++ .change change :: later

theorem Guards.foretells {Store α : Type} {server : Server Request (Answer Output) State}
    {store : State → Store}
    (hstore : ∀ request, request.changes = false → ∀ state,
      store (server request state).2 = store state)
    {plan : Transcript Output → List Change} {passed : α} {dry real : Exchange Output α}
    (hguards : Guards plan passed dry real) (state : State) :
    Foretells server store passed dry real state := by
  obtain ⟨-, rfl, -⟩ := hguards
  constructor
  · exact (Client.only_rehearse real).leaves_run hstore state
  · have hrun := @Client.run_rehearse _ _ _ _ _ Request.changes passed server real state
    rcases hrun with hsame | ⟨request, next, hchanges, hpassed, -, hrequests⟩
    · exact Or.inl hsame
    · right
      refine ⟨hpassed, ?_⟩
      cases request <;> cases hchanges
      rw [hrequests, Client.requests_send]
      exact ⟨_, _, rfl⟩

/-- The dry run of every short subcommand, on any server and from any state. -/
theorem dryRun_foretells {Store : Type} (codecs : Codecs Output Json)
    (server : Server Request (Answer Output) State) (store : State → Store)
    (hstore : ∀ request, request.changes = false → ∀ state,
      store (server request state).2 = store state)
    (cmd : Cmd Rest) (args : UtilArgs) (state : State) :
    (∀ runner, unitRunner codecs cmd = some runner →
      Foretells server store () (runner { args with dryRun := true })
        (runner { args with dryRun := false }) state) ∧
    ∀ runner, statusRunner codecs cmd = some runner →
      Foretells server store .success (runner { args with dryRun := true })
        (runner { args with dryRun := false }) state :=
  ⟨fun _ hrunner => (guards_unitRunner hrunner args).foretells hstore state,
    fun _ hrunner => (guards_statusRunner hrunner args).foretells hstore state⟩

/-- The changes of a server that holds buckets and nothing in them. -/
def bucketChange : (change : Change) → List Text → Except change.Failure Unit × List Text
  | .createBucket bucket _ _, buckets => (.ok (), bucket :: buckets)
  | .deleteBucketPart part bucket, buckets =>
      if part = .bucket ∧ bucket ∈ buckets then (.ok (), buckets.erase bucket)
      else (.error ["NoSuchBucket".toList], buckets)
  | Change.deleteObjectAnnotation .., buckets => (.error .notFound, buckets)
  | .renameObject .., buckets => (.error .notFound, buckets)
  | .restoreObject .., buckets => (.error .notFound, buckets)
  | .putBucketTagging .., buckets => (.error ["NotImplemented".toList], buckets)
  | .putBucketVersioning .., buckets => (.error ["NotImplemented".toList], buckets)
  | .putBucketAccelerateConfiguration .., buckets => (.error ["NotImplemented".toList], buckets)
  | .putBucketRequestPayment .., buckets => (.error ["NotImplemented".toList], buckets)
  | .deleteObject .., buckets => (.error ["NotImplemented".toList], buckets)
  | .deleteObjectTagging .., buckets => (.error ["NotImplemented".toList], buckets)
  | .putObjectTagging .., buckets => (.error ["NotImplemented".toList], buckets)

/-- A server that holds buckets and nothing in them. -/
def bucketServer : Server Request (Answer Unit) (List Text)
  | .readBucket _ bucket, buckets =>
      (if bucket ∈ buckets then .ok () else .error .bucketNotFound, buckets)
  | .readObject .., buckets => (.error .notFound, buckets)
  | .presignGetObject .., buckets => (.ok [], buckets)
  | .change change, buckets => bucketChange change buckets
  | .writeStdout _, buckets => (.ok (), buckets)
  | .flushStdout, buckets => (.ok (), buckets)
  | .log .., buckets => ((), buckets)

theorem bucketServer_keeps (request : Request) (hrequest : request.changes = false)
    (buckets : List Text) : (bucketServer request buckets).2 = buckets := by
  cases request <;> first | rfl | cases hrequest

/-- Codecs that render everything as `{}`. -/
def emptyCodecs : Codecs Unit Unit where
  decode text := .ok text
  validateAnnotationName _ := .ok ()
  bucketToJson _ _ := ()
  objectToJson _ _ := ()
  isEmptyObject _ := true
  toStringPretty _ := .ok "{}".toList
  fromStr _ := .ok ()
  policy _ := none

/-- The arguments `s3://logs`. -/
def logsArgs : UtilArgs where
  bucketName := .ok "logs".toList
  bucketKey := .error "no key".toList
  expiresIn := 3600
  versioningStatus := "Enabled".toList
  accelerateStatus := "Enabled".toList
  payer := "Requester".toList

/-- `delete-bucket s3://logs` deletes the bucket that its dry run keeps. -/
theorem dryRun_foretells_deleteBucket :
    (Client.run bucketServer (runDeleteBucket logsArgs) ["logs".toList]).2 = [] ∧
      Foretells bucketServer id () (runDeleteBucket { logsArgs with dryRun := true })
        (runDeleteBucket logsArgs) ["logs".toList] :=
  ⟨by decide, (dryRun_foretells emptyCodecs bucketServer id bucketServer_keeps
    (.deleteBucket ⟨{}, ()⟩) logsArgs ["logs".toList]).1 _ rfl⟩

/-- `create-bucket s3://logs --tagging a=b`, of a bucket that is not asked after. -/
example : intended emptyCodecs { logsArgs with tagging := some "a=b".toList }
    (.createBucket ⟨{}, ()⟩ : Cmd Unit) [] =
      [.createBucket "logs".toList none none, .putBucketTagging "logs".toList [⟨['a'], ['b']⟩]] := by
  decide

theorem withDryRun_eq {args : UtilArgs} {dryRun : Bool} (hdry : args.dryRun = dryRun) :
    { args with dryRun } = args := by
  subst hdry
  rfl

theorem pipeSafe_of_guards {α : Type} {plan : Transcript Output → List Change} {passed : α}
    {runner : UtilArgs → Exchange Output α} {args : UtilArgs}
    (hguards : Guarded args plan passed runner) : PipeSafe (runner args) := by
  cases hdry : args.dryRun with
  | true =>
      have hpipeSafe := hguards.dry_pipeSafe
      rwa [withDryRun_eq hdry] at hpipeSafe
  | false =>
      have hpipeSafe := hguards.pipeSafe
      rwa [withDryRun_eq hdry] at hpipeSafe

/-- Whether and whenever the reader of stdout goes makes no difference to a short
subcommand: it ends with the same result and leaves S3 in the same state. -/
theorem closedStdout_harmless (codecs : Codecs Output Json)
    (server : Server Request (Answer Output) State) (stdout : Stdout State)
    (hpiped : stdout.Piped) (cmd : Cmd Rest) (args : UtilArgs) :
    (∀ runner, unitRunner codecs cmd = some runner →
      (runner args).run (withStdout stdout server) =
        (runner args).run (withStdout .attended server)) ∧
    ∀ runner, statusRunner codecs cmd = some runner →
      (runner args).run (withStdout stdout server) =
        (runner args).run (withStdout .attended server) :=
  ⟨fun _ hrunner =>
      pipeSafe_of_guards (guards_unitRunner hrunner args) State server stdout hpiped,
    fun _ hrunner =>
      pipeSafe_of_guards (guards_statusRunner hrunner args) State server stdout hpiped⟩

/-- `head-bucket s3://logs`, piped into a reader that goes before it flushes its line. -/
theorem closedStdout_headBucket :
    ((runHeadBucket emptyCodecs logsArgs).run (withStdout (fun request _ =>
        if request = .flushStdout then .error .brokenPipe else .ok ()) bucketServer)
      ["logs".toList]).1 = .ok .success := by
  have hpiped : Stdout.Piped (fun request (_ : List Text) =>
      if request = .flushStdout then .error .brokenPipe else .ok ()) := by
    intro request _ cause
    dsimp only
    split <;> simp
  rw [(closedStdout_harmless emptyCodecs bucketServer _ hpiped (.headBucket ⟨{}, ()⟩)
    logsArgs).2 _ rfl]
  decide

/-! ## What is put from an operand -/

theorem leaves_state_readOperand (readToString : Text → Except Text Text) (what operand : Text) :
    Leaves Process.state (readOperand readToString what operand : Runner State Text) := by
  apply Leaves.ite
  · intro _ process
    rfl
  · intro _
    apply Leaves.ofExcept

theorem leaves_state_takeOperand (readTake : Text → Nat → Except Text Bytes)
    (what operand : Text) (cap : Nat) :
    Leaves Process.state (takeOperand readTake what operand cap : Runner State Bytes) := by
  apply Leaves.ite
  · intro _ process
    rfl
  · intro _
    apply Leaves.ofExcept

theorem foretold_runPutConfiguration (values : ConfigurationValues) (world : PutWorld Rest State)
    (args : PutConfigurationArgs Rest) :
    Foretold Process.state ()
      (fun effect => ∃ bucket cfg, effect =
        outside (world.putConfiguration values.configuration args.toArgs bucket cfg))
      (runPutConfiguration values world { args with dryRun := true })
      (runPutConfiguration values world { args with dryRun := false }) := by
  apply Foretold.bind_ofExcept
  intro bucket
  apply Foretold.bind_ofExcept
  intro operand
  apply Foretold.bind (leaves_state_readOperand _ _ _)
  intro body
  apply Foretold.bind_ofExcept
  intro parsed
  apply Foretold.bind_ofExcept
  intro cfg
  exact Foretold.effect ⟨bucket, cfg, rfl⟩

theorem foretold_runPutBucketPolicy (world : PutWorld Rest State)
    (args : PutConfigurationArgs Rest) :
    Foretold Process.state ()
      (fun effect => ∃ bucket body, effect =
        outside (world.putBucketPolicy args.toArgs bucket body))
      (runPutBucketPolicy world { args with dryRun := true })
      (runPutBucketPolicy world { args with dryRun := false }) := by
  apply Foretold.bind_ofExcept
  intro bucket
  apply Foretold.bind_ofExcept
  intro operand
  apply Foretold.bind (leaves_state_readOperand _ _ _)
  intro body
  exact Foretold.effect ⟨bucket, body, rfl⟩

/-- The request for an annotation, and what comes of its answer. -/
def putAnnotation (world : PutWorld Rest State) (args : Args Rest)
    (params : PutObjectAnnotationParams) (payload : Bytes) : Runner State ExitStatus :=
  outside fun state =>
    let (response, after) := world.putObjectAnnotation args params payload state
    (annotationStatus world params.checksumCrc64Nvme response, after)

theorem runPutObjectAnnotation_foretold (world : PutWorld Rest State)
    (args : PutObjectAnnotationArgs Rest) :
    let run (dryRun : Bool) := runPutObjectAnnotation world { args with dryRun }
    Foretold Process.state .success
      (fun effect => ∃ params payload, effect = putAnnotation world args.toArgs params payload)
      (run true) (run false) := by
  apply Foretold.bind_ofExcept
  rintro ⟨bucket, key⟩
  apply Foretold.bind_ofExcept
  intro annotationName
  apply Foretold.bind_ofExcept
  intro _
  apply Foretold.bind_ofExcept
  intro operand
  apply Foretold.bind (leaves_state_takeOperand _ _ _ _)
  intro payload
  apply Foretold.bind_ofExcept
  intro _
  exact Foretold.effect ⟨_, payload, rfl⟩

end S7cmd.UtilBin
