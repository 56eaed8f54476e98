import S7cmd.UtilBin.DryRun

/-!
# Dispatching a dry run

Of a dispatched command that only reads or is asked for a dry run, S3 keeps what it holds:
whatever the arguments, the checks and the answers.
-/

namespace S7cmd.UtilBin

open Foundation S7cmd.BatchRun

variable {Output Json Rest State Store : Type}

/-! ## Short subcommands, dispatched -/

/-- A short subcommand does not panic. -/
def unpanicked {α : Type} (server : Server Request (Answer Output) State)
    (exchange : Exchange Output α) (state : State) :
    Except PanicPayload (Except Chain α) × State :=
  (.ok (exchange.run server state).1, (exchange.run server state).2)

/-- The world with a server for the short subcommands, given how their arguments are read. -/
def served (codecs : Codecs Output Json) (server : Server Request (Answer Output) State)
    (reading : Cmd Rest → UtilArgs) (world : DispatchWorld Rest State) :
    DispatchWorld Rest State :=
  { world with
    rename := fun args => unpanicked server (runRename (reading (.rename args)))
    runStatus := fun cmd =>
      match statusRunner codecs cmd with
      | some runner => unpanicked server (runner (reading cmd))
      | none => world.runStatus cmd
    runUnit := fun cmd =>
      match unitRunner codecs cmd with
      | some runner => unpanicked server (runner (reading cmd))
      | none => world.runUnit cmd }

/-- The command only reads or is a dry run. `sync` and `clean` leave their dry runs to
their libraries, and `get-object-annotation` writes a file. -/
def DryRun (libraries : Libraries Rest) (reading : Cmd Rest → UtilArgs) (cmd : Cmd Rest) : Prop :=
  match cmd with
  | .batchRun _ | .sync _ | .ls _ | .clean _ | Cmd.getObjectAnnotation _ => False
  | .cp args => ∀ config, libraries.cpConfig args = .ok config → config.dryRun = true
  | .mv args => ∀ config, libraries.mvConfig args = .ok config → config.dryRun = true
  | Cmd.putObjectAnnotation args => args.dryRun = true
  | .putBucketPolicy args | .putBucketLifecycleConfiguration args | .putBucketEncryption args
  | .putBucketCors args | .putPublicAccessBlock args | .putBucketWebsite args
  | .putBucketLogging args | .putBucketNotificationConfiguration args
  | .putBucketReplication args => args.dryRun = true
  | .presign _ | .headObject _ | .getObjectTagging _ | .listObjectAnnotations _ | .headBucket _
  | .getBucketTagging _ | .getBucketPolicy _ | .getBucketVersioning _
  | .getBucketLifecycleConfiguration _ | .getBucketEncryption _ | .getBucketCors _
  | .getPublicAccessBlock _ | .getBucketWebsite _ | .getBucketLogging _
  | .getBucketNotificationConfiguration _ | .getBucketReplication _
  | .getBucketAccelerateConfiguration _ | .getBucketRequestPayment _
  | .getBucketPolicyStatus _ => True
  | cmd => (reading cmd).dryRun = true

/-! ## What a dry run changes -/

/-- It is a dry run, or makes no difference of one. -/
theorem Guards.unchanging {α : Type} {plan : Transcript Output → List Change} {passed : α}
    {runner : UtilArgs → Exchange Output α} {args : UtilArgs}
    (hguards : Guarded args plan passed runner)
    (hdry : args.dryRun = true ∨ runner { args with dryRun := true } = runner args) :
    Unchanging (runner args) := by
  have hsame : runner { args with dryRun := true } = runner args := by
    rcases hdry with hflag | hsame
    · rw [withDryRun_eq hflag]
    · exact hsame
  rw [← hsame, hguards.rehearsed]
  exact Client.only_rehearse _

variable {server : Server Request (Answer Output) State} {store : State → Store}

/-- Which effects keep what S3 holds. -/
def Keeps {α : Type} (store : State → Store) (effect : State → α × State) : Prop :=
  ∀ state, store (effect state).2 = store state

theorem keeps_unpanicked {α : Type}
    (hstore : ∀ request, request.changes = false → ∀ state,
      store (server request state).2 = store state)
    {exchange : Exchange Output α} (hunchanging : Unchanging exchange) :
    Keeps store (unpanicked server exchange) := fun state =>
  hunchanging.leaves_run hstore state

theorem keeps_runStatus {codecs : Codecs Output Json} {reading : Cmd Rest → UtilArgs}
    {world : DispatchWorld Rest State} {cmd : Cmd Rest}
    (hstore : ∀ request, request.changes = false → ∀ state,
      store (server request state).2 = store state)
    {runner : UtilArgs → Exchange Output ExitStatus}
    (hrunner : statusRunner codecs cmd = some runner)
    (hdry : (reading cmd).dryRun = true ∨
      runner { reading cmd with dryRun := true } = runner (reading cmd)) :
    Keeps store ((served codecs server reading world).runStatus cmd) := by
  have hrun : (served codecs server reading world).runStatus cmd =
      unpanicked server (runner (reading cmd)) := by
    simp only [served, hrunner]
  rw [hrun]
  exact keeps_unpanicked hstore ((guards_statusRunner hrunner (reading cmd)).unchanging hdry)

theorem keeps_runUnit {codecs : Codecs Output Json} {reading : Cmd Rest → UtilArgs}
    {world : DispatchWorld Rest State} {cmd : Cmd Rest}
    (hstore : ∀ request, request.changes = false → ∀ state,
      store (server request state).2 = store state)
    {runner : UtilArgs → Exchange Output Unit} (hrunner : unitRunner codecs cmd = some runner)
    (hdry : (reading cmd).dryRun = true) :
    Keeps store ((served codecs server reading world).runUnit cmd) := by
  have hrun : (served codecs server reading world).runUnit cmd =
      unpanicked server (runner (reading cmd)) := by
    simp only [served, hrunner]
  rw [hrun]
  exact keeps_unpanicked hstore
    ((guards_unitRunner hrunner (reading cmd)).unchanging (Or.inl hdry))

/-! ## What dispatching adds -/

theorem kept_ended_apart {α : Type} (toExit : α → ExitCode)
    {effect : State → Except PanicPayload α × State} (hkeeps : Keeps store effect)
    (process : Process State) :
    store (ended toExit (apart effect process)).2.state = store process.state := by
  rw [ended_snd]
  exact hkeeps process.state

theorem kept_checked {α : Type} {check : Except Text α} {process : Process State}
    {run : α → Dispatched × Process State}
    (hrun : ∀ value, check = .ok value → store (run value).2.state = store process.state) :
    store (checked check process run).2.state = store process.state := by
  unfold checked
  split
  next => rfl
  next value => exact hrun value rfl

theorem runCopyPhase_dryRun {State : Type} (world : World State) {config : Config}
    (hdry : config.dryRun = true) (state : State) :
    (runCopyPhase world config state).2 = state := by
  have hcopied := copied world config state
  generalize runCopyPhase world config state = run at hcopied ⊢
  cases hcopied with
  | unplanned error => rfl
  | dryRun phase hdryRun => rfl
  | transferred direction sourceKey targetKey result cancelled warned after hreal =>
      rw [hreal] at hdry
      cases hdry

theorem runMv_dryRun {State : Type} (world : World State) {config : Config}
    (hdry : config.dryRun = true) (state : State) : (runMv world config state).state = state := by
  have hcopy := runCopyPhase_dryRun world hdry state
  unfold runMv
  split
  next => rfl
  next =>
    split
    next hphase =>
      rw [hphase] at hcopy
      exact hcopy
    next phase after hphase =>
      rw [hphase] at hcopy
      subst hcopy
      have hdecided := decided world config phase after
      generalize applyMvDecisionTree world config phase after = run at hdecided ⊢
      cases hdecided with
      | kept result hresult => rfl
      | deleted outcome deleted last hreal =>
          rw [hreal] at hdry
          cases hdry

theorem runCp_dryRun {State : Type} (world : CpWorld State) {config : UtilConfig}
    (hdry : config.dryRun = true) (state : State) : (runCp world config state).2 = state := by
  rcases runCp_state world config state with hsame | hcopy
  · exact hsame
  · rw [hcopy]
    exact runCopyPhase_dryRun world.toWorld hdry state

theorem kept_runPutConfiguration (values : ConfigurationValues) (puts : PutWorld Rest State)
    {args : PutConfigurationArgs Rest} (hdry : args.dryRun = true) :
    Leaves (fun process => store process.state) (runPutConfiguration values puts args) := by
  have hargs : { args with dryRun := true } = args := by
    cases args
    cases hdry
    rfl
  intro process
  have hkept := (foretold_runPutConfiguration values puts args process).1
  rw [hargs] at hkept
  exact congrArg store hkept

theorem kept_runPutBucketPolicy (puts : PutWorld Rest State)
    {args : PutConfigurationArgs Rest} (hdry : args.dryRun = true) :
    Leaves (fun process => store process.state) (runPutBucketPolicy puts args) := by
  have hargs : { args with dryRun := true } = args := by
    cases args
    cases hdry
    rfl
  intro process
  have hkept := (foretold_runPutBucketPolicy puts args process).1
  rw [hargs] at hkept
  exact congrArg store hkept

theorem kept_runPutObjectAnnotation (puts : PutWorld Rest State)
    {args : PutObjectAnnotationArgs Rest} (hdry : args.dryRun = true) :
    Leaves (fun process => store process.state) <| runPutObjectAnnotation puts args := by
  have hargs : { args with dryRun := true } = args := by
    cases args
    cases hdry
    rfl
  intro process
  have hkept := (runPutObjectAnnotation_foretold puts args process).1
  dsimp only at hkept
  rw [hargs] at hkept
  exact congrArg store hkept

/-- Dispatching a command that only reads or is a dry run changes nothing that S3 holds,
as long as requests that change nothing do not. -/
theorem dispatch_dryRun (libraries : Libraries Rest) (codecs : Codecs Output Json)
    (server : Server Request (Answer Output) State) (store : State → Store)
    (hstore : ∀ request, request.changes = false → ∀ state,
      store (server request state).2 = store state)
    (reading : Cmd Rest → UtilArgs) (world : DispatchWorld Rest State) (cmd : Cmd Rest)
    (hdry : DryRun libraries reading cmd) (process : Process State) :
    store (dispatch libraries (served codecs server reading world) cmd process).2.state =
      store process.state := by
  cases cmd
  case cp args =>
    apply kept_checked
    intro config hconfig
    rw [ended_snd, runCp_dryRun _ (hdry config hconfig)]
  case mv args =>
    apply kept_checked
    intro config hconfig
    exact congrArg (store ·.state) (runMv_dryRun _ (hdry config hconfig) process)
  case batchRun | sync | ls | clean | getObjectAnnotation => exact hdry.elim
  case rename args =>
    apply kept_checked
    intro _ _
    exact kept_ended_apart _ (keeps_unpanicked hstore
      ((guards_runRename (reading (.rename args))).unchanging (Or.inl hdry))) process
  case putBucketVersioning | putBucketAccelerateConfiguration | putBucketRequestPayment =>
    apply kept_checked
    intro _ _
    exact kept_ended_apart _ (keeps_runUnit hstore rfl hdry) process
  case putObjectAnnotation => exact kept_runPutObjectAnnotation _ hdry process
  case putBucketPolicy => exact kept_runPutBucketPolicy _ hdry process
  case putBucketLifecycleConfiguration | putBucketEncryption | putBucketCors
    | putPublicAccessBlock | putBucketWebsite | putBucketLogging
    | putBucketNotificationConfiguration | putBucketReplication =>
    exact kept_runPutConfiguration _ _ hdry process
  case rm | deleteBucket | putObjectTagging | deleteObjectTagging | putBucketTagging
    | deleteBucketTagging | deleteBucketPolicy | deleteBucketLifecycleConfiguration
    | deleteBucketEncryption | deleteBucketCors | deletePublicAccessBlock
    | deleteBucketWebsite | deleteBucketReplication =>
    exact kept_ended_apart _ (keeps_runUnit hstore rfl hdry) process
  case createBucket | restoreObject | deleteObjectAnnotation =>
    exact kept_ended_apart _ (keeps_runStatus hstore rfl (Or.inl hdry)) process
  -- the others only read
  all_goals exact kept_ended_apart _ (keeps_runStatus hstore rfl (Or.inr rfl)) process

/-! ## A small world -/

def bucketTransfers : TransferLibrary (List Text) where
  isDir _ := false
  hasTrailingSeparator _ := false
  detectDirection _ _ := .ok .s3ToS3
  transfer _ _ _ _ buckets := (.ok {}, buckets)
  transferStdin _ _ _ buckets := ((.ok {}, []), buckets)
  logDryRunAnnotationSync _ _ _ := .ok ()
  deleteObject _ _ _ buckets := (.ok (), buckets)
  ctrlCReceived := false
  tokenCancelled := false
  tokenCancelledLate := false
  hasWarning := false
  headObject _ _ := .ok false
  tryExists _ := .ok false

def bucketPuts : PutWorld Text (List Text) where
  bucketName args := .ok args.rest
  bucketKey args := .ok (args.rest, [])
  readToString _ := .ok []
  readTake _ _ := .ok []
  fromStr _ text := .ok text
  intoSdk _ parsed := .ok parsed
  putConfiguration _ _ _ _ buckets := (.ok (), buckets)
  putBucketPolicy _ _ _ buckets := (.ok (), buckets)
  validateAnnotationName _ := .ok ()
  maxAnnotationPayloadLen := 1024 * 1024
  validatePayloadLen _ := .ok ()
  contentMd5Base64 _ := []
  crc64nvmeBase64 _ := []
  putObjectAnnotation _ _ _ buckets := (.ok none, buckets)
  verifyCrc64nvme _ _ := .ok ()
  printResponse _ := .ok ()

def bucketWorld : DispatchWorld Text (List Text) where
  transfers := bucketTransfers
  puts := bucketPuts
  batchRun _ process := (.ok 0, process)
  sync _ buckets := (.ok (.ok 0), buckets)
  ls _ buckets := (.ok (.ok 0), buckets)
  deletionPipeline _ bytes buckets :=
    ((.ok ⟨.ok (), false, false, false, false, none, false⟩, bytes), buckets)
  exitCodeFromError _ := 1
  rename _ buckets := (.ok (.ok .success), buckets)
  runStatus _ buckets := (.ok (.ok .success), buckets)
  runUnit _ buckets := (.ok (.ok ()), buckets)

def bucketLibraries : Libraries Text where
  lsConfig args := .ok args.rest
  cpConfig _ := .error []
  mvConfig _ := .error []
  renameValidate _ := .ok ()
  syncConfig args := .ok ⟨false, false, none, args⟩
  cleanConfig args := .ok args.rest

/-- `delete-bucket --dry-run s3://logs`, dispatched where there is such a bucket. -/
theorem dispatch_dryRun_deleteBucket :
    (dispatch bucketLibraries (served emptyCodecs bucketServer
        (fun _ => { logsArgs with dryRun := true }) bucketWorld)
      (.deleteBucket ⟨{}, "logs".toList⟩) ⟨⟨[], none, 0⟩, ["logs".toList]⟩).2.state =
      ["logs".toList] :=
  dispatch_dryRun bucketLibraries emptyCodecs bucketServer id bucketServer_keeps
    (fun _ => { logsArgs with dryRun := true }) bucketWorld (.deleteBucket ⟨{}, "logs".toList⟩)
    rfl ⟨⟨[], none, 0⟩, ["logs".toList]⟩

end S7cmd.UtilBin
