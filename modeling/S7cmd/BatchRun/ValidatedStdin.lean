import S7cmd.Dispatch

/-!
# The stdin of a validated line

A script may come from stdin. A line of it that was validated reads stdin for none of its
operands: the table of validation names every command that would.
-/

namespace S7cmd

open S7cmd.BatchRun S7cmd.UtilBin

variable {Rest State : Type} {libraries : Libraries Rest} {cmd : Cmd Rest}

/-! ## Copies -/

/-- How the library that copies spells stdin: as `-`, and it takes nothing else for it. -/
structure SpellsStdin (libraries : Libraries Rest) (transfers : TransferLibrary State) : Prop where
  detected : ∀ source target,
    transfers.detectDirection source target = .ok .stdioToS3 → source = ['-']
  cpSource : ∀ args config, libraries.cpConfig args = .ok config → config.source ≠ .localFile ['-']
  mvSource : ∀ args config, libraries.mvConfig args = .ok config → config.source ≠ .localFile ['-']

theorem pathString_eq_dash {path : StoragePath} (hpath : pathString path = ['-']) :
    path = .stdio ∨ path = .localFile ['-'] := by
  cases path with
  | s3 bucket keyPrefix =>
      by_cases hempty : keyPrefix = [] <;> simp [pathString, hempty] at hpath
  | localFile file => exact Or.inr (congrArg StoragePath.localFile hpath)
  | stdio => exact Or.inl rfl

/-- The copy goes in the direction that its two paths are detected to have. -/
theorem detectDirection_of_planCopy {World : World State} {config : Config}
    {direction : TransferDirection} {sourceKey targetKey : Text}
    (hplan : planCopy World config = .ok (direction, sourceKey, targetKey)) :
    World.detectDirection (pathString config.source) (pathString config.target) =
      .ok direction := by
  unfold planCopy at hplan
  obtain ⟨detected, hdetected, hplan⟩ := bind_eq_ok_iff.mp hplan
  obtain ⟨_, -, hplan⟩ := bind_eq_ok_iff.mp hplan
  obtain ⟨keys, -, hplan⟩ := bind_eq_ok_iff.mp hplan
  cases hplan
  exact hdetected

variable {transfers : TransferLibrary State}

/-- Only a transfer from stdin reads it. -/
theorem operandReads_transferIn {config : Config} {direction : TransferDirection}
    {sourceKey targetKey : Text} {process : Process State} (hdirection : direction ≠ .stdioToS3) :
    (transfers.transferIn config direction sourceKey targetKey process).2.operandReads =
      process.operandReads := by
  cases direction
  case stdioToS3 => exact absurd rfl hdirection
  all_goals rfl

/-- A path that is no stdin is not detected as one. -/
def NotFromStdin (transfers : TransferLibrary State) (config : Config) : Prop :=
  transfers.detectDirection (pathString config.source) (pathString config.target) ≠ .ok .stdioToS3

theorem notFromStdin (hdetected : ∀ source target,
      transfers.detectDirection source target = .ok .stdioToS3 → source = ['-'])
    {config : Config} (hstdio : config.source ≠ .stdio) (hlocal : config.source ≠ .localFile ['-']) :
    NotFromStdin transfers config := by
  intro hdirection
  rcases pathString_eq_dash (hdetected _ _ hdirection) with hsource | hsource
  · exact hstdio hsource
  · exact hlocal hsource

/-- The copy phase leaves the state, or leaves it to the planned transfer. -/
theorem state_of_copied {State : Type} {world : World State} {config : Config} {state : State}
    {outcome : Except RunError CopyPhase × State} (hcopied : Copied world config state outcome) :
    outcome.2 = state ∨ ∃ direction sourceKey targetKey,
      planCopy world config = .ok (direction, sourceKey, targetKey) ∧
        outcome.2 = (world.transfer config direction sourceKey targetKey state).2 := by
  cases hcopied with
  | unplanned error => exact Or.inl rfl
  | dryRun phase hdryRun => exact Or.inl rfl
  | transferred direction sourceKey targetKey transferResult cancelled hasWarning after hdryRun
      hplan htransfer =>
      exact Or.inr ⟨direction, sourceKey, targetKey, hplan, by rw [htransfer]⟩

theorem operandReads_runCopyPhase {config : Config} (hnot : NotFromStdin transfers config)
    (process : Process State) :
    (runCopyPhase transfers.world.toWorld config process).2.operandReads =
      process.operandReads := by
  rcases state_of_copied (copied transfers.world.toWorld config process) with
    hstate | ⟨direction, sourceKey, targetKey, hplan, hstate⟩
  · rw [hstate]
  · rw [hstate]
    apply operandReads_transferIn
    rintro rfl
    exact hnot (detectDirection_of_planCopy hplan)

/-- The gates leave the state, or delete with the library. -/
theorem operandReads_of_decided {config : Config} {phase : CopyPhase} {process : Process State}
    {run : MvRun (Process State)}
    (hdecided : Decided transfers.world.toWorld config phase process run) :
    run.state.operandReads = process.operandReads := by
  cases hdecided with
  | kept result hresult => rfl
  | deleted outcome deleted after hdryRun htransfer hdelete =>
      have hafter : (transfers.world.deleteObject config phase.sourceKey
        (config.versionId.or outcome.sourceVersionId) process).2 = after := congrArg Prod.snd hdelete
      change after.operandReads = process.operandReads
      rw [← hafter]
      apply operandReads_apart

theorem operandReads_runMv {config : Config} (hnot : NotFromStdin transfers config)
    (process : Process State) :
    (runMv transfers.world.toWorld config process).state.operandReads = process.operandReads := by
  have hcopy := operandReads_runCopyPhase hnot process
  unfold runMv
  split
  next => rfl
  next =>
    split
    next hphase => rwa [hphase] at hcopy
    next phase after hphase =>
      rw [hphase] at hcopy
      exact (operandReads_of_decided (decided _ config phase after)).trans hcopy

theorem operandReads_runCp {config : UtilConfig} (hnot : NotFromStdin transfers config.toConfig)
    (process : Process State) :
    (runCp transfers.world config process).2.operandReads = process.operandReads := by
  rcases runCp_state transfers.world config process with hstate | hstate
  · rw [hstate]
  · rw [hstate]
    exact operandReads_runCopyPhase hnot process

/-- A run behind a check reads what it reads if the check passes. -/
theorem operandReads_checked {α : Type} {check : Except Text α} {process : Process State}
    {run : α → Dispatched × Process State}
    (hrun : ∀ value, check = .ok value → (run value).2.operandReads = process.operandReads) :
    (checked check process run).2.operandReads = process.operandReads := by
  cases hcheck : check with
  | error message => rfl
  | ok value => exact hrun value hcheck

/-- A run apart from stdin does not read it. -/
theorem operandReads_ended_apart {α : Type} (toExit : α → ExitCode)
    (effect : State → Except PanicPayload α × State) (process : Process State) :
    (ended toExit (apart effect process)).2.operandReads = process.operandReads := by
  rw [ended_snd, operandReads_apart]

theorem ne_batchRun_of_accepted (haccepted : Accepted libraries cmd) (args : Rest) :
    cmd ≠ .batchRun args := by
  rintro rfl
  cases haccepted.notNested

/-- Dispatching an accepted command reads stdin for no operand. -/
theorem operandReads_dispatch {world : DispatchWorld Rest State}
    (hspells : SpellsStdin libraries world.transfers) (haccepted : Accepted libraries cmd)
    (process : Process State) :
    (dispatch libraries world cmd process).2.operandReads = process.operandReads := by
  have hfile := stdinArg_ne_of_accepted haccepted
  cases cmd
  case batchRun args => exact absurd rfl (ne_batchRun_of_accepted haccepted args)
  case cp args =>
    obtain ⟨config, hconfig, hsource, -⟩ := rejectStdioTransfer_cp.mp haccepted.notStdio
    apply operandReads_checked
    intro other hother
    obtain rfl : config = other := by simpa [hconfig] using hother
    rw [ended_snd]
    apply operandReads_runCp
    exact notFromStdin hspells.detected hsource (hspells.cpSource args config hconfig)
  case mv args =>
    obtain ⟨config, hconfig, hsource, -⟩ := rejectStdioTransfer_mv.mp haccepted.notStdio
    apply operandReads_checked
    intro other hother
    obtain rfl : config = other := by simpa [hconfig] using hother
    apply operandReads_runMv
    exact notFromStdin hspells.detected hsource (hspells.mvSource args config hconfig)
  case clean args =>
    apply operandReads_checked
    intro config _
    rw [ended_snd]
    rfl
  case putBucketPolicy args => exact leaves_runPutBucketPolicy world.puts hfile process
  case putObjectAnnotation args => exact leaves_runPutObjectAnnotation world.puts hfile process
  case putBucketLifecycleConfiguration args | putBucketEncryption args | putBucketCors args |
      putPublicAccessBlock args | putBucketWebsite args | putBucketLogging args |
      putBucketNotificationConfiguration args | putBucketReplication args =>
    exact leaves_runPutConfiguration _ world.puts hfile process
  case sync | ls | rename | putBucketVersioning | putBucketAccelerateConfiguration |
      putBucketRequestPayment =>
    apply operandReads_checked
    intro value _
    apply operandReads_ended_apart
  -- the runners of the other commands are never handed stdin
  all_goals apply operandReads_ended_apart

/-- Dispatching a validated command reads stdin for no operand, and the command is no nested
batch. -/
theorem operandReads_dispatch_of_validate {world : DispatchWorld Rest State}
    (hspells : SpellsStdin libraries world.transfers) {lineNo : Nat} {raw : Text}
    (hvalid : validate libraries lineNo raw cmd = .ok ()) (process : Process State) :
    (dispatch libraries world cmd process).2.operandReads = process.operandReads ∧
      ∀ args, cmd ≠ .batchRun args := by
  have haccepted := validate_eq_ok_iff.mp hvalid
  exact ⟨operandReads_dispatch hspells haccepted process, ne_batchRun_of_accepted haccepted⟩

/-- The commands of a prepared script read stdin for no operand, whichever of them are
dispatched and in whatever order. -/
theorem operandReads_of_prepared {world : DispatchWorld Rest State}
    (hspells : SpellsStdin libraries world.transfers) {checks : LineChecks (Cmd Rest)}
    (hchecks : checks.validate = validate libraries) {availableParallelism : Option Nat}
    {parsed : List ParsedLine} (cmds : List (Cmd Rest))
    (hprepared : ∀ cmd ∈ cmds, ∃ line ∈ parseAndValidate checks availableParallelism parsed,
      line.kind = .cmd cmd) (process : Process State) :
    (cmds.foldl (fun process cmd => (dispatch libraries world cmd process).2)
      process).operandReads = process.operandReads := by
  induction cmds generalizing process with
  | nil => rfl
  | cons cmd rest ih =>
      obtain ⟨line, hline, hcmd⟩ := hprepared cmd List.mem_cons_self
      rw [List.foldl_cons, ih fun later hlater => hprepared later (List.mem_cons_of_mem _ hlater)]
      exact operandReads_dispatch hspells (accepted_of_prepared hchecks hline hcmd) process

/-! ## An upload -/

/-- A path as it is spelled: `-`, an object of a bucket, or a file. -/
def spelledPath (path : Text) : StoragePath :=
  if path = ['-'] then .stdio
  else match path.stripPrefix "s3://".toList with
    | some object => .s3 (object.takeWhile (· ≠ '/')) ((object.dropWhile (· ≠ '/')).drop 1)
    | none => .localFile path

theorem spelledPath_ne_dash (path : Text) : spelledPath path ≠ .localFile ['-'] := by
  unfold spelledPath
  split
  next => exact nofun
  next hne =>
    split
    next => exact nofun
    next => simpa using hne

/-- The arguments are a source and a target. -/
def copyConfig (args : Args (Text × Text)) : UtilConfig where
  source := spelledPath args.rest.1
  target := spelledPath args.rest.2
  sourceClientConfig := none
  targetClientConfig := none
  versionId := none
  noFailOnVerifyError := false
  dryRun := false
  enableSyncObjectAnnotations := false
  skipExisting := false

def copyLibraries : Libraries (Text × Text) where
  lsConfig args := .ok args.rest
  cpConfig args := .ok (copyConfig args)
  mvConfig args := .ok (copyConfig args)
  renameValidate _ := .ok ()
  syncConfig args := .ok ⟨false, false, none, args⟩
  cleanConfig args := .ok args.rest

/-- A library whose transfers succeed. -/
def copyTransfers : TransferLibrary Unit where
  isDir _ := false
  hasTrailingSeparator path := path.getLast? = some '/'
  detectDirection source target :=
    if source = ['-'] then .ok .stdioToS3
    else match spelledPath source, spelledPath target with
      | .s3 _ _, .stdio => .ok .s3ToStdio
      | .s3 _ _, .localFile _ => .ok .s3ToLocal
      | .s3 _ _, .s3 _ _ => .ok .s3ToS3
      | _, _ => .ok .localToS3
  transfer _ _ _ _ state := (.ok {}, state)
  transferStdin _ _ _ state := ((.ok {}, []), state)
  logDryRunAnnotationSync _ _ _ := .ok ()
  deleteObject _ _ _ state := (.ok (), state)
  ctrlCReceived := false
  tokenCancelled := false
  tokenCancelledLate := false
  hasWarning := false
  headObject _ _ := .ok false
  tryExists _ := .ok false

def quietPuts : PutWorld (Text × Text) Unit where
  bucketName args := .ok args.rest.2
  bucketKey args := .ok args.rest
  readToString _ := .ok []
  readTake _ _ := .ok []
  fromStr _ _ := .ok ([], [])
  intoSdk _ parsed := .ok parsed
  putConfiguration _ _ _ _ state := (.ok (), state)
  putBucketPolicy _ _ _ state := (.ok (), state)
  validateAnnotationName _ := .ok ()
  maxAnnotationPayloadLen := 1024 * 1024
  validatePayloadLen _ := .ok ()
  contentMd5Base64 _ := []
  crc64nvmeBase64 _ := []
  putObjectAnnotation _ _ _ state := (.ok none, state)
  verifyCrc64nvme _ _ := .ok ()
  printResponse _ := .ok ()

def copyWorld : DispatchWorld (Text × Text) Unit where
  transfers := copyTransfers
  puts := quietPuts
  batchRun _ process := (.ok 0, process)
  sync _ state := (.ok (.ok 0), state)
  ls _ state := (.ok (.ok 0), state)
  deletionPipeline _ bytes state :=
    ((.ok ⟨.ok (), false, false, false, false, none, false⟩, bytes), state)
  exitCodeFromError _ := 1
  rename _ state := (.ok (.ok .success), state)
  runStatus _ state := (.ok (.ok .success), state)
  runUnit _ state := (.ok (.ok ()), state)

theorem spellsStdin_copy : SpellsStdin copyLibraries copyWorld.transfers where
  detected source target hdirection := by
    simp only [copyWorld, copyTransfers] at hdirection
    split at hdirection
    next hdash => exact hdash
    next => split at hdirection <;> cases hdirection
  cpSource args config hconfig := by
    cases hconfig
    exact spelledPath_ne_dash args.rest.1
  mvSource args config hconfig := by
    cases hconfig
    exact spelledPath_ne_dash args.rest.1

/-- `cp report.csv s3://bucket/key` -/
def upload : Cmd (Text × Text) := .cp ⟨{}, "report.csv".toList, "s3://bucket/key".toList⟩

/-- The upload, on a line of a script that comes from stdin. -/
theorem operandReads_dispatch_upload :
    (dispatch copyLibraries copyWorld upload ⟨⟨[99, 112], none, 0⟩, ()⟩).2.operandReads = 0 ∧
      ∀ args, upload ≠ .batchRun args :=
  operandReads_dispatch_of_validate spellsStdin_copy
    (by decide : validate copyLibraries 1 [] upload = .ok ()) ⟨⟨[99, 112], none, 0⟩, ()⟩

end S7cmd
