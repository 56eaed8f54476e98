import S7cmd.UtilBin.Subcommands

/-!
# What guards a change

Every short subcommand checks first and changes last. What that means is said once, of a
run and its dry run, and derived for each subcommand from the clients it is made of.
-/

namespace S7cmd.UtilBin

open Foundation

variable {Output Json : Type}

/-! ## Requests that were met -/

/-- Which answers a subcommand may take for granted that ends with code 0: what was asked
for was found, though a bucket may be asked after that is not there, the change was made,
and what was printed went out unless its reader had gone. -/
def Met : (request : Request) → Answer Output request → Prop
  | .readBucket query _, answer =>
      (∃ output, answer = .ok output) ∨
        query = .head ∧ (answer = .error .bucketNotFound ∨ answer = .error .notFound)
  | .readObject .., answer => ∃ output, answer = .ok output
  | .presignGetObject .., answer => ∃ url, answer = .ok url
  | .change change, answer => (answer : Except change.Failure Unit) = .ok ()
  | .writeStdout _, answer => ∀ cause, answer ≠ .error (.other cause)
  | .flushStdout, answer => ∀ cause, answer ≠ .error (.other cause)
  | .log .., _ => True

/-- It only reads, prints and logs. -/
def Unchanging {α : Type} (client : Exchange Output α) : Prop :=
  client.Only fun request => request.changes = false

/-- How stdout answers a write, which may depend on when it is made. -/
abbrev Stdout (State : Type) : Type := Request → State → Except IoError Unit

/-- Nothing is written to it that fails for another reason than that its reader has gone. -/
def Stdout.Piped {State : Type} (stdout : Stdout State) : Prop :=
  ∀ request state cause, stdout request state ≠ .error (.other cause)

/-- A stdout whose reader never goes. -/
def Stdout.attended {State : Type} : Stdout State := fun _ _ => .ok ()

/-- The server with another stdout. -/
def withStdout {State : Type} (stdout : Stdout State)
    (server : Server Request (Answer Output) State) : Server Request (Answer Output) State
  | .writeStdout text, state => (stdout (.writeStdout text) state, state)
  | .flushStdout, state => (stdout .flushStdout state, state)
  | request, state => server request state

/-- Its run is the same whether and whenever the reader of stdout goes. -/
def PipeSafe {α : Type} (client : Exchange Output α) : Prop :=
  ∀ (State : Type) (server : Server Request (Answer Output) State) (stdout : Stdout State),
    stdout.Piped → client.run (withStdout stdout server) = client.run (withStdout .attended server)

def Succeeds {α : Type} (result : Except Chain α) : Prop := ∃ value, result = .ok value

theorem error_ne_ok {ε α : Type} (error : ε) (value : α) : Except.error error ≠ .ok value := by
  rintro ⟨⟩

theorem not_succeeds_error {α : Type} (chain : Chain) :
    ¬ Succeeds (.error chain : Except Chain α) :=
  fun ⟨value, hok⟩ => error_ne_ok chain value hok

namespace PipeSafe

variable {α β : Type}

theorem done (result : Except Chain α) : PipeSafe (.done result : Exchange Output α) :=
  fun _ _ _ _ => rfl

theorem bind {first : Exchange Output α} {next : α → Exchange Output β}
    (hfirst : PipeSafe first) (hnext : ∀ value, PipeSafe (next value)) :
    PipeSafe (first >>= next) := by
  intro State server stdout hpiped
  rw [Client.run_bind, Client.run_bind, hfirst State server stdout hpiped]
  exact congrArg (_ >>= ·) (funext fun value => hnext value State server stdout hpiped)

/-- A request that is not for stdout. -/
theorem send {request : Request} {next : Answer Output request → Exchange Output α}
    (hrequest : request.reads = true ∨ request.changes = true)
    (hnext : ∀ answer, PipeSafe (next answer)) :
    PipeSafe (Client.send request next) := by
  intro State server stdout hpiped
  funext state
  have hsame (stdout : Stdout State) :
      withStdout stdout server request state = server request state := by
    cases request <;> first | rfl | (rcases hrequest with hreads | hreads <;> cases hreads)
  simp only [Client.run, hsame]
  exact congrFun (hnext _ State server stdout hpiped) _

theorem log (level : Level) (message : Text) (cause : Option Chain) :
    PipeSafe (UtilBin.ask (.log level message cause) : Exchange Output Unit) :=
  fun _ _ _ _ => rfl

theorem ignoreBrokenPipe_of_ne {written : Except IoError Unit}
    (hwritten : ∀ cause, written ≠ .error (.other cause)) : ignoreBrokenPipe written = .ok () := by
  rcases written with (_ | cause) | _
  · rfl
  · exact absurd rfl (hwritten cause)
  · rfl

/-- The error of a write to a reader that has gone is ignored, whether it comes with the
line or when it is flushed. -/
theorem printlnPipeSafe (text : Text) :
    PipeSafe (UtilBin.printlnPipeSafe text : Exchange Output Unit) := by
  intro State server stdout hpiped
  funext state
  have hline := hpiped (.writeStdout (text ++ ['\n'])) state
  have hflush := hpiped .flushStdout state
  simp only [UtilBin.printlnPipeSafe, UtilBin.ask, Client.ask_bind, Client.run, withStdout,
    Stdout.attended]
  cases hwritten : stdout (.writeStdout (text ++ ['\n'])) state with
  | ok _ => exact congrArg (·, state) (ignoreBrokenPipe_of_ne hflush)
  | error error =>
      rw [hwritten] at hline
      exact congrArg (·, state) (ignoreBrokenPipe_of_ne hline)

end PipeSafe

/-- A client that comes before a change: it changes nothing, and fails if an answer is not
met. -/
structure Checks {α : Type} (client : Exchange Output α) : Prop where
  unchanging : Unchanging client
  vouches : client.Vouches Met Succeeds
  pipeSafe : PipeSafe client

namespace Checks

variable {α β : Type}

theorem done (result : Except Chain α) : Checks (.done result : Exchange Output α) :=
  ⟨trivial, trivial, PipeSafe.done result⟩

theorem bind {first : Exchange Output α} {next : α → Exchange Output β} (hfirst : Checks first)
    (hnext : ∀ value, Checks (next value)) : Checks (first >>= next) where
  unchanging := hfirst.unchanging.bind fun value => (hnext value).unchanging
  vouches := Client.Vouches.bind not_succeeds_error hfirst.vouches
    fun value => (hnext value).vouches
  pipeSafe := hfirst.pipeSafe.bind fun value => (hnext value).pipeSafe

theorem log (level : Level) (message : Text) :
    Checks (UtilBin.log level message : Exchange Output Unit) :=
  ⟨⟨rfl, fun _ => trivial⟩, fun _ => ⟨trivial, fun hnot => absurd trivial hnot⟩,
    PipeSafe.log level message none⟩

/-- A write fails with the errors that `ignoreBrokenPipe` does not ignore. -/
theorem not_succeeds_ignoreBrokenPipe {written : Except IoError Unit}
    (hnot : ¬ ∀ cause, written ≠ .error (.other cause)) :
    ¬ Succeeds (ignoreBrokenPipe written) := by
  rintro ⟨value, hok⟩
  apply hnot
  rintro cause rfl
  cases hok

theorem printlnPipeSafe (text : Text) :
    Checks (UtilBin.printlnPipeSafe text : Exchange Output Unit) where
  unchanging := by
    refine ⟨rfl, ?_⟩
    rintro (error | _)
    · trivial
    · exact ⟨rfl, fun _ => trivial⟩
  vouches := by
    rintro (error | _)
    · exact ⟨trivial, not_succeeds_ignoreBrokenPipe⟩
    · refine ⟨fun flushed => ⟨trivial, not_succeeds_ignoreBrokenPipe⟩, fun hnot => ?_⟩
      exact absurd (fun cause hother => error_ne_ok (IoError.other cause) () hother.symm) hnot
  pipeSafe := PipeSafe.printlnPipeSafe text

theorem print (codecs : Codecs Output Json) (json : Json) : Checks (codecs.print json) :=
  (done _).bind printlnPipeSafe

end Checks

/-! ## What is planned -/

/-- What is planned for what the arguments are read as; nothing if they cannot be read. -/
def planned {α : Type} (read : Except Chain α) (changes : α → List Change) : List Change :=
  match read with
  | .ok value => changes value
  | .error _ => []

def deletedPart (part : BucketPart) (args : UtilArgs) : List Change :=
  planned (trimmedError args.bucketName) fun bucket => [.deleteBucketPart part bucket]

/-- The first answer is that the bucket is there. -/
def bucketFound : Transcript Output → Bool
  | ⟨.readBucket .head _, .ok _⟩ :: _ => true
  | _ => false

/-- A bucket, and its tags if it is to have some. -/
def taggedBucket (args : UtilArgs) (bucket : Text) (tagging : Option (List Tag)) : List Change :=
  .createBucket bucket args.bucketNamespace args.createBucketConfiguration ::
    tagging.toList.map (.putBucketTagging bucket)

/-- With `--if-not-exists`, nothing if the bucket is found. -/
def newBucket (args : UtilArgs) (bucket : Text) (tagging : Option (List Tag))
    (transcript : Transcript Output) : List Change :=
  if args.ifNotExists && bucketFound transcript then [] else taggedBucket args bucket tagging

/-! ## A run and its dry run -/

/-- The run makes the changes of the plan, one after the other, and all of them if it
passes; then every answer was met. A reader of stdout that has gone makes no difference. -/
structure Settles {α : Type} (plan : Transcript Output → List Change) (passed : α)
    (real : Exchange Output α) : Prop where
  follows : real.Follows Request.changes (fun result => result = .ok passed)
    fun transcript => (plan transcript).map .change
  vouches : real.Vouches Met fun result => result = .ok passed
  pipeSafe : PipeSafe real

/-- The dry run is the run up to its first change. -/
structure Guards {α : Type} (plan : Transcript Output → List Change) (passed : α)
    (dry real : Exchange Output α) : Prop extends Settles plan passed real where
  rehearsed : dry = real.rehearse Request.changes passed
  dry_pipeSafe : PipeSafe dry

namespace Guards

variable {α β : Type} {plan : Transcript Output → List Change} {passed : α}

theorem ended {result : Except Chain α} (hplan : result = .ok passed → plan [] = []) :
    Guards plan passed (.done result : Exchange Output α) (.done result) :=
  ⟨⟨fun hpassed => congrArg (List.map Request.change) (hplan hpassed), trivial,
    PipeSafe.done result⟩, rfl, PipeSafe.done result⟩

theorem done (result : Except Chain α) :
    Guards (fun _ => []) passed (.done result : Exchange Output α) (.done result) :=
  ended fun _ => rfl

theorem failed (chain : Chain) :
    Guards plan passed (.done (.error chain) : Exchange Output α) (.done (.error chain)) :=
  ended fun hpassed => absurd hpassed (error_ne_ok chain passed)

/-- The plan is read from the arguments as the run reads them. -/
theorem read (result : Except Chain β) {plan : β → Transcript Output → List Change}
    {dry real : β → Exchange Output α}
    (hnext : ∀ value, Guards (plan value) passed (dry value) (real value)) :
    Guards (fun transcript => planned result fun value => plan value transcript) passed
      (.done result >>= dry) (.done result >>= real) := by
  cases result with
  | ok value => exact hnext value
  | error chain => exact failed chain

theorem bind {first : Exchange Output β} {dry real : β → Exchange Output α}
    {changes : List Change} (hfirst : Checks first)
    (hnext : ∀ value, Guards (fun _ => changes) passed (dry value) (real value)) :
    Guards (fun _ => changes) passed (first >>= dry) (first >>= real) where
  follows := Client.Follows.bind_only (error_ne_ok · passed) hfirst.unchanging
    fun value => (hnext value).follows
  vouches := Client.Vouches.bind (error_ne_ok · passed) hfirst.vouches
    fun value => (hnext value).vouches
  pipeSafe := hfirst.pipeSafe.bind fun value => (hnext value).pipeSafe
  rehearsed := by
    rw [Client.rehearse_bind hfirst.unchanging]
    exact congrArg (first >>= ·) (funext fun value => (hnext value).rehearsed)
  dry_pipeSafe := hfirst.pipeSafe.bind fun value => (hnext value).dry_pipeSafe

/-- A request that only reads, and whose answer decides how both go on. -/
theorem ask {request : Request} {dry real : Answer Output request → Exchange Output α}
    (hrequest : request.reads = true)
    (hnext : ∀ answer, Guards (fun later => plan (⟨request, answer⟩ :: later)) passed
      (dry answer) (real answer))
    (hfails : ∀ answer, ¬ Met request answer →
      (real answer).Ends fun result => result ≠ .ok passed) :
    Guards plan passed (UtilBin.ask request >>= dry) (UtilBin.ask request >>= real) := by
  have hchanges : request.changes = false := by
    cases request <;> first | rfl | cases hrequest
  have honly : Unchanging (UtilBin.ask request : Exchange Output _) :=
    ⟨hchanges, fun _ => trivial⟩
  refine ⟨⟨?_, ?_, ?_⟩, ?_, ?_⟩
  · exact Client.Follows.ask_bind hchanges fun answer => (hnext answer).follows
  · exact fun answer => ⟨(hnext answer).vouches, hfails answer⟩
  · exact PipeSafe.send (Or.inl hrequest) fun answer => (hnext answer).pipeSafe
  · rw [Client.rehearse_bind honly]
    exact congrArg (UtilBin.ask request >>= ·) (funext fun answer => (hnext answer).rehearsed)
  · exact PipeSafe.send (Or.inl hrequest) fun answer => (hnext answer).dry_pipeSafe

/-- A change: the dry run has passed where the run makes it. -/
theorem change (args : UtilArgs) {change : Change} {rest : List Change}
    {next : Except change.Failure Unit → Exchange Output α}
    (hnext : ∀ answer, Settles (fun _ => rest) passed (next answer))
    (hfails : ∀ failure, (next (.error failure)).Ends fun result => result ≠ .ok passed) :
    Guards (fun _ => change :: rest) passed
      (unlessDryRun { args with dryRun := true } passed change next)
      (unlessDryRun { args with dryRun := false } passed change next) where
  follows := Client.Follows.send rfl fun answer => (hnext answer).follows
  vouches := by
    rintro (failure | _)
    · exact ⟨(hnext _).vouches, fun _ => hfails failure⟩
    · exact ⟨(hnext _).vouches, fun hnot => absurd rfl hnot⟩
  pipeSafe := PipeSafe.send (Or.inr rfl) fun answer => (hnext answer).pipeSafe
  rehearsed := rfl
  dry_pipeSafe := PipeSafe.done _

end Guards

theorem Settles.done {α : Type} {passed : α} (result : Except Chain α) :
    Settles (fun _ => []) passed (.done result : Exchange Output α) :=
  (Guards.done result).toSettles

/-- A runner whose dry run guards its run. -/
abbrev Guarded {α : Type} (args : UtilArgs) (plan : Transcript Output → List Change) (passed : α)
    (runner : UtilArgs → Exchange Output α) : Prop :=
  Guards plan passed (runner { args with dryRun := true }) (runner { args with dryRun := false })

/-! ## Each subcommand -/

variable (args : UtilArgs)

theorem guards_runDeleteBucketPart (part : BucketPart) :
    Guarded args (fun _ => deletedPart part args) ()
      (runDeleteBucketPart part : UtilArgs → Exchange Output Unit) := by
  apply Guards.read
  intro bucket
  exact Guards.change args Settles.done (error_ne_ok · ())

theorem guards_runRm :
    Guarded args
      (fun _ => planned (trimmedError args.bucketKey) fun (bucket, key) =>
        [.deleteObject bucket key args.sourceVersionId args.requestPayer]) ()
      (runRm : UtilArgs → Exchange Output Unit) := by
  apply Guards.read
  rintro ⟨bucket, key⟩
  exact Guards.change args Settles.done (error_ne_ok · ())

theorem guards_runDeleteObjectTagging :
    Guarded args
      (fun _ => planned (trimmedError args.bucketKey) fun (bucket, key) =>
        [.deleteObjectTagging bucket key args.sourceVersionId]) ()
      (runDeleteObjectTagging : UtilArgs → Exchange Output Unit) := by
  apply Guards.read
  rintro ⟨bucket, key⟩
  exact Guards.change args Settles.done (error_ne_ok · ())

theorem guards_runPutBucketVersioning :
    Guarded args
      (fun _ => planned (trimmedError args.bucketName) fun bucket =>
        [.putBucketVersioning bucket args.versioningStatus]) ()
      (runPutBucketVersioning : UtilArgs → Exchange Output Unit) := by
  apply Guards.read
  intro bucket
  exact Guards.change args Settles.done (error_ne_ok · ())

theorem guards_runPutBucketAccelerateConfiguration :
    Guarded args
      (fun _ => planned (trimmedError args.bucketName) fun bucket =>
        [.putBucketAccelerateConfiguration bucket args.accelerateStatus]) ()
      (runPutBucketAccelerateConfiguration : UtilArgs → Exchange Output Unit) := by
  apply Guards.read
  intro bucket
  exact Guards.change args Settles.done (error_ne_ok · ())

theorem guards_runPutBucketRequestPayment :
    Guarded args
      (fun _ => planned (trimmedError args.bucketName) fun bucket =>
        [.putBucketRequestPayment bucket args.payer]) ()
      (runPutBucketRequestPayment : UtilArgs → Exchange Output Unit) := by
  apply Guards.read
  intro bucket
  exact Guards.change args Settles.done (error_ne_ok · ())

variable (codecs : Codecs Output Json)

theorem guards_runPutBucketTagging :
    Guarded args
      (fun _ => planned (trimmedError args.bucketName) fun bucket =>
        planned (parseTaggingToTags codecs.decode (args.tagging.getD [])) fun tags =>
          [.putBucketTagging bucket tags]) ()
      (runPutBucketTagging codecs) := by
  apply Guards.read
  intro bucket
  apply Guards.read
  intro tags
  exact Guards.change args Settles.done (error_ne_ok · ())

theorem guards_runPutObjectTagging :
    Guarded args
      (fun _ => planned (trimmedError args.bucketKey) fun (bucket, key) =>
        planned (parseTaggingToTags codecs.decode (args.tagging.getD [])) fun tags =>
          [.putObjectTagging bucket key args.sourceVersionId tags args.requestPayer]) ()
      (runPutObjectTagging codecs) := by
  apply Guards.read
  rintro ⟨bucket, key⟩
  apply Guards.read
  intro tags
  exact Guards.change args Settles.done (error_ne_ok · ())

/-! ### Statuses -/

/-- An entry of the log before a status. -/
theorem guards_logged (level : Level) (message : Text) (status : ExitStatus) :
    Guards (fun _ => []) .success
      (do log level message; return status : Exchange Output ExitStatus)
      (do log level message; return status) :=
  Guards.bind (Checks.log level message) fun _ => Guards.done (.ok status)

theorem ends_logged (level : Level) (message : Text) {status : ExitStatus}
    (hne : status ≠ .success) :
    (do log level message; return status : Exchange Output ExitStatus).Ends
      fun result => result ≠ .ok .success :=
  fun _ hok => hne (Except.ok.inj hok)

section NotFound

variable {α : Type} (level : Level) (bucket missing : Text)

theorem guards_orNotFound {dry real : α → Exchange Output ExitStatus}
    (hfound : ∀ output, Guards (fun _ => []) .success (dry output) (real output))
    (answer : Except HeadError α) :
    Guards (fun _ => []) .success (orNotFound level bucket missing dry answer)
      (orNotFound level bucket missing real answer) := by
  cases answer with
  | ok output => exact hfound output
  | error error =>
      cases error with
      | bucketNotFound => exact guards_logged level _ _
      | notFound => exact guards_logged level _ _
      | other chain => exact Guards.done _

theorem ends_orNotFound {found : α → Exchange Output ExitStatus} (error : HeadError) :
    (orNotFound level bucket missing found (.error error)).Ends
      fun result => result ≠ .ok .success := by
  cases error with
  | bucketNotFound => exact ends_logged level _ (by decide)
  | notFound => exact ends_logged level _ (by decide)
  | other chain => exact error_ne_ok chain _

end NotFound

theorem guards_runDeleteObjectAnnotation :
    Guarded args
      (fun _ => planned (trimmedError args.bucketKey) fun (bucket, key) =>
        planned (okOr "--annotation-name is required".toList args.annotationName) fun name =>
          planned (codecs.validateAnnotationName name) fun _ =>
            Change.deleteObjectAnnotation bucket key name args.targetVersionId
              args.requestPayer :: []) .success <|
      runDeleteObjectAnnotation codecs := by
  apply Guards.read
  rintro ⟨bucket, key⟩
  apply Guards.read
  intro annotationName
  apply Guards.read
  rintro ⟨⟩
  have hdeleted (answer : Except ObjectAnnotationError Unit) :
      Guards (fun _ => []) .success (annotationDeleted args bucket key annotationName answer)
        (annotationDeleted args bucket key annotationName answer : Exchange Output _) := by
    rcases answer with (_ | _ | _ | chain) | _
    · exact guards_logged _ _ _
    · exact guards_logged _ _ _
    · exact guards_logged _ _ _
    · exact Guards.done _
    · exact Guards.done _
  apply Guards.change args
  · exact fun answer => (hdeleted answer).toSettles
  · rintro (_ | _ | _ | chain)
    · exact ends_logged _ _ (by decide)
    · exact ends_logged _ _ (by decide)
    · exact ends_logged _ _ (by decide)
    · exact error_ne_ok chain _

theorem guards_runRename :
    Guarded args
      (fun _ => planned (trimmedError args.sourceBucketKey) fun (bucket, sourceKey) =>
        planned (trimmedError args.targetBucketKey) fun (_, targetKey) =>
          [.renameObject bucket sourceKey targetKey args.conditions]) .success
      (runRename : UtilArgs → Exchange Output ExitStatus) := by
  apply Guards.read
  rintro ⟨bucket, sourceKey⟩
  apply Guards.read
  rintro ⟨targetBucket, targetKey⟩
  have hrenamed (answer : Except HeadError Unit) :
      ∃ result, (renamed bucket sourceKey answer : Exchange Output ExitStatus) = .done result := by
    rcases answer with (_ | _ | chain) | _ <;> exact ⟨_, rfl⟩
  apply Guards.change args
  · intro answer
    obtain ⟨result, hresult⟩ := hrenamed answer
    rw [hresult]
    exact Settles.done result
  · rintro (_ | _ | chain) <;> exact error_ne_ok _ _

theorem guards_runRestoreObject :
    Guarded args
      (fun _ => planned (trimmedError args.bucketKey) fun (bucket, key) =>
        [.restoreObject bucket key args.sourceVersionId ⟨args.days, args.tier⟩
          args.requestPayer]) .success
      (runRestoreObject : UtilArgs → Exchange Output ExitStatus) := by
  apply Guards.read
  rintro ⟨bucket, key⟩
  have hrestored (answer : Except HeadError Unit) :
      Settles (fun _ => []) .success
        (orNotFound .warn bucket (notFound ("object ".toList ++ s3Object bucket key))
          (fun _ => return .success) answer : Exchange Output ExitStatus) :=
    (guards_orNotFound _ _ _ (fun _ => Guards.done _) answer).toSettles
  exact Guards.change args hrestored (ends_orNotFound _ _ _)

/-! ### Creating a bucket -/

theorem settles_tagCreated (bucket : Text) (tagging : Option (List Tag)) :
    Settles (fun _ => tagging.toList.map (.putBucketTagging bucket)) .success
      (tagCreated bucket tagging : Exchange Output ExitStatus) := by
  cases tagging with
  | none => exact Settles.done _
  | some tags =>
      have hwarned (chain : Chain) : Settles (fun _ => []) .success
          (do
            ask (.log .warn (createdUntagged bucket) (some chain))
            return .warning : Exchange Output ExitStatus) := by
        refine ⟨fun _ => nofun, fun _ => ⟨trivial, fun hnot => absurd trivial hnot⟩, ?_⟩
        exact (PipeSafe.log _ _ _).bind fun _ => PipeSafe.done _
      have hput : Settles (fun _ => []) .success (pure .success : Exchange Output ExitStatus) :=
        Settles.done _
      refine ⟨Client.Follows.send rfl ?_, ?_, PipeSafe.send (Or.inr rfl) ?_⟩
      · rintro (chain | _)
        · exact (hwarned chain).follows
        · exact hput.follows
      · rintro (chain | _)
        · exact ⟨(hwarned chain).vouches, fun _ _ => nofun⟩
        · exact ⟨hput.vouches, fun hnot => absurd rfl hnot⟩
      · rintro (chain | _)
        · exact (hwarned chain).pipeSafe
        · exact hput.pipeSafe

theorem guards_createBucket (bucket : Text) (tagging : Option (List Tag)) :
    Guarded args (fun _ => taggedBucket args bucket tagging) .success
      (createBucket · bucket tagging : UtilArgs → Exchange Output ExitStatus) := by
  apply Guards.change args
  · rintro (chain | _)
    · exact (Guards.failed chain).toSettles
    · exact settles_tagCreated bucket tagging
  · exact (error_ne_ok · _)

theorem guards_runCreateBucket :
    Guarded args
      (fun transcript => planned (trimmedError args.bucketName) fun bucket =>
        planned (parseTagging codecs args.tagging) fun tagging =>
          newBucket args bucket tagging transcript) .success
      (runCreateBucket codecs) := by
  apply Guards.read
  intro bucket
  apply Guards.read
  intro tagging
  dsimp only
  split
  next hlook =>
    have hplan : newBucket args bucket tagging = fun transcript : Transcript Output =>
        if bucketFound transcript then [] else taggedBucket args bucket tagging := by
      funext transcript
      simp only [newBucket, hlook, Bool.true_and]
    rw [hplan]
    apply Guards.ask rfl
    · rintro ((_ | _ | chain) | output)
      · exact guards_createBucket args bucket tagging
      · exact guards_createBucket args bucket tagging
      · exact Guards.failed chain
      · exact Guards.done _
    · rintro ((_ | _ | chain) | output) hnot
      · exact absurd (Or.inr ⟨rfl, Or.inl rfl⟩) hnot
      · exact absurd (Or.inr ⟨rfl, Or.inr rfl⟩) hnot
      · exact error_ne_ok chain _
      · exact absurd (Or.inl ⟨output, rfl⟩) hnot
  next hlook =>
    have hplan : newBucket args bucket tagging =
        fun _ : Transcript Output => taggedBucket args bucket tagging := by
      funext transcript
      simp only [newBucket, hlook, Bool.false_and, Bool.false_eq_true, if_false]
    rw [hplan]
    exact guards_createBucket args bucket tagging

/-! ### Printing -/

theorem guards_runBucketReport (report : BucketReport) :
    Guarded args (fun _ => []) .success (runBucketReport report codecs) := by
  apply Guards.bind (Checks.done _)
  intro bucket
  apply Guards.ask rfl
  · apply guards_orNotFound
    intro output
    dsimp only
    split
    next => exact Guards.done _
    next => exact Guards.bind (Checks.print codecs _) fun _ => Guards.done _
  · rintro (error | output) hnot
    · exact ends_orNotFound _ _ _ error
    · exact absurd (Or.inl ⟨output, rfl⟩) hnot

theorem guards_runGetBucketPolicy :
    Guarded args (fun _ => []) .success (runGetBucketPolicy codecs) := by
  apply Guards.bind (Checks.done _)
  intro bucket
  apply Guards.ask rfl
  · apply guards_orNotFound
    intro output
    apply Guards.bind (Checks.done _)
    intro pretty
    exact Guards.bind (Checks.printlnPipeSafe pretty) fun _ => Guards.done _
  · rintro (error | output) hnot
    · exact ends_orNotFound _ _ _ error
    · exact absurd (Or.inl ⟨output, rfl⟩) hnot

theorem guards_printObject (query : ObjectQuery) (output : Output) :
    Guards (fun _ => []) .success (printObject query codecs output)
      (printObject query codecs output) :=
  Guards.bind (Checks.print codecs _) fun _ => Guards.done _

theorem guards_runHeadObject :
    Guarded args (fun _ => []) .success (runHeadObject codecs) := by
  apply Guards.bind (Checks.done _)
  rintro ⟨bucket, key⟩
  apply Guards.ask rfl
  · rintro ((_ | _ | chain) | output)
    · exact guards_logged _ _ _
    · exact guards_logged _ _ _
    · exact Guards.done _
    · exact guards_printObject codecs _ output
  · rintro ((_ | _ | chain) | output) hnot
    · exact ends_logged _ _ (by decide)
    · exact ends_logged _ _ (by decide)
    · exact error_ne_ok chain _
    · exact absurd ⟨output, rfl⟩ hnot

theorem guards_runGetObjectTagging :
    Guarded args (fun _ => []) .success (runGetObjectTagging codecs) := by
  apply Guards.bind (Checks.done _)
  rintro ⟨bucket, key⟩
  apply Guards.ask rfl
  · exact guards_orNotFound _ _ _ (guards_printObject codecs _)
  · rintro (error | output) hnot
    · exact ends_orNotFound _ _ _ error
    · exact absurd ⟨output, rfl⟩ hnot

theorem guards_runListObjectAnnotations :
    Guarded args (fun _ => []) .success (runListObjectAnnotations codecs) := by
  apply Guards.bind (Checks.done _)
  rintro ⟨bucket, key⟩
  apply Guards.ask rfl
  · exact guards_orNotFound _ _ _ (guards_printObject codecs _)
  · rintro (error | output) hnot
    · exact ends_orNotFound _ _ _ error
    · exact absurd ⟨output, rfl⟩ hnot

theorem guards_runPresign :
    Guarded args (fun _ => []) .success
      (runPresign : UtilArgs → Exchange Output ExitStatus) := by
  apply Guards.bind (Checks.done _)
  rintro ⟨bucket, key⟩
  apply Guards.ask rfl
  · intro signed
    apply Guards.bind (Checks.done _)
    intro url
    exact Guards.bind (Checks.printlnPipeSafe url) fun _ => Guards.done _
  · rintro (chain | url) hnot
    · exact error_ne_ok chain _
    · exact absurd ⟨url, rfl⟩ hnot

end S7cmd.UtilBin
