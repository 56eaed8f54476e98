import S7cmd.UtilBin.Mv
import S7cmd.Foundation.Stores

/-!
# A move loses no data

Whatever goes wrong and whenever it is cancelled, a move between two S3 paths leaves
the source version in its place or its content at the target. The guard makes sure
that the deletion does not meet what the copy wrote.
-/

namespace S7cmd.UtilBin

open Foundation

/-- Where an object is. -/
structure Location (Service : Type) where
  service : Service
  bucket : Text
  key : Text
  deriving DecidableEq, Repr

/-- The objects of all services. -/
abbrev Objects (Service Content : Type) :=
  VersionedStore (Location Service) Text Content nullVersion

variable {Service Content : Type} [DecidableEq Service]

/-! ## What the library is relied on for -/

/-- A transfer that succeeds has stored the content of the source version at the
target; one that fails may have stored something there. -/
structure Transfers (transfer : Objects Service Content →
      Except RunError TransferOutcome × Objects Service Content)
    (source target : Location Service) (named : Option Text) : Prop where
  ok : ∀ before outcome after, transfer before = (.ok outcome, after) →
    ∃ id content, before.Fresh target id ∧ before.read source named = some content ∧
      after = before.put target id content
  error : ∀ before error after, transfer before = (.error error, after) →
    after = before ∨ ∃ id content, before.Fresh target id ∧ after = before.put target id content

/-- A deletion that succeeds has deleted; one that fails may have. -/
structure Deletes (deleteObject : Objects Service Content →
      Except RunError Unit × Objects Service Content)
    (source : Location Service) (named : Option Text) : Prop where
  ok : ∀ before after, deleteObject before = (.ok (), after) →
    ∃ marker, after = before.delete source named marker
  error : ∀ before error after, deleteObject before = (.error error, after) →
    after = before ∨ ∃ marker, after = before.delete source named marker

/-! ## What may become of the source -/

section Effects

variable {before after : Objects Service Content} {source target : Location Service}
  {named : Option Text}

/-- The target holds the content of the version that the source named before. -/
def Moved (source target : Location Service) (named : Option Text)
    (before after : Objects Service Content) : Prop :=
  ∃ content, before.read source named = some content ∧ after.read target none = some content

/-- The version that the source named before is still in its place. -/
def Untouched (source : Location Service) (named : Option Text)
    (before after : Objects Service Content) : Prop :=
  ∀ version, before.select source named = some version → after.select source named = some version

/-- The source and the target are different objects, or the source names a version
that is kept apart. -/
def Apart (source target : Location Service) (named : Option Text) : Prop :=
  source ≠ target ∨ ∃ versionId, named = some versionId ∧ versionId ≠ nullVersion

omit [DecidableEq Service] in
theorem untouched_refl (source : Location Service) (named : Option Text)
    (before : Objects Service Content) : Untouched source named before before :=
  fun _ hselect => hselect

/-- What a copy writes leaves the source version alone. -/
theorem untouched_put (hapart : Apart source target named) {id : Text} {content : Content}
    (hfresh : before.Fresh target id) :
    Untouched source named before (before.put target id content) := by
  intro version hselect
  by_cases hsame : source = target
  · subst hsame
    obtain ⟨versionId, rfl, hnull⟩ := hapart.resolve_left fun hne => hne rfl
    exact VersionedStore.select_put_named hnull hfresh hselect
  · rwa [VersionedStore.select_put_of_ne hsame]

/-- The deletion of the source version leaves alone what the copy wrote. -/
theorem moved_delete (hapart : Apart source target named) {id marker : Text} {content : Content}
    (captured : Option Text) (hfresh : before.Fresh target id)
    (hread : before.read source named = some content) :
    Moved source target named before
      ((before.put target id content).delete source (named.or captured) marker) := by
  refine ⟨content, hread, ?_⟩
  by_cases hsame : source = target
  · subst hsame
    obtain ⟨versionId, rfl, hnull⟩ := hapart.resolve_left fun hne => hne rfl
    rw [Option.some_or]
    apply VersionedStore.read_delete_put hnull
    -- the source version is in the stack, so the new one has another id
    obtain ⟨version, hselect, -⟩ := Option.bind_eq_some_iff.mp hread
    have hmem := List.mem_of_find?_eq_some hselect
    have hname : version.id = versionId := by simpa using List.find?_some hselect
    exact hname ▸ (hfresh version hmem).symm
  · have hother : target ≠ source := fun heq => hsame heq.symm
    rw [VersionedStore.read, VersionedStore.select_delete_of_ne hother]
    exact VersionedStore.read_put

end Effects

/-! ## A run -/

/-- What a run of `mv` has done, given the objects it resolved. -/
structure Kept (world : World (Objects Service Content)) (config : Config)
    (source target : Location Service) (before : Objects Service Content)
    (run : MvRun (Objects Service Content)) : Prop where
  /-- the content is at the target, or the source version is in its place -/
  nothing_lost : Moved source target config.versionId before run.state ∨
    Untouched source config.versionId before run.state
  /-- a success is a move, a dry run apart -/
  success : run.result = .ok .success → config.dryRun = false →
    Moved source target config.versionId before run.state
  /-- anything else leaves the source version alone, unless its deletion was reported
  to fail and did not -/
  failure : run.result ≠ .ok .success → Untouched source config.versionId before run.state ∨
    run.deletes ≠ [] ∧ Moved source target config.versionId before run.state
  dryRun : config.dryRun = true → run.deletes = [] ∧ run.state = before
  /-- one deletion at most, of the source key and the version named or else read -/
  deletes : run.deletes = [] ∨ ∃ outcome after,
    world.transfer config .s3ToS3 source.key target.key before = (.ok outcome, after) ∧
      run.deletes = [⟨source.key, config.versionId.or outcome.sourceVersionId⟩]

variable {world : World (Objects Service Content)} {config : Config}
  {source target : Location Service} {before after : Objects Service Content}

omit [DecidableEq Service] in
/-- Nothing is deleted, and the copy was not a dry run or changed nothing. -/
theorem Kept.of_untouched (result : Except RunError ExitStatus)
    (hresult : result = .ok .success → config.dryRun = true)
    (huntouched : Untouched source config.versionId before after)
    (hdryRun : config.dryRun = true → after = before) :
    Kept world config source target before ⟨result, [], after⟩ where
  nothing_lost := Or.inr huntouched
  success := fun hsuccess hreal => by
    rw [hresult hsuccess] at hreal
    cases hreal
  failure := fun _ => Or.inl huntouched
  dryRun := fun hdry => ⟨rfl, hdryRun hdry⟩
  deletes := Or.inl rfl

theorem Transfers.untouched {transfer : Objects Service Content →
      Except RunError TransferOutcome × Objects Service Content}
    {named : Option Text} (htransfers : Transfers transfer source target named)
    (hapart : Apart source target named) {result : Except RunError TransferOutcome}
    (htransfer : transfer before = (result, after)) : Untouched source named before after := by
  cases result with
  | ok outcome =>
      obtain ⟨id, content, hfresh, -, rfl⟩ := htransfers.ok before outcome after htransfer
      exact untouched_put hapart hfresh
  | error error =>
      rcases htransfers.error before error after htransfer with rfl | ⟨id, content, hfresh, rfl⟩
      · exact untouched_refl _ _ _
      · exact untouched_put hapart hfresh

/-- The copy went through, and the deletion of the source was asked for. -/
theorem Kept.of_deleted {outcome : TransferOutcome} {deleted : Except RunError Unit}
    {final : Objects Service Content} (hapart : Apart source target config.versionId)
    (htransfers : Transfers (world.transfer config .s3ToS3 source.key target.key) source target
      config.versionId)
    (hdeletes : Deletes (world.deleteObject config source.key
      (config.versionId.or outcome.sourceVersionId)) source
      (config.versionId.or outcome.sourceVersionId))
    (hdryRun : config.dryRun = false)
    (htransfer : world.transfer config .s3ToS3 source.key target.key before = (.ok outcome, after))
    (hdelete : world.deleteObject config source.key
      (config.versionId.or outcome.sourceVersionId) after = (deleted, final)) :
    Kept world config source target before ⟨deleted.map fun _ => .success,
      [⟨source.key, config.versionId.or outcome.sourceVersionId⟩], final⟩ := by
  have huntouched := htransfers.untouched hapart htransfer
  obtain ⟨id, content, hfresh, hread, rfl⟩ := htransfers.ok before outcome after htransfer
  have hmoved : ∀ marker, Moved source target config.versionId before
      ((before.put target id content).delete source
        (config.versionId.or outcome.sourceVersionId) marker) := fun marker =>
    moved_delete hapart outcome.sourceVersionId hfresh hread
  have hdry : config.dryRun = true → [(⟨source.key,
      config.versionId.or outcome.sourceVersionId⟩ : DeleteCall)] = [] ∧ final = before := by
    intro htrue
    rw [hdryRun] at htrue
    cases htrue
  cases deleted with
  | ok done =>
      obtain ⟨marker, rfl⟩ := hdeletes.ok _ final hdelete
      exact ⟨Or.inl (hmoved marker), fun _ _ => hmoved marker, fun hfailed => absurd rfl hfailed,
        hdry, Or.inr ⟨outcome, _, htransfer, rfl⟩⟩
  | error error =>
      rcases hdeletes.error _ error final hdelete with rfl | ⟨marker, rfl⟩
      · exact ⟨Or.inr huntouched, nofun, fun _ => Or.inl huntouched, hdry,
          Or.inr ⟨outcome, _, htransfer, rfl⟩⟩
      · exact ⟨Or.inl (hmoved marker), nofun,
          fun _ => Or.inr ⟨List.cons_ne_nil _ _, hmoved marker⟩, hdry,
          Or.inr ⟨outcome, _, htransfer, rfl⟩⟩

omit [DecidableEq Service] in
theorem planCopy_eq_ok {direction : TransferDirection} {sourceKey targetKey : Text}
    (hplan : planCopy world config = .ok (direction, sourceKey, targetKey)) :
    extractKeys world.toHost config = .ok (sourceKey, targetKey) ∧
      world.detectDirection (pathString config.source) (pathString config.target) =
        .ok direction := by
  unfold planCopy getPathStrings at hplan
  simp only [bind, Except.bind, pure, Except.pure] at hplan
  split at hplan
  next => cases hplan
  next detected hdetected =>
    split at hplan
    next => cases hplan
    next =>
      split at hplan
      next => cases hplan
      next keys hkeys =>
        cases hplan
        exact ⟨hkeys, hdetected⟩

omit [DecidableEq Service] in
/-- A run without keys copies and deletes nothing. -/
theorem runMv_of_extractKeys_error {error : RunError}
    (hkeys : extractKeys world.toHost config = .error error)
    (before : Objects Service Content) :
    (runMv world config before).result ≠ .ok .success ∧
      (runMv world config before).deletes = [] ∧ (runMv world config before).state = before := by
  unfold runMv
  cases hcheck : checkNotSelfMove world.toHost config with
  | error refused => exact ⟨nofun, rfl, rfl⟩
  | ok passed =>
      cases hplan : planCopy world config with
      | error failed =>
          have hphase : runCopyPhase world config before = (.error failed, before) := by
            rw [runCopyPhase, hplan]
          rw [hphase]
          exact ⟨nofun, rfl, rfl⟩
      | ok plan =>
          rw [(planCopy_eq_ok hplan).1] at hkeys
          cases hkeys

omit [DecidableEq Service] in
/-- What passes the check is no move of an object onto itself. -/
theorem apart_of_check {sourceService targetService : Service}
    {sourceBucket sourcePrefix targetBucket targetPrefix sourceKey targetKey : Text}
    (hsource : config.source = .s3 sourceBucket sourcePrefix)
    (htarget : config.target = .s3 targetBucket targetPrefix)
    (hservice : config.sourceEndpoint ≠ config.targetEndpoint → sourceService ≠ targetService)
    (hkeys : extractKeys world.toHost config = .ok (sourceKey, targetKey))
    (hcheck : checkNotSelfMove world.toHost config = .ok ()) :
    Apart (⟨sourceService, sourceBucket, sourceKey⟩ : Location Service)
      ⟨targetService, targetBucket, targetKey⟩ config.versionId := by
  rcases not_self_of_check hsource htarget hkeys hcheck with hne | hne | hne | hversion
  · exact Or.inl fun heq => hne (Location.mk.inj heq).2.1
  · exact Or.inl fun heq => hservice hne (Location.mk.inj heq).1
  · exact Or.inl fun heq => hne (Location.mk.inj heq).2.2
  · exact Or.inr hversion

omit [DecidableEq Service] in
/-- A dry run deletes nothing, whatever its copy phase reports. -/
theorem Kept.of_dryRun (hdryRun : config.dryRun = true) (phase : CopyPhase) :
    Kept world config source target before (applyMvDecisionTree world config phase before) := by
  have hdecided := decided world config phase before
  generalize applyMvDecisionTree world config phase before = run at hdecided
  cases hdecided with
  | kept result hresult => exact .of_untouched _ hresult (untouched_refl _ _ _) fun _ => rfl
  | deleted outcome deleted after hreal =>
      rw [hdryRun] at hreal
      cases hreal

/-- The gates behind a copy delete its source only if it went through. -/
theorem Kept.of_transferred {phase : CopyPhase} (hapart : Apart source target config.versionId)
    (htransfers : Transfers (world.transfer config .s3ToS3 source.key target.key) source target
      config.versionId)
    (hdeletes : ∀ named, Deletes (world.deleteObject config source.key named) source named)
    (hdryRun : config.dryRun = false) (hkey : phase.sourceKey = source.key)
    (htransfer : world.transfer config .s3ToS3 source.key target.key before =
      (phase.transferResult, after)) :
    Kept world config source target before (applyMvDecisionTree world config phase after) := by
  have huntouched := htransfers.untouched hapart htransfer
  have hdecided := decided world config phase after
  generalize applyMvDecisionTree world config phase after = run at hdecided
  cases hdecided with
  | kept result hresult =>
      refine .of_untouched _ hresult huntouched fun hdry => ?_
      rw [hdryRun] at hdry
      cases hdry
  | deleted outcome deleted final _ hok hdelete =>
      rw [hok] at htransfer
      rw [hkey] at hdelete ⊢
      exact .of_deleted hapart htransfers (hdeletes _) hdryRun htransfer hdelete

/-- A run of `mv` between two S3 paths loses nothing, whatever the transfer and the
deletion report and whenever it is cancelled. -/
theorem mv_loses_nothing (world : World (Objects Service Content)) (config : Config)
    (before : Objects Service Content) (sourceService targetService : Service)
    (sourceBucket sourcePrefix targetBucket targetPrefix : Text)
    (hsource : config.source = .s3 sourceBucket sourcePrefix)
    (htarget : config.target = .s3 targetBucket targetPrefix)
    (hservice : config.sourceEndpoint ≠ config.targetEndpoint → sourceService ≠ targetService)
    (hdirection : ∀ direction, world.detectDirection (pathString config.source)
      (pathString config.target) = .ok direction → direction = .s3ToS3)
    (htransfers : ∀ sourceKey targetKey,
      Transfers (world.transfer config .s3ToS3 sourceKey targetKey)
        ⟨sourceService, sourceBucket, sourceKey⟩ ⟨targetService, targetBucket, targetKey⟩
        config.versionId)
    (hdeletes : ∀ key named, Deletes (world.deleteObject config key named)
      ⟨sourceService, sourceBucket, key⟩ named) :
    (∀ error, extractKeys world.toHost config = .error error →
      (runMv world config before).result ≠ .ok .success ∧
        (runMv world config before).deletes = [] ∧ (runMv world config before).state = before) ∧
    ∀ sourceKey targetKey, extractKeys world.toHost config = .ok (sourceKey, targetKey) →
      sourceKey = sourcePrefix ∧
        Kept world config ⟨sourceService, sourceBucket, sourceKey⟩
          ⟨targetService, targetBucket, targetKey⟩ before (runMv world config before) := by
  constructor
  · intro error hkeys
    exact runMv_of_extractKeys_error hkeys before
  · intro sourceKey targetKey hkeys
    refine ⟨extractKeys_source hsource hkeys, ?_⟩
    unfold runMv
    cases hcheck : checkNotSelfMove world.toHost config with
    | error refused => exact .of_untouched _ nofun (untouched_refl _ _ _) fun _ => rfl
    | ok passed =>
        have hapart := apart_of_check hsource htarget hservice hkeys hcheck
        have hcopied := copied world config before
        generalize runCopyPhase world config before = phase at hcopied
        cases hcopied with
        | unplanned error => exact .of_untouched _ nofun (untouched_refl _ _ _) fun _ => rfl
        | dryRun phase hdryRun => exact .of_dryRun hdryRun phase
        | transferred direction otherSource otherTarget transferResult cancelled hasWarning after
            hdryRun hplan htransfer =>
            obtain ⟨hsame, hdetected⟩ := planCopy_eq_ok hplan
            obtain ⟨rfl, rfl⟩ := Prod.mk.inj (Except.ok.inj (hsame.symm.trans hkeys))
            cases hdirection direction hdetected
            exact .of_transferred hapart (htransfers _ _) (hdeletes _) hdryRun rfl htransfer

/-- An id that no version of the object has. -/
def newId (store : Objects Unit Nat) (location : Location Unit) : Text :=
  'v' :: ((store.stack location).map Version.id).flatten

theorem fresh_newId (store : Objects Unit Nat) (location : Location Unit) :
    store.Fresh location (newId store location) := by
  intro version hversion heq
  have hmem : version.id ∈ (store.stack location).map Version.id := List.mem_map_of_mem hversion
  have hlength := (List.sublist_flatten_of_mem hmem).length_le
  rw [heq, newId, List.length_cons] at hlength
  omega

/-- A service with one bucket, and a library that does what it is asked for. -/
def oneBucket : World (Objects Unit Nat) where
  isDir := fun _ => false
  hasTrailingSeparator := fun _ => false
  detectDirection := fun _ _ => .ok .s3ToS3
  transfer := fun config _ sourceKey targetKey store =>
    match store.read ⟨(), ['b'], sourceKey⟩ config.versionId with
    | some content =>
        (.ok {}, store.put ⟨(), ['b'], targetKey⟩ (newId store ⟨(), ['b'], targetKey⟩) content)
    | none => (.error ⟨"no such version".toList, false⟩, store)
  logDryRunAnnotationSync := fun _ _ _ => .ok ()
  deleteObject := fun _ key named store =>
    (.ok (), store.delete ⟨(), ['b'], key⟩ named (newId store ⟨(), ['b'], key⟩))
  ctrlCReceived := false
  tokenCancelled := false
  tokenCancelledLate := false
  hasWarning := false

/-- An older version of `k` in a suspended bucket is moved onto `k`. -/
def promotion : Config :=
  ⟨.s3 ['b'] ['k'], .s3 ['b'] ['k'], none, none, some ['o'], false, false, false⟩

def twoVersions : Objects Unit Nat :=
  ⟨fun _ => .suspended, fun _ => [⟨nullVersion, some 1⟩, ⟨['o'], some 2⟩]⟩

/-- It becomes the current version, and only the older one is deleted. -/
theorem mv_promotes_version :
    (runMv oneBucket promotion twoVersions).result = .ok .success ∧
      (runMv oneBucket promotion twoVersions).deletes = [⟨['k'], some ['o']⟩] ∧
      Moved ⟨(), ['b'], ['k']⟩ ⟨(), ['b'], ['k']⟩ (some ['o']) twoVersions
        (runMv oneBucket promotion twoVersions).state := by
  have htransfers : ∀ sourceKey targetKey,
      Transfers (oneBucket.transfer promotion .s3ToS3 sourceKey targetKey)
        ⟨(), ['b'], sourceKey⟩ ⟨(), ['b'], targetKey⟩ promotion.versionId := by
    intro sourceKey targetKey
    constructor
    · intro before outcome after htransfer
      simp only [oneBucket] at htransfer
      split at htransfer
      next content hread =>
        cases htransfer
        exact ⟨_, content, fresh_newId _ _, hread, rfl⟩
      next => cases htransfer
    · intro before error after htransfer
      simp only [oneBucket] at htransfer
      split at htransfer
      next => cases htransfer
      next =>
        cases htransfer
        exact Or.inl rfl
  have hdeletes : ∀ key named, Deletes (oneBucket.deleteObject promotion key named)
      ⟨(), ['b'], key⟩ named := by
    intro key named
    constructor
    · intro before after hdelete
      cases hdelete
      exact ⟨_, rfl⟩
    · intro before error after hdelete
      cases hdelete
  have hkept := (mv_loses_nothing oneBucket promotion twoVersions () () ['b'] ['k'] ['b'] ['k'] rfl
    rfl (fun hne => absurd rfl hne) (fun direction hdetected => by cases hdetected; rfl) htransfers
    hdeletes).2 ['k'] ['k'] rfl
  exact ⟨rfl, rfl, hkept.2.success rfl rfl⟩

end S7cmd.UtilBin
