import S7cmd.Text

/-!
# The keys of a copy

Where a copy goes is spelled as two paths. The key on each side is resolved from
them: a target that names a directory gets the last component of the source.
-/

namespace S7cmd.UtilBin

inductive StoragePath where
  | s3 (bucket keyPrefix : Text)
  | localFile (path : Text)
  | stdio
  deriving DecidableEq, Repr

/-- Of the settings of a client only its endpoint is read here. -/
structure ClientConfig where
  endpointUrl : Option Text
  deriving DecidableEq, Repr

/-- What `cp` and `mv` read of their configuration before and after the transfer. -/
structure Config where
  source : StoragePath
  target : StoragePath
  sourceClientConfig : Option ClientConfig
  targetClientConfig : Option ClientConfig
  versionId : Option Text
  noFailOnVerifyError : Bool
  dryRun : Bool
  enableSyncObjectAnnotations : Bool
  deriving DecidableEq, Repr

/-- An error, and whether `is_cancelled_error` takes it for a cancellation. -/
structure RunError where
  message : Text
  isCancelled : Bool := false
  deriving DecidableEq, Repr

/-- What the file system says of local paths, and `fs_util` of their spelling. -/
structure Host where
  isDir : Text → Bool
  hasTrailingSeparator : Text → Bool

/-- `Path::file_name` on Unix: the last component, unless that is `..`. Empty
components and `.` are no components. -/
def fileName (path : Text) : Option Text :=
  match ((path.splitOn '/').filter fun part => part ≠ [] ∧ part ≠ ['.']).getLast? with
  | none => none
  | some part => if part = ['.', '.'] then none else some part

/-- `Path::join` on Unix: an absolute path replaces the directory. -/
def pathJoin (directory path : Text) : Text :=
  if path.startsWith '/' then path
  else if directory = [] ∨ directory.getLast? = some '/' then directory ++ path
  else directory ++ '/' :: path

def sourceKeyRequired : RunError := ⟨"source S3 key is required (e.g. s3://bucket/key)".toList, false⟩

def targetKeyRequired : RunError :=
  ⟨"target S3 key is required when source is stdin (e.g. s3://bucket/key)".toList, false⟩

/-- The key on the source side. -/
def extractSourceKey : StoragePath → Except RunError Text
  | .s3 _ keyPrefix => if keyPrefix = [] then .error sourceKeyRequired else .ok keyPrefix
  | .localFile path => .ok path
  | .stdio => .ok []

/-- The key on the target side, given the last component of the source key. -/
def extractTargetKey (host : Host) (sourceBasename : Text) : StoragePath → Except RunError Text
  | .s3 _ keyPrefix =>
      -- an empty target and one that ends in a slash are directories
      if keyPrefix = [] ∨ keyPrefix.getLast? = some '/' then
        if sourceBasename = [] then .error targetKeyRequired
        else .ok (keyPrefix ++ sourceBasename)
      else .ok keyPrefix
  | .localFile path =>
      if host.isDir path || host.hasTrailingSeparator path then .ok (pathJoin path sourceBasename)
      else .ok path
  | .stdio => .ok []

def extractKeys (host : Host) (config : Config) : Except RunError (Text × Text) := do
  let sourceKey ← extractSourceKey config.source
  let sourceBasename := (fileName sourceKey).getD sourceKey
  let targetKey ← extractTargetKey host sourceBasename config.target
  return (sourceKey, targetKey)

/-- The source key of an object is its path, spelled out. -/
theorem extractKeys_source {host : Host} {config : Config} {bucket keyPrefix : Text}
    {keys : Text × Text} (hsource : config.source = .s3 bucket keyPrefix)
    (hkeys : extractKeys host config = .ok keys) : keys.1 = keyPrefix := by
  unfold extractKeys at hkeys
  rw [hsource, extractSourceKey] at hkeys
  by_cases hempty : keyPrefix = []
  · rw [if_pos hempty] at hkeys
    cases hkeys
  · rw [if_neg hempty] at hkeys
    cases htarget : extractTargetKey host ((fileName keyPrefix).getD keyPrefix) config.target with
    | error error => simp [bind, Except.bind, htarget] at hkeys
    | ok targetKey =>
        simp only [bind, Except.bind, htarget, pure, Except.pure, Except.ok.injEq] at hkeys
        rw [← hkeys]

/-- A directory as the target takes the last component of the source. -/
example (host : Host) : extractKeys host
    ⟨.s3 ['b'] "dir/file".toList, .s3 ['b'] "dir/".toList, none, none, none, false, false, false⟩ =
      .ok ("dir/file".toList, "dir/file".toList) := rfl

end S7cmd.UtilBin
