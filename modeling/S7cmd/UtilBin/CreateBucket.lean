import S7cmd.UtilBin.Subcommands

/-!
# How creating a bucket ends

Nothing is rolled back when the tags of a new bucket cannot be put. So the exit status has
to tell whether there is a new bucket, and whether it has its tags.
-/

namespace S7cmd.UtilBin

open Foundation

variable {Output Json State : Type}

/-- The bucket was there before. -/
def Found (transcript : Transcript Output) (bucket : Text) : Prop :=
  ∃ output, ⟨.readBucket .head bucket, .ok output⟩ ∈ transcript

/-- S3 says that it has created the bucket. -/
def Created (transcript : Transcript Output) (bucket : Text) : Prop :=
  ∃ bucketNamespace locationConstraint,
    ⟨.change (.createBucket bucket bucketNamespace locationConstraint), .ok ()⟩ ∈ transcript

def Tagged (transcript : Transcript Output) (bucket : Text) (tags : List Tag) : Prop :=
  ⟨.change (.putBucketTagging bucket tags), .ok ()⟩ ∈ transcript

/-- S3 refuses the tags. -/
def Refused (transcript : Transcript Output) (bucket : Text) : Prop :=
  ∃ tags chain, ⟨.change (.putBucketTagging bucket tags), .error chain⟩ ∈ transcript

/-- What the result says of the bucket, given what was asked and answered. -/
structure TellsBucket (dryRun : Bool) (bucket : Text) (tagging : Option (List Tag))
    (transcript : Transcript Output) (result : Except Chain ExitStatus) : Prop where
  warning : result = .ok .warning ↔ Created transcript bucket ∧ Refused transcript bucket
  error : ∀ chain, result = .error chain → ¬ Created transcript bucket
  success : result = .ok .success → dryRun = false → Found transcript bucket ∨
    Created transcript bucket ∧ ∀ tags, tagging = some tags → Tagged transcript bucket tags

/-! ## What is asked, and what comes of it -/

section Runs

variable (server : Server Request (Answer Output) State) (bucket : Text) (state : State)

theorem tagCreated_cases (tagging : Option (List Tag)) :
    let transcript := (tagCreated bucket tagging).transcript server state
    let result := ((tagCreated bucket tagging).run server state).1
    (tagging = none ∧ transcript = [] ∧ result = .ok .success) ∨
      ∃ tags, tagging = some tags ∧
        ((transcript = [⟨.change (.putBucketTagging bucket tags), .ok ()⟩] ∧
            result = .ok .success) ∨
          ∃ chain answer, transcript =
              [⟨.change (.putBucketTagging bucket tags), .error chain⟩,
                ⟨.log .warn (createdUntagged bucket) (some chain), answer⟩] ∧
            result = .ok .warning) := by
  cases tagging with
  | none => exact Or.inl ⟨rfl, rfl, rfl⟩
  | some tags =>
      right
      refine ⟨tags, rfl, ?_⟩
      rcases hput : server (.change (.putBucketTagging bucket tags)) state with
        ⟨chain | _, after⟩
      · right
        refine ⟨chain, (server (.log .warn (createdUntagged bucket) (some chain)) after).1, ?_⟩
        simp only [tagCreated, ask, Client.ask_bind, Client.transcript, Client.run, hput]
        exact ⟨rfl, rfl⟩
      · left
        simp only [tagCreated, ask, Client.ask_bind, Client.transcript, Client.run, hput]
        exact ⟨rfl, rfl⟩

theorem createBucket_cases (args : UtilArgs) (tagging : Option (List Tag)) :
    let transcript := (createBucket args bucket tagging).transcript server state
    let result := ((createBucket args bucket tagging).run server state).1
    let change : Change :=
      .createBucket bucket args.bucketNamespace args.createBucketConfiguration
    (args.dryRun = true ∧ transcript = [] ∧ result = .ok .success) ∨
      (∃ chain, transcript = [⟨.change change, .error chain⟩] ∧ result = .error chain) ∨
        ∃ after,
          transcript = ⟨.change change, .ok ()⟩ ::
            (tagCreated bucket tagging).transcript server after ∧
          result = ((tagCreated bucket tagging).run server after).1 := by
  intro transcript result change
  cases hdry : args.dryRun with
  | true =>
      left
      simp only [transcript, result, createBucket, unlessDryRun, if_pos hdry]
      exact ⟨trivial, rfl, rfl⟩
  | false =>
      right
      rcases hcreate : server (.change change) state with ⟨chain | _, after⟩
      · left
        refine ⟨chain, ?_⟩
        simp only [transcript, result, createBucket, unlessDryRun, hdry, Bool.false_eq_true,
          if_false, ask, Client.ask_bind, Client.transcript, Client.run]
        rw [hcreate]
        exact ⟨rfl, rfl⟩
      · right
        refine ⟨after, ?_⟩
        simp only [transcript, result, createBucket, unlessDryRun, hdry, Bool.false_eq_true,
          if_false, ask, Client.ask_bind, Client.transcript, Client.run]
        rw [hcreate]
        exact ⟨rfl, rfl⟩

theorem tellsBucket_createBucket (args : UtilArgs) (tagging : Option (List Tag)) :
    TellsBucket args.dryRun bucket tagging
      ((createBucket args bucket tagging).transcript server state)
      ((createBucket args bucket tagging).run server state).1 := by
  rcases createBucket_cases server bucket state args tagging with
    ⟨hdry, htranscript, hresult⟩ | ⟨chain, htranscript, hresult⟩ | ⟨after, htranscript, hresult⟩
  · rw [htranscript, hresult, hdry]
    constructor <;> simp [Created]
  · rw [htranscript, hresult]
    constructor <;> simp [Created]
  · rw [htranscript, hresult]
    rcases tagCreated_cases server bucket after tagging with
      ⟨rfl, htags, hstatus⟩ | ⟨tags, rfl, ⟨htags, hstatus⟩ | ⟨refusal, answer, htags, hstatus⟩⟩
    · rw [htags, hstatus]
      constructor <;> simp [Created, Refused]
    · rw [htags, hstatus]
      constructor <;> simp [Created, Refused, Tagged]
    · rw [htags, hstatus]
      constructor <;> simp [Created, Refused]

end Runs

/-- Asking first whether the bucket is there tells nothing of a new one. -/
theorem TellsBucket.cons_head {dryRun : Bool} {bucket : Text} {tagging : Option (List Tag)}
    {transcript : Transcript Output} {result : Except Chain ExitStatus}
    (htells : TellsBucket dryRun bucket tagging transcript result)
    (answer : Except HeadError Output) :
    TellsBucket dryRun bucket tagging (⟨.readBucket .head bucket, answer⟩ :: transcript)
      result := by
  obtain ⟨hwarning, herror, hsuccess⟩ := htells
  constructor
  · simpa [Created, Refused] using hwarning
  · simpa [Created] using herror
  · intro hresult hdry
    rcases hsuccess hresult hdry with ⟨output, hfound⟩ | ⟨⟨space, location, hcreated⟩, htagged⟩
    · exact Or.inl ⟨output, List.mem_cons_of_mem _ hfound⟩
    · right
      exact ⟨⟨space, location, List.mem_cons_of_mem _ hcreated⟩,
        fun tags htags => List.mem_cons_of_mem _ (htagged tags htags)⟩

theorem tellsBucket_lookFirst (server : Server Request (Answer Output) State) (bucket : Text)
    (state : State) (args : UtilArgs) (tagging : Option (List Tag)) :
    TellsBucket args.dryRun bucket tagging
      ((lookFirst args bucket tagging).transcript server state)
      ((lookFirst args bucket tagging).run server state).1 := by
  rcases hhead : server (.readBucket .head bucket) state with ⟨(_ | _ | chain) | output, after⟩
  all_goals
    simp only [lookFirst, ask, Client.ask_bind, Client.transcript, Client.run, hhead]
  · exact (tellsBucket_createBucket server bucket after args tagging).cons_head _
  · exact (tellsBucket_createBucket server bucket after args tagging).cons_head _
  · constructor <;> simp [Created, Fallible.ofExcept]
  · refine ⟨?_, ?_, fun _ _ => Or.inl ⟨output, List.mem_cons_self⟩⟩ <;>
      simp [pure, Client.run, Fallible.ofExcept, Created, Client.transcript]

/-- Once its arguments are read, the exit status of `create-bucket` tells what became of
the bucket: warning exactly if it was created and its tags were refused, an error only if
it was not created, success only if it was there or was created with all that was asked
for. If they cannot be read, S3 is asked nothing. -/
theorem runCreateBucket_tellsBucket (codecs : Codecs Output Json)
    (server : Server Request (Answer Output) State) (args : UtilArgs) (state : State) :
    let transcript := (runCreateBucket codecs args).transcript server state
    let result := ((runCreateBucket codecs args).run server state).1
    (transcript = [] ∧ ∃ chain, result = .error chain) ∨
      ∃ bucket tagging, args.bucketName = .ok bucket ∧
        parseTagging codecs args.tagging = .ok tagging ∧
        TellsBucket args.dryRun bucket tagging transcript result := by
  intro transcript result
  cases hbucket : args.bucketName with
  | error message =>
      left
      simp only [transcript, result, runCreateBucket, hbucket]
      exact ⟨rfl, _, rfl⟩
  | ok bucket =>
      cases htagging : parseTagging codecs args.tagging with
      | error chain =>
          left
          simp only [transcript, result, runCreateBucket, hbucket, htagging]
          exact ⟨rfl, _, rfl⟩
      | ok tagging =>
          right
          refine ⟨bucket, tagging, rfl, rfl, ?_⟩
          have hrun : runCreateBucket codecs args =
              if args.ifNotExists then lookFirst args bucket tagging
              else createBucket args bucket tagging := by
            rw [runCreateBucket, hbucket, htagging]
            rfl
          simp only [transcript, result, hrun]
          split
          next => exact tellsBucket_lookFirst server bucket state args tagging
          next => exact tellsBucket_createBucket server bucket state args tagging

end S7cmd.UtilBin
