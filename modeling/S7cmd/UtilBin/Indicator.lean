import S7cmd.Foundation.Poller
import S7cmd.Foundation.Sequences
import S7cmd.Text

/-!
# The indicator of a transfer

`cp` and `mv` run an indicator task beside the transfer. It tallies the statistics the
transfer sends and, when the copy phase has closed their channel, logs and prints how
the transfer went. A failure reaches it only as a statistic like the others, sent just
before the channel is closed.
-/

namespace S7cmd.UtilBin

open Foundation

/-- `s3util_rs::types::SyncStatistics` -/
inductive SyncStatistics where
  | syncBytes (size : Nat)
  | syncComplete (key : Text)
  | syncError (key : Text)
  | syncWarning (key : Text)
  | eTagVerified (key : Text)
  | eTagMismatch (key : Text)
  | checksumVerified (key : Text)
  | checksumMismatch (key : Text)
  deriving DecidableEq, Repr

namespace Indicator

def movingAveragePeriodSecs : Nat := 10

/-- `REFRESH_INTERVAL`, in milliseconds. -/
def refreshInterval : Nat := 1000

structure Totals where
  syncBytes : Nat := 0
  errorCount : Nat := 0
  warningCount : Nat := 0
  eTagVerifiedCount : Nat := 0
  eTagMismatchCount : Nat := 0
  checksumVerifiedCount : Nat := 0
  checksumMismatchCount : Nat := 0
  deriving DecidableEq, Repr

def Totals.add (totals : Totals) : SyncStatistics → Totals
  | .syncComplete _ => totals
  | .syncBytes size => { totals with syncBytes := totals.syncBytes + size }
  | .syncError _ => { totals with errorCount := totals.errorCount + 1 }
  | .syncWarning _ => { totals with warningCount := totals.warningCount + 1 }
  | .eTagVerified _ => { totals with eTagVerifiedCount := totals.eTagVerifiedCount + 1 }
  -- a mismatch is a warning as well
  | .eTagMismatch _ =>
      { totals with
        eTagMismatchCount := totals.eTagMismatchCount + 1
        warningCount := totals.warningCount + 1 }
  | .checksumVerified _ =>
      { totals with checksumVerifiedCount := totals.checksumVerifiedCount + 1 }
  | .checksumMismatch _ =>
      { totals with
        checksumMismatchCount := totals.checksumMismatchCount + 1
        warningCount := totals.warningCount + 1 }

def tally (statistics : List SyncStatistics) : Totals := statistics.foldl Totals.add {}

/-- The locals of the task. -/
structure Account where
  totals : Totals := {}
  /-- the bytes of the current period -/
  syncBytes : Nat := 0
  syncedBytes : MovingAverage movingAveragePeriodSecs := .empty

def Account.observe (account : Account) (statistics : SyncStatistics) : Account :=
  { account with
    totals := account.totals.add statistics
    syncBytes := match statistics with
      | .syncBytes size => account.syncBytes + size
      | _ => account.syncBytes }

def Account.refresh (account : Account) : Account :=
  { account with
    syncedBytes := account.syncedBytes.addSample account.syncBytes
    syncBytes := 0 }

/-- The polling loop of `show_indicator`. -/
def body : PollerBody SyncStatistics Account where
  account := {}
  observe := Account.observe
  refresh := Account.refresh
  interval := refreshInterval

/-! ## The report -/

def verificationStatus (eTagVerified eTagMismatch checksumVerified checksumMismatch : Nat) :
    Text × Text :=
  let etag :=
    if eTagVerified > 0 then "ok"
    else if eTagMismatch > 0 then "failed"
    else "skipped"
  let checksum :=
    if checksumVerified > 0 then "ok"
    else if checksumMismatch > 0 then "failed"
    else "skipped"
  (etag.toList, checksum.toList)

structure Options where
  showProgress : Bool
  showResult : Bool
  logSyncSummary : Bool
  resolvedTarget : Text
  sourceKey : Text
  targetKey : Text

/-- The fields of the log entry `Transfer completed.`, without the times. -/
structure Completed where
  sourceKey : Text
  targetKey : Text
  transferredByte : Nat
  eTagVerified : Nat
  checksumVerified : Nat
  error : Nat
  warning : Nat
  deriving DecidableEq, Repr

/-- What the task logs and prints when the channel is closed. -/
structure Report where
  logged : Option Completed
  lines : List Text
  deriving DecidableEq, Repr

/-- The rate is measured, and the sizes are rendered, by the caller's means. -/
def report (options : Options) (humanBytes : Nat → Text) (bytesPerSec : Nat) (totals : Totals) :
    Report where
  logged :=
    if options.logSyncSummary && totals.errorCount = 0 then
      some
        { sourceKey := options.sourceKey
          targetKey := options.targetKey
          transferredByte := totals.syncBytes
          eTagVerified := totals.eTagVerifiedCount
          checksumVerified := totals.checksumVerifiedCount
          error := totals.errorCount
          warning := totals.warningCount }
    else none
  lines :=
    if options.showResult && totals.errorCount = 0 then
      let (etagStatus, checksumStatus) := verificationStatus totals.eTagVerifiedCount
        totals.eTagMismatchCount totals.checksumVerifiedCount totals.checksumMismatchCount
      ["-> ".toList ++ options.resolvedTarget,
        "Transferred: ".toList ++ humanBytes totals.syncBytes ++ " | ".toList ++
          humanBytes bytesPerSec ++ "/sec, etag verify: ".toList ++ etagStatus ++
          ", additional checksum verify: ".toList ++ checksumStatus]
    else []

/-- What the copy phase sends: the statistics of the transfer, and an error if the
transfer has failed. -/
def copyPhaseStatistics (transferred : List SyncStatistics) (failed : Bool) :
    List SyncStatistics :=
  transferred ++ if failed then [.syncError []] else []

/-- The transfer and the copy phase beside the indicator task. -/
abbrev copyPhase (transferred : List SyncStatistics) (failed : Bool) :
    System (Poller.State SyncStatistics Account) Poller.Action :=
  Poller.system body (copyPhaseStatistics transferred failed)

end Indicator

end S7cmd.UtilBin
