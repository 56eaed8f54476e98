import S7cmd.Foundation.Poller
import S7cmd.Foundation.Sequences
import S7cmd.Text

/-!
# The indicator of a sync

The task beside the sync pipeline counts objects besides bytes. A dry run transfers
nothing, so it takes no samples of its count and reports no rates.
-/

namespace S7cmd.SyncBin

open Foundation

/-- `s3sync::types::SyncStatistics` -/
inductive SyncStatistics where
  | syncBytes (size : Nat)
  | syncComplete (key : Text)
  | syncError (key : Text)
  | syncSkip (key : Text)
  | syncDelete (key : Text)
  | syncWarning (key : Text)
  | eTagVerified (key : Text)
  | checksumVerified (key : Text)
  deriving DecidableEq, Repr

/-- The objects this statistic counts as transferred. -/
def SyncStatistics.count : SyncStatistics → Nat
  | .syncComplete _ => 1
  | _ => 0

/-- The bytes this statistic counts as transferred. -/
def SyncStatistics.bytes : SyncStatistics → Nat
  | .syncBytes size => size
  | _ => 0

namespace Indicator

def movingAveragePeriodSecs : Nat := 10

/-- `REFRESH_INTERVAL`, in milliseconds. -/
def refreshInterval : Nat := 1000

structure Totals where
  syncCount : Nat := 0
  syncBytes : Nat := 0
  errorCount : Nat := 0
  skipCount : Nat := 0
  deleteCount : Nat := 0
  warningCount : Nat := 0
  eTagVerifiedCount : Nat := 0
  checksumVerifiedCount : Nat := 0
  deriving DecidableEq, Repr

def Totals.add (totals : Totals) : SyncStatistics → Totals
  | .syncComplete _ => { totals with syncCount := totals.syncCount + 1 }
  | .syncBytes size => { totals with syncBytes := totals.syncBytes + size }
  | .syncError _ => { totals with errorCount := totals.errorCount + 1 }
  | .syncSkip _ => { totals with skipCount := totals.skipCount + 1 }
  | .syncDelete _ => { totals with deleteCount := totals.deleteCount + 1 }
  | .syncWarning _ => { totals with warningCount := totals.warningCount + 1 }
  | .eTagVerified _ => { totals with eTagVerifiedCount := totals.eTagVerifiedCount + 1 }
  | .checksumVerified _ =>
      { totals with checksumVerifiedCount := totals.checksumVerifiedCount + 1 }

def tally (statistics : List SyncStatistics) : Totals := statistics.foldl Totals.add {}

/-- The locals of the task. -/
structure Account where
  totals : Totals := {}
  /-- the bytes and the objects of the current period -/
  syncBytes : Nat := 0
  syncCount : Nat := 0
  syncedBytes : MovingAverage movingAveragePeriodSecs := .empty
  syncedCount : MovingAverage movingAveragePeriodSecs := .empty

def Account.observe (account : Account) (statistics : SyncStatistics) : Account :=
  { account with
    totals := account.totals.add statistics
    syncBytes := account.syncBytes + statistics.bytes
    syncCount := account.syncCount + statistics.count }

def Account.refresh (dryRun : Bool) (account : Account) : Account :=
  { account with
    syncedBytes := account.syncedBytes.addSample account.syncBytes
    syncedCount :=
      if dryRun then account.syncedCount else account.syncedCount.addSample account.syncCount
    syncBytes := 0
    syncCount := 0 }

/-- The polling loop of `show_indicator`. -/
def body (dryRun : Bool) : PollerBody SyncStatistics Account where
  account := {}
  observe := Account.observe
  refresh := Account.refresh dryRun
  interval := refreshInterval

structure Options where
  showProgress : Bool
  showResult : Bool
  logSyncSummary : Bool
  dryRun : Bool

/-- The sync summary, without the times. -/
structure Summary where
  totals : Totals
  bytesPerSec : Nat
  objectsPerSec : Nat
  deriving DecidableEq, Repr

/-- The rates over the whole run, as measured; within the first second they are the
totals. -/
def summary (options : Options) (measured : Option (Nat × Nat)) (totals : Totals) : Summary where
  totals
  bytesPerSec := if options.dryRun then 0 else measured.elim totals.syncBytes Prod.fst
  objectsPerSec := if options.dryRun then 0 else measured.elim totals.syncCount Prod.snd

/-- What the task logs and what it shows on the progress line when the channel is
closed. -/
structure Report where
  logged : Option Summary
  shown : Option Summary
  deriving DecidableEq, Repr

def report (options : Options) (measured : Option (Nat × Nat)) (totals : Totals) : Report where
  logged := if options.logSyncSummary then some (summary options measured totals) else none
  shown := if options.showResult then some (summary options measured totals) else none

/-! ## What the samples hold -/

/-- The samples and the current period hold no more than the totals, and a dry run takes
no samples of its count. -/
structure Account.Bounded (dryRun : Bool) (account : Account) : Prop where
  bytes : account.syncedBytes.sum + account.syncBytes ≤ account.totals.syncBytes
  count : account.syncedCount.sum + account.syncCount ≤ account.totals.syncCount
  dry : dryRun = true → account.syncedCount.samples = []

theorem Account.Bounded.observe {dryRun : Bool} {account : Account}
    (hbounded : account.Bounded dryRun) (statistics : SyncStatistics) :
    (account.observe statistics).Bounded dryRun := by
  obtain ⟨hbytes, hcount, hdry⟩ := hbounded
  refine ⟨?_, ?_, hdry⟩
  · cases statistics <;>
      simp only [Account.observe, Totals.add, SyncStatistics.bytes] <;> omega
  · cases statistics <;>
      simp only [Account.observe, Totals.add, SyncStatistics.count] <;> omega

theorem Account.Bounded.refresh {dryRun : Bool} {account : Account}
    (hbounded : account.Bounded dryRun) : (account.refresh dryRun).Bounded dryRun := by
  obtain ⟨hbytes, hcount, hdry⟩ := hbounded
  have hsyncedBytes := account.syncedBytes.sum_addSample_le account.syncBytes
  have hsyncedCount := account.syncedCount.sum_addSample_le account.syncCount
  refine ⟨?_, ?_, ?_⟩
  · simp only [Account.refresh]
    omega
  · simp only [Account.refresh]
    split <;> omega
  · intro hdryRun
    simpa only [Account.refresh, hdryRun, if_true] using hdry hdryRun

/-- The pipeline and its indicator. -/
abbrev pipeline (dryRun : Bool) (messages : List SyncStatistics) :
    System (Poller.State SyncStatistics Account) Poller.Action :=
  Poller.system (body dryRun) messages

end Indicator

end S7cmd.SyncBin
