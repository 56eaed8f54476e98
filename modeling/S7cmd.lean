import S7cmd.BatchRun.Accounting
import S7cmd.BatchRun.Books
import S7cmd.BatchRun.CommandField
import S7cmd.BatchRun.EventLog
import S7cmd.BatchRun.ExitStatus
import S7cmd.BatchRun.Line
import S7cmd.BatchRun.LineReader
import S7cmd.BatchRun.LineReading
import S7cmd.BatchRun.Machine
import S7cmd.BatchRun.Outcome
import S7cmd.BatchRun.Parallel
import S7cmd.BatchRun.ParallelStreaming
import S7cmd.BatchRun.Pool
import S7cmd.BatchRun.Preparation
import S7cmd.BatchRun.ReaderAgreement
import S7cmd.BatchRun.Readers
import S7cmd.BatchRun.Redact
import S7cmd.BatchRun.RedactFallback
import S7cmd.BatchRun.RedactFrame
import S7cmd.BatchRun.Run
import S7cmd.BatchRun.RunLog
import S7cmd.BatchRun.Sequential
import S7cmd.BatchRun.SequentialAgreement
import S7cmd.BatchRun.SequentialSpecification
import S7cmd.BatchRun.SequentialStreaming
import S7cmd.BatchRun.Severity
import S7cmd.BatchRun.Signals
import S7cmd.BatchRun.StopPoint
import S7cmd.BatchRun.StreamingExit
import S7cmd.BatchRun.StreamingRun
import S7cmd.BatchRun.SummaryLine
import S7cmd.BatchRun.Termination
import S7cmd.BatchRun.Threshold
import S7cmd.BatchRun.Tokenizing
import S7cmd.BatchRun.Validate
import S7cmd.BatchRun.ValidatedChecks
import S7cmd.BatchRun.ValidatedStdin
import S7cmd.CleanBin.Run
import S7cmd.CliCommand
import S7cmd.Cmd
import S7cmd.CtrlC.Endings
import S7cmd.CtrlC.Interrupted
import S7cmd.CtrlC.Process
import S7cmd.Dispatch
import S7cmd.DispatchedDryRun
import S7cmd.Foundation.Channel
import S7cmd.Foundation.ChunkedInput
import S7cmd.Foundation.Client
import S7cmd.Foundation.ForkJoin
import S7cmd.Foundation.Frame
import S7cmd.Foundation.Interleaving
import S7cmd.Foundation.Keyed
import S7cmd.Foundation.Latch
import S7cmd.Foundation.Ledger
import S7cmd.Foundation.PointUpdate
import S7cmd.Foundation.Poller
import S7cmd.Foundation.Sequences
import S7cmd.Foundation.ShellWords
import S7cmd.Foundation.Stores
import S7cmd.Foundation.Template
import S7cmd.Foundation.Transducer
import S7cmd.Foundation.Transition
import S7cmd.ProcessStatus
import S7cmd.SyncBin.Indicator
import S7cmd.Text
import S7cmd.UtilBin.AnnotationDownload
import S7cmd.UtilBin.Cp
import S7cmd.UtilBin.CreateBucket
import S7cmd.UtilBin.DryRun
import S7cmd.UtilBin.GetObjectAnnotation
import S7cmd.UtilBin.Guards
import S7cmd.UtilBin.Indicator
import S7cmd.UtilBin.Keys
import S7cmd.UtilBin.Mv
import S7cmd.UtilBin.MvSafety
import S7cmd.UtilBin.Operands
import S7cmd.UtilBin.PutConfiguration
import S7cmd.UtilBin.Request
import S7cmd.UtilBin.Subcommands
import S7cmd.UtilBin.Tagging
