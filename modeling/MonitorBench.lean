import MonitorBench.Main
import MonitorBench.Proofs.Batch.Resume
import MonitorBench.Proofs.Batch.Interruption
import MonitorBench.Proofs.Batch.History
import MonitorBench.Proofs.Tool.Directory
import MonitorBench.Proofs.Extraction.Spelling
import MonitorBench.Proofs.Batch.Rows
import MonitorBench.Proofs.Workflow.Pipeline
import MonitorBench.Proofs.Extraction.HeaderReach
import MonitorBench.Proofs.Extraction.Sections
import MonitorBench.Proofs.Statistics.Torn
import MonitorBench.Proofs.Batch.Independence
import MonitorBench.Proofs.Batch.Accounting
import MonitorBench.Proofs.CommandLine.Answers
import MonitorBench.Proofs.Settings.CurrentPath
import MonitorBench.Proofs.Settings.RoundTrip
import MonitorBench.Proofs.Formula.Scan
import MonitorBench.Proofs.Formula.Settled
import MonitorBench.Proofs.Settings.Placeholder
import MonitorBench.Proofs.Statistics.Recovery
import MonitorBench.Proofs.Workflow.RecordFile
import MonitorBench.Proofs.Record.Grammar
import MonitorBench.Proofs.Workflow.HeldBack
import MonitorBench.Proofs.Tool.Rendering
import MonitorBench.Proofs.Batch.Reports
import MonitorBench.Proofs.Settings.Search
