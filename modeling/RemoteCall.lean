import RemoteCall.Batch
import RemoteCall.CommandLine.Run
import RemoteCall.Context.Registry
import RemoteCall.Failure.Waiting
import RemoteCall.Json.Printer
import RemoteCall.Json.Reader
import RemoteCall.Main
import RemoteCall.Proofs.Batch
import RemoteCall.Proofs.CommandLine.Outcome
import RemoteCall.Proofs.Context.Acceptance
import RemoteCall.Proofs.Context.Combining
import RemoteCall.Proofs.Context.Configured
import RemoteCall.Proofs.Context.Description
import RemoteCall.Proofs.Context.Entries
import RemoteCall.Proofs.Context.Equality
import RemoteCall.Proofs.Context.Fields
import RemoteCall.Proofs.Context.HeaderValues
import RemoteCall.Proofs.Context.Overrides
import RemoteCall.Proofs.Context.Registers
import RemoteCall.Proofs.Context.Timeouts
import RemoteCall.Proofs.Context.Transports
import RemoteCall.Proofs.Failure.Cancellation
import RemoteCall.Proofs.Failure.Runs
import RemoteCall.Proofs.Failure.Waiting
import RemoteCall.Proofs.HeaderMerging
import RemoteCall.Proofs.Policy
import RemoteCall.Settings.Shared
import RemoteCall.Tracing
