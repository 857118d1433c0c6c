import SmartAccount.Abi.Document
import SmartAccount.Account
import SmartAccount.BigEndian.Laws
import SmartAccount.Call
import SmartAccount.Chain.Reader
import SmartAccount.Cli.EnvironmentFile
import SmartAccount.Cli.Outcome
import SmartAccount.Cli.Telemetry
import SmartAccount.Context
import SmartAccount.Contract.Document
import SmartAccount.Factory
import SmartAccount.Main
import SmartAccount.Proofs.Watcher.Delivery
import SmartAccount.Signer.Sender
import SmartAccount.Text.Quoted
import SmartAccount.Transport.Http
import SmartAccount.Transport.Stack
import SmartAccount.Url.Endpoint
import SmartAccount.UserOperation.Json
import SmartAccount.Validation
import SmartAccount.Watcher.Rehearsal
import SmartAccount.Proofs.UserOperation.Unpacking
import SmartAccount.Proofs.UserOperation.Commitment
import SmartAccount.Proofs.Watcher.Course
import SmartAccount.Proofs.Watcher.Stretches
import SmartAccount.Proofs.Watcher.Chunking
import SmartAccount.Proofs.Watcher.Traffic
import SmartAccount.Proofs.Watcher.Fetching
import SmartAccount.Proofs.Watcher.Failing
import SmartAccount.Proofs.Watcher.Stopping
import SmartAccount.Proofs.Watcher.Enduring
import SmartAccount.Proofs.Abi.RoundTrip
import SmartAccount.Proofs.Contract.CallData
import SmartAccount.Proofs.Contract.EventLog
import SmartAccount.Proofs.UserOperation.EntryPointHash
import SmartAccount.Proofs.Json.Forms
import SmartAccount.Proofs.Cli.CallData
import SmartAccount.Proofs.Watcher.TopicFilter
import SmartAccount.Proofs.Contract.Requests
import SmartAccount.Proofs.Transport.Conservation
import SmartAccount.Proofs.Retry
import SmartAccount.Proofs.Watcher.Visits
import SmartAccount.Proofs.Transport.Attempts
import SmartAccount.Proofs.Cli.Printing
import SmartAccount.Proofs.Retry.Backoff
import SmartAccount.Proofs.Call.RoundTrip
import SmartAccount.Proofs.Json.Objects
import SmartAccount.Proofs.Validation
import SmartAccount.Proofs.Contract.Simulation
import SmartAccount.Proofs.Contract.InitCode
import SmartAccount.Proofs.UserOperation.GasCost
