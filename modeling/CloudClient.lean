import CloudClient.Api.Client
import CloudClient.Api.Endpoint
import CloudClient.Api.Script
import CloudClient.Fault
import CloudClient.Json.Error
import CloudClient.Json.Read
import CloudClient.Json.Write
import CloudClient.Number.Binary
import CloudClient.Number.FloatText
import CloudClient.Number.Numeral
import CloudClient.Number.Shortest
import CloudClient.Overview
import CloudClient.Proofs.ActionCalls
import CloudClient.Proofs.Buckets
import CloudClient.Proofs.Calls
import CloudClient.Proofs.Canonical
import CloudClient.Proofs.Credentials
import CloudClient.Proofs.Encoding
import CloudClient.Proofs.Ledger
import CloudClient.Proofs.Observer
import CloudClient.Proofs.Overview
import CloudClient.Proofs.Pages
import CloudClient.Proofs.Payloads
import CloudClient.Proofs.Rejection
import CloudClient.Proofs.Request
import CloudClient.Proofs.Run
import CloudClient.Proofs.Tagging
import CloudClient.Proofs.TrackerSet
import CloudClient.Proofs.Untracked
import CloudClient.Proofs.Validation
import CloudClient.Proofs.Wait
import CloudClient.Record.Decode
import CloudClient.Record.Kind
import CloudClient.Record.Property
import CloudClient.Record.Resource
import CloudClient.Record.Schema
import CloudClient.Service.Basic
import CloudClient.Service.Dispatch
import CloudClient.Service.Domains
import CloudClient.Service.Droplets
import CloudClient.Service.FloatingIps
import CloudClient.Service.Keys
import CloudClient.Service.Object
import CloudClient.Service.Operation
import CloudClient.Service.Spaces
import CloudClient.Service.Tags
import CloudClient.Service.Volumes
import CloudClient.Session
import CloudClient.Settings.Commands
import CloudClient.Settings.Dotenv
import CloudClient.Settings.Host
import CloudClient.Signature
import CloudClient.Text.Blank
import CloudClient.Text.Case
import CloudClient.Text.Digits
import CloudClient.Text.Printable
import CloudClient.Text.Surrogate
import CloudClient.Text.Utf8
import CloudClient.Timestamp
import CloudClient.Tracker
import CloudClient.Value.Basic
import CloudClient.Value.Coerce
import CloudClient.Value.Equality
import CloudClient.Value.Hash
import CloudClient.Value.Text
import CloudClient.Waiter
