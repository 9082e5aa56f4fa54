import PowerTelemetry.Control.Window
import PowerTelemetry.Fleet
import PowerTelemetry.Main
import PowerTelemetry.Pipeline
import PowerTelemetry.Poller
import PowerTelemetry.Reporter
import PowerTelemetry.Proofs.Store.Growth
import PowerTelemetry.Proofs.Store.Row
import PowerTelemetry.Proofs.Writer.Knowledge
import PowerTelemetry.Proofs.Writer.Storing
import PowerTelemetry.Proofs.Worker.Turn
import PowerTelemetry.Proofs.Pipeline.Conservation
import PowerTelemetry.Proofs.Writer.Answers
import PowerTelemetry.Proofs.Fleet.Soundness
import PowerTelemetry.Proofs.Frame.Recovery
import PowerTelemetry.Proofs.Frame.Partition
import PowerTelemetry.Proofs.Wire.Reading
import PowerTelemetry.Proofs.Frame.Envelope
import PowerTelemetry.Proofs.Wire.Writing
import PowerTelemetry.Proofs.Ingest.Binary
import PowerTelemetry.Proofs.Binary64.Whole
import PowerTelemetry.Control.Log
import PowerTelemetry.Proofs.Control.Request
import PowerTelemetry.Proofs.Settings.Rules
import PowerTelemetry.Proofs.Control.Setpoint
import PowerTelemetry.Proofs.Store.Columns
import PowerTelemetry.Proofs.Store.Scenes
import PowerTelemetry.Visit
import PowerTelemetry.Proofs.Writer.Delivery
import PowerTelemetry.Proofs.Writer.Forgetting
import PowerTelemetry.Proofs.Writer.Effect
import PowerTelemetry.Proofs.Column.Kinds
import PowerTelemetry.Proofs.Writer.Recovery
import PowerTelemetry.Proofs.Frame.RoundTrip
import PowerTelemetry.Proofs.Search.Pieces
import PowerTelemetry.Proofs.Topic.RoundTrip
import PowerTelemetry.Proofs.Store.Handles
import PowerTelemetry.Proofs.Writer.Handles
import PowerTelemetry.Proofs.Column.Fields
import PowerTelemetry.Proofs.Writer.Steady
import PowerTelemetry.Proofs.Frame.Storage
import PowerTelemetry.Proofs.Ingest.Recognition
import PowerTelemetry.Proofs.Wire.Pieces
import PowerTelemetry.Proofs.Frame.Extension
import PowerTelemetry.Proofs.Sql.Requests
import PowerTelemetry.Proofs.Store.Credentials
import PowerTelemetry.Proofs.Upkeep.Exact
import PowerTelemetry.Proofs.Store.Typed
import PowerTelemetry.Proofs.Writer.Fresh
import PowerTelemetry.Proofs.Column.Spellings
import PowerTelemetry.Proofs.Column.Reserved
import PowerTelemetry.Proofs.Ingest.Attributes
import PowerTelemetry.Proofs.Binary64.Integral
import PowerTelemetry.Proofs.Column.Numbers
import PowerTelemetry.Proofs.Control.Diagnostics
import PowerTelemetry.Proofs.Control.Demand
import PowerTelemetry.Proofs.Column.NumberForms
import PowerTelemetry.Proofs.Settings.Placeholders
import PowerTelemetry.Proofs.Control.Range
import PowerTelemetry.Proofs.Settings.Secrets
import PowerTelemetry.Proofs.Cloud.Parameters
import PowerTelemetry.Proofs.Cloud.SignedText
import PowerTelemetry.Proofs.Sql.Insertions
import PowerTelemetry.Proofs.Destination.Tables
import PowerTelemetry.Poller.Log
import PowerTelemetry.Store.Exchange
import PowerTelemetry.Proofs.Poller.Rounds
import PowerTelemetry.Proofs.Store.Failures
import PowerTelemetry.Proofs.Writer.Replacements
import PowerTelemetry.Proofs.Writer.Quotations
import PowerTelemetry.Proofs.Broker.Subscriptions
