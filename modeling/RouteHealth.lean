import RouteHealth.Address
import RouteHealth.Address.Text
import RouteHealth.Attribute
import RouteHealth.Attribute.Decode
import RouteHealth.Attribute.Encode
import RouteHealth.Blank
import RouteHealth.Bytes
import RouteHealth.Capability
import RouteHealth.CommandLine
import RouteHealth.CommandLine.Line
import RouteHealth.CommandLine.Options
import RouteHealth.Community
import RouteHealth.Community.Text
import RouteHealth.Decimal
import RouteHealth.Event
import RouteHealth.Family
import RouteHealth.Hex
import RouteHealth.Item
import RouteHealth.Json
import RouteHealth.Json.Read
import RouteHealth.Json.Write
import RouteHealth.Main
import RouteHealth.Message
import RouteHealth.NextHop
import RouteHealth.Nlri
import RouteHealth.Notification
import RouteHealth.Notification.Fault
import RouteHealth.Notification.Json
import RouteHealth.Open
import RouteHealth.Policy
import RouteHealth.Policy.Json
import RouteHealth.Reading
import RouteHealth.Reading.Sequence
import RouteHealth.Registry
import RouteHealth.RenderError
import RouteHealth.RouteSet
import RouteHealth.RouteSet.Lemmas
import RouteHealth.Update
import RouteHealth.Update.Batch
import RouteHealth.Update.Content
import RouteHealth.Proofs.Attribute
import RouteHealth.Proofs.Nlri
import RouteHealth.Proofs.Attribute.Value
import RouteHealth.Proofs.Update
import RouteHealth.Proofs.Update.Reading
import RouteHealth.Proofs.RouteSet
import RouteHealth.Proofs.Update.Size
import RouteHealth.Proofs.Batch
import RouteHealth.Proofs.Batch.Conservation
import RouteHealth.Proofs.Batch.Failure
import RouteHealth.Proofs.Capability
import RouteHealth.Proofs.Open
import RouteHealth.Proofs.Message
import RouteHealth.Proofs.Batch.Dependence
import RouteHealth.Proofs.Digits
import RouteHealth.Proofs.Address.Text
import RouteHealth.Proofs.Json.Scalar
import RouteHealth.Proofs.Json.Text
import RouteHealth.Proofs.Json.Record
import RouteHealth.Proofs.Policy.Json
import RouteHealth.Proofs.Item
import RouteHealth.Proofs.Capability.Grammar
import RouteHealth.Proofs.RouteSet.Halving
import RouteHealth.Proofs.Update.Count
import RouteHealth.Proofs.Batch.Coarsest
import RouteHealth.Proofs.CommandLine.Line
import RouteHealth.Proofs.CommandLine.Options
import RouteHealth.Proofs.CommandLine
import RouteHealth.Proofs.Capability.Offer
import RouteHealth.Proofs.Open.Received
import RouteHealth.Proofs.Attribute.Format
import RouteHealth.Proofs.RouteSet.Flags
import RouteHealth.Proofs.RouteSet.Streams
import RouteHealth.Proofs.Address.Spelling
import RouteHealth.Proofs.RouteSet.Document
import RouteHealth.Proofs.Community.Text
import RouteHealth.Proofs.Registry
import RouteHealth.Proofs.Open.Offers
import RouteHealth.Proofs.Reading.Sequence
import RouteHealth.Proofs.Batch.Trace
