import Provisioning.Calendar.Reading
import Provisioning.Client.Client
import Provisioning.CommandLine.Run
import Provisioning.Digest.Sha256
import Provisioning.Json.Envelope
import Provisioning.Json.Registry
import Provisioning.Loopback
import Provisioning.Main
import Provisioning.Markup.Element
import Provisioning.Markup.Entity
import Provisioning.Markup.Printer
import Provisioning.Markup.Tree
import Provisioning.Message.Check
import Provisioning.Message.Command
import Provisioning.Message.Compose
import Provisioning.Message.Create
import Provisioning.Message.Delete
import Provisioning.Message.Envelope
import Provisioning.Message.Extension.Overlay
import Provisioning.Message.Info
import Provisioning.Message.Renew
import Provisioning.Message.Tag
import Provisioning.Message.Transfer
import Provisioning.Message.Update
import Provisioning.Object.Address
import Provisioning.Object.Contact
import Provisioning.Object.Period
import Provisioning.Object.Postal
import Provisioning.Proofs.Client.Delays
import Provisioning.Proofs.Client.Reading
import Provisioning.Proofs.Client.Replies
import Provisioning.Proofs.Client.Requests
import Provisioning.Proofs.Markup.Lookup
import Provisioning.Proofs.Markup.PrintSize
import Provisioning.Proofs.Markup.ReadSize
import Provisioning.Proofs.Markup.RoundTrip
import Provisioning.Proofs.Markup.Texts
import Provisioning.Proofs.Markup.Variants
import Provisioning.Proofs.Message.EnvelopeDelivery
import Provisioning.Proofs.Message.ExtensionDelivery
import Provisioning.Proofs.Message.FirstKind
import Provisioning.Proofs.Message.ObjectDelivery
import Provisioning.Proofs.Message.Outline
import Provisioning.Proofs.Message.Prefixes
import Provisioning.Proofs.Message.QueryDelivery
import Provisioning.Proofs.Message.RequestSize
import Provisioning.Proofs.Message.ResultDelivery
import Provisioning.Proofs.Message.Rewriting
import Provisioning.Proofs.Message.SessionDelivery
import Provisioning.Proofs.Message.WrittenSize
import Provisioning.Proofs.Object.Builders
import Provisioning.Proofs.Object.Delivery
import Provisioning.Proofs.Related
import Provisioning.Proofs.Server.Admission
import Provisioning.Proofs.Server.Answers
import Provisioning.Proofs.Server.Authentication
import Provisioning.Proofs.Server.Automaton
import Provisioning.Proofs.Server.FailedLogins
import Provisioning.Proofs.Server.RemoteCheck
import Provisioning.Proofs.Server.ReplyLimit
import Provisioning.Proofs.Server.Secrecy
import Provisioning.Proofs.Server.Serving
import Provisioning.Proofs.Text.Case
import Provisioning.Proofs.Text.Size
import Provisioning.Proofs.Text.Utf8
import Provisioning.Proofs.Wire.Chunks
import Provisioning.Proofs.Wire.Encoding
import Provisioning.Proofs.Wire.Frames
import Provisioning.Proofs.Wire.RoundTrip
import Provisioning.Server.Config
import Provisioning.Server.Conversation
import Provisioning.Server.Seed
import Provisioning.Server.Service
import Provisioning.Text.Hex
import Provisioning.Text.Quoted
import Provisioning.Text.Upper
import Provisioning.Text.Utf8
import Provisioning.Wire.Decoder
import Provisioning.Yaml.Cursor
import Provisioning.Yaml.Node
import Provisioning.Yaml.Printer
import Provisioning.Yaml.Scalar
import Provisioning.Yaml.Value
import Provisioning.Proofs.Server.Transactions
import Provisioning.Proofs.Message.Purpose
import Provisioning.Proofs.Server.Dispatch
import Provisioning.Proofs.Server.Settings
import Provisioning.Proofs.Message.Typing
import Provisioning.Proofs.Message.Overlays
import Provisioning.Proofs.Message.CheckTargets
import Provisioning.Proofs.Message.Products
import Provisioning.Proofs.Text.Upper
import Provisioning.Proofs.Wire.Truncation
import Provisioning.Proofs.Wire.MissingBytes
import Provisioning.Proofs.Client.Lifecycle
import Provisioning.Proofs.Message.Numbers
import Provisioning.Proofs.Calendar.Days
import Provisioning.Proofs.Calendar.Timestamps
import Provisioning.Proofs.Client.Identifiers
