import LogRelay.Main
import LogRelay.Delivery.Loopback
import LogRelay.Delivery.Scripted
import LogRelay.Proofs.Delivery.Conversation
import LogRelay.Proofs.Delivery.Agreement
import LogRelay.Proofs.Wire.Refusal
import LogRelay.Proofs.Wire.HeadForms
import LogRelay.Proofs.Wire.Delimited
import LogRelay.Proofs.Wire.WithinBytes
import LogRelay.Proofs.Delivery.Logbook
import LogRelay.Proofs.Delivery.Accounting
import LogRelay.Proofs.Delivery.Fanout
import LogRelay.Proofs.Delivery.Attempts
import LogRelay.Proofs.Delivery.FailureClasses
import LogRelay.Proofs.Delivery.Custody
import LogRelay.Proofs.Collector.GoodPrefix
import LogRelay.Proofs.AccessLog.StampCache
import LogRelay.Proofs.AccessLog.StampText
import LogRelay.Proofs.AccessLog.LineText
import LogRelay.Proofs.AccessLog.Spelling
import LogRelay.Proofs.AccessLog.StampLead
import LogRelay.Proofs.Phase
import LogRelay.Proofs.Command.Precedence
import LogRelay.Proofs.Command.OrderedLine
import LogRelay.Proofs.Delivery.Unsent
import LogRelay.Proofs.Delivery.Neighbours
import LogRelay.Proofs.Config.Overlay
import LogRelay.Proofs.Config.Variables
import LogRelay.Proofs.Config.Fields
import LogRelay.Proofs.Config.FieldByField
import LogRelay.Proofs.Config.WrittenSettings
import LogRelay.Proofs.Command.SentEvent
import LogRelay.Proofs.AccessLog.BrokenTails
import LogRelay.Proofs.AccessLog.FieldText
import LogRelay.Proofs.AccessLog.NamedFields
