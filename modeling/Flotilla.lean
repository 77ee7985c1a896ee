import Flotilla.Text.Basic
import Flotilla.Text.Quoted
import Flotilla.Decimal.Shortest
import Flotilla.Json.Number
import Flotilla.Json.Quote
import Flotilla.Json.Node
import Flotilla.Json.Printer
import Flotilla.Record.Variant
import Flotilla.Store.Basic
import Flotilla.Store.Update
import Flotilla.Store.Join
import Flotilla.Store.Audit
import Flotilla.Battle.Summary
import Flotilla.Battle.Export
import Flotilla.Battle.Archive
import Flotilla.Server.Web
import Flotilla.Main
import Flotilla.Proofs.Json.Lexemes
import Flotilla.Proofs.Json.RoundTrip
import Flotilla.Proofs.Record.Reading
import Flotilla.Proofs.Record.Codec
import Flotilla.Proofs.Battle.Saturating
import Flotilla.Proofs.Battle.Feed
import Flotilla.Proofs.Battle.Losses
import Flotilla.Proofs.Battle.Summary
import Flotilla.Proofs.Battle.HitPoints
import Flotilla.Proofs.Battle.TargetOrder
import Flotilla.Proofs.Battle.Targets
import Flotilla.Proofs.Battle.Grouping
import Flotilla.Proofs.Battle.Accounts
import Flotilla.Proofs.Battle.Archive
import Flotilla.Proofs.Battle.Recency
import Flotilla.Proofs.Battle.Conservation
import Flotilla.Proofs.Store.Order
import Flotilla.Proofs.Store.RoundTrip
import Flotilla.Proofs.Store.Update
import Flotilla.Proofs.Files
import Flotilla.Proofs.Server.Durability
import Flotilla.Proofs.Json.Members
import Flotilla.Proofs.Record.Merge
import Flotilla.Proofs.Store.Lookup
import Flotilla.Proofs.Store.Patch
import Flotilla.Proofs.Store.AirBases
import Flotilla.Proofs.Store.Cells
import Flotilla.Proofs.Store.Independence
import Flotilla.Proofs.Store.Redelivery
import Flotilla.Proofs.Store.Keys
import Flotilla.Proofs.Store.Parts
import Flotilla.Proofs.Store.Join
import Flotilla.Proofs.Store.Audit
import Flotilla.Proofs.Battle.Planes
import Flotilla.Proofs.Battle.Replacement
import Flotilla.Proofs.Battle.Receipt
import Flotilla.Proofs.Battle.Dependence
import Flotilla.Proofs.Server.Frame
import Flotilla.Proofs.Server.Interleaving
import Flotilla.Proofs.Server.Gate
import Flotilla.Proofs.Battle.Beyond
import Flotilla.Proofs.Server.Target
import Flotilla.Proofs.Server.ReadBack
import Flotilla.Proofs.Battle.Bounds
import Flotilla.Proofs.Battle.Attrition
import Flotilla.Proofs.Battle.Rearrangement
import Flotilla.Proofs.Battle.Strikes
import Flotilla.Proofs.Battle.Support
import Flotilla.Proofs.Battle.SupportRows
import Flotilla.Proofs.Battle.Matching
import Flotilla.Proofs.Battle.Flown
import Flotilla.Proofs.Battle.Launch
import Flotilla.Proofs.Battle.ExportText
import Flotilla.Proofs.Store.Overlay
import Flotilla.Proofs.Store.Accounting
import Flotilla.Proofs.Store.Retention
import Flotilla.Proofs.Store.Formation
import Flotilla.Proofs.Store.Defects
import Flotilla.Proofs.Record.Fields
import Flotilla.Proofs.Battle.Positions
import Flotilla.Proofs.Battle.Codes
import Flotilla.Proofs.Store.Fitting
import Flotilla.Proofs.Battle.Intake
import Flotilla.Proofs.Text.Decimal
import Flotilla.Proofs.Text.Pieces
import Flotilla.Proofs.Server.IdsQuery
