import SeriesQuery.Main
import SeriesQuery.Table.Traffic
import SeriesQuery.Command.Folder
import SeriesQuery.Proofs.Series.Cursor
import SeriesQuery.Proofs.Series.Merge
import SeriesQuery.Proofs.Store.Matching
import SeriesQuery.Proofs.Store.History
import SeriesQuery.Proofs.Store.Window
import SeriesQuery.Proofs.Store.Writes
import SeriesQuery.Proofs.Table.Consistency
import SeriesQuery.Proofs.Table.Reachable
import SeriesQuery.Proofs.Table.LoadOnce
import SeriesQuery.Proofs.Engine.Answer
import SeriesQuery.Proofs.Table.Verdict
import SeriesQuery.Proofs.Engine.Recorded
import SeriesQuery.Proofs.Engine.AnyTable
import SeriesQuery.Proofs.Engine.Busyness
import SeriesQuery.Proofs.Engine.Totals
import SeriesQuery.Proofs.Query.Grammar
import SeriesQuery.Proofs.Query.Accepted
import SeriesQuery.Proofs.Query.Window
import SeriesQuery.Proofs.Batch.Item
import SeriesQuery.Proofs.Batch.Order
import SeriesQuery.Proofs.Batch.Finish
import SeriesQuery.Proofs.Batch.Isolation
import SeriesQuery.Proofs.Engine.DerivedWindow
import SeriesQuery.Proofs.Query.Parameters
import SeriesQuery.Proofs.Text.Utf8
import SeriesQuery.Proofs.Text.Split
import SeriesQuery.Proofs.Text.Percent
import SeriesQuery.Proofs.Text.Form
import SeriesQuery.Proofs.Query.Written
import SeriesQuery.Proofs.Store.Contents
import SeriesQuery.Proofs.Store.ScanOrder
import SeriesQuery.Proofs.Json.Texts
import SeriesQuery.Proofs.Http.SingleUri
import SeriesQuery.Proofs.Json.Printed
import SeriesQuery.Proofs.Batch.Decoding
import SeriesQuery.Proofs.Batch.Wire
import SeriesQuery.Proofs.Series.Ratio
import SeriesQuery.Proofs.Http.Refused
import SeriesQuery.Proofs.Table.Accounts
import SeriesQuery.Proofs.Table.Released
import SeriesQuery.Proofs.Engine.Published
import SeriesQuery.Proofs.Batch.Executions
import SeriesQuery.Proofs.Batch.Sessions
import SeriesQuery.Proofs.Store.Dump
import SeriesQuery.Proofs.Store.Reload
import SeriesQuery.Proofs.Engine.Points
import SeriesQuery.Proofs.Batch.Bounds
import SeriesQuery.Proofs.Http.Bounds
import SeriesQuery.Proofs.Series.Combined
import SeriesQuery.Proofs.Text.Dotted
import SeriesQuery.Proofs.Query.Subject
import SeriesQuery.Proofs.Query.Distinct
import SeriesQuery.Proofs.Http.Endpoint
import SeriesQuery.Proofs.Command.Checked
import SeriesQuery.Proofs.Series.Plain
import SeriesQuery.Proofs.Store.Buckets
import SeriesQuery.Proofs.Store.DrillDown
import SeriesQuery.Proofs.Engine.DrillDown
import SeriesQuery.Proofs.Settings.Fields
import SeriesQuery.Proofs.Settings.Loaded
import SeriesQuery.Proofs.Series.Place
import SeriesQuery.Proofs.Text.Order
