import ShareStreaks.Main
import ShareStreaks.Proofs.Binary64.Rounding
import ShareStreaks.Proofs.Selection.Shadowing
import ShareStreaks.Proofs.Decimal.Rounding
import ShareStreaks.Proofs.Decimal.Digits
import ShareStreaks.Proofs.Decimal.ReadBack
import ShareStreaks.Proofs.Disk.Path
import ShareStreaks.Proofs.Threshold.FileName
import ShareStreaks.Proofs.Disk.FileTree
import ShareStreaks.Proofs.Output.Files
import ShareStreaks.Proofs.Decimal.Shortest
import ShareStreaks.Proofs.Selection.Redundant
import ShareStreaks.Proofs.Decimal.Layout
import ShareStreaks.Proofs.Threshold.ReadBack
import ShareStreaks.Proofs.Calendar.Year
import ShareStreaks.Proofs.Binary64.Whole
import ShareStreaks.Proofs.TermTable
import ShareStreaks.Proofs.Tables.Selected
import ShareStreaks.Proofs.Tables.Row
import ShareStreaks.Proofs.Tables.Loading
import ShareStreaks.Proofs.Json.Reader
import ShareStreaks.Proofs.Text.Utf8Order
import ShareStreaks.Proofs.Json.Written
import ShareStreaks.Proofs.Output.Dump
import ShareStreaks.Proofs.Streak.Order
import ShareStreaks.Proofs.Selection.Continued
import ShareStreaks.Proofs.Output.Summary
import ShareStreaks.Proofs.Disk.Directories
import ShareStreaks.Proofs.Output.Filing
import ShareStreaks.Proofs.Calendar.Cutoff
import ShareStreaks.Proofs.Tables.Cutoff
import ShareStreaks.Proofs.Selection.Independence
import ShareStreaks.Proofs.Selection.Counts
import ShareStreaks.Proofs.TermTable.Steps
import ShareStreaks.Proofs.Run.Stages
import ShareStreaks.Proofs.Binary64.TotalOrder
import ShareStreaks.Proofs.Streak.Listing
import ShareStreaks.Proofs.Threshold.Covering
import ShareStreaks.Proofs.Calendar.Day
import ShareStreaks.Proofs.Calendar.Written
import ShareStreaks.Proofs.Calendar.Description
import ShareStreaks.Proofs.Decimal.Nearest
import ShareStreaks.Proofs.Decimal.Literal
import ShareStreaks.Proofs.Threshold.Grammar
import ShareStreaks.Proofs.Selection.LookUp
import ShareStreaks.Proofs.Decimal.Percent
import ShareStreaks.Proofs.Output.Results
import ShareStreaks.Proofs.CommandLine.Arguments
import ShareStreaks.Proofs.Decimal.Grouped
