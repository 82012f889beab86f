import BoardQuery.Calendar.Numbering
import BoardQuery.Journal
import BoardQuery.Proofs.Changes
import BoardQuery.Proofs.DayCounts
import BoardQuery.Proofs.FreeText
import BoardQuery.Proofs.Keywords
import BoardQuery.Proofs.Layout
import BoardQuery.Proofs.Lookups
import BoardQuery.Proofs.Meanings
import BoardQuery.Proofs.Messages
import BoardQuery.Proofs.NextPeriod
import BoardQuery.Proofs.OneWord
import BoardQuery.Proofs.QuoteRuns
import BoardQuery.Proofs.Records
import BoardQuery.Proofs.Renaming
import BoardQuery.Proofs.SameWords
import BoardQuery.Proofs.Shadowing
import BoardQuery.Proofs.SkippedMidnight
import BoardQuery.Proofs.WellTyped
import BoardQuery.Proofs.WireForm
import BoardQuery.Proofs.Interleaving
import BoardQuery.Proofs.LabelKinds
import BoardQuery.Proofs.SameAnswers
import BoardQuery.Proofs.ReadBack
import BoardQuery.Proofs.Unworded
