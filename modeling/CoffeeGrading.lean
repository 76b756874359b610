import CoffeeGrading.Amendment
import CoffeeGrading.Amendment.Records
import CoffeeGrading.Aspect
import CoffeeGrading.Aspect.Editing
import CoffeeGrading.Aspect.Record
import CoffeeGrading.Aspect.Template
import CoffeeGrading.Catalogue
import CoffeeGrading.CommandLine.Options
import CoffeeGrading.CommandLine.Response
import CoffeeGrading.Cupping
import CoffeeGrading.Cupping.Protocol
import CoffeeGrading.Cupping.Record
import CoffeeGrading.Defect
import CoffeeGrading.Defect.Count
import CoffeeGrading.Defect.Editing
import CoffeeGrading.Defect.Record
import CoffeeGrading.Defect.Template
import CoffeeGrading.DisplayOrder
import CoffeeGrading.Distinct
import CoffeeGrading.Document
import CoffeeGrading.Document.Fault
import CoffeeGrading.Document.Finite
import CoffeeGrading.Document.Json
import CoffeeGrading.Document.Primitive
import CoffeeGrading.Document.Reading
import CoffeeGrading.Identifier
import CoffeeGrading.Keyed
import CoffeeGrading.Limits
import CoffeeGrading.Main
import CoffeeGrading.MicroRegion
import CoffeeGrading.MicroRegion.Record
import CoffeeGrading.Number.Binary64
import CoffeeGrading.Number.Decimal
import CoffeeGrading.Number.Descending
import CoffeeGrading.Number.Numeral
import CoffeeGrading.Number.Places
import CoffeeGrading.Number.Rounding
import CoffeeGrading.OffFlavour
import CoffeeGrading.OffFlavour.Editing
import CoffeeGrading.OffFlavour.Observation
import CoffeeGrading.OffFlavour.Record
import CoffeeGrading.OffFlavour.Template
import CoffeeGrading.Proofs.Names
import CoffeeGrading.Proofs.Number.Arithmetic
import CoffeeGrading.Proofs.Number.Order
import CoffeeGrading.Proofs.Number.Rounding
import CoffeeGrading.Proofs.Registry.Chronicle
import CoffeeGrading.Proofs.Template.Parameters
import CoffeeGrading.Proofs.Registry.Effects
import CoffeeGrading.Proofs.Registry.Transitions
import CoffeeGrading.Registry
import CoffeeGrading.Scale
import CoffeeGrading.Scale.Loose
import CoffeeGrading.Scale.Record
import CoffeeGrading.Scale.Score
import CoffeeGrading.Scale.Template
import CoffeeGrading.ScreenSize
import CoffeeGrading.ScreenSize.Distribution
import CoffeeGrading.ScreenSize.Record
import CoffeeGrading.Settings
import CoffeeGrading.Settings.EnvFile
import CoffeeGrading.Sharing
import CoffeeGrading.Sorting.Gallop
import CoffeeGrading.Sorting.Merging
import CoffeeGrading.Sorting.Runs
import CoffeeGrading.Template
import CoffeeGrading.Template.Payload
import CoffeeGrading.Template.Validation
import CoffeeGrading.Template.Version
import CoffeeGrading.Text.Blank
import CoffeeGrading.Text.CaseTable
import CoffeeGrading.Text.DecimalDigit
import CoffeeGrading.Text.LineFeed
import CoffeeGrading.Text.Lowercase
import CoffeeGrading.Text.NameKey
import CoffeeGrading.Text.PrintableTable
import CoffeeGrading.Text.Quoted
import CoffeeGrading.Text.Range
import CoffeeGrading.Timestamp
import CoffeeGrading.Variant
import CoffeeGrading.Proofs.Scale.Sound
import CoffeeGrading.Proofs.Cupping.Sound
import CoffeeGrading.Proofs.Aspect.Sound
import CoffeeGrading.Proofs.ScreenSize.Sound
import CoffeeGrading.Proofs.Defect.Sound
import CoffeeGrading.Proofs.MicroRegion.Sound
import CoffeeGrading.Proofs.OffFlavour.Sound
import CoffeeGrading.Proofs.Template.Sound
import CoffeeGrading.Proofs.Template.Verdict
import CoffeeGrading.Proofs.Document.Yields
import CoffeeGrading.Proofs.Document.Steady
import CoffeeGrading.Proofs.Template.Finite
import CoffeeGrading.Proofs.Template.Attainable
import CoffeeGrading.Proofs.Document.Finite
import CoffeeGrading.Proofs.Template.Judgeable
import CoffeeGrading.Proofs.Registry.Validity
import CoffeeGrading.Proofs.Template.Steady
import CoffeeGrading.Proofs.Registry.Preflight
import CoffeeGrading.Proofs.Number.Digits
import CoffeeGrading.Proofs.Identifier
import CoffeeGrading.Proofs.Timestamp
import CoffeeGrading.Proofs.Document.LookUp
import CoffeeGrading.Proofs.Document.Written
import CoffeeGrading.Proofs.Document.Interleaved
import CoffeeGrading.Proofs.Document.Refusal
import CoffeeGrading.Proofs.Variant
import CoffeeGrading.Proofs.Template.Written
import CoffeeGrading.Proofs.Template.RoundTrip
import CoffeeGrading.Proofs.Template.Sharing
import CoffeeGrading.Proofs.EditSession
import CoffeeGrading.Proofs.DisplayOrder
import CoffeeGrading.Proofs.Catalogue
import CoffeeGrading.Proofs.Aspect.Editing
import CoffeeGrading.Proofs.Defect.Editing
import CoffeeGrading.Proofs.OffFlavour.Editing
import CoffeeGrading.Proofs.ScreenSize.Editing
import CoffeeGrading.Proofs.Template.Editing
import CoffeeGrading.Proofs.Template.Loosening
import CoffeeGrading.Proofs.Restructuring
import CoffeeGrading.Proofs.Document.Given
import CoffeeGrading.Proofs.OffFlavour.Governed
import CoffeeGrading.Proofs.Template.ZeroTolerance
import CoffeeGrading.Proofs.NotANumber
import CoffeeGrading.Proofs.DisplayOrder.Numbered
import CoffeeGrading.Proofs.OrderedEditing
import CoffeeGrading.Proofs.Template.Reordering
import CoffeeGrading.Proofs.Registry.Stored
import CoffeeGrading.Proofs.Registry.Restorable
import CoffeeGrading.Proofs.Registry.SampleSizes
import CoffeeGrading.Proofs.Aspect.Addressing
import CoffeeGrading.Proofs.Defect.Categories
import CoffeeGrading.Proofs.Aspect.Threshold
import CoffeeGrading.Proofs.Aspect.Identity
import CoffeeGrading.Proofs.Registry.Copies
import CoffeeGrading.Proofs.DisplayOrder.Sorted
import CoffeeGrading.Proofs.ScreenSize.Displayed
import CoffeeGrading.Proofs.OffFlavour.Passing
import CoffeeGrading.Proofs.OffFlavour.Relaxed
import CoffeeGrading.Proofs.Text.Respelled
import CoffeeGrading.Proofs.OffFlavour.Catalogued
import CoffeeGrading.Proofs.OffFlavour.Respelled
import CoffeeGrading.Proofs.Number.Monotone
import CoffeeGrading.Proofs.Number.Error
import CoffeeGrading.Proofs.Number.Places
import CoffeeGrading.Proofs.Number.Nonnegative
import CoffeeGrading.Proofs.Defect.Totals
import CoffeeGrading.Proofs.Defect.Consistency
import CoffeeGrading.Proofs.Defect.Scaling
import CoffeeGrading.Proofs.Defect.Charged
import CoffeeGrading.Proofs.Scale.Drift
import CoffeeGrading.Proofs.Scale.Enumerated
import CoffeeGrading.Proofs.Collected
import CoffeeGrading.Proofs.Number.Descending
import CoffeeGrading.Proofs.Scale.Wordings
import CoffeeGrading.Proofs.Scale.Labels
import CoffeeGrading.Proofs.Cupping.Relaxed
import CoffeeGrading.Proofs.Stepping
import CoffeeGrading.Proofs.ScreenSize.Loosened
import CoffeeGrading.Proofs.Unrepeated
import CoffeeGrading.Proofs.Sharing
import CoffeeGrading.Proofs.CommandLine
import CoffeeGrading.Proofs.DisplayOrder.Stable
import CoffeeGrading.Proofs.SortedViews
import CoffeeGrading.Proofs.Amendment
