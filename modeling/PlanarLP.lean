import PlanarLP.Binary64
import PlanarLP.Problem
import PlanarLP.Candidate
import PlanarLP.Coefficients
import PlanarLP.CommandLine.Arguments
import PlanarLP.CommandLine.Files
import PlanarLP.CommandLine.Item
import PlanarLP.CommandLine.Run
import PlanarLP.Decimal.Numeral
import PlanarLP.Decimal.Shortest
import PlanarLP.Decimal.Reader
import PlanarLP.Forms
import PlanarLP.Journal
import PlanarLP.Json.Token
import PlanarLP.Json.Number
import PlanarLP.Json.Printer
import PlanarLP.Json.Reader
import PlanarLP.Json.Record
import PlanarLP.Plot
import PlanarLP.Line
import PlanarLP.Main
import PlanarLP.Optimum
import PlanarLP.Report.Amount
import PlanarLP.Report.Text
import PlanarLP.Scalar
import PlanarLP.Screening
import PlanarLP.Solution
import PlanarLP.Text.Hidden
import PlanarLP.Proofs.DoubleOrder
import PlanarLP.Proofs.Validation
import PlanarLP.Proofs.ReportedVertices
import PlanarLP.Proofs.Exact
import PlanarLP.Proofs.Corner
import PlanarLP.Proofs.Enumeration
import PlanarLP.Proofs.Selection
import PlanarLP.Proofs.Merging
import PlanarLP.Proofs.Region
import PlanarLP.Proofs.AxisLimits
import PlanarLP.Proofs.Verdict
import PlanarLP.Proofs.Optimality
import PlanarLP.Proofs.MixedDirections
import PlanarLP.Proofs.StandardForm
import PlanarLP.Proofs.DoubleValue
import PlanarLP.Proofs.Consistency
import PlanarLP.Proofs.DoubleRounding
import PlanarLP.Proofs.DoublePacking
import PlanarLP.Proofs.DoubleArithmetic
import PlanarLP.Proofs.FiniteLevels
import PlanarLP.Proofs.FiniteSolution
import PlanarLP.Proofs.FinitePlot
import PlanarLP.Proofs.NumeralText
import PlanarLP.Proofs.ShortestDigits
import PlanarLP.Proofs.WrittenNumbers
import PlanarLP.Proofs.StringText
import PlanarLP.Proofs.TokenText
import PlanarLP.Proofs.DocumentText
import PlanarLP.Proofs.CarriedNumbers
import PlanarLP.Proofs.CarriedForms
import PlanarLP.Proofs.RoundTrip
import PlanarLP.Proofs.ReportedProblem
import PlanarLP.Proofs.GivenItems
import PlanarLP.Proofs.RunOutcome
import PlanarLP.Proofs.SharedOptions
import PlanarLP.Proofs.SameRun
import PlanarLP.Proofs.Candidate
import PlanarLP.Proofs.Provenance
import PlanarLP.Proofs.DoubleEquality
import PlanarLP.Proofs.DoubleNegation
import PlanarLP.Proofs.PointEquality
import PlanarLP.Proofs.LineSymmetry
import PlanarLP.Proofs.RelatedRuns
import PlanarLP.Proofs.CarriedVertices
import PlanarLP.Proofs.ConstraintOrder
import PlanarLP.Proofs.AxisSymmetry
import PlanarLP.Proofs.Duality
import PlanarLP.Proofs.DoubleParts
import PlanarLP.Proofs.Hundredths
import PlanarLP.Proofs.Tolerance
import PlanarLP.Proofs.AmountText
import PlanarLP.Proofs.Units
import PlanarLP.Proofs.ReportedPoints
import PlanarLP.Proofs.CheckedPlot
import PlanarLP.Proofs.ColumnExtent
import PlanarLP.Proofs.Representatives
import PlanarLP.Proofs.AxisVertices
import PlanarLP.Proofs.CrossingOrder
import PlanarLP.Proofs.EvenSteps
import PlanarLP.Proofs.PlotLines
import PlanarLP.Proofs.ClippedIsolines
import PlanarLP.Proofs.LevelCeiling
import PlanarLP.Proofs.AmountForm
import PlanarLP.Proofs.FirstFault
import PlanarLP.Proofs.SingleCalls
import PlanarLP.Proofs.RecordedSolve
import PlanarLP.Proofs.SolveJournal
import PlanarLP.Proofs.CommonPoint
import PlanarLP.Proofs.TightestLimit
import PlanarLP.Proofs.CoefficientText
import PlanarLP.Proofs.FileLayout
import PlanarLP.Proofs.LevelSequence
import PlanarLP.Proofs.OriginLabels
