import OpticTune.Act
import OpticTune.Adjust.Checked
import OpticTune.Adjust.Problem
import OpticTune.Adjust.Progress
import OpticTune.Adjust.Radius
import OpticTune.Adjust.Session
import OpticTune.Argument
import OpticTune.Calendar
import OpticTune.Decimal.Binary
import OpticTune.Decimal.Digits
import OpticTune.Decimal.Format
import OpticTune.Decimal.Nearest
import OpticTune.Decimal.Reading
import OpticTune.Keyed
import OpticTune.Linear.Inverse
import OpticTune.Linear.Nested
import OpticTune.Linear.NormalEquations
import OpticTune.Log.Level
import OpticTune.Log.Record
import OpticTune.Log.Registry
import OpticTune.Log.Text
import OpticTune.Optics.Adjustable
import OpticTune.Optics.Attribute
import OpticTune.Optics.Bench
import OpticTune.Optics.Steps
import OpticTune.Optics.System
import OpticTune.Optics.Tag
import OpticTune.Optics.Unicode
import OpticTune.Options
import OpticTune.Options.File
import OpticTune.Options.Reading
import OpticTune.Options.Settings
import OpticTune.Options.Value
import OpticTune.Place
import OpticTune.Proofs.Adjust.Bench
import OpticTune.Proofs.Adjust.Checked
import OpticTune.Proofs.Adjust.Decided
import OpticTune.Proofs.Adjust.Displacement
import OpticTune.Proofs.Adjust.Figures
import OpticTune.Proofs.Adjust.Footprint
import OpticTune.Proofs.Adjust.Lockstep
import OpticTune.Proofs.Adjust.Orientations
import OpticTune.Proofs.Adjust.Plan
import OpticTune.Proofs.Adjust.Problem
import OpticTune.Proofs.Adjust.Reachable
import OpticTune.Proofs.Adjust.Reordered
import OpticTune.Proofs.Adjust.Session
import OpticTune.Proofs.Adjust.Steps
import OpticTune.Proofs.Adjust.Ticks
import OpticTune.Proofs.Agrees
import OpticTune.Proofs.Checked
import OpticTune.Proofs.Keeps
import OpticTune.Proofs.Linear.DampedStep
import OpticTune.Proofs.Linear.Elimination
import OpticTune.Proofs.Linear.Exchange
import OpticTune.Proofs.Linear.Growth
import OpticTune.Proofs.Linear.Heavier
import OpticTune.Proofs.Linear.Inverse
import OpticTune.Proofs.Linear.LeastSquares
import OpticTune.Proofs.Linear.Minimiser
import OpticTune.Proofs.Linear.NonFinite
import OpticTune.Proofs.Linear.Passes
import OpticTune.Proofs.Linear.Pivot
import OpticTune.Proofs.Optics.Adjustable
import OpticTune.Proofs.Optics.Appraisal
import OpticTune.Proofs.Optics.Fixed
import OpticTune.Proofs.Optics.Grouping
import OpticTune.Proofs.Optics.Tag
import OpticTune.Proofs.Options.Clamped
import OpticTune.Proofs.Options.Reading
import OpticTune.Proofs.Returns
import OpticTune.Proofs.Scalar.Climbing
import OpticTune.Proofs.Scalar.Double
import OpticTune.Proofs.Scalar.Extended
import OpticTune.Proofs.Scalar.Packing
import OpticTune.Proofs.Scalar.Rational
import OpticTune.Proofs.Scalar.Rounding
import OpticTune.Proofs.Scalar.Sum
import OpticTune.Proofs.Scalar.Whole
import OpticTune.Proofs.Sizes
import OpticTune.Proofs.Solver.Agrees
import OpticTune.Proofs.Solver.Boosts
import OpticTune.Proofs.Solver.Caution
import OpticTune.Proofs.Solver.CentralDifference
import OpticTune.Proofs.Solver.Config
import OpticTune.Proofs.Solver.Course
import OpticTune.Proofs.Solver.Damping
import OpticTune.Proofs.Solver.Descent
import OpticTune.Proofs.Solver.Discipline
import OpticTune.Proofs.Solver.FiniteDifference
import OpticTune.Proofs.Solver.Fit
import OpticTune.Proofs.Solver.Iteration
import OpticTune.Proofs.Solver.Keeps
import OpticTune.Proofs.Solver.KeptSteps
import OpticTune.Proofs.Solver.Landscape
import OpticTune.Proofs.Solver.LastEvaluated
import OpticTune.Proofs.Solver.LineSearch
import OpticTune.Proofs.Solver.LinearFit
import OpticTune.Proofs.Solver.NonFinite
import OpticTune.Proofs.Solver.Recorded
import OpticTune.Proofs.Solver.Reordered
import OpticTune.Proofs.Solver.Sound
import OpticTune.Proofs.Solver.Steady
import OpticTune.Proofs.Solver.Trial
import OpticTune.Proofs.Solver.Underflow
import OpticTune.Proofs.Solver.Uses
import OpticTune.Proofs.Solver.Watched
import OpticTune.Proofs.Steer.Alike
import OpticTune.Proofs.Steer.Approach
import OpticTune.Proofs.Steer.Descent
import OpticTune.Proofs.Steer.Independent
import OpticTune.Proofs.Steer.Landscape
import OpticTune.Proofs.Steer.Law
import OpticTune.Proofs.Steer.Misfits
import OpticTune.Proofs.Steer.Problem
import OpticTune.Proofs.Steer.Remembered
import OpticTune.Proofs.Steer.Steers
import OpticTune.Proofs.Steer.Stops
import OpticTune.Proofs.Steer.Turn
import OpticTune.Proofs.Stops
import OpticTune.Proofs.Text.Case
import OpticTune.Sample.Document.Cursor
import OpticTune.Sample.Document.Node
import OpticTune.Sample.Document.Parse
import OpticTune.Sample.Document.ParseError
import OpticTune.Sample.Document.Plain
import OpticTune.Sample.Document.Source
import OpticTune.Sample.Document.Staged
import OpticTune.Sample.Document.Timestamp
import OpticTune.Sample.Document.Token
import OpticTune.Sample.Formula
import OpticTune.Sample.Halting
import OpticTune.Sample.Lenses
import OpticTune.Sample.Points
import OpticTune.Sample.Script
import OpticTune.Scalar
import OpticTune.Scalar.Double
import OpticTune.Scalar.Extended
import OpticTune.Scalar.Flushed
import OpticTune.Scalar.Rational
import OpticTune.Setup
import OpticTune.Solver.Config
import OpticTune.Solver.FiniteDifference
import OpticTune.Solver.Fit
import OpticTune.Solver.Host
import OpticTune.Solver.Iteration
import OpticTune.Solver.Landscape
import OpticTune.Solver.Settings
import OpticTune.Solver.Status
import OpticTune.Solver.Trial
import OpticTune.Steer.Pass
import OpticTune.Steer.Problem
import OpticTune.Table
import OpticTune.Table.Nested
import OpticTune.Text.Blank
import OpticTune.Text.Case
import OpticTune.Text.CharRange
import OpticTune.Text.CodePoint
import OpticTune.Text.Digit
import OpticTune.Text.Letter
import OpticTune.Text.Printable
import OpticTune.Text.Quoted
import OpticTune.Version
import OpticTune.Word
