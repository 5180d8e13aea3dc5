import BatchBayes.Acquisition.Evolution
import BatchBayes.Acquisition.Score
import BatchBayes.Acquisition.Search
import BatchBayes.Batch.Fill
import BatchBayes.Batch.Plan
import BatchBayes.Decimal.BinaryForm
import BatchBayes.Decimal.Digits
import BatchBayes.Decimal.Layout
import BatchBayes.Decimal.Reader
import BatchBayes.Designer.Basic
import BatchBayes.Designer.Configuration
import BatchBayes.Designer.Document
import BatchBayes.Double
import BatchBayes.Failure
import BatchBayes.Json.Basic
import BatchBayes.Json.Number
import BatchBayes.Json.Printer
import BatchBayes.Json.Reader
import BatchBayes.Json.Record
import BatchBayes.Json.Token
import BatchBayes.Loop
import BatchBayes.Main
import BatchBayes.Proofs.Acquisition.Budget
import BatchBayes.Proofs.Acquisition.Evolution
import BatchBayes.Proofs.Acquisition.ExploreRegion
import BatchBayes.Proofs.Batch.Feasible
import BatchBayes.Proofs.Batch.Filling
import BatchBayes.Proofs.Batch.JointValue
import BatchBayes.Proofs.Batch.Meaning
import BatchBayes.Proofs.Batch.Prefix
import BatchBayes.Proofs.Comparison
import BatchBayes.Proofs.Designer.Batches
import BatchBayes.Proofs.Designer.Complete
import BatchBayes.Proofs.Designer.Correspondence
import BatchBayes.Proofs.Designer.DeliveryOrder
import BatchBayes.Proofs.Designer.Documents
import BatchBayes.Proofs.Designer.Evidence
import BatchBayes.Proofs.Designer.Failing
import BatchBayes.Proofs.Designer.Feasible
import BatchBayes.Proofs.Designer.Freshness
import BatchBayes.Proofs.Designer.History
import BatchBayes.Proofs.Designer.Mirror
import BatchBayes.Proofs.Designer.Record
import BatchBayes.Proofs.Designer.Run
import BatchBayes.Proofs.Designer.SeedStream
import BatchBayes.Proofs.Designer.Seeds
import BatchBayes.Proofs.Designer.Settings
import BatchBayes.Proofs.Designer.UpperBounds
import BatchBayes.Proofs.Doubles
import BatchBayes.Proofs.Doubles.Signs
import BatchBayes.Proofs.Exact
import BatchBayes.Proofs.Extended
import BatchBayes.Proofs.Json.Fields
import BatchBayes.Proofs.Json.Lexing
import BatchBayes.Proofs.Json.Numbers
import BatchBayes.Proofs.Json.Reading
import BatchBayes.Proofs.Loop
import BatchBayes.Proofs.Order
import BatchBayes.Proofs.Outcome
import BatchBayes.Proofs.Random.Draws
import BatchBayes.Proofs.Random.Scrambling
import BatchBayes.Proofs.Random.Uniform
import BatchBayes.Proofs.Seeding.Axis
import BatchBayes.Proofs.Seeding.Grid
import BatchBayes.Proofs.Seeding.Inside
import BatchBayes.Proofs.Seeding.Primes
import BatchBayes.Proofs.Seeding.RadicalInverse
import BatchBayes.Proofs.Seeding.Sampling
import BatchBayes.Proofs.Seeding.Stream
import BatchBayes.Proofs.Seeding.WideRange
import BatchBayes.Proofs.Space.Dimension
import BatchBayes.Proofs.Space.Inside
import BatchBayes.Proofs.Space.OneHot
import BatchBayes.Proofs.Space.Projection
import BatchBayes.Proofs.Space.Recovery
import BatchBayes.Proofs.Space.Settled
import BatchBayes.Proofs.Space.Values
import BatchBayes.Proofs.Study.Best
import BatchBayes.Proofs.Study.Correspondence
import BatchBayes.Proofs.Study.Decision
import BatchBayes.Proofs.Study.Deliveries
import BatchBayes.Proofs.Study.Labels
import BatchBayes.Proofs.Study.Ledger
import BatchBayes.Proofs.Study.Merging
import BatchBayes.Proofs.Study.Mirror
import BatchBayes.Proofs.Study.RoundTrip
import BatchBayes.Proofs.Surrogate.Agreement
import BatchBayes.Proofs.Surrogate.Ascent
import BatchBayes.Proofs.Surrogate.Conditioning
import BatchBayes.Proofs.Surrogate.Determinant
import BatchBayes.Proofs.Surrogate.Edits
import BatchBayes.Proofs.Surrogate.Factor
import BatchBayes.Proofs.Surrogate.Feasible
import BatchBayes.Proofs.Surrogate.Filler
import BatchBayes.Proofs.Surrogate.Fitting
import BatchBayes.Proofs.Surrogate.Increments
import BatchBayes.Proofs.Surrogate.Joint
import BatchBayes.Proofs.Surrogate.LogDeterminant
import BatchBayes.Proofs.Surrogate.Matern
import BatchBayes.Proofs.Surrogate.Members
import BatchBayes.Proofs.Surrogate.Padding
import BatchBayes.Proofs.Surrogate.PositiveKernel
import BatchBayes.Proofs.Surrogate.Process
import BatchBayes.Proofs.Surrogate.Rows
import BatchBayes.Proofs.Surrogate.Schur
import BatchBayes.Proofs.Surrogate.SearchBox
import BatchBayes.Proofs.Surrogate.Tuning
import BatchBayes.Proofs.Surrogate.Views
import BatchBayes.Proofs.Table
import BatchBayes.Proofs.Table.Matching
import BatchBayes.Random.Generator
import BatchBayes.Random.Key
import BatchBayes.Random.Keystream
import BatchBayes.Random.Normal
import BatchBayes.Random.NormalTable
import BatchBayes.Scalar
import BatchBayes.Seeding.Prime
import BatchBayes.Seeding.Seeder
import BatchBayes.Seeding.Sequence
import BatchBayes.Simulation.Basic
import BatchBayes.Simulation.Session
import BatchBayes.Space.Basic
import BatchBayes.Space.Document
import BatchBayes.Space.Features
import BatchBayes.Study.Annotations
import BatchBayes.Study.Decision
import BatchBayes.Study.Document
import BatchBayes.Study.Labels
import BatchBayes.Study.Ledger
import BatchBayes.Study.Metric
import BatchBayes.Study.Trial
import BatchBayes.Surrogate.Cholesky
import BatchBayes.Surrogate.Ensemble
import BatchBayes.Surrogate.GaussianProcess
import BatchBayes.Surrogate.Kernel
import BatchBayes.Surrogate.Moments
import BatchBayes.Surrogate.Observations
import BatchBayes.Surrogate.Tuning
import BatchBayes.Table
import BatchBayes.Text.Blank
import BatchBayes.Text.Invisible
import BatchBayes.Text.Quoted
import BatchBayes.Time.Calendar
import BatchBayes.Time.Instant
