import MotifVote.Main
import MotifVote.Workspace
import MotifVote.Proofs.Command.Ingestion
import MotifVote.Proofs.Dataset.Evaluation
import MotifVote.Proofs.Dataset.Record
import MotifVote.Proofs.Ensemble.Curve
import MotifVote.Proofs.Ensemble.DocumentOrder
import MotifVote.Proofs.Ensemble.Extension
import MotifVote.Proofs.Ensemble.Incidence
import MotifVote.Proofs.Ensemble.Majority
import MotifVote.Proofs.Ensemble.Rates
import MotifVote.Proofs.Ensemble.Support
import MotifVote.Proofs.Ensemble.Tally
import MotifVote.Proofs.Ensemble.Uncertainty
import MotifVote.Proofs.Image.Recall
import MotifVote.Proofs.Json.Layout
import MotifVote.Proofs.Learning.Accounting
import MotifVote.Proofs.Learning.HeldOut
import MotifVote.Proofs.Learning.Observation
import MotifVote.Proofs.Motif.Canonicity
import MotifVote.Proofs.Name.Metric
import MotifVote.Proofs.Neighborhood.Portrait
import MotifVote.Proofs.Query.NaturalJoin
import MotifVote.Proofs.Statistics.Score
import MotifVote.Proofs.Store.Copy
import MotifVote.Proofs.Store.File
