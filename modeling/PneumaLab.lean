import PneumaLab.Estimators.Metrics
import PneumaLab.Foundation.PublicationBlock
import PneumaLab.AdversarialReview.Verdicts
import PneumaLab.Cloud.LeaseDelivery
import PneumaLab.Cloud.RollingCeiling
import PneumaLab.Foundation.MemoryCoherence
import PneumaLab.Foundation.Rebuild
import PneumaLab.Gauge.Balance
import PneumaLab.Gauge.Resolution
import PneumaLab.Gauge.Calibration
import PneumaLab.Foundation.EarlyKill
import PneumaLab.Audit.Table
import PneumaLab.Gauge.Items
import PneumaLab.Gauge.Theory
import PneumaLab.Gauge.Isotonic
import PneumaLab.Foundation.NonFiniteLoss
import PneumaLab.Foundation.ShardLoading
import PneumaLab.ResamplingNull.Analysis.GateRefinement
import PneumaLab.ResamplingNull.Analysis.PvalueValidity
import PneumaLab.ResamplingNull.Analysis.RegroupedTail
import PneumaLab.ResamplingNull.Assignment.SealAgreement
import PneumaLab.ResamplingNull.Branch.ArmBlindness
import PneumaLab.ResamplingNull.Branch.BlockSemantics
import PneumaLab.ResamplingNull.Branch.CapBounds
import PneumaLab.ResamplingNull.Branch.SubjectLoop
import PneumaLab.ResamplingNull.Branch.SubjectTurns
import PneumaLab.ResamplingNull.Branch.TaskChain
import PneumaLab.ResamplingNull.Controller.StoreResolution
import PneumaLab.ResamplingNull.Ipc.Pairing
import PneumaLab.ResamplingNull.Packets.PaddingExactness
import PneumaLab.ResamplingNull.Power.LedgerChain
import PneumaLab.ResamplingNull.Power.Merkle
import PneumaLab.ResamplingNull.Power.ShardAgreement
import PneumaLab.Statistics.SweepAgreement
import PneumaLab.ResamplingNull.Projection.Attribution
import PneumaLab.Traces.OutcomeBlindness
import PneumaLab.Traces.TurnFrames
import PneumaLab.Traces.Streaming
import PneumaLab.Foundation.AuthorizedPayload
import PneumaLab.Research.JournalRotation
import PneumaLab.Preparation.CompleteSelection
import PneumaLab.Preparation.PairwiseSearch
import PneumaLab.Preparation.Separation
import PneumaLab.ResamplingNull.Preunblind.RecordKindAgreement
import PneumaLab.Library.SignFlips
import PneumaLab.ResamplingNull.Analysis.ResolutionAgreement
import PneumaLab.ResamplingNull.Assignment.Framing
import PneumaLab.ResamplingNull.Assignment.UnbiasedDraws
import PneumaLab.ResamplingNull.Assignment.CyclicSolver
import PneumaLab.AdversarialReview.Minority
import PneumaLab.Placebo.DonorAssignment
import PneumaLab.Placebo.CacheSurvival
import PneumaLab.Placebo.ExactBlocks
import PneumaLab.Placebo.PublicSignal
import PneumaLab.ResamplingNull.Assignment.OneUse
import PneumaLab.Training.SplitBalance
import PneumaLab.Testd.Codec
