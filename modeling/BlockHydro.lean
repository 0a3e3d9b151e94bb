import BlockHydro.Main
import BlockHydro.Proofs.Space.Numbering
import BlockHydro.Proofs.Space.Tabulation
import BlockHydro.Proofs.Space.MeshShape
import BlockHydro.Proofs.Stage.Tables
import BlockHydro.Proofs.Stage.FluxPass
import BlockHydro.Proofs.Stage.CorrectionPass
import BlockHydro.Proofs.Stage.CorrectionEffect
import BlockHydro.Proofs.Stage.SharedFaces
import BlockHydro.Proofs.Stage.UpdatePass
import BlockHydro.Proofs.Stage.Prediction
import BlockHydro.Proofs.Space.RowOfBlocks
import BlockHydro.Proofs.Stage.RowAgreement
import BlockHydro.Proofs.ShockTube.StageRun
import BlockHydro.Proofs.ShockTube.Start
import BlockHydro.Proofs.ShockTube.Decomposition
import BlockHydro.Proofs.ShockTube.Counters
import BlockHydro.Proofs.Exact.Reals
import BlockHydro.Proofs.Exact.StageTables
import BlockHydro.Proofs.Flux.FaceBudget
import BlockHydro.Proofs.Gas.PressureResidual
import BlockHydro.Proofs.Gas.RelativisticRecovery
import BlockHydro.Proofs.Space.BoundaryFaces
import BlockHydro.Proofs.Stage.CellBudget
import BlockHydro.Proofs.Stage.Conservation
import BlockHydro.Proofs.Stage.GasStage
import BlockHydro.Proofs.Stage.Positivity
import BlockHydro.Proofs.Gas.Observables
import BlockHydro.Proofs.Geometry.PositiveDefinite
import BlockHydro.Proofs.Gas.PressureSearch
import BlockHydro.Proofs.Geometry.Turning
import BlockHydro.Proofs.Flux.TwoWaveFormula
import BlockHydro.Proofs.Flux.MeanFlow
import BlockHydro.Proofs.Flux.SignalBound
import BlockHydro.Proofs.Rounded.Doubles
import BlockHydro.Proofs.Stage.NotANumber
import BlockHydro.Proofs.Space.Relabelling
import BlockHydro.Proofs.Gas.RelabelledGas
import BlockHydro.Proofs.Stage.RelabelledStage
import BlockHydro.Proofs.Stage.StageData
import BlockHydro.Proofs.Stage.AxisCovariance
import BlockHydro.Proofs.Stage.ExtrudedStage
import BlockHydro.Proofs.Stage.PassSequence
import BlockHydro.Proofs.Space.VisitOrder
import BlockHydro.Proofs.Stage.PassOrder
import BlockHydro.Proofs.Stage.TouchedFaces
import BlockHydro.Proofs.Exact.Unrounded
import BlockHydro.Proofs.ShockTube.Clock
import BlockHydro.Proofs.Gas.LightCone
import BlockHydro.Proofs.Setup.Acceptance
import BlockHydro.Proofs.Gas.SearchHistory
import BlockHydro.Proofs.Gas.RecoveryClassification
import BlockHydro.Proofs.Gas.SearchBudget
import BlockHydro.Proofs.Space.Extrusion
import BlockHydro.Proofs.Gas.NewtonianRecovery
import BlockHydro.Proofs.Geometry.Mirror
import BlockHydro.Proofs.Flux.MirroredFaces
import BlockHydro.Proofs.Stage.UnclippedFluxes
import BlockHydro.Proofs.Space.ChainLookup
import BlockHydro.Proofs.Stage.GuardFilling
import BlockHydro.Proofs.Stage.FaceSolutions
import BlockHydro.Proofs.Space.StoppedSweep
import BlockHydro.Proofs.Stage.FieldRecovery
import BlockHydro.Proofs.Space.TraversalOrder
import BlockHydro.Proofs.Space.WordCounts
import BlockHydro.Proofs.Space.PatchAddressing
import BlockHydro.Proofs.Geometry.FaceMetrics
import BlockHydro.Proofs.Gas.CausalRange
