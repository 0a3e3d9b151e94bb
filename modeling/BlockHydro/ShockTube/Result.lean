import BlockHydro.Decimal.Shortest
import BlockHydro.Setup.Document
import BlockHydro.ShockTube.Run

/-!
# The result of a run

A finished run is stored as a document: the configuration, how far the run came,
the gas in every zone with the guard zones, and what was counted on the way.
-/

namespace BlockHydro

variable {R : Type} [Scalar R]

/-- The bounds of an index space, axis by axis. -/
def IndexSpace.toDocument (space : IndexSpace) : Document R :=
  let range (axis : Axis) : Document R :=
    .table [("start", .whole (space.lower.get axis)), ("end", .whole (space.upper.get axis))]
  .table [("di", range .i), ("dj", range .j), ("dk", range .k)]

/-- The layout of a patch and all its values. -/
def Patch.toDocument (patch : Patch R) : Document R :=
  .table [
    ("num_blocks", .whole patch.grid.numBlocks),
    ("num_fields", .whole patch.numFields),
    ("space", patch.grid.space.toDocument),
    ("data", .list (patch.values.map .real))]

/-- The faces that were solved. -/
def FluxTally.toDocument (tally : FluxTally) : Document R :=
  .table [("faces", .whole tally.faces), ("clipped_sound_speed", .whole tally.clipped)]

/-- The corrections that were made. -/
def CorrectionReport.toDocument (report : CorrectionReport) : Document R :=
  .table [
    ("flagged_cells", .whole report.flaggedCells),
    ("corrected_faces", .whole report.correctedFaces)]

/-- A run as a document. -/
def Simulation.toDocument (simulation : Simulation R) : Document R :=
  .table [
    ("config", simulation.problem.config.toDocument),
    ("iteration", .whole simulation.iteration),
    ("time", .real simulation.time),
    ("primitive", simulation.primitive.toDocument),
    ("riemann", simulation.fluxTally.toDocument),
    ("fofc", simulation.report.toDocument)]

/-- What happened in a run, in one line. -/
def Simulation.summary (simulation : Simulation Float) : String :=
  let tally := simulation.fluxTally
  let report := simulation.report
  s!"iterations {simulation.iteration}, time {shortestText simulation.time}, " ++
    s!"faces {tally.faces}, clipped sound speeds {tally.clipped}, " ++
    s!"flagged cells {report.flaggedCells}, corrected faces {report.correctedFaces}"

end BlockHydro
