import BlockHydro.Setup.Config

/-!
# Settings as documents

A configuration is exchanged as a tree of tables, texts, flags and numbers.
`Config.toDocument` writes every setting; `Config.ofDocument?` reads one back.

A setting that is absent takes its standard value and a key that names no
setting is passed over.  A choice is written as its name, or as a table of one
entry whose key is the name and whose value holds the parameters.  A setting of
the wrong kind makes the whole document unreadable.
-/

namespace BlockHydro

/-- A tree of settings. -/
inductive Document (R : Type) where
  | null
  | flag (value : Bool)
  | whole (value : Int)
  | real (value : R)
  | text (value : String)
  | list (items : List (Document R))
  | table (entries : List (String × Document R))

namespace Document

variable {R : Type}

/-- One more than the largest count that a document may hold. -/
def countBound : Nat := Nat.pow 2 64

/-- A number; whole numbers are numbers too. -/
def number? [IntCast R] : Document R → Option R
  | .whole value => some value
  | .real value => some value
  | _ => none

/-- A whole number that is not negative. -/
def count? : Document R → Option Nat
  | .whole value => if 0 ≤ value ∧ value < countBound then some value.toNat else none
  | _ => none

/-- A flag. -/
def flag? : Document R → Option Bool
  | .flag value => some value
  | _ => none

/-- The name of a choice without parameters. -/
def bareChoice? : Document R → Option String
  | .text name => some name
  | .table [(name, .null)] => some name
  | _ => none

/-- The name and the parameters of a choice. -/
def choice? : Document R → Option (String × List (String × Document R))
  | .table [(name, .table parameters)] => some (name, parameters)
  | _ => none

/-- The numeric parameter of the choice called `name`. -/
def parameter? [IntCast R] (document : Document R) (name key : String) : Option R := do
  let (chosen, parameters) ← document.choice?
  if chosen = name then (← parameters.lookup key).number? else none

/-- Read the setting under a key, or take its standard value if it is absent. -/
def setting? {α : Type} (entries : List (String × Document R)) (key : String)
    (read : Document R → Option α) (standard : α) : Option α :=
  match entries.lookup key with
  | some document => read document
  | none => some standard

/-- The setting under the first key. -/
@[simp] theorem setting?_cons_self {α : Type} (key : String) (document : Document R)
    (entries : List (String × Document R)) (read : Document R → Option α) (standard : α) :
    setting? ((key, document) :: entries) key read standard = read document := by
  simp [setting?]

/-- Another key does not matter. -/
theorem setting?_cons_of_ne {α : Type} {key other : String} (differ : key ≠ other)
    (document : Document R) (entries : List (String × Document R))
    (read : Document R → Option α) (standard : α) :
    setting? ((other, document) :: entries) key read standard =
      setting? entries key read standard := by
  simp [setting?, List.lookup_cons, beq_eq_false_iff_ne.mpr differ]

end Document

variable {R : Type} [Scalar R]

/-- Write a closure as a choice. -/
def Thermodynamics.toDocument : Thermodynamics R → Document R
  | .adiabatic gammaLawIndex =>
    .table [("adiabatic", .table [("gamma_law_index", .real gammaLawIndex)])]
  | .isothermal soundSpeed =>
    .table [("isothermal", .table [("sound_speed", .real soundSpeed)])]

/-- Read a closure. -/
def Thermodynamics.ofDocument? (document : Document R) : Option (Thermodynamics R) :=
  ((document.parameter? "adiabatic" "gamma_law_index").map .adiabatic).or
    ((document.parameter? "isothermal" "sound_speed").map .isothermal)

/-- Write a dynamics as a choice. -/
def Dynamics.toDocument : Dynamics R → Document R
  | .newtonian => .text "newtonian"
  | .relativistic baryonMass =>
    .table [("relativistic", .table [("baryon_mass", .real baryonMass)])]

/-- Read a dynamics. -/
def Dynamics.ofDocument? (document : Document R) : Option (Dynamics R) :=
  if document.bareChoice? = some "newtonian" then
    some .newtonian
  else
    (document.parameter? "relativistic" "baryon_mass").map .relativistic

/-- Read an integrator. -/
def Integrator.ofDocument? (document : Document R) : Option Integrator :=
  document.bareChoice?.bind Integrator.ofName?

namespace Config

/-- Write every setting. -/
def toDocument (config : Config R) : Document R :=
  .table [
    ("thermodynamics", config.thermodynamics.toDocument),
    ("dynamics", config.dynamics.toDocument),
    ("density_floor", .real config.floors.density),
    ("pressure_floor", .real config.floors.pressure),
    ("recovery_tolerance", .real config.search.tolerance),
    ("recovery_max_iterations", .whole config.search.maxIterations),
    ("fofc", .flag config.fluxCorrection),
    ("integrator", .text config.integrator.name)]

/-- Read a table of settings, with standard values for the absent ones. -/
def ofEntries? (entries : List (String × Document R)) : Option (Config R) := do
  let standard : Config R := .standard
  return {
    thermodynamics := ← Document.setting? entries "thermodynamics"
      Thermodynamics.ofDocument? standard.thermodynamics
    dynamics := ← Document.setting? entries "dynamics" Dynamics.ofDocument? standard.dynamics
    floors := {
      density := ← Document.setting? entries "density_floor" Document.number?
        standard.floors.density
      pressure := ← Document.setting? entries "pressure_floor" Document.number?
        standard.floors.pressure }
    search := {
      tolerance := ← Document.setting? entries "recovery_tolerance" Document.number?
        standard.search.tolerance
      maxIterations := ← Document.setting? entries "recovery_max_iterations" Document.count?
        standard.search.maxIterations }
    fluxCorrection := ← Document.setting? entries "fofc" Document.flag? standard.fluxCorrection
    integrator := ← Document.setting? entries "integrator" Integrator.ofDocument?
      standard.integrator }

/-- Read a configuration; only a table is one. -/
def ofDocument? : Document R → Option (Config R)
  | .table entries => ofEntries? entries
  | _ => none

/-- What is written is read back, as long as the iteration limit is a count that fits. -/
theorem ofDocument?_toDocument (config : Config R)
    (fits : config.search.maxIterations < Document.countBound) :
    ofDocument? config.toDocument = some config := by
  obtain ⟨thermodynamics, dynamics, floors, search, fluxCorrection, integrator⟩ := config
  have count : (Document.whole (search.maxIterations : Int) : Document R).count? =
      some search.maxIterations := by
    simp only [Document.count?]
    rw [if_pos ⟨Int.natCast_nonneg _, Int.ofNat_lt.mpr fits⟩, Int.toNat_natCast]
  have closure : Thermodynamics.ofDocument? thermodynamics.toDocument = some thermodynamics := by
    cases thermodynamics <;> rfl
  have motion : Dynamics.ofDocument? dynamics.toDocument = some dynamics := by
    cases dynamics <;> rfl
  have scheme : Integrator.ofDocument? (.text integrator.name : Document R) = some integrator := by
    cases integrator <;> rfl
  simp [ofDocument?, ofEntries?, toDocument, Document.setting?_cons_of_ne, closure, motion,
    scheme, count, Document.number?, Document.flag?]

end Config

end BlockHydro
