import BatchBayes.Random.Generator
import BatchBayes.Surrogate.GaussianProcess
/-!
Choosing kernel parameters: the likelihood is searched from several starts,
and the best start is refined along the coordinates. Parameters are searched
by their logarithms.
-/

namespace BatchBayes

/-- A way to choose kernel parameters for observations. -/
abbrev Tuner (K : Type) :=
  Observations K → Key → Except FitError (KernelParameters K)

/-- The ends of the search box, as natural logarithms. -/
structure LogBounds (K : Type) where
  amplitude : K × K
  lengthscale : K × K
  noise : K × K

/-- A search with random starts and rounds of coordinate moves. -/
structure RestartSearch (K : Type) where
  restarts : Nat
  sweeps : Nat
  bounds : LogBounds K

variable {K : Type} [Scalar K]

/-! ## Coordinates -/

namespace KernelParameters

/-- The logarithms of the amplitude, the lengthscales and the noise. -/
def toLogs (parameters : KernelParameters K) : List K :=
  Scalar.log parameters.amplitude ::
    (parameters.lengthscales.map Scalar.log ++ [Scalar.log parameters.noise])

/-- The parameters with the given logarithms. -/
def ofLogs (logs : List K) : KernelParameters K :=
  let values := logs.map Scalar.exp
  ⟨values.headD 1, values.tail.dropLast, values.getLastD 1⟩

end KernelParameters

namespace LogBounds

def standard : LogBounds K :=
  { amplitude := (Scalar.log 0.05, Scalar.log 20.0)
    lengthscale := (Scalar.log 0.02, Scalar.log 10.0)
    noise := (Scalar.log 1e-6, Scalar.log 0.5) }

/-- The bounds of each coordinate. -/
def box (bounds : LogBounds K) (dimension : Nat) : List (K × K) :=
  bounds.amplitude :: (List.replicate dimension bounds.lengthscale ++ [bounds.noise])

end LogBounds

namespace RestartSearch

def standard : RestartSearch K :=
  ⟨8, 4, .standard⟩

/-- The standard search with another number of starts, at least one. -/
def withRestarts (restarts : Nat) : RestartSearch K :=
  { standard with restarts := max restarts 1 }

/-! ## Values -/

/-- The logarithms of parameters with the likelihood they reach. -/
abbrev Scored (K : Type) := List K × K

/-- The likelihood of the data, where it is a finite number. -/
def value? (data : Observations K) (logs : List K) : Option K :=
  match GaussianProcess.fit data (.ofLogs logs) with
  | .ok process =>
      let likelihood := process.logLikelihood
      if Scalar.isFinite likelihood then some likelihood else none
  | .error _ => none

/-- The better of the best point so far and one more; the earlier one of
equals. -/
def better (data : Observations K) (best : Option (Scored K)) (logs : List K) :
    Option (Scored K) :=
  match value? data logs, best with
  | none, _ => best
  | some value, none => some (logs, value)
  | some value, some (bestLogs, bestValue) =>
      if bestValue < value then some (logs, value) else some (bestLogs, bestValue)

/-! ## Starts -/

/-- A point drawn from the search box. -/
def drawStart (box : List (K × K)) (generator : Generator) : List K × Generator :=
  Generator.forEach (fun bounds => Generator.between bounds.1 bounds.2) box generator

/-- The standard parameters and the random starts. -/
def starts (search : RestartSearch K) (dimension : Nat) (key : Key) :
    List (List K) :=
  (KernelParameters.standard dimension).toLogs ::
    (Generator.times (drawStart (search.bounds.box dimension))
      (search.restarts - 1) key.generator).1

/-! ## Refinement -/

/-- Move one coordinate of the best point up, or else down, by `step`, if that
is better. The moved coordinate stays in its bounds. -/
def moveCoordinate (data : Observations K) (step : K) (best : Scored K)
    (coordinate : Nat × K × K) : Scored K :=
  let (index, low, high) := coordinate
  let attempt := fun (direction : K) =>
    let moved := Scalar.clamp (best.1.getD index 0 + direction * step) low high
    let logs := best.1.set index moved
    (value? data logs).bind fun value =>
      if best.2 < value then some (logs, value) else none
  ([1, -1].findSome? attempt).getD best

/-- Move all coordinates, one after another. -/
def sweep (data : Observations K) (box : List (K × K)) (step : K)
    (best : Scored K) : Scored K :=
  (List.zipIdx box).foldl
    (fun best (bounds, index) => moveCoordinate data step best (index, bounds))
    best

/-- Make some sweeps, each with half the step of the one before. -/
def refine (data : Observations K) (box : List (K × K)) :
    Nat → K → Scored K → Scored K
  | 0, _, best => best
  | sweeps + 1, step, best =>
      refine data box sweeps (step * 0.5) (sweep data box step best)

/-- The best parameters found; the standard ones where nothing was observed. -/
def tune (search : RestartSearch K) : Tuner K := fun data key =>
  if data.numValid = 0 then .ok (.standard data.dimension)
  else
    match (search.starts data.dimension key).foldl (better data) none with
    | none => .error .nonFiniteLikelihood
    | some best =>
        .ok (.ofLogs
          (refine data (search.bounds.box data.dimension) search.sweeps 1 best).1)

end RestartSearch

end BatchBayes
