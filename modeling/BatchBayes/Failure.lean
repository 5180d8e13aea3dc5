/-!
What can go wrong, and the words for it.
-/

namespace BatchBayes

/-- Why no model was fitted. -/
inductive FitError where
  | emptyEnsemble (attempted : Nat)
  | notPositiveDefinite (size : Nat)
  | nonFiniteLikelihood
  | dimensionMismatch (expected actual : Nat)
deriving DecidableEq, Repr

/-- Why a search space or an assignment is refused. Values are given as text. -/
inductive SpaceError where
  | empty
  | missingParameter (name : String)
  | outOfBounds (name value : String)
  | wrongType (name value : String)
  | invalidRange (name message : String)
deriving DecidableEq, Repr

/-- The part of a study that a failure belongs to. -/
inductive Stage where
  | configuration
  | seeding
  | modelFit
  | acquisitionOptimization
  | input
deriving DecidableEq, Repr

/-- Why a designer does not answer. -/
inductive Failure where
  | seeding (message : String)
  | modelFit (error : FitError)
  | acquisition (message : String)
  | configuration (message : String)
  | space (error : SpaceError)
  | invalidTrial (id : UInt64) (message : String)
  /-- A document that is no JSON, or not of the expected form. -/
  | unreadableDocument
  /-- A file that cannot be read. -/
  | missingFile
deriving DecidableEq, Repr

def FitError.message : FitError → String
  | .emptyEnsemble attempted => s!"all {attempted} ensemble members failed to fit"
  | .notPositiveDefinite size =>
      s!"kernel matrix of size {size} is not positive definite"
  | .nonFiniteLikelihood =>
      "log marginal likelihood is not finite for every restart"
  | .dimensionMismatch expected actual =>
      s!"feature dimension mismatch: expected {expected}, got {actual}"

def SpaceError.message : SpaceError → String
  | .empty => "Empty search space"
  | .missingParameter name => s!"Parameter not found: {name}"
  | .outOfBounds name value => s!"Parameter {name} out of bounds: {value}"
  | .wrongType name value => s!"Parameter {name} has the wrong type: {value}"
  | .invalidRange name message => s!"Invalid range for {name}: {message}"

namespace Failure

def message : Failure → String
  | .seeding message => s!"Seeding error: {message}"
  | .modelFit error => s!"Model fit error: {error.message}"
  | .acquisition message => s!"Acquisition error: {message}"
  | .configuration message => s!"Configuration error: {message}"
  | .space error => s!"Search space error: {error.message}"
  | .invalidTrial id message => s!"Invalid trial {id}: {message}"
  | .unreadableDocument => "Serialization error: unexpected form"
  | .missingFile => "IO error: the file cannot be read"

/-- The failure that this one is only the report of. -/
def cause? : Failure → Option String
  | .modelFit error => some error.message
  | .space error => some error.message
  | _ => none

def stage : Failure → Stage
  | .seeding _ => .seeding
  | .modelFit _ => .modelFit
  | .acquisition _ => .acquisitionOptimization
  | .configuration _ | .unreadableDocument | .missingFile => .configuration
  | .space _ | .invalidTrial _ _ => .input

end Failure

end BatchBayes
