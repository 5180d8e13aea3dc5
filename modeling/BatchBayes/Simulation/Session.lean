import BatchBayes.Designer.Document
import BatchBayes.Simulation.Basic
import BatchBayes.Text.Blank
import BatchBayes.Text.Quoted
/-!
Running the simulated study from texts: a configuration document and the
numbers of rounds and of suggestions in a round.
-/

namespace BatchBayes

/-- What is reported instead of a result, and what it was caused by. -/
structure Complaint where
  message : String
  cause : Option String
deriving DecidableEq, Repr

namespace Complaint

/-- The report with the lines of the cause set in. -/
def text (complaint : Complaint) : String :=
  let message := complaint.message
  match complaint.cause with
  | none => s!"Error: {message}"
  | some cause =>
      let indented := cause.replace "\n" "\n    "
      s!"Error: {message}\n\nCaused by:\n    {indented}"

def ofFailure (failure : Failure) : Complaint :=
  ⟨failure.message, failure.cause?⟩

end Complaint

namespace Simulation

/-! ## Counts -/

/-- Why a text is no count. -/
inductive CountError where
  | empty
  | invalidDigit
  | tooLarge
deriving DecidableEq, Repr

namespace CountError

def message : CountError → String
  | empty => "cannot parse integer from empty string"
  | invalidDigit => "invalid digit found in string"
  | tooLarge => "number too large to fit in target type"

end CountError

/-- The number that digits continue, of 64 bits. A character that is no
digit is found before the number gets too large by it. -/
def countFrom (value : Nat) : List Char → Except CountError Nat
  | [] => .ok value
  | digit :: digits =>
      if digit.isDigit then
        let next := 10 * value + Decimal.digitValue digit
        if next < UInt64.size then countFrom next digits else .error .tooLarge
      else .error .invalidDigit

/-- The count that a text denotes: digits, with a plus sign in front or
without. -/
def readCount (text : String) : Except CountError Nat :=
  match text.toList with
  | [] => .error .empty
  | ['+'] => .error .invalidDigit
  | '+' :: digits => countFrom 0 digits
  | digits => countFrom 0 digits

/-- The count of a variable; blanks around it do not matter, and a variable
that is not set stands for `standard`. -/
def readVariable (name : String) (standard : Nat) :
    Option String → Except Complaint Nat
  | none => .ok standard
  | some text =>
      match readCount (trimBlank text) with
      | .ok count => .ok count
      | .error error =>
          let shown := quoted text
          .error ⟨s!"{name} must be a non-negative integer, got {shown}",
            some error.message⟩

/-! ## Sessions -/

/-- The names of the variables that a session reads. -/
def configurationVariable : String := "BANDIT_SIM_CONFIG"
def roundsVariable : String := "BANDIT_SIM_ROUNDS"
def batchVariable : String := "BANDIT_SIM_BATCH"

/-- A configuration file: its path and, if it can be read, its text. -/
structure ConfigurationFile where
  path : String
  text : Option String
deriving DecidableEq, Repr

/-- The configuration of a file; the standard one where there is no file. -/
def readConfiguration :
    Option ConfigurationFile → Except Complaint (Configuration Float)
  | none => .ok standardConfiguration
  | some file =>
      let outcome : Except Failure (Configuration Float) :=
        match file.text with
        | none => .error .missingFile
        | some text => Configuration.parse text
      match outcome with
      | .ok configuration => .ok configuration
      | .error failure =>
          let path := file.path
          .error ⟨s!"loading designer config from {path}", some failure.message⟩

/-- Run the study that the texts describe and give its best trial. -/
def session (now : Instant) (file : Option ConfigurationFile)
    (roundsText batchText : Option String) : Except Complaint (Trial Float) :=
  match readConfiguration file with
  | .error complaint => .error complaint
  | .ok configuration =>
      match readVariable roundsVariable 8 roundsText with
      | .error complaint => .error complaint
      | .ok count =>
          match readVariable batchVariable 4 batchText with
          | .error complaint => .error complaint
          | .ok batch =>
              match run now configuration count batch with
              | .error failure => .error (.ofFailure failure)
              | .ok none => .error ⟨"no trial completed", none⟩
              | .ok (some trial) => .ok trial

end Simulation

end BatchBayes
