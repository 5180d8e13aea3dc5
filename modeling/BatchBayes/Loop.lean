/-!
Loops that come to an end for reasons that only a proof tells.
-/

namespace BatchBayes.Loop

variable {State : Type}

/-- Whether a turn of a loop leads to one state from another. -/
def Follows (turn : State → Option State) (later earlier : State) : Prop :=
  turn earlier = some later

/-- The state in which a loop stops: the first one with no turn any more. Nothing is known
of it where a loop might go on forever. -/
def run (turn : State → Option State) (state : State) : State :=
  haveI : Nonempty State := ⟨state⟩
  WellFounded.extrinsicFix (Follows turn)
    (fun state goOn =>
      match follows : turn state with
      | some later => goOn later follows
      | none => state)
    state

end BatchBayes.Loop
