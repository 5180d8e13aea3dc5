import BatchBayes.Proofs.Outcome
import BatchBayes.Space.Features
/-!
What a space sees of an assignment: the values at its names, and nothing else.
-/

namespace BatchBayes

namespace Space

variable {K : Type} [Scalar K] [DecimalText K]

/-- Two assignments have the same values at the names of the space. -/
def SameValues (space : Space K) (first second : Assignment K) : Prop :=
  ∀ name ∈ space.names, second.find? name = first.find? name

variable {space : Space K} {first second : Assignment K}

omit [Scalar K] [DecimalText K] in
theorem SameValues.find? (same : space.SameValues first second)
    {parameter : Parameter K} (member : parameter ∈ space.parameters) :
    second.find? parameter.name = first.find? parameter.name :=
  same parameter.name (List.mem_map_of_mem member)

theorem SameValues.violation? (same : space.SameValues first second) :
    space.violation? second = space.violation? first := by
  have each : ∀ parameter ∈ space.parameters,
      parameter.violation? second = parameter.violation? first := by
    intro parameter member
    rw [Parameter.violation?, Parameter.violation?, same.find? member]
  rw [Space.violation?, Space.violation?, ← List.head?_filterMap,
    ← List.head?_filterMap, List.filterMap_congr each]

theorem SameValues.encode (same : space.SameValues first second) :
    space.encode second = space.encode first := by
  have each : ∀ parameter ∈ space.parameters,
      encodeParameter second parameter = encodeParameter first parameter := by
    intro parameter member
    rw [encodeParameter, encodeParameter, same.find? member]
  rw [Space.encode, Space.encode]
  congr 1
  exact mapM_eq_of_forall₂ (List.forall₂_same.2 each)

end Space

end BatchBayes
