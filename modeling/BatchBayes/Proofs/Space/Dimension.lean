import BatchBayes.Proofs.Outcome
import BatchBayes.Space.Features
/-!
Feature vectors have the dimension of their space, whether they are encoded,
drawn, projected or accepted.
-/

namespace BatchBayes

variable {K : Type} [Scalar K]

/-! ## Blocks -/

namespace Range

theorem length_encode [DecimalText K] {name : String} {range : Range K}
    {value : Value K} {block : List K}
    (success : range.encode name value = .ok block) :
    block.length = range.width := by
  cases range <;> cases value <;> simp only [encode] at success
  case linear.real => cases success; rfl
  case integer.integer => cases success; rfl
  case logarithmic.real low high number =>
      by_cases nonpositive : number ≤ 0
      · rw [if_pos nonpositive] at success
        cases success
      · rw [if_neg nonpositive] at success
        cases success
        rfl
  case choice.label labels chosen =>
      split at success
      case h_1 index _ =>
          cases success
          simp [oneHot, width]
      case h_2 => cases success
  all_goals cases success

theorem length_project (range : Range K) (block : List K) :
    (range.project block).length = range.width := by
  cases range <;> simp [project, width, oneHot]

theorem length_draw (range : Range K) (generator : Generator) :
    (range.draw generator).1.length = range.width := by
  cases range <;> simp [draw, width, oneHot]

end Range

/-! ## Feature vectors -/

namespace Space

theorem length_encode [DecimalText K] {space : Space K} {assignment : Assignment K}
    {features : List K} (success : space.encode assignment = .ok features) :
    features.length = space.dimension := by
  obtain ⟨parameters⟩ := space
  rw [encode] at success
  cases mapped : parameters.mapM (encodeParameter assignment) with
  | error failure => simp [mapped, Except.map] at success
  | ok parts =>
      rw [mapped] at success
      obtain rfl := Except.ok.inj success
      rw [mapM_eq_ok_iff] at mapped
      clear success
      rw [dimension]
      induction mapped with
      | nil => rfl
      | @cons parameter part parameters parts encoded _ inductionHypothesis =>
          have block : part.length = parameter.range.width := by
            rw [encodeParameter] at encoded
            split at encoded
            case h_1 => cases encoded
            case h_2 value _ => exact Range.length_encode encoded
          rw [List.flatten_cons, List.length_append, block, inductionHypothesis,
            List.foldr_cons]

theorem length_project (space : Space K) (features : List K) :
    (space.project features).length =
      space.dimension + (features.length - space.dimension) := by
  have blocks : ∀ (parameters : List (Parameter K)) (features : List K),
      ((Space.blocks parameters features).flatMap fun entry =>
          entry.1.range.project entry.2).length =
        dimension ⟨parameters⟩ := by
    intro parameters
    induction parameters with
    | nil => intro features; rfl
    | cons parameter parameters inductionHypothesis =>
        intro features
        rw [Space.blocks, List.flatMap_cons, List.length_append, inductionHypothesis,
          Range.length_project]
        rfl
  have projected := blocks space.parameters features
  rw [project, List.length_append, List.length_drop]
  exact congrArg (· + _) projected

/-- Projection keeps the right length. -/
theorem length_projected {space : Space K} {features : List K}
    (length : features.length = space.dimension) :
    (space.project features).length = space.dimension := by
  rw [length_project, length, Nat.sub_self, Nat.add_zero]

theorem length_drawn (parameters : List (Parameter K)) (generator : Generator) :
    (Generator.forEach (fun parameter => parameter.range.draw) parameters
        generator).1.flatten.length =
      dimension ⟨parameters⟩ := by
  induction parameters generalizing generator with
  | nil => rfl
  | cons parameter parameters inductionHypothesis =>
      rw [Generator.forEach]
      dsimp only
      rw [List.flatten_cons, List.length_append, inductionHypothesis,
        Range.length_draw]
      rfl

theorem length_sample (space : Space K) (generator : Generator) :
    (space.sample generator).1.length = space.dimension := by
  rw [sample]
  exact length_projected (length_drawn space.parameters generator)

theorem accepts_iff {space : Space K} {features : List K} :
    space.accepts features = true ↔
      features.length = space.dimension ∧
        ∀ entry ∈ blocks space.parameters features,
          entry.1.range.accepts entry.2 = true := by
  rw [accepts, Bool.and_eq_true, List.all_eq_true, beq_iff_eq]

theorem length_of_accepts {space : Space K} {features : List K}
    (accepted : space.accepts features = true) :
    features.length = space.dimension :=
  (accepts_iff.1 accepted).1

end Space

end BatchBayes
