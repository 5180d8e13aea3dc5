import BatchBayes.Proofs.Table
import BatchBayes.Study.Decision
/-!
What is read from notes after a decision is written into them.
-/

namespace BatchBayes

namespace Annotations

/-- A note is found where it was put, and changes no other note. -/
theorem find?_insert (annotations : Annotations)
    (space key value otherSpace otherKey : String) :
    (annotations.insert space key value).find? otherSpace otherKey =
      if otherSpace = space ∧ otherKey = key then some value
      else annotations.find? otherSpace otherKey := by
  by_cases sameSpace : otherSpace = space
  · subst sameSpace
    have notes :
        (annotations.notes otherSpace).find? otherKey =
          annotations.find? otherSpace otherKey := by
      rw [Annotations.notes, find?]
      cases annotations.notes? otherSpace <;> rfl
    rw [← notes, find?, notes?, insert, setNotes, Table.find?_insert_self,
      Option.bind_some]
    by_cases sameKey : otherKey = key
    · rw [sameKey, Table.find?_insert_self, if_pos ⟨rfl, rfl⟩]
    · rw [Table.find?_insert_of_ne _ sameKey, if_neg fun same => sameKey same.2]
  · rw [find?, find?, notes?, notes?, insert, setNotes,
      Table.find?_insert_of_ne _ sameSpace, if_neg fun same => sameSpace same.1]

end Annotations

namespace Decision

variable {K : Type} [DecimalText K]

theorem flag?_flagText (flag : Bool) : flag? (flagText flag) = some flag := by
  cases flag <;> rfl

/-- The flag that is written is read. -/
theorem flag?_write (decision : Decision K) (annotations : Annotations)
    (space : String) :
    ((decision.write annotations space).find? space "use_ucb").bind flag? =
      some decision.upperBound := by
  rw [write, Annotations.find?_insert, if_pos ⟨rfl, rfl⟩, Option.bind_some,
    flag?_flagText]

/-- A written record reads as the numbers that its texts read as. -/
theorem read?_write {decision read : Decision K} (annotations : Annotations)
    (space : String)
    (mean : DecimalText.ofText? (DecimalText.text decision.mean) = some read.mean)
    (deviation :
      DecimalText.ofText? (DecimalText.text decision.deviation) =
        some read.deviation)
    (deviationFromAll :
      DecimalText.ofText? (DecimalText.text decision.deviationFromAll) =
        some read.deviationFromAll)
    (acquisition :
      DecimalText.ofText? (DecimalText.text decision.acquisition) =
        some read.acquisition)
    (upperBound : decision.upperBound = read.upperBound) :
    read? (decision.write annotations space) space = some read := by
  have flag := decision.flag?_write annotations space
  rw [read?, flag]
  simp [write, Annotations.find?_insert, mean, deviation, deviationFromAll,
    acquisition, upperBound]

end Decision

end BatchBayes
