import Mathlib.Data.List.Forall2
/-!
Computations that may fail: when a list of them succeeds, and what it means
that two of them agree.
-/

namespace BatchBayes

/-! ## Lists of computations -/

theorem mapM_eq_ok_iff {ε α β : Type} (f : α → Except ε β) (xs : List α)
    (ys : List β) :
    xs.mapM f = .ok ys ↔ List.Forall₂ (fun x y => f x = .ok y) xs ys := by
  induction xs generalizing ys with
  | nil => cases ys <;> simp [pure, Except.pure]
  | cons x xs inductionHypothesis =>
      rw [List.mapM_cons, List.forall₂_cons_left_iff]
      cases head : f x with
      | error failure => simp [bind, Except.bind]
      | ok y =>
          cases tail : xs.mapM f with
          | error failure =>
              have never : ∀ rest, ¬ List.Forall₂ (fun x y => f x = .ok y) xs rest := by
                intro rest pairs
                simp [(inductionHypothesis rest).2 pairs] at tail
              simp [bind, Except.bind, never]
          | ok rest =>
              have unique : ∀ other,
                  List.Forall₂ (fun x y => f x = .ok y) xs other ↔ rest = other := by
                intro other
                rw [← inductionHypothesis, tail, Except.ok.injEq]
              simp [bind, Except.bind, pure, Except.pure, unique, eq_comm]

theorem exists_mapM_eq_ok {ε α β : Type} {f : α → Except ε β} {xs : List α}
    (each : ∀ x ∈ xs, ∃ y, f x = .ok y) : ∃ ys, xs.mapM f = .ok ys := by
  induction xs with
  | nil => exact ⟨[], rfl⟩
  | cons x xs inductionHypothesis =>
      obtain ⟨y, head⟩ := each x List.mem_cons_self
      obtain ⟨ys, tail⟩ :=
        inductionHypothesis fun other member =>
          each other (List.mem_cons_of_mem _ member)
      rw [mapM_eq_ok_iff] at tail
      exact ⟨y :: ys, (mapM_eq_ok_iff _ _ _).2 (.cons head tail)⟩

theorem mapM_take {ε α β : Type} {f : α → Except ε β} {xs : List α} {ys : List β}
    (success : xs.mapM f = .ok ys) (count : Nat) :
    (xs.take count).mapM f = .ok (ys.take count) := by
  rw [mapM_eq_ok_iff] at success ⊢
  exact List.forall₂_take count success

theorem mapM_eq_of_forall₂ {ε α β γ : Type} {f : α → Except ε γ}
    {g : β → Except ε γ} {xs : List α} {ys : List β}
    (pairs : List.Forall₂ (fun x y => f x = g y) xs ys) : xs.mapM f = ys.mapM g := by
  induction pairs with
  | nil => rfl
  | cons same _ inductionHypothesis =>
      rw [List.mapM_cons, List.mapM_cons, same, inductionHypothesis]

theorem mapM_eq_ok_self {ε α : Type} {f : α → Except ε α} {xs : List α}
    (each : ∀ x ∈ xs, f x = .ok x) : xs.mapM f = .ok xs := by
  rw [mapM_eq_ok_iff, List.forall₂_same]
  exact each

theorem toOption_eq_some_iff {ε α : Type} {outcome : Except ε α} {result : α} :
    outcome.toOption = some result ↔ outcome = .ok result := by
  cases outcome <;> simp [Except.toOption]

theorem toOption_eq_none_iff {ε α : Type} {outcome : Except ε α} :
    outcome.toOption = none ↔ ∀ result, outcome ≠ .ok result := by
  cases outcome <;> simp [Except.toOption]

/-- The results of the computations that succeed, in the order of the list. -/
theorem exists_kept_filterMap_toOption {ε α σ : Type} (f : σ → Except ε α)
    (xs : List σ) :
    ∃ kept : List σ,
      kept.Sublist xs ∧ (∀ x, x ∈ kept ↔ x ∈ xs ∧ ∃ y, f x = .ok y) ∧
        List.Forall₂ (fun x y => f x = .ok y) kept
          (xs.filterMap fun x => (f x).toOption) := by
  induction xs with
  | nil => exact ⟨[], List.Sublist.slnil, by simp, .nil⟩
  | cons x xs inductionHypothesis =>
      obtain ⟨kept, sublist, members, pairs⟩ := inductionHypothesis
      cases head : f x with
      | error failure =>
          refine ⟨kept, sublist.cons x, fun other => ?_, ?_⟩
          · rw [members, List.mem_cons]
            constructor
            · exact fun ⟨later, success⟩ => ⟨.inr later, success⟩
            · rintro ⟨rfl | later, y, success⟩
              · simp [head] at success
              · exact ⟨later, y, success⟩
          · rw [List.filterMap_cons, head]
            exact pairs
      | ok y =>
          refine ⟨x :: kept, sublist.cons_cons x, fun other => ?_, ?_⟩
          · rw [List.mem_cons, List.mem_cons, members]
            constructor
            · rintro (rfl | ⟨later, success⟩)
              · exact ⟨.inl rfl, y, head⟩
              · exact ⟨.inr later, success⟩
            · rintro ⟨rfl | later, success⟩
              · exact .inl rfl
              · exact .inr ⟨later, success⟩
          · rw [List.filterMap_cons, head]
            exact .cons head pairs

/-- Failures alone drop results. -/
theorem filterMap_sublist_filterMap {α σ : Type} {f g : σ → Option α}
    (each : ∀ x y, f x = some y → g x = some y) (xs : List σ) :
    (xs.filterMap f).Sublist (xs.filterMap g) := by
  induction xs with
  | nil => exact List.Sublist.slnil
  | cons x xs inductionHypothesis =>
      rw [List.filterMap_cons, List.filterMap_cons]
      cases head : f x with
      | some y =>
          rw [each x y head]
          exact inductionHypothesis.cons_cons y
      | none =>
          cases g x with
          | none => exact inductionHypothesis
          | some other => exact inductionHypothesis.cons other

/-! ## Agreement -/

/-- Both computations fail, or both succeed with related results. -/
inductive Agree {ε δ α β : Type} (related : α → β → Prop) :
    Except ε α → Except δ β → Prop
  | ok {first : α} {second : β} :
      related first second → Agree related (.ok first) (.ok second)
  | error {failure : ε} {other : δ} :
      Agree related (.error failure) (.error other)

namespace Agree

variable {ε δ α β : Type} {related : α → β → Prop}

theorem refl {related : α → α → Prop} (reflexive : ∀ a, related a a)
    (outcome : Except ε α) : Agree related outcome outcome := by
  cases outcome with
  | ok result => exact .ok (reflexive result)
  | error failure => exact .error

theorem map_eq {γ : Type} {first second : Except ε α} (agree : Agree Eq first second)
    (f : α → γ) : Agree Eq (first.map f) (second.map f) := by
  cases agree with
  | ok same => exact .ok (congrArg f same)
  | error => exact .error

theorem symm {related : α → α → Prop}
    {first : Except ε α} {second : Except δ α}
    (agree : Agree related first second)
    (symmetric : ∀ a b, related a b → related b a) :
    Agree related second first := by
  cases agree with
  | ok same => exact .ok (symmetric _ _ same)
  | error => exact .error

theorem trans {φ : Type} {related : α → α → Prop}
    {first : Except ε α} {second : Except δ α} {third : Except φ α}
    (left : Agree related first second) (right : Agree related second third)
    (transitive : ∀ a b c, related a b → related b c → related a c) :
    Agree related first third := by
  cases left with
  | ok same =>
      cases right with
      | ok next => exact .ok (transitive _ _ _ same next)
  | error =>
      cases right with
      | error => exact .error

theorem mono {weaker : α → β → Prop} {first : Except ε α} {second : Except δ β}
    (agree : Agree related first second)
    (weaken : ∀ a b, related a b → weaker a b) : Agree weaker first second := by
  cases agree with
  | ok same => exact .ok (weaken _ _ same)
  | error => exact .error

theorem cases_ok_error {first : Except ε α} {second : Except δ β}
    (agree : Agree related first second) :
    (∃ a b, first = .ok a ∧ second = .ok b ∧ related a b) ∨
      ∃ failure other, first = .error failure ∧ second = .error other := by
  cases agree with
  | ok same => exact .inl ⟨_, _, rfl, rfl, same⟩
  | error => exact .inr ⟨_, _, rfl, rfl⟩

theorem exists_of_ok_left {a : α} {second : Except δ β}
    (agree : Agree related (.ok a : Except ε α) second) :
    ∃ b, second = .ok b ∧ related a b := by
  cases agree with
  | ok same => exact ⟨_, rfl, same⟩

theorem exists_of_ok_right {first : Except ε α} {b : β}
    (agree : Agree related first (.ok b : Except δ β)) :
    ∃ a, first = .ok a ∧ related a b := by
  cases agree with
  | ok same => exact ⟨_, rfl, same⟩

/-- Lists made one by one agree if the single computations do. -/
theorem mapM {σ τ : Type} {matching : σ → τ → Prop}
    {f : σ → Except ε α} {g : τ → Except δ β} {xs : List σ} {ys : List τ}
    (pairs : List.Forall₂ matching xs ys)
    (each : ∀ x y, matching x y → Agree related (f x) (g y)) :
    Agree (List.Forall₂ related) (xs.mapM f) (ys.mapM g) := by
  induction pairs with
  | nil => exact .ok .nil
  | @cons x y xs ys pair _ inductionHypothesis =>
      rw [List.mapM_cons, List.mapM_cons]
      rcases (each x y pair).cases_ok_error with
        ⟨a, b, left, right, same⟩ | ⟨_, _, left, right⟩
      · rw [left, right]
        rcases inductionHypothesis.cases_ok_error with
          ⟨as, bs, left, right, sames⟩ | ⟨_, _, left, right⟩
        · rw [left, right]
          exact .ok (.cons same sames)
        · rw [left, right]
          exact .error
      · rw [left, right]
        exact .error

/-- The successes of two lists of computations are related one by one if the
single computations agree. -/
theorem filterMap_toOption {σ : Type} {f : σ → Except ε α} {g : σ → Except δ β}
    (each : ∀ x, Agree related (f x) (g x)) (xs : List σ) :
    List.Forall₂ related (xs.filterMap fun x => (f x).toOption)
      (xs.filterMap fun x => (g x).toOption) := by
  induction xs with
  | nil => exact .nil
  | cons x xs inductionHypothesis =>
      rw [List.filterMap_cons, List.filterMap_cons]
      rcases (each x).cases_ok_error with
        ⟨a, b, left, right, same⟩ | ⟨_, _, left, right⟩
      · rw [left, right]
        exact .cons same inductionHypothesis
      · rw [left, right]
        exact inductionHypothesis

end Agree

/-! ## Lists related one by one -/

theorem exists_of_mem_of_forall₂ {α β : Type} {related : α → β → Prop}
    {xs : List α} {ys : List β} (pairs : List.Forall₂ related xs ys) {y : β}
    (member : y ∈ ys) : ∃ x ∈ xs, related x y := by
  induction pairs with
  | nil => simp at member
  | @cons x other xs ys same _ inductionHypothesis =>
      rcases List.mem_cons.1 member with rfl | later
      · exact ⟨x, List.mem_cons_self, same⟩
      · obtain ⟨found, inTail, relatedFound⟩ := inductionHypothesis later
        exact ⟨found, List.mem_cons_of_mem _ inTail, relatedFound⟩

theorem forall₂_trans {α β γ : Type} {first : α → β → Prop} {second : β → γ → Prop}
    {both : α → γ → Prop} (chain : ∀ x y z, first x y → second y z → both x z)
    {xs : List α} {ys : List β} {zs : List γ} (left : List.Forall₂ first xs ys)
    (right : List.Forall₂ second ys zs) : List.Forall₂ both xs zs := by
  induction left generalizing zs with
  | nil =>
      cases right
      exact .nil
  | cons pair _ inductionHypothesis =>
      cases right with
      | cons next rest => exact .cons (chain _ _ _ pair next) (inductionHypothesis rest)

theorem forall₂_zip_map {α β γ : Type} {related : α → β → Prop} {f : α → γ}
    {xs : List α} {ys : List β} (pairs : List.Forall₂ related xs ys) :
    List.Forall₂ (fun x y => y.1 = f x ∧ related x y.2) xs ((xs.map f).zip ys) := by
  induction pairs with
  | nil => exact .nil
  | cons same _ inductionHypothesis => exact .cons ⟨rfl, same⟩ inductionHypothesis

theorem forall₂_of_mem {α β : Type} {related stronger : α → β → Prop}
    {xs : List α} {ys : List β} (pairs : List.Forall₂ related xs ys)
    (each : ∀ x ∈ xs, ∀ y, related x y → stronger x y) :
    List.Forall₂ stronger xs ys := by
  induction pairs with
  | nil => exact .nil
  | cons same _ inductionHypothesis =>
      exact .cons (each _ List.mem_cons_self _ same)
        (inductionHypothesis fun x member =>
          each x (List.mem_cons_of_mem _ member))

theorem map_eq_of_forall₂ {α β γ : Type} {related : α → β → Prop} {f : α → γ}
    {g : β → γ} {xs : List α} {ys : List β} (pairs : List.Forall₂ related xs ys)
    (each : ∀ x y, related x y → f x = g y) : xs.map f = ys.map g := by
  induction pairs with
  | nil => rfl
  | cons same _ inductionHypothesis =>
      rw [List.map_cons, List.map_cons, each _ _ same, inductionHypothesis]

theorem rel_findSome? {α β γ δ : Type} {related : α → β → Prop}
    {alike : γ → δ → Prop} {f : α → Option γ} {g : β → Option δ} {xs : List α}
    {ys : List β} (pairs : List.Forall₂ related xs ys)
    (each : ∀ x y, related x y → Option.Rel alike (f x) (g y)) :
    Option.Rel alike (xs.findSome? f) (ys.findSome? g) := by
  induction pairs with
  | nil => exact .none
  | @cons x y xs ys same _ inductionHypothesis =>
      have head := each x y same
      rw [List.findSome?_cons, List.findSome?_cons]
      generalize f x = found, g y = other at head ⊢
      cases head with
      | some same => exact .some same
      | none => exact inductionHypothesis

end BatchBayes
