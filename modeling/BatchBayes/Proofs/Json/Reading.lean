import Mathlib
import BatchBayes.Json.Reader
import BatchBayes.Proofs.Json.Lexing
/-!
Reading the text of a document gives the document. The stack machine takes the tokens
of a document from any place where a value may stand to the place after that value.
-/

namespace BatchBayes

namespace Json

namespace Assembly

/-! ## Runs -/

def run? (assembly : Assembly) (tokens : List Token) : Option Assembly :=
  tokens.foldlM push? assembly

@[simp]
theorem run?_nil (assembly : Assembly) : run? assembly [] = some assembly :=
  rfl

@[simp]
theorem run?_cons (assembly : Assembly) (token : Token) (tokens : List Token) :
    run? assembly (token :: tokens) = (push? assembly token).bind (run? · tokens) :=
  List.foldlM_cons

theorem run?_append (assembly : Assembly) (front back : List Token) :
    run? assembly (front ++ back) = (run? assembly front).bind (run? · back) :=
  List.foldlM_append

/-- Parts with commas between them. Each part is taken where one may start, and so is
the comma after it, whatever parts are there already. -/
theorem run?_intercalate {α : Type} {part : α → List Token}
    (starts : List α → Assembly → Prop) (after : List α → Assembly)
    (comma : ∀ item done, ∃ next,
      push? (after (item :: done)) .comma = some next ∧ starts (item :: done) next)
    {items : List α}
    (each : ∀ item ∈ items, ∀ done assembly, starts done assembly →
      run? assembly (part item) = some (after (item :: done)))
    (some_ : items ≠ []) {done : List α} {assembly : Assembly}
    (start : starts done assembly) :
    run? assembly ([Token.comma].intercalate (items.map part)) =
      some (after (items.reverse ++ done)) := by
  induction items generalizing done assembly with
  | nil => exact absurd rfl some_
  | cons item items inductionHypothesis =>
      have first := each item List.mem_cons_self done assembly start
      cases items with
      | nil => simpa using first
      | cons second items =>
          obtain ⟨next, pushed, restart⟩ := comma item done
          have rest := inductionHypothesis
            (fun other member => each other (List.mem_cons_of_mem _ member))
            (List.cons_ne_nil _ _) restart
          rw [List.map_cons, List.map_cons, List.intercalate_cons_cons, ← List.map_cons,
            List.append_assoc, run?_append, first, Option.bind_some,
            List.singleton_append, run?_cons, pushed, Option.bind_some, rest]
          simp

/-! ## Values -/

/-- A value may stand here, in these containers. -/
def ExpectsValue (frames : List Frame) (assembly : Assembly) : Prop :=
  (assembly.expects = .value ∨ assembly.expects = .firstItem) ∧
    assembly.frames = frames

/-- The tokens of the document put it where a value may stand. -/
def Takes (frames : List Frame) (document : Json) : Prop :=
  ∀ assembly, ExpectsValue frames assembly →
    run? assembly document.tokens = some (place frames document)

theorem push?_of_expectsValue {frames : List Frame} {assembly : Assembly}
    (expected : ExpectsValue frames assembly) {token : Token}
    (starts : token ≠ .closeList) : push? assembly token = startValue? frames token := by
  obtain ⟨expects, _, unfinished⟩ := assembly
  obtain ⟨value, rfl⟩ := expected
  -- Only where the first item may stand, the list may end instead.
  rcases value with rfl | rfl
  · cases token <;> rfl
  · cases token with
    | closeList => exact absurd rfl starts
    | _ => rfl

theorem takes_leaf {document : Json} (leaf : document.tokens = [.leaf document])
    (frames : List Frame) : Takes frames document := by
  intro assembly expected
  rw [leaf, run?_cons, push?_of_expectsValue expected (by simp)]
  rfl

theorem takes_text (frames : List Frame) (value : String) :
    Takes frames (.text value) := by
  intro assembly expected
  rw [tokens, run?_cons, push?_of_expectsValue expected (by simp)]
  rfl

/-! ## Lists -/

section Lists

variable {outer : List Frame} {items : List Json}

theorem close?_list (room : outer.length < depthLimit) (done : List Json) :
    close? (.list done :: outer) = some (place outer (.list done.reverse)) := by
  rw [close?, if_neg (by rw [List.length_cons]; omega)]

/-- After an item. -/
def afterItem (outer : List Frame) (done : List Json) : Assembly :=
  ⟨.afterItem, .list done :: outer, .null⟩

theorem takes_list (room : outer.length < depthLimit)
    (each : ∀ item ∈ items, ∀ done, Takes (.list done :: outer) item) :
    Takes outer (.list items) := by
  intro assembly expected
  have opened :
      push? assembly .openList = some ⟨.firstItem, .list [] :: outer, .null⟩ :=
    push?_of_expectsValue expected (by simp)
  rw [tokens, List.cons_append, run?_cons, opened, Option.bind_some, itemTokens_eq_map]
  by_cases empty : items = []
  · subst empty
    exact close?_list room []
  · have ran :
        run? ⟨.firstItem, .list [] :: outer, .null⟩
            ([Token.comma].intercalate (items.map tokens)) =
          some (afterItem outer (items.reverse ++ [])) :=
      run?_intercalate (fun done => ExpectsValue (.list done :: outer)) (afterItem outer)
        (fun _ _ => ⟨_, rfl, .inl rfl, rfl⟩) each empty ⟨.inr rfl, rfl⟩
    have closed := close?_list room items.reverse
    rw [List.reverse_reverse] at closed
    rw [run?_append, ran, Option.bind_some, List.append_nil]
    exact closed

end Lists

/-! ## Objects -/

section Objects

variable {outer : List Frame} {fields : List (String × Json)}

theorem close?_object (room : outer.length < depthLimit) (done : List (String × Json))
    (name : String) :
    close? (.object done name true :: outer) =
      some (place outer (.object done.reverse)) := by
  rw [close?, if_neg (by rw [List.length_cons]; omega)]

/-- The name of a field may stand here, in an object with these fields before it. -/
def ExpectsName (outer : List Frame) (done : List (String × Json))
    (assembly : Assembly) : Prop :=
  (assembly.expects = .firstName ∨ assembly.expects = .name) ∧
    ∃ last, assembly.frames = .object done last true :: outer

/-- After a field. -/
def afterField (outer : List Frame) (done : List (String × Json)) : Assembly :=
  ⟨.afterField, .object done (done.head?.elim "" Prod.fst) true :: outer, .null⟩

theorem run?_field {field : String × Json} {done : List (String × Json)}
    (takes : Takes (.object done field.1 true :: outer) field.2) {assembly : Assembly}
    (expected : ExpectsName outer done assembly) :
    run? assembly (tokensOfField field) = some (afterField outer (field :: done)) := by
  have nameTaken :
      push? assembly (.string (some field.1)) =
        some ⟨.colon, .object done field.1 true :: outer, .null⟩ := by
    obtain ⟨expects, _, unfinished⟩ := assembly
    obtain ⟨name, last, rfl⟩ := expected
    rcases name with rfl | rfl <;> rfl
  have colon :
      push? ⟨.colon, .object done field.1 true :: outer, .null⟩ .colon =
        some ⟨.value, .object done field.1 true :: outer, .null⟩ := rfl
  rw [tokensOfField, run?_cons, nameTaken, Option.bind_some, run?_cons, colon,
    Option.bind_some, takes _ ⟨.inl rfl, rfl⟩]
  rfl

theorem takes_object (room : outer.length < depthLimit)
    (each : ∀ field ∈ fields, ∀ done,
      Takes (.object done field.1 true :: outer) field.2) :
    Takes outer (.object fields) := by
  intro assembly expected
  have opened :
      push? assembly .openObject =
        some ⟨.firstName, .object [] "" true :: outer, .null⟩ :=
    push?_of_expectsValue expected (by simp)
  rw [tokens, List.cons_append, run?_cons, opened, Option.bind_some,
    fieldTokens_eq_map]
  by_cases empty : fields = []
  · subst empty
    exact close?_object room [] ""
  · have ran :
        run? ⟨.firstName, .object [] "" true :: outer, .null⟩
            ([Token.comma].intercalate (fields.map tokensOfField)) =
          some (afterField outer (fields.reverse ++ [])) :=
      run?_intercalate (ExpectsName outer) (afterField outer)
        (fun _ _ => ⟨_, rfl, .inr rfl, _, rfl⟩)
        (fun field member done _ start => run?_field (each field member done) start)
        empty ⟨.inl rfl, "", rfl⟩
    have closed := close?_object room fields.reverse
      (fields.reverse.head?.elim "" Prod.fst)
    rw [List.reverse_reverse] at closed
    rw [run?_append, ran, Option.bind_some, List.append_nil]
    exact closed

end Objects

/-! ## Documents -/

theorem takes_of_legible {room : Nat} {document : Json}
    (legible : document.Legible room) :
    ∀ frames : List Frame, frames.length + room ≤ depthLimit →
      Takes frames document := by
  induction legible with
  | null => exact fun frames _ => takes_leaf rfl frames
  | bool value => exact fun frames _ => takes_leaf rfl frames
  | integer => exact fun frames _ => takes_leaf rfl frames
  | real => exact fun frames _ => takes_leaf rfl frames
  | text value => exact fun frames _ => takes_text frames value
  | @list room items _ inductionHypothesis =>
      intro frames fits
      refine takes_list (by omega) fun item member done => ?_
      exact inductionHypothesis item member _ (by rw [List.length_cons]; omega)
  | @object room fields _ inductionHypothesis =>
      intro frames fits
      refine takes_object (by omega) fun field member done => ?_
      exact inductionHypothesis field member _ (by rw [List.length_cons]; omega)

end Assembly

/-- The indented text of a document that is not nested too deeply is read as the
document. -/
theorem parse?_pretty {room : Nat} {document : Json}
    (legible : document.Legible room) (shallow : room ≤ Assembly.depthLimit) :
    parse? document.pretty = some document := by
  have taken :
      document.tokens.foldlM Assembly.push? Assembly.start =
        some (Assembly.place [] document) :=
    Assembly.takes_of_legible legible [] (by simpa using shallow) .start ⟨.inl rfl, rfl⟩
  rw [parse?, tokens?_pretty legible, Option.bind_some, taken]
  rfl

end Json

end BatchBayes
