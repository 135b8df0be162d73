import QueryFilter.Scalar

/-!
# Elements read one after another

A list of values is read by reading its elements in turn, up to the first one that is rejected. What is said
here of all elements is then known of the list: what they are read to, that they are read back from what was
written for them, and that they are told apart.
-/

namespace QueryFilter

theorem map_eq_ok_iff
    {outcome : Except ε α}
    {f : α → β}
    {result : β} :
    outcome.map f = .ok result ↔ ∃ value, outcome = .ok value ∧ f value = result := by
  cases outcome with
  | error fault => simp [Except.map]
  | ok value => simp [Except.map]

/-- Inputs are read to outputs exactly when they pair up, each input with what it is read to. -/
theorem mapM_eq_ok_iff
    {read : α → Except ε β}
    {inputs : List α}
    {outputs : List β} :
    inputs.mapM read = .ok outputs ↔
      ∃ pairs : List (α × β), pairs.map Prod.fst = inputs ∧ pairs.map Prod.snd = outputs ∧
        ∀ pair ∈ pairs, read pair.1 = .ok pair.2 := by
  constructor
  · intro accepted
    induction inputs generalizing outputs with
    | nil =>
        obtain rfl := Except.ok.inj accepted
        exact ⟨[], rfl, rfl, by simp⟩
    | cons first rest inductionHypothesis =>
        rw [List.mapM_cons] at accepted
        cases head : read first with
        | error fault => simp [head, bind, Except.bind] at accepted
        | ok output =>
            cases tail : rest.mapM read with
            | error fault => simp [head, tail, bind, Except.bind] at accepted
            | ok others =>
                obtain ⟨pairs, inputsEqual, outputsEqual, each⟩ := inductionHypothesis tail
                simp only [head, tail, bind, Except.bind, pure, Except.pure, Except.ok.injEq] at accepted
                refine ⟨(first, output) :: pairs, by simp [inputsEqual], by simp [outputsEqual, accepted], ?_⟩
                simpa [head] using each
  · rintro ⟨pairs, rfl, rfl, each⟩
    induction pairs with
    | nil => rfl
    | cons pair rest inductionHypothesis =>
        have head := each pair (List.mem_cons_self)
        have tail : (rest.map Prod.fst).mapM read = .ok (rest.map Prod.snd) := by
          apply inductionHypothesis
          intro other member
          exact each other (List.mem_cons_of_mem pair member)
        simp [List.mapM_cons, head, tail, bind, Except.bind, pure, Except.pure]

/-- Every element of a list is read to its image. -/
theorem mapM_map_eq_some
    {write : α → β}
    {read : β → Option γ}
    {meaning : α → γ}
    {inputs : List α}
    (each : ∀ input ∈ inputs, read (write input) = some (meaning input)) :
    (inputs.map write).mapM read = some (inputs.map meaning) := by
  induction inputs with
  | nil => rfl
  | cons first rest inductionHypothesis =>
      have head := each first List.mem_cons_self
      have tail : (rest.map write).mapM read = some (rest.map meaning) := by
        apply inductionHypothesis
        intro input member
        exact each input (List.mem_cons_of_mem first member)
      simp [head, tail]

/-- A list is not read when one of its elements is not. -/
theorem mapM_eq_none_of_mem
    {read : α → Option β}
    {inputs : List α}
    {input : α}
    (listed : input ∈ inputs)
    (unread : read input = none) :
    inputs.mapM read = none := by
  induction inputs with
  | nil => cases listed
  | cons first rest inductionHypothesis =>
      rw [List.mapM_cons]
      rcases List.mem_cons.1 listed with rfl | later
      · simp [unread]
      · simp [inductionHypothesis later]

/-- Lists with the same images are equal when the function tells their members apart. -/
theorem eq_of_map_eq_map
    {f : α → β}
    {left right : List α}
    (apart : ∀ first ∈ left, ∀ second ∈ right, f first = f second → first = second)
    (equal : left.map f = right.map f) :
    left = right := by
  induction left generalizing right with
  | nil => exact (List.map_eq_nil_iff.1 equal.symm).symm
  | cons first rest inductionHypothesis =>
      obtain ⟨second, others, rfl, head, tail⟩ := List.map_eq_cons_iff.1 equal.symm
      have heads : first = second :=
        apart first List.mem_cons_self second List.mem_cons_self head.symm
      have tails : rest = others := by
        apply inductionHypothesis _ tail.symm
        intro child listed other otherListed
        exact apart child (List.mem_cons_of_mem first listed) other (List.mem_cons_of_mem second otherListed)
      rw [heads, tails]

namespace Scalar

theorem mapM_ofJson?_map_toJson (operands : List Scalar) :
    (operands.map Scalar.toJson).mapM Scalar.ofJson? = some operands := by
  rw [mapM_map_eq_some fun operand _ => Scalar.ofJson?_toJson operand, List.map_id']

end Scalar
end QueryFilter
