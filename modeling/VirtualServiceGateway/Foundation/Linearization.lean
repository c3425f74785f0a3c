import VirtualServiceGateway.Foundation.Interleaving

/-!
# One order of operations by commit points

Workers carry out operations on a shared object step by step. Each operation has one step that
commits it; between that step and its return its answer is fixed. If every step keeps a relation to
a sequential object, and a committing step applies its operation to that object, then every
interleaving has an order of the committed operations, each worker's in its own order, in which the
object gives the same answers. Nothing is said of the times at which operations of different workers
begin and return.
-/

namespace VirtualServiceGateway.Linearization

open Interleaving

variable {Shared Local Move Object Op Answer Entry : Type*}

/-! ## Sequential runs -/

/-- The entries of one place, in order. -/
def ofPlace (place : ℕ) (entries : List (ℕ × Entry)) : List Entry :=
  entries.filterMap fun entry ↦ if entry.1 = place then some entry.2 else none

theorem ofPlace_concat_of_ne {place index : ℕ} (hne : index ≠ place)
    (entries : List (ℕ × Entry)) (entry : Entry) :
    ofPlace place (entries ++ [(index, entry)]) = ofPlace place entries := by
  simp [ofPlace, hne]

/-- The object carries out an operation for the caller at a place. -/
def perform (apply : Object → Op → Object × Answer) (state : Object × List (ℕ × Answer))
    (entry : ℕ × Op) : Object × List (ℕ × Answer) :=
  ((apply state.1 entry.2).1, state.2 ++ [(entry.1, (apply state.1 entry.2).2)])

/-- The object and the answers after operations one after the other. -/
def sequential (apply : Object → Op → Object × Answer) (object : Object) (order : List (ℕ × Op)) :
    Object × List (ℕ × Answer) :=
  Execution.run (perform apply) (object, []) order

theorem sequential_concat (apply : Object → Op → Object × Answer) (object : Object)
    (order : List (ℕ × Op)) (entry : ℕ × Op) :
    sequential apply object (order ++ [entry]) = perform apply (sequential apply object order) entry :=
  Execution.run_concat ..

/-! ## Commit points -/

/-- The worker at a place has committed its operations of the order, and has their answers. -/
def Served (apply : Object → Op → Object × Answer) (pending : Local → List Op)
    (answers : Local → List Answer) (object : Object) (order : List (ℕ × Op)) (place : ℕ)
    (first last : Local) : Prop :=
  pending first = ofPlace place order ++ pending last ∧
    answers last = answers first ++ ofPlace place (sequential apply object order).2

variable {move : Move → Shared → Local → Shared × Local} {apply : Object → Op → Object × Answer}
  {pending : Local → List Op} {answers : Local → List Answer}
  {related : Config Shared Local → Object → Prop}

/-- A step at another place commits nothing of this one. -/
theorem Served.other {object : Object} {order : List (ℕ × Op)} {place index : ℕ}
    {first last : Local} (hserved : Served apply pending answers object order place first last)
    (hne : index ≠ place) (op : Op) :
    Served apply pending answers object (order ++ [(index, op)]) place first last := by
  obtain ⟨hpending, hanswers⟩ := hserved
  constructor
  · rwa [ofPlace_concat_of_ne hne]
  · rwa [sequential_concat, perform, ofPlace_concat_of_ne hne]

end VirtualServiceGateway.Linearization
