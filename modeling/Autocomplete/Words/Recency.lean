/-!
# Recently used documents

The identifiers of the documents that were active last, the most recent first, up to a capacity.
-/

namespace Autocomplete

/-- The most recently active documents. -/
structure Recency where
  capacity : Nat
  order : List Nat := []
  deriving DecidableEq, Repr

namespace Recency

def activate (r : Recency) (id : Nat) : Recency :=
  { r with order := (id :: r.order.filter (· ≠ id)).take r.capacity }

def close (r : Recency) (id : Nat) : Recency := { r with order := r.order.filter (· ≠ id) }

theorem length_order_activate (r : Recency) (id : Nat) :
    (r.activate id).order.length ≤ r.capacity := by
  simp only [activate, List.length_take]
  omega

end Recency

end Autocomplete
