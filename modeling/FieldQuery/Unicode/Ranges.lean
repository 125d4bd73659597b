set_option autoImplicit false

namespace FieldQuery.Unicode

/-- Whether a range covers the code point. The search stops at the first range behind it, so the
list has to ascend. -/
def covers : List (Nat × Nat) → Nat → Bool
  | [], _ => false
  | (lo, hi) :: rest, n => if n < lo then false else n ≤ hi || covers rest n

end FieldQuery.Unicode
