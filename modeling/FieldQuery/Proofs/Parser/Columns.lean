import FieldQuery.Proofs.Grammar.Columns
import FieldQuery.Proofs.Parser.Reworded
set_option autoImplicit false

namespace FieldQuery

def Token.moved (f : Nat → Nat) (t : Token) : Token := { t with column := f t.column }

theorem Token.moves_moved (f : Nat → Nat) : Token.Moves (Token.moved f) :=
  ⟨fun _ => rfl, fun _ => rfl⟩

theorem Token.reworded_id (f : Nat → Nat) : Token.reworded id f = Token.moved f := by
  funext t
  simp [reworded, moved]

theorem Except.mapError_eq_ok_iff {ε ε' α : Type} {f : ε → ε'} {x : Except ε α} {a : α} :
    x.mapError f = .ok a ↔ x = .ok a := by
  cases x with
  | error e => exact ⟨nofun, nofun⟩
  | ok b => constructor <;> rintro ⟨⟩ <;> rfl

theorem Parser.State.conclude_moved (f : Nat → Nat) (ts : List Token) :
    initial.conclude (ts.map (.moved f)) none = (initial.conclude ts none).mapError (.moved f) := by
  have h : initial.conclude (ts.map (.moved f)) none =
      Except.bimap (.moved f) (Node.reworded id) (initial.conclude ts none) := by
    rw [← Token.reworded_id]
    exact conclude_reworded id f initial ts
  rw [h]
  cases initial.conclude ts none with
  | error e => rfl
  | ok node => exact congrArg Except.ok (Node.reworded_id node)

end FieldQuery
