import ConfigTree.Eval.Expression
import ConfigTree.Proofs.Expr.Names

/-!
# Attributes and indices one by one

An evaluation collects the attributes and indices behind an operand, the innermost first, and
then goes through the list.  If the operand is a name, the attributes at the front of the list are
joined to it with dots, and what is joined so is looked up as a whole.  For the names and
attributes that a source writes, which have no dots, that is the same as to take each attribute
or index of the value of what stands before it.

## Main definitions

* `Expr.evalOperand` — the value of what stands before an attribute or index.

## Main results

* `Sight.resolve_dotted` — a name that is joined with attributes and taken apart again.
* `Expr.evalTrailed_eq` — the list is gone through one by one, behind the value of the operand.
* `Expr.evalAt_attribute`, `Expr.evalAt_subscript` — an attribute or index of what is before it.
-/

namespace ConfigTree

/-! ### Dotted names -/

namespace Sight

variable (sight : Sight)

/-- **Joining a name with attributes and taking it apart again changes nothing.** -/
theorem resolve_dotted (name : String) {attrs : List String}
    (hattrs : ∀ attr ∈ attrs, '.' ∉ attr.toList) :
    sight.resolve (dotted name attrs) = (do (← sight.resolve name).members attrs) := by
  -- `name` grows by an attribute at each step
  induction attrs generalizing name with
  | nil => exact (bind_pure _).symm
  | cons attr attrs ih =>
    obtain ⟨hattr, hrest⟩ := List.forall_mem_cons.1 hattrs
    have hmore : dotted name (attr :: attrs) = dotted (name ++ "." ++ attr) attrs := rfl
    rw [hmore, ih _ hrest, sight.resolve_append name hattr, bind_assoc]
    rfl

end Sight

/-! ### Lists of attributes and indices -/

namespace Trailer

/-- The attributes at the front are taken first. -/
theorem applyAll_eq (v : Value) (trailers : List Trailer) :
    applyAll v trailers = (do applyAll (← v.members (leading trailers)) (others trailers)) := by
  induction trailers generalizing v with
  | nil => rfl
  | cons trailer trailers ih =>
    cases trailer with
    | index value => rfl
    -- The remaining constructor is the one of attributes.
    | _ attr =>
      rw [leading, others, Value.members, bind_assoc]
      exact congrArg (v.member attr >>= ·) (funext ih)

end Trailer

namespace Expr

variable (env : Environment)

/-- The value of what stands before an attribute or index.  It counts as deeper only where the
attributes and indices end. -/
def evalOperand (value : Expr) (s : Spot) : Evaluated Value :=
  if value.isPostfix then evalAt env value (s.part 0) else s.nested 0 (evalAt env value)

variable {env} {value : Expr} {attr : String} {s : Spot}

/-- **The list is gone through one by one**, behind the value of the operand.  The attributes at
its front, which may come to be joined with a name, have no dots. -/
theorem evalTrailed_eq (hvalue : value.Everywhere Undotted) {trailers : List Trailer}
    (hleading : ∀ attr ∈ Trailer.leading trailers, '.' ∉ attr.toList) :
    evalTrailed env value (evalAt env value) s trailers
      = (do Trailer.applyAll (← evalOperand env value s) trailers) := by
  -- Over the operand; the list grows by what stands behind the operand within.
  induction hvalue generalizing s trailers with
  | @intro e hhere hparts ih =>
    cases e with
    | null | bool | int | float | str | call | list | tuple | dict | unary | power | chain | logical
      | compare => rfl
    | name n =>
      have hlookup : evalOperand env (.name n) s = env.lookup n := rfl
      have hjoined := env.resolve_dotted n hleading
      rw [env.resolve_of_notMem hhere] at hjoined
      rw [evalTrailed, hjoined, bind_assoc, hlookup]
      exact congrArg (env.lookup n >>= ·) (funext fun v => (Trailer.applyAll_eq v trailers).symm)
    | subscript value index =>
      have hwithin := @ih value (by simp)
      have hoperand : evalOperand env (.subscript value index) s
          = evalTrailed env value (evalAt env value) (s.part 0)
              [.index fun _ => (s.part 0).nested 1 (evalAt env index)] := rfl
      rw [evalTrailed, hwithin (by simp [Trailer.leading]), hoperand,
        hwithin (by simp [Trailer.leading])]
      simp only [Trailer.applyAll, bind_assoc]
      rfl
    -- The remaining constructor is the one of attributes.
    | _ value attr =>
      have hwithin := @ih value (by simp)
      have hoperand : evalOperand env (.attribute value attr) s
          = evalTrailed env value (evalAt env value) (s.part 0) [.attribute attr] := rfl
      have hmore : ∀ a ∈ Trailer.leading (.attribute attr :: trailers), '.' ∉ a.toList :=
        List.forall_mem_cons.2 ⟨hhere, hleading⟩
      have hone : ∀ a ∈ Trailer.leading [.attribute attr], '.' ∉ a.toList :=
        List.forall_mem_cons.2 ⟨hhere, List.forall_mem_nil _⟩
      rw [evalTrailed, hwithin hmore, hoperand, hwithin hone]
      simp only [Trailer.applyAll, bind_assoc]
      rfl

/-- **An attribute** is one of the value before it. -/
theorem evalAt_attribute (h : (Expr.attribute value attr).Everywhere Undotted) :
    evalAt env (.attribute value attr) s = (do (← evalOperand env value s).member attr) := by
  obtain ⟨hhere, hparts⟩ := h
  have hone : ∀ a ∈ Trailer.leading [.attribute attr], '.' ∉ a.toList :=
    List.forall_mem_cons.2 ⟨hhere, List.forall_mem_nil _⟩
  rw [evalAt, evalTrailed_eq (hparts value (by simp)) hone]
  refine congrArg (evalOperand env value s >>= ·) (funext fun v => ?_)
  exact bind_pure (v.member attr)

/-- **An index** is one of the value before it, which is evaluated first. -/
theorem evalAt_subscript {index : Expr} (h : (Expr.subscript value index).Everywhere Undotted) :
    evalAt env (.subscript value index) s
      = (do
        let v ← evalOperand env value s
        let i ← s.nested 1 (evalAt env index)
        v.item i) := by
  obtain ⟨-, hparts⟩ := h
  rw [evalAt, evalTrailed_eq (hparts value (by simp)) (by simp [Trailer.leading])]
  refine congrArg (evalOperand env value s >>= ·) (funext fun v => ?_)
  exact bind_pure _

end Expr

end ConfigTree
