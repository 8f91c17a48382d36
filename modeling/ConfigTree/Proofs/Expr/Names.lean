import ConfigTree.Eval.Scope
import ConfigTree.Proofs.Expr.Parts
import ConfigTree.Proofs.Text.Split

/-!
# The names in an expression

No name that a source writes has a dot.  So a name with attributes behind it, spelled as one
dotted name, comes apart into the same names again, and looking it up is looking up the name
and taking one attribute after the other.

The names that an expression mentions are those it looks up.  The function that it calls is
not among them, as that is found by name in a table of its own.

## Main definitions

* `Expr.Undotted` — a name or attribute without a dot.
* `Expr.operands`, `Expr.Mentions` — the parts that have a value of their own, and the names
  that are looked up in them.

## Main results

* `undotted_of_parseExpression` — no name that a source writes has a dot.
* `Sight.resolve_append` — one more attribute of a dotted name.
-/

namespace ConfigTree

namespace Expr

/-- A name or attribute has no dot. -/
def Undotted : Expr → Prop
  | .name n => '.' ∉ n.toList
  | .attribute _ attr => '.' ∉ attr.toList
  | _ => True

/-- The parts that have a value of their own: all but the head of a call. -/
@[simp] def operands : Expr → List Expr
  | .call _ args => args
  | e => e.parts

/-- The names that are looked up in an expression. -/
inductive Mentions (n : String) : Expr → Prop
  | name : Mentions n (.name n)
  | operand {e p : Expr} : p ∈ e.operands → Mentions n p → Mentions n e

end Expr

/-! ### Names of a source -/

/-- No letter of a name is a dot. -/
theorem Lexer.Scanned.dot_notMem {cs : List Char} {n : String} (h : Scanned cs (.name n)) :
    '.' ∉ n.toList := by
  obtain ⟨pos, c, rest, k, -, hscan⟩ := h
  rcases kind_of_scan hscan with (⟨x, hx⟩ | ⟨i, hi⟩) | ⟨hc, hword⟩ | ⟨s, hs, -⟩ | ⟨s, hs⟩
  · cases hx
  · cases hi
  · rcases kind_of_scanWord hc hword with ⟨k, hk⟩ | ⟨m, hm, hletters⟩
    · cases hk
    · cases hm
      intro hdot
      have hletter := hletters '.' hdot
      revert hletter
      decide
  · cases hs
  · cases hs

/-- No name that a source writes has a dot. -/
theorem undotted_of_parseExpression {source : String} {e : Expr}
    (h : parseExpression source = .ok e) : e.Everywhere Expr.Undotted := by
  obtain ⟨w, -, hscanned, hwritten⟩ := written_of_parseExpression h
  refine hwritten.mono fun e he => ?_
  cases e with
  | name n => exact (hscanned _ he).dot_notMem
  | null | bool | int | float | str | subscript | call | list | tuple | dict | unary | power
    | chain | logical | compare => trivial
  -- The remaining constructor is the one of attributes.
  | _ => exact (hscanned _ he).dot_notMem

/-! ### Dotted names -/

namespace TreePath

theorem parts_of_notMem {n : String} (h : '.' ∉ n.toList) : parts n = [n] := by
  rw [parts, Text.splitOn_of_notMem h, List.map_singleton, String.ofList_toList]

theorem parts_append (dotted : String) {attr : String} (h : '.' ∉ attr.toList) :
    parts (dotted ++ "." ++ attr) = parts dotted ++ [attr] := by
  have htext : (dotted ++ "." ++ attr).toList = dotted.toList ++ '.' :: attr.toList := by
    simp
  rw [parts, htext, Text.splitOn_append h, List.map_append, List.map_singleton,
    String.ofList_toList]
  rfl

end TreePath

theorem Value.members_append (v : Value) (attrs : List String) (attr : String) :
    v.members (attrs ++ [attr]) = (do (← v.members attrs).member attr) := by
  induction attrs generalizing v with
  | nil =>
    show (v.member attr >>= fun w => Except.ok w) = v.member attr
    exact bind_pure _
  | cons a attrs ih =>
    rw [List.cons_append, members, members, bind_assoc]
    congr 1
    funext w
    exact ih w

namespace Sight

variable (sight : Sight)

theorem resolve_of_parts {dotted first : String} {rest : List String}
    (h : TreePath.parts dotted = first :: rest) :
    sight.resolve dotted = (do (← sight.lookup first).members rest) := by
  rw [resolve, h]

/-- A name without a dot is looked up. -/
theorem resolve_of_notMem {n : String} (h : '.' ∉ n.toList) :
    sight.resolve n = sight.lookup n := by
  rw [sight.resolve_of_parts (TreePath.parts_of_notMem h)]
  exact bind_pure _

/-- **One more attribute of a dotted name** is the attribute of what the name stands for. -/
theorem resolve_append (dotted : String) {attr : String} (h : '.' ∉ attr.toList) :
    sight.resolve (dotted ++ "." ++ attr) = (do (← sight.resolve dotted).member attr) := by
  obtain ⟨first, rest, hparts⟩ := List.exists_cons_of_ne_nil (TreePath.parts_ne_nil dotted)
  have hmore : TreePath.parts (dotted ++ "." ++ attr) = first :: (rest ++ [attr]) := by
    rw [TreePath.parts_append dotted h, hparts, List.cons_append]
  rw [sight.resolve_of_parts hmore, sight.resolve_of_parts hparts, bind_assoc]
  congr 1
  funext v
  exact v.members_append rest attr

end Sight

namespace Expr

theorem dottedName?_attribute_eq_some {value : Expr} {attr dotted : String}
    (h : dottedName? (.attribute value attr) = some dotted) :
    ∃ front, dottedName? value = some front ∧ dotted = front ++ "." ++ attr := by
  rw [dottedName?] at h
  obtain ⟨front, hfront, rfl⟩ := Option.map_eq_some_iff.1 h
  exact ⟨front, hfront, rfl⟩

end Expr

end ConfigTree
