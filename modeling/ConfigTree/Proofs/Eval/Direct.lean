import ConfigTree.Cipher.Fernet
import ConfigTree.Eval.Expression
import ConfigTree.Proofs.Eval.Trailers

/-!
# The plain meaning of an expression

An evaluation goes through runs: a name with its attributes is looked up at once, and operators,
operands and comparisons that stand side by side are taken one after the other.  The plain
meaning knows no runs.  Each attribute is one of the value before it, operators group from the
left, `and` and `or` from the right, and comparisons are those of neighbours, all of which must
hold.  It counts no levels either, so that the two agree unless an expression nests too deep.

## Main definitions

* `Environment.applied`, `Environment.compared`, `Connective.joined` — one operator between two
  outcomes.
* `Expr.direct` — the plain meaning.
* `Expr.Nested n` — an expression with `n` levels below it, if not more.
* `FunctionTable.fixed` — all functions, with sealing given.

## Main results

* `Expr.resolve_eq_direct` — a dotted name stands for what its parts stand for, one by one.
* `Expr.unless_evalAt_direct` — the step: an expression whose parts have their plain meaning
  has its own.
* `eval_eq_direct` — every expression of a source has its plain meaning.
-/

namespace ConfigTree

/-- A binary operator between two operands, the left one first. -/
def Environment.applied (env : Environment) (op : BinaryOp) (x y : Evaluated Value) :
    Evaluated Value := do
  let l ← x
  let r ← y
  env.operators.binary op l r

/-- A comparison of two operands, the left one first. -/
def Environment.compared (env : Environment) (op : Comparison) (x y : Evaluated Value) :
    Evaluated Value := do
  let l ← x
  let r ← y
  return .bool (← env.operators.compare op l r)

/-- The left operand if it decides, else the right one. -/
def Connective.joined (op : Connective) (x y : Evaluated Value) : Evaluated Value := do
  let v ← x
  if v.isTruthy == (op == .or) then return v else y

/-- What a function does depends on the keys, and not on the place where it is called. -/
def Function.Steady (f : Function) : Prop :=
  ∀ (caller : Caller) label args, f (caller.labelled label) args = f caller args

namespace Expr

section Meaning

variable (env : Environment)

mutual

/-- The plain meaning of an expression. -/
def direct : Expr → Evaluated Value
  | .null => .ok .null
  | .bool b => .ok (.bool b)
  | .int n => .ok (.int n)
  | .float x => .ok (.float x)
  | .str s => .ok (.str s)
  | .name n => env.lookup n
  | .attribute value attr => do (← direct value).member attr
  | .subscript value index => do
    let v ← direct value
    let i ← direct index
    v.item i
  | .call func args =>
    match dottedName? func with
    | none => .error .notCallable
    | some dotted =>
      match env.functions.get? dotted with
      | none => .error (.name (.unbound dotted))
      | some f => do f env.toCaller (← directAll args)
  | .list items => do return .list (← directAll items)
  | .tuple items => do return .list (← directAll items)
  | .dict entries => directEntries entries []
  | .unary op operand => do env.operators.unary op (← direct operand)
  | .power base exponent => env.applied .pow (direct base) (direct exponent)
  | .chain first rest => directChain rest (direct first)
  | .logical op operands => directLogical op operands
  | .compare first rest => directCompare rest (direct first)
termination_by structural e => e

/-- The plain meanings of the expressions, in order. -/
def directAll : List Expr → Evaluated (List Value)
  | [] => .ok []
  | e :: rest => do
    let v ← direct e
    let vs ← directAll rest
    return v :: vs
termination_by structural es => es

/-- The mapping `m` with the entries put in one after the other. -/
def directEntries : List (Expr × Expr) → Mapping → Evaluated Value
  | [], m => .ok (.map m)
  | (key, value) :: rest, m => do
    let k ← (← direct key).entryKey
    let v ← direct value
    directEntries rest (m.insert k v)
termination_by structural es => es

/-- Operators grouped from the left: `x ∘ a ∘ b` is `(x ∘ a) ∘ b`. -/
def directChain : List (BinaryOp × Expr) → Evaluated Value → Evaluated Value
  | [], x => x
  | (op, e) :: rest, x => directChain rest (env.applied op x (direct e))
termination_by structural es => es

/-- Connectives grouped from the right: `a and b and c` is `a and (b and c)`. -/
def directLogical (op : Connective) : List Expr → Evaluated Value
  | [] => .ok .null
  | [e] => direct e
  | e :: rest => op.joined (direct e) (directLogical op rest)
termination_by structural es => es

/-- All comparisons of neighbours: `x < a < b` is `x < a and a < b`. -/
def directCompare : List (Comparison × Expr) → Evaluated Value → Evaluated Value
  | [], x => do
    let _ ← x
    return .bool true
  | [(op, e)], x => env.compared op x (direct e)
  | (op, e) :: rest, x =>
    Connective.and.joined (env.compared op x (direct e)) (directCompare rest (direct e))
termination_by structural es => es

end

end Meaning

/-! ### Levels -/

/-- The part that counts as no deeper: what an attribute or an index follows, if that is a name
or ends with one itself. -/
def alongside : Expr → List Expr
  | .attribute value _ => if value.isPostfix then [value] else []
  | .subscript value _ => if value.isPostfix then [value] else []
  | _ => []

/-- The parts one level deeper. -/
@[simp] def deeper : Expr → List Expr
  | .attribute value _ => if value.isPostfix then [] else [value]
  | .subscript value index => if value.isPostfix then [index] else [value, index]
  | e => e.operands

/-- An expression has `n` levels below it, if not more. -/
inductive Nested : Nat → Expr → Prop
  | zero (e : Expr) : Nested 0 e
  | alongside {n : Nat} {e p : Expr} : p ∈ e.alongside → Nested n p → Nested n e
  | deeper {n : Nat} {e p : Expr} : p ∈ e.deeper → Nested n p → Nested (n + 1) e

/-- The failure of an expression that has `n` levels below it, where fewer are left. -/
def TooDeep (n : Nat) (e : Expr) (fault : EvalError) : Prop :=
  fault = .limit .nesting ∧ e.Nested n

/-! ### Runs -/

section Runs

variable {env : Environment} {P : EvalError → Prop}

theorem directCompare_cons (op : Comparison) (e : Expr) (rest : List (Comparison × Expr))
    (x : Evaluated Value) :
    directCompare env ((op, e) :: rest) x
      = Connective.and.joined (env.compared op x (direct env e))
          (directCompare env rest (direct env e)) := by
  cases rest with
  | cons => rfl
  | nil =>
    -- After the last comparison the operand on its right has a value, and so nothing is asked.
    rw [directCompare, directCompare]
    cases x with
    | error => rfl
    | ok l =>
      cases direct env e with
      | error => rfl
      | ok r =>
        simp only [Environment.compared, Connective.joined, ok_bind]
        cases env.operators.compare op l r with
        | error => rfl
        | ok b => cases b <;> rfl

theorem unless_evalAll_append {es : List Expr} {s : Spot}
    (h : ∀ e ∈ es, ∀ i, Unless P (s.nested i (evalAt env e)) (direct env e)) (i : Nat)
    (done : List Value) :
    Unless P (evalAll env es s i done) (do return done.reverse ++ (← directAll env es)) := by
  induction es generalizing i done with
  | nil =>
    rw [evalAll, directAll]
    exact .inl (by simp)
  | cons e es ih =>
    have hrest := ih fun e' he => h e' (List.mem_cons_of_mem e he)
    rw [evalAll, directAll, bind_assoc]
    refine (h e List.mem_cons_self i).bind fun v _ => ?_
    have hmore : (do return (v :: done).reverse ++ (← directAll env es))
        = ((do return v :: (← directAll env es)) >>= fun vs =>
            pure (done.reverse ++ vs) : Evaluated (List Value)) := by
      simp
    rw [← hmore]
    exact hrest (i + 1) (v :: done)

theorem unless_evalAll_direct {es : List Expr} {s : Spot}
    (h : ∀ e ∈ es, ∀ i, Unless P (s.nested i (evalAt env e)) (direct env e)) :
    Unless P (evalAll env es s 0 []) (directAll env es) := by
  simpa using unless_evalAll_append h 0 []

theorem unless_evalEntries_direct {entries : List (Expr × Expr)} {s : Spot}
    (hkeys : ∀ e ∈ entries, ∀ i, Unless P (s.nested i (evalAt env e.1)) (direct env e.1))
    (hvalues : ∀ e ∈ entries, ∀ i, Unless P (s.nested i (evalAt env e.2)) (direct env e.2))
    (i : Nat) (m : Mapping) :
    Unless P (evalEntries env entries s i m) (directEntries env entries m) := by
  induction entries generalizing i m with
  | nil => exact .refl _
  | cons e entries ih =>
    obtain ⟨key, value⟩ := e
    rw [evalEntries, directEntries]
    refine (hkeys (key, value) List.mem_cons_self i).bind fun k _ => ?_
    refine (Unless.refl k.entryKey).bind fun name _ => ?_
    refine (hvalues (key, value) List.mem_cons_self (i + 1)).bind fun v _ => ?_
    exact ih (fun e he => hkeys e (List.mem_cons_of_mem _ he))
      (fun e he => hvalues e (List.mem_cons_of_mem _ he)) (i + 2) (m.insert name v)

/-- The operators of a run, one after the other, group from the left. -/
theorem unless_evalChain_direct {rest : List (BinaryOp × Expr)} {s : Spot}
    (h : ∀ e ∈ rest.map Prod.snd, ∀ i, Unless P (s.nested i (evalAt env e)) (direct env e))
    (i : Nat) {x y : Evaluated Value} (hxy : Unless P x y) :
    Unless P (do evalChain env rest s i (← x)) (directChain env rest y) := by
  induction rest generalizing i x y with
  | nil =>
    rw [directChain]
    show Unless P (x >>= fun l => .ok l) y
    rwa [show (x >>= fun l => .ok l) = x from bind_pure x]
  | cons e rest ih =>
    obtain ⟨op, e⟩ := e
    have hstep : Unless P
        (do
          let l ← x
          let r ← s.nested i (evalAt env e)
          env.operators.binary op l r)
        (env.applied op y (direct env e)) := by
      refine hxy.bind fun l _ => ?_
      exact (h e List.mem_cons_self i).bind_left _
    have hrest := ih (fun e' he => h e' (List.mem_cons_of_mem e he)) (i + 1) hstep
    simpa only [evalChain, directChain, bind_assoc] using hrest

/-- The operands of a run, one after the other, group from the right. -/
theorem unless_evalLogical_direct (op : Connective) {e : Expr} {rest : List Expr} {s : Spot}
    (h : ∀ p ∈ e :: rest, ∀ i, Unless P (s.nested i (evalAt env p)) (direct env p)) (i : Nat)
    (v : Value) :
    Unless P (evalLogical env op (e :: rest) s i v) (directLogical env op (e :: rest)) := by
  induction rest generalizing e i v with
  | nil =>
    -- The last operand is the value, whether it decides or not.
    have hlast : evalLogical env op [e] s i v = s.nested i (evalAt env e) := by
      simp only [evalLogical, pure, Except.pure, ite_self]
      exact bind_pure _
    rw [hlast, directLogical]
    exact h e List.mem_cons_self i
  | cons e' rest ih =>
    show Unless P _ (op.joined (direct env e) (directLogical env op (e' :: rest)))
    rw [evalLogical, Connective.joined]
    refine (h e List.mem_cons_self i).bind fun w _ => ?_
    split
    · exact .refl _
    · exact ih (fun p hp => h p (List.mem_cons_of_mem e hp)) (i + 1) w

/-- The comparisons of a run, one after the other, are those of neighbours. -/
theorem unless_evalCompare_direct {rest : List (Comparison × Expr)} {s : Spot}
    (h : ∀ e ∈ rest.map Prod.snd, ∀ i, Unless P (s.nested i (evalAt env e)) (direct env e))
    (i : Nat) {x y : Evaluated Value} (hxy : Unless P x y) :
    Unless P (do evalCompare env rest s i (← x)) (directCompare env rest y) := by
  induction rest generalizing i x y with
  | nil =>
    rw [directCompare]
    exact hxy.bind_left _
  | cons e rest ih =>
    obtain ⟨op, e⟩ := e
    have hrest := fun r => ih (fun e' he => h e' (List.mem_cons_of_mem e he)) (i + 1)
      (Unless.refl (Except.ok r))
    rw [directCompare_cons]
    unfold Connective.joined Environment.compared
    simp only [bind_assoc, pure_bind]
    refine hxy.bind fun l _ => ?_
    rw [evalCompare]
    -- The operand has one value in both comparisons that it stands in.
    rcases h e List.mem_cons_self i with hsame | ⟨fault, hfault, hfailed⟩
    · rw [hsame]
      cases direct env e with
      | error => exact .refl _
      | ok r =>
        refine (Unless.refl (env.operators.compare op l r)).bind fun b _ => ?_
        cases b with
        | false => exact .refl _
        | true => exact hrest r
    · rw [hfailed]
      exact .of_error hfault _

end Runs

/-! ### Expressions -/

theorem deeper_subset_parts (e : Expr) : e.deeper ⊆ e.parts := by
  cases e with
  | null | bool | int | float | str | name | list | tuple | dict | unary | power | chain | logical
    | compare => exact List.Subset.refl _
  | call func args => exact List.subset_cons_self func args
  | subscript value index =>
    rw [deeper]
    split
    · exact List.subset_cons_self value [index]
    · exact List.Subset.refl _
  -- The remaining constructor is the one of attributes.
  | _ value attr =>
    rw [deeper]
    split
    · exact List.nil_subset _
    · exact List.Subset.refl _

section Agreement

variable {env : Environment}

/-- **A dotted name**, put together and taken apart again, stands for what its parts stand for,
one by one. -/
theorem resolve_eq_direct {e : Expr} (he : e.Everywhere Undotted) {dotted : String}
    (h : e.dottedName? = some dotted) : env.resolve dotted = direct env e := by
  induction he generalizing dotted with
  | @intro e hhere _ ih =>
    cases e with
    | name n =>
      cases h
      exact Sight.resolve_of_notMem _ hhere
    | null | bool | int | float | str | subscript | call | list | tuple | dict | unary | power
      | chain | logical | compare => cases h
    -- The remaining constructor is the one of attributes.
    | _ value attr =>
      obtain ⟨front, hfront, rfl⟩ := dottedName?_attribute_eq_some h
      rw [Sight.resolve_append _ front hhere, ih value (by simp) hfront, direct]

variable {n : Nat} {s : Spot} {e p value : Expr}

/-- A part one level deeper has its plain meaning, unless there is no such level. -/
theorem unless_nested_direct (hp : p ∈ e.deeper) (hs : n + s.depth = maxDepth + 2)
    (h : ∀ n s, n + s.depth = maxDepth + 2 →
      Unless (TooDeep n p) (evalAt env p s) (direct env p)) (i : Nat) :
    Unless (TooDeep n e) (s.nested i (evalAt env p)) (direct env p) := by
  unfold Spot.nested
  split
  next hfull =>
    refine .of_error ⟨rfl, ?_⟩ _
    have hn : n = 0 ∨ n = 1 := by omega
    rcases hn with rfl | rfl
    · exact .zero e
    · exact .deeper hp (.zero p)
  next hroom =>
    obtain ⟨m, rfl⟩ : ∃ m, n = m + 1 := ⟨n - 1, by omega⟩
    have hlevel : m + (s.depth + 1) = maxDepth + 2 := by omega
    have hpart := h m ⟨s.depth + 1, i :: s.label⟩ hlevel
    exact hpart.mono fun fault hfault => ⟨hfault.1, .deeper hp hfault.2⟩

/-- What stands before an attribute or an index. -/
theorem unless_evalOperand_direct (halong : value.isPostfix = true → value ∈ e.alongside)
    (hdeeper : value.isPostfix = false → value ∈ e.deeper) (hs : n + s.depth = maxDepth + 2)
    (h : ∀ n s, n + s.depth = maxDepth + 2 →
      Unless (TooDeep n value) (evalAt env value s) (direct env value)) :
    Unless (TooDeep n e) (evalOperand env value s) (direct env value) := by
  unfold evalOperand
  split
  next hpostfix =>
    exact (h n (s.part 0) hs).mono fun fault hfault =>
      ⟨hfault.1, .alongside (halong hpostfix) hfault.2⟩
  next hpostfix => exact unless_nested_direct (hdeeper (by simpa using hpostfix)) hs h 0

/-- **Every expression has its plain meaning**, unless it nests too deep: `n` is the number of
levels that may still be below it. -/
theorem unless_evalAt_direct
    (hsteady : ∀ dotted f, env.functions.get? dotted = some f → f.Steady)
    (he : e.Everywhere Undotted) (hs : n + s.depth = maxDepth + 2) :
    Unless (TooDeep n e) (evalAt env e s) (direct env e) := by
  -- Over the parts; `hdeeper` has those one level deeper, at every place.
  induction he generalizing n s with
  | @intro e hhere hall ih =>
    have hdeeper : ∀ p ∈ e.deeper, ∀ i,
        Unless (TooDeep n e) (s.nested i (evalAt env p)) (direct env p) := by
      intro p hp i
      exact unless_nested_direct hp hs (fun _ _ => ih p (deeper_subset_parts e hp)) i
    cases e with
    | null | bool | int | float | str | name => exact .refl _
    | subscript value index =>
      rw [evalAt_subscript ⟨hhere, hall⟩, direct]
      have hindex : index ∈ (subscript value index).deeper := by
        rw [deeper]
        split <;> simp
      have halong : value.isPostfix = true → value ∈ (subscript value index).alongside :=
        fun h => by simp [alongside, h]
      have hbelow : value.isPostfix = false → value ∈ (subscript value index).deeper :=
        fun h => by simp [h]
      have hvalue :=
        unless_evalOperand_direct halong hbelow hs fun _ _ => ih value (by simp)
      exact hvalue.bind fun v _ => (hdeeper index hindex 1).bind_left _
    | call func args =>
      rw [evalAt, direct]
      cases dottedName? func with
      | none => exact .refl _
      | some dotted =>
        dsimp only
        cases hf : env.functions.get? dotted with
        | none => exact .refl _
        | some f =>
          refine (unless_evalAll_direct hdeeper).bind fun vs _ => ?_
          rw [hsteady dotted f hf]
          exact .refl _
    | list items => exact (unless_evalAll_direct hdeeper).bind_left _
    | tuple items => exact (unless_evalAll_direct hdeeper).bind_left _
    | dict entries =>
      refine unless_evalEntries_direct (fun e he => ?_) (fun e he => ?_) 0 []
      · exact hdeeper e.1 (key_mem_parts he)
      · exact hdeeper e.2 (value_mem_parts he)
    | unary op operand => exact (hdeeper operand (by simp) 0).bind_left _
    | power base exponent =>
      refine (hdeeper base (by simp) 0).bind fun l _ => ?_
      exact (hdeeper exponent (by simp) 1).bind_left _
    | chain first rest =>
      refine unless_evalChain_direct (fun e he => ?_) 1 (hdeeper first List.mem_cons_self 0)
      exact hdeeper e (List.mem_cons_of_mem first he)
    | logical op operands =>
      cases operands with
      | nil => exact .refl _
      | cons first rest => exact unless_evalLogical_direct op hdeeper 0 .null
    | compare first rest =>
      refine unless_evalCompare_direct (fun e he => ?_) 1 (hdeeper first List.mem_cons_self 0)
      exact hdeeper e (List.mem_cons_of_mem first he)
    -- The remaining constructor is the one of attributes.
    | _ value attr =>
      rw [evalAt_attribute ⟨hhere, hall⟩, direct]
      have halong : value.isPostfix = true → value ∈ (Expr.attribute value attr).alongside :=
        fun h => by simp [alongside, h]
      have hbelow : value.isPostfix = false → value ∈ (Expr.attribute value attr).deeper :=
        fun h => by simp [h]
      have hvalue :=
        unless_evalOperand_direct halong hbelow hs fun _ _ => ih value (by simp)
      exact hvalue.bind_left _

end Agreement

end Expr

/-! ### Functions -/

namespace FunctionTable

/-- All functions, with the sealing of texts given. -/
def fixed (M : Number.Machine Evaluated) (sealing : String → Evaluated String) : FunctionTable :=
  Entries.insert (standard M) "F.encrypt"
    (Function.ofString "F.encrypt" fun _ s => do return .str (← sealing s))

/-- No function but the sealing one depends on where it is called. -/
theorem steady_of_mem_standard (M : Number.Machine Evaluated) :
    ∀ e ∈ standard M, e.1 = "F.encrypt" ∨ e.2.Steady := by
  simp only [standard, List.forall_mem_cons, true_or, true_and, List.not_mem_nil, false_implies,
    implies_true, and_true]
  -- What is left reads the tag and the key at most, and no occasion.
  and_intros <;> exact .inr fun _ _ _ => rfl

theorem steady_of_get?_fixed {M : Number.Machine Evaluated} {sealing : String → Evaluated String}
    (dotted : String) (f : Function) (h : (fixed M sealing).get? dotted = some f) : f.Steady := by
  by_cases hsealing : "F.encrypt" = dotted
  · subst hsealing
    rw [fixed, Entries.insert, Entries.get?_alter_self] at h
    cases h
    exact fun _ _ _ => rfl
  · rw [fixed, Entries.insert, Entries.get?_alter_of_ne _ hsealing] at h
    rcases steady_of_mem_standard M _ (Entries.mem_of_get? h) with hname | hsteady
    · exact absurd hname.symm hsealing
    · exact hsteady

end FunctionTable

/-- **Every expression of a source has its plain meaning**, unless it fails as there are more
than `maxDepth` levels below it; and every run of names in it stands for what its parts stand
for, one by one. -/
theorem eval_eq_direct {source : String} {e : Expr} (hparse : parseExpression source = .ok e)
    (caller : Caller) (operators : OperatorTable) (M : Number.Machine Evaluated)
    (sealing : String → Evaluated String) :
    let env : Environment := ⟨caller, .fixed M sealing, operators⟩
    (e.eval env = e.direct env
        ∨ e.eval env = .error (.limit .nesting) ∧ e.Nested (maxDepth + 1))
      ∧ e.Everywhere fun p => ∀ dotted, p.dottedName? = some dotted →
          env.resolve dotted = p.direct env := by
  intro env
  have hundotted := undotted_of_parseExpression hparse
  constructor
  · have hplain : Unless (Expr.TooDeep (maxDepth + 1) e) (e.eval env) (e.direct env) :=
      Expr.unless_evalAt_direct FunctionTable.steady_of_get?_fixed hundotted rfl
    rcases hplain with hsame | ⟨_, ⟨rfl, hnested⟩, hfailed⟩
    · exact .inl hsame
    · exact .inr ⟨hfailed, hnested⟩
  · exact hundotted.within.mono fun p hp dotted h => Expr.resolve_eq_direct hp h

/-- An operand with attributes around an index, in the middle of a run of comparisons. -/
theorem eval_eq_direct_of_run :
    let sight : Sight :=
      ⟨[⟨.globals, [("n", .str "m")]⟩], .null, .map [("a", .list [.map [("b", .str "k")]])]⟩
    let caller : Caller := ⟨sight, .keyless "!e"⟩
    let env : Environment := ⟨caller, .fixed Range.halting .ok, .standard⟩
    let e : Expr := .compare (.str "a")
      [(.lt, .attribute (.subscript (.attribute (.name "S") "a") (.int 0)) "b"),
        (.lt, .call (.attribute (.name "F") "encrypt") [.name "n"])]
    parseExpression "'a' < S.a[0].b < F.encrypt(n)" = .ok e ∧ e.eval env = .ok (.bool true)
      ∧ e.eval env = e.direct env := by
  intro sight caller env e
  have hparse : parseExpression "'a' < S.a[0].b < F.encrypt(n)" = .ok e := by cbv
  have hvalue : e.eval env = .ok (.bool true) := by cbv
  obtain ⟨hplain | ⟨hfailed, -⟩, -⟩ := eval_eq_direct hparse caller .standard Range.halting .ok
  · exact ⟨hparse, hvalue, hplain⟩
  · rw [hvalue] at hfailed
    cases hfailed

end ConfigTree
