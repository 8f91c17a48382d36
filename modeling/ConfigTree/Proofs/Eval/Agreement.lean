import ConfigTree.Cipher.Fernet
import ConfigTree.Proofs.Eval.Trailers

/-!
# Evaluations in two environments

An expression uses its environment in three ways: it looks up the names that it mentions, it
applies operators, and it calls functions.  Two environments that answer alike give it the
same value.  Where the one can answer less, as it lacks an operator or a function, it agrees
with the other until it refuses.

## Main definitions

* `Environment.called?` — what a call does at a place of an expression.
* `Environment.Follows P` — the one does with operators and functions what the other does,
  unless that is to fail with a fault with `P`.
* `OperatorTable.PartOf`, `FunctionTable.PartOf` — a table within another one.
* `Environment.Refuses` — the refusals of what only the other environment has.
* `FunctionTable.Blind` — functions that see nothing of where they are called but the keys.

## Main results

* `Expr.unless_evalAt` — the step: an expression whose parts agree agrees.
* `evaluate_widened` — more operators and functions change no outcome but a refusal.
* `evaluate_eq_of_mentions` — the names that an expression does not mention do not matter.
-/

namespace ConfigTree

/-- What a function does with arguments, called at a place of an expression. -/
def Environment.called? (env : Environment) (name : String) :
    Option (List Nat → List Value → Evaluated Value) :=
  (env.functions.get? name).map fun f label => f (env.toCaller.labelled label)

/-- What an environment does with operators and functions another one does too, unless that is
to fail with a fault with `P`. -/
structure Environment.Follows (P : EvalError → Prop) (env env' : Environment) : Prop where
  /-- Binary operators. -/
  binary : ∀ op l r, Unless P (env.operators.binary op l r) (env'.operators.binary op l r)
  /-- Unary operators. -/
  unary : ∀ op v, Unless P (env.operators.unary op v) (env'.operators.unary op v)
  /-- Comparisons. -/
  compare : ∀ op l r, Unless P (env.operators.compare op l r) (env'.operators.compare op l r)
  /-- Calls. -/
  called : ∀ name, env'.called? name = env.called? name
    ∨ env.called? name = none ∧ P (.name (.unbound name))

namespace Expr

variable {P : EvalError → Prop} {env env' : Environment}

/-! ### Lists of parts -/

theorem unless_nested {f g : Spot → Evaluated Value} (h : ∀ s, Unless P (f s) (g s)) (s : Spot)
    (i : Nat) : Unless P (s.nested i f) (s.nested i g) := by
  unfold Spot.nested
  split
  · exact .refl _
  · exact h _

theorem unless_evalAll {es : List Expr}
    (h : ∀ e ∈ es, ∀ s, Unless P (evalAt env e s) (evalAt env' e s)) (s : Spot) (i : Nat)
    (done : List Value) : Unless P (evalAll env es s i done) (evalAll env' es s i done) := by
  induction es generalizing i done with
  | nil => exact .refl _
  | cons e es ih =>
    have hes : ∀ e' ∈ es, ∀ s, Unless P (evalAt env e' s) (evalAt env' e' s) := fun e' he =>
      h e' (List.mem_cons_of_mem e he)
    refine (unless_nested (h e List.mem_cons_self) s i).bind fun v _ => ?_
    exact ih hes (i + 1) (v :: done)

theorem unless_evalEntries {entries : List (Expr × Expr)}
    (hkeys : ∀ e ∈ entries, ∀ s, Unless P (evalAt env e.1 s) (evalAt env' e.1 s))
    (hvalues : ∀ e ∈ entries, ∀ s, Unless P (evalAt env e.2 s) (evalAt env' e.2 s)) (s : Spot)
    (i : Nat) (done : Mapping) :
    Unless P (evalEntries env entries s i done) (evalEntries env' entries s i done) := by
  induction entries generalizing i done with
  | nil => exact .refl _
  | cons e entries ih =>
    obtain ⟨key, value⟩ := e
    have hkey := unless_nested (hkeys (key, value) List.mem_cons_self) s i
    have hvalue := unless_nested (hvalues (key, value) List.mem_cons_self) s (i + 1)
    refine hkey.bind fun k _ => (Unless.refl k.entryKey).bind fun name _ => ?_
    refine hvalue.bind fun v _ => ?_
    exact ih (fun e' he => hkeys e' (List.mem_cons_of_mem _ he))
      (fun e' he => hvalues e' (List.mem_cons_of_mem _ he)) (i + 2) (done.insert name v)

theorem unless_evalLogical (op : Connective) {operands : List Expr}
    (h : ∀ e ∈ operands, ∀ s, Unless P (evalAt env e s) (evalAt env' e s)) (s : Spot) (i : Nat)
    (v : Value) :
    Unless P (evalLogical env op operands s i v) (evalLogical env' op operands s i v) := by
  induction operands generalizing i v with
  | nil => exact .refl _
  | cons e rest ih =>
    refine (unless_nested (h e List.mem_cons_self) s i).bind fun w _ => ?_
    -- The same operand decides on both sides.
    split
    · exact .refl _
    · exact ih (fun e' he => h e' (List.mem_cons_of_mem e he)) (i + 1) w

/-- What stands before an attribute or an index. -/
theorem unless_evalOperand {value : Expr}
    (h : ∀ s, Unless P (evalAt env value s) (evalAt env' value s)) (s : Spot) :
    Unless P (evalOperand env value s) (evalOperand env' value s) := by
  unfold evalOperand
  split
  · exact h _
  · exact unless_nested h s 0

theorem evalAt_call (func : Expr) (args : List Expr) (s : Spot) :
    evalAt env (.call func args) s
      = (dottedName? func).elim (.error .notCallable) fun name =>
          (env.called? name).elim (.error (.name (.unbound name))) fun f =>
            evalAll env args s 0 [] >>= f s.label := by
  rw [evalAt]
  cases dottedName? func with
  | none => rfl
  | some name =>
    dsimp only [Environment.called?, Option.elim_some]
    cases env.functions.get? name <;> rfl

section Table

variable (hfollows : env.Follows P env')
include hfollows

theorem unless_evalChain {rest : List (BinaryOp × Expr)}
    (h : ∀ e ∈ rest.map Prod.snd, ∀ s, Unless P (evalAt env e s) (evalAt env' e s)) (s : Spot)
    (i : Nat) (l : Value) : Unless P (evalChain env rest s i l) (evalChain env' rest s i l) := by
  induction rest generalizing i l with
  | nil => exact .refl _
  | cons e rest ih =>
    obtain ⟨op, e⟩ := e
    -- the operand first, then the operator of the table, then the rest of the chain
    refine (unless_nested (h e List.mem_cons_self) s i).bind fun r _ => ?_
    refine (hfollows.binary op l r).bind fun v _ => ?_
    exact ih (fun e' he => h e' (List.mem_cons_of_mem e he)) (i + 1) v

theorem unless_evalCompare {rest : List (Comparison × Expr)}
    (h : ∀ e ∈ rest.map Prod.snd, ∀ s, Unless P (evalAt env e s) (evalAt env' e s)) (s : Spot)
    (i : Nat) (l : Value) :
    Unless P (evalCompare env rest s i l) (evalCompare env' rest s i l) := by
  induction rest generalizing i l with
  | nil => exact .refl _
  | cons e rest ih =>
    obtain ⟨op, e⟩ := e
    refine (unless_nested (h e List.mem_cons_self) s i).bind fun r _ => ?_
    refine (hfollows.compare op l r).bind fun b _ => ?_
    split
    · exact ih (fun e' he => h e' (List.mem_cons_of_mem e he)) (i + 1) r
    · exact .refl _

/-- The function is found by the name of the head, and no scope is asked. -/
theorem unless_evalCall (func : Expr) {args : List Expr}
    (h : ∀ e ∈ args, ∀ s, Unless P (evalAt env e s) (evalAt env' e s)) (s : Spot) :
    Unless P (evalAt env (.call func args) s) (evalAt env' (.call func args) s) := by
  rw [evalAt_call, evalAt_call]
  cases dottedName? func with
  | none => exact .refl _
  | some name =>
    dsimp only [Option.elim_some]
    -- either both have the same function, and then it gets the same arguments; or it is
    -- missing in the first, which refuses before it looks at an argument
    rcases hfollows.called name with hsame | ⟨hnone, hrefused⟩
    · rw [hsame]
      -- found or not, it is so in both
      cases env.called? name with
      | none => exact .refl _
      | some f => exact (unless_evalAll h s 0 []).bind_left _
    · rw [hnone]
      exact .of_error hrefused _

end Table

/-! ### Expressions -/

/-- **An expression agrees with itself** in an environment that follows, if the names that it
mentions stand for the same. -/
theorem unless_evalAt (hfollows : env.Follows P env') {e : Expr} (he : e.Everywhere Undotted)
    (hnames : ∀ n, e.Mentions n → env.lookup n = env'.lookup n) (s : Spot) :
    Unless P (evalAt env e s) (evalAt env' e s) := by
  -- Over the parts; `hparts` has those with a value of their own, at every spot.
  induction he generalizing s with
  | @intro e hhere hall ih =>
    have hparts : ∀ p ∈ e.parts, p ∈ e.operands →
        ∀ s, Unless P (evalAt env p s) (evalAt env' p s) := by
      intro p hp hoperand s
      exact ih p hp (fun n hn => hnames n (.operand hoperand hn)) s
    cases e with
    | null | bool | int | float | str => exact .refl _
    -- the only place where a name is looked up
    | name n => exact .inl (hnames n .name)
    | subscript value index =>
      rw [evalAt_subscript ⟨hhere, hall⟩, evalAt_subscript ⟨hhere, hall⟩]
      have hvalue := hparts value (by simp) (by simp)
      have hindex := hparts index (by simp) (by simp)
      refine (unless_evalOperand hvalue s).bind fun v _ => ?_
      exact (unless_nested hindex s 1).bind_left _
    | call func args =>
      refine unless_evalCall hfollows func (fun e he => ?_) s
      exact hparts e (List.mem_cons_of_mem func he) he
    | list items => exact (unless_evalAll (fun e he => hparts e he he) s 0 []).bind_left _
    | tuple items => exact (unless_evalAll (fun e he => hparts e he he) s 0 []).bind_left _
    | dict entries =>
      refine unless_evalEntries (fun e he => ?_) (fun e he => ?_) s 0 []
      · exact hparts e.1 (key_mem_parts he) (key_mem_parts he)
      · exact hparts e.2 (value_mem_parts he) (value_mem_parts he)
    | unary op operand =>
      have hoperand := hparts operand (by simp) (by simp)
      exact (unless_nested hoperand s 0).bind fun v _ => hfollows.unary op v
    | power base exponent =>
      have hbase := hparts base (by simp) (by simp)
      have hexponent := hparts exponent (by simp) (by simp)
      refine (unless_nested hbase s 0).bind fun l _ => ?_
      exact (unless_nested hexponent s 1).bind fun r _ => hfollows.binary .pow l r
    | chain first rest =>
      have hfirst := hparts first List.mem_cons_self List.mem_cons_self
      refine (unless_nested hfirst s 0).bind fun l _ => ?_
      refine unless_evalChain hfollows (fun e he => ?_) s 1 l
      exact hparts e (List.mem_cons_of_mem first he) (List.mem_cons_of_mem first he)
    | logical op operands => exact unless_evalLogical op (fun e he => hparts e he he) s 0 .null
    | compare first rest =>
      have hfirst := hparts first List.mem_cons_self List.mem_cons_self
      refine (unless_nested hfirst s 0).bind fun l _ => ?_
      refine unless_evalCompare hfollows (fun e he => ?_) s 1 l
      exact hparts e (List.mem_cons_of_mem first he) (List.mem_cons_of_mem first he)
    -- The remaining constructor is the one of attributes.
    | _ value attr =>
      rw [evalAt_attribute ⟨hhere, hall⟩, evalAt_attribute ⟨hhere, hall⟩]
      have hvalue := hparts value (by simp) (by simp)
      exact (unless_evalOperand hvalue s).bind_left _

end Expr

/-! ### Sources -/

/-- A source agrees with itself in an environment that follows, if the names that it mentions
stand for the same. -/
theorem unless_evaluate {P : EvalError → Prop} {env env' : Environment}
    (hfollows : env.Follows P env') {source : String}
    (hnames : ∀ e, parseExpression source = .ok e →
      ∀ n, e.Mentions n → env.lookup n = env'.lookup n) :
    Unless P (env.evaluate source) (env'.evaluate source) := by
  unfold Environment.evaluate
  split
  · exact .refl _
  -- blank and unreadable sources are the same in any environment
  · cases hparse : parseExpression source with
    | error fault => exact .refl _
    | ok e =>
      have hundotted := undotted_of_parseExpression hparse
      exact Expr.unless_evalAt hfollows hundotted (hnames e hparse) ⟨1, []⟩

/-! ### More operators and functions -/

namespace OperatorTable

variable (t : OperatorTable)

theorem binary_eq (op : BinaryOp) (l r : Value) :
    t.binary op l r = (t.binary? op).elim (.error (.unsupported (.binary op))) fun m => m l r := by
  unfold binary
  cases t.binary? op <;> rfl

theorem unary_eq (op : UnaryOp) (v : Value) :
    t.unary op v = (t.unary? op).elim (.error (.unsupported (.unary op))) fun m => m v := by
  unfold unary
  cases t.unary? op <;> rfl

theorem compare_eq (op : Comparison) (l r : Value) :
    t.compare op l r = (t.compare? op).elim (.error (.unsupported (.compare op)))
      fun m => (m l r).map Value.isTruthy := by
  unfold compare
  cases t.compare? op <;> rfl

end OperatorTable

/-- A table is part of one that has its operators too, with the same meanings. -/
structure OperatorTable.PartOf (t t' : OperatorTable) : Prop where
  /-- Binary operators. -/
  binary : ∀ op m, t.binary? op = some m → t'.binary? op = some m
  /-- Unary operators. -/
  unary : ∀ op m, t.unary? op = some m → t'.unary? op = some m
  /-- Comparisons. -/
  compare : ∀ op m, t.compare? op = some m → t'.compare? op = some m

theorem OperatorTable.PartOf.trans {t t' t'' : OperatorTable} (h : t.PartOf t')
    (h' : t'.PartOf t'') : t.PartOf t'' :=
  ⟨fun op m hm => h'.binary op m (h.binary op m hm), fun op m hm => h'.unary op m (h.unary op m hm),
    fun op m hm => h'.compare op m (h.compare op m hm)⟩

/-- A table is part of one that has its functions too. -/
def FunctionTable.PartOf (t t' : FunctionTable) : Prop :=
  ∀ name f, t.get? name = some f → t'.get? name = some f

/-- An operator that is taken away leaves a part. -/
theorem OperatorTable.remove_partOf (t : OperatorTable) (op : Operator) :
    (t.remove op).PartOf t := by
  cases op with
  | binary op =>
    refine ⟨fun o m h => ?_, fun _ _ h => h, fun _ _ h => h⟩
    by_cases ho : o = op
    · simp [remove, setBinary, ho] at h
    · simpa [remove, setBinary, ho] using h
  | unary op =>
    refine ⟨fun _ _ h => h, fun o m h => ?_, fun _ _ h => h⟩
    by_cases ho : o = op
    · simp [remove, setUnary, ho] at h
    · simpa [remove, setUnary, ho] using h
  | compare op =>
    refine ⟨fun _ _ h => h, fun _ _ h => h, fun o m h => ?_⟩
    by_cases ho : o = op
    · simp [remove, setCompare, ho] at h
    · simpa [remove, setCompare, ho] using h

/-- The operators on bits come on top of the others. -/
theorem OperatorTable.standard_partOf_withBits : standard.PartOf withBits := by
  refine ⟨fun op m h => ?_, fun op m h => ?_, fun _ _ h => h⟩
  · cases op with
    | bitAnd | bitOr | bitXor | shiftLeft | shiftRight => cases h
    | _ => exact h
  · cases op with
    | invert => cases h
    | _ => exact h

namespace Environment

/-- The refusals of an operator or function that only the other environment has. -/
inductive Refuses (env env' : Environment) : EvalError → Prop
  | operator {op : Operator} : env.operators.supports op = false →
    env'.operators.supports op = true → Refuses env env' (.unsupported op)
  | function {name : String} : env.functions.has name = false →
    env'.functions.has name = true → Refuses env env' (.name (.unbound name))

variable {env env' : Environment}

/-- An operator that has its meaning from both tables, or is refused without one. -/
theorem unless_refused {α β : Type} {m m' : Option α} (hpart : ∀ a, m = some a → m' = some a)
    {op : Operator} (hop : env.operators.supports op = m.isSome)
    (hop' : env'.operators.supports op = m'.isSome) (f : α → Evaluated β) :
    Unless (env.Refuses env') (m.elim (.error (.unsupported op)) f)
      (m'.elim (.error (.unsupported op)) f) := by
  cases m with
  | some a =>
    rw [hpart a rfl]
    exact .refl _
  | none =>
    -- missing in both, or only in the first, which is what it refuses
    cases m' with
    | none => exact .refl _
    | some a => exact .of_error (.operator hop hop') _

/-- An environment with more operators and functions follows until the other one refuses. -/
theorem follows_of_partOf (hcaller : env'.toCaller = env.toCaller)
    (hoperators : env.operators.PartOf env'.operators)
    (hfunctions : env.functions.PartOf env'.functions) : env.Follows (env.Refuses env') env' where
  binary op l r := by
    rw [OperatorTable.binary_eq, OperatorTable.binary_eq]
    exact unless_refused (hoperators.binary op) rfl rfl fun m => m l r
  unary op v := by
    rw [OperatorTable.unary_eq, OperatorTable.unary_eq]
    exact unless_refused (hoperators.unary op) rfl rfl fun m => m v
  compare op l r := by
    rw [OperatorTable.compare_eq, OperatorTable.compare_eq]
    exact unless_refused (hoperators.compare op) rfl rfl fun m => (m l r).map Value.isTruthy
  -- a function of the first is one of the second; it is called with the same sight and keys
  called name := by
    unfold called?
    cases h : env.functions.get? name with
    | some f =>
      rw [hfunctions name f h, hcaller]
      exact .inl rfl
    | none =>
      cases h' : env'.functions.get? name with
      | none => exact .inl rfl
      | some f =>
        refine .inr ⟨rfl, .function ?_ ?_⟩
        · simp [Entries.has, h]
        · simp [Entries.has, h']

end Environment

/-- **More operators and functions change no outcome but a refusal.**  What has a value keeps
it, and what fails fails in the same way, unless a name or operator was missing; and an
operator or function that is missing makes a difference only where it is refused. -/
theorem evaluate_widened {env env' : Environment} (hcaller : env'.toCaller = env.toCaller)
    (hoperators : env.operators.PartOf env'.operators)
    (hfunctions : env.functions.PartOf env'.functions) (source : String) :
    (∀ v, env.evaluate source = .ok v → env'.evaluate source = .ok v)
      ∧ (∀ e, env.evaluate source = .error e → (∀ op, e ≠ .unsupported op) →
        (∀ fault, e ≠ .name fault) → env'.evaluate source = .error e)
      ∧ (env'.evaluate source ≠ env.evaluate source →
        ∃ e, env.Refuses env' e ∧ env.evaluate source = .error e) := by
  have hfollows := Environment.follows_of_partOf hcaller hoperators hfunctions
  have hagree : Unless (env.Refuses env') (env.evaluate source) (env'.evaluate source) :=
    unless_evaluate hfollows fun _ _ n _ => by rw [hcaller]
  -- they come to the same, or the first one refused what only the second one has
  rcases hagree with hsame | ⟨e, hrefused, hfailed⟩
  · rw [← hsame]
    exact ⟨fun _ h => h, fun _ h _ _ => h, fun h => absurd rfl h⟩
  · rw [hfailed]
    refine ⟨?_, ?_, fun _ => ⟨e, hrefused, rfl⟩⟩
    · intro v h
      cases h
    · intro e' h hop hname
      cases h
      cases hrefused with
      | operator => exact absurd rfl (hop _)
      | function => exact absurd rfl (hname _)

/-- Without `<` and with two functions, one of which shows `S`, an equality that holds leaves the
`<` behind `or` alone; behind `and` it is refused, and only there do the two differ. -/
theorem evaluate_widened_of_removed :
    let caller : Caller := ⟨⟨[⟨.globals, [("n", .int 2)]⟩], .null, .int 2⟩, .keyless "!e"⟩
    let shown : Function := fun caller _ => .ok caller.current
    let env : Environment :=
      ⟨caller, [("len", Function.len), ("shown", shown)],
        OperatorTable.standard.remove (.compare .lt)⟩
    let env' : Environment :=
      ⟨caller, ("shown", shown) :: FunctionTable.standard Range.halting, .withBits⟩
    env'.toCaller = env.toCaller ∧ env.operators.PartOf env'.operators
      ∧ env.functions.PartOf env'.functions
      ∧ env'.evaluate "len('ab') == shown() or n < n" = .ok (.bool true)
      ∧ ∃ e, env.Refuses env' e ∧ env.evaluate "len('ab') == shown() and n < n" = .error e := by
  intro caller shown env env'
  have hoperators : env.operators.PartOf env'.operators :=
    (OperatorTable.remove_partOf .standard (.compare .lt)).trans
      OperatorTable.standard_partOf_withBits
  have hfunctions : env.functions.PartOf env'.functions := by
    intro name f h
    simp only [env, Entries.get?_cons, Entries.get?_nil] at h
    split at h
    next hname =>
      cases h
      subst hname
      rfl
    next =>
      split at h
      next hname =>
        cases h
        subst hname
        rfl
      next => cases h
  let equality : Expr :=
    .compare (.call (.name "len") [.str "ab"]) [(.eq, .call (.name "shown") [])]
  let less : Expr := .compare (.name "n") [(.lt, .name "n")]
  have hor : parseExpression "len('ab') == shown() or n < n"
      = .ok (.logical .or [equality, less]) := by cbv
  have hand : parseExpression "len('ab') == shown() and n < n"
      = .ok (.logical .and [equality, less]) := by cbv
  have hwiden := @evaluate_widened env env' rfl hoperators hfunctions
  refine ⟨rfl, hoperators, hfunctions, ?_, ?_⟩
  · obtain ⟨hvalue, -, -⟩ := hwiden "len('ab') == shown() or n < n"
    refine hvalue _ ?_
    rw [Environment.evaluate_of_parse hor rfl]
    cbv
  · obtain ⟨-, -, hdiffer⟩ := hwiden "len('ab') == shown() and n < n"
    refine hdiffer ?_
    rw [Environment.evaluate_of_parse hand rfl, Environment.evaluate_of_parse hand rfl]
    -- the equality holds, so behind `and` the `<` is reached
    have hrefused : (Expr.logical .and [equality, less]).eval env
        = .error (.unsupported (.compare .lt)) := by cbv
    have hfalse : (Expr.logical .and [equality, less]).eval env' = .ok (.bool false) := by cbv
    rw [hrefused, hfalse]
    simp

/-! ### Other names -/

/-- A function that sees nothing of where it is called but the keys. -/
def Function.Blind (f : Function) : Prop :=
  ∀ caller caller' : Caller, caller'.keys = caller.keys → ∀ args, f caller' args = f caller args

/-- Functions that see nothing of where they are called but the keys. -/
def FunctionTable.Blind (t : FunctionTable) : Prop :=
  ∀ name f, t.get? name = some f → f.Blind

namespace Function

theorem blind_ofString (name : String) (f : Keyring → String → Evaluated Value) :
    (ofString name fun caller s => f caller.keys s).Blind := by
  intro caller caller' hkeys args
  simp only [ofString, ofOne, hkeys]

theorem blind_encrypt : encrypt.Blind :=
  blind_ofString "F.encrypt" fun keys s => do return .str (← keys.encrypt s)

theorem blind_decrypt : decrypt.Blind :=
  blind_ofString "F.decrypt" fun keys s => do return .str (← keys.decrypt s)

end Function

/-- The two functions that seal and open texts read the keys, and the others nothing. -/
theorem FunctionTable.blind_standard (M : Number.Machine Evaluated) : (standard M).Blind := by
  have hall : ∀ e ∈ standard M, e.2.Blind := by
    simp only [standard, List.forall_mem_cons, Function.blind_encrypt, Function.blind_decrypt,
      true_and, List.not_mem_nil, false_implies, implies_true, and_true]
    and_intros <;> exact fun _ _ _ _ => rfl
  intro name f hf
  exact hall _ (Entries.mem_of_get? hf)

theorem Environment.called?_eq_of_blind {env env' : Environment} (hkeys : env'.keys = env.keys)
    (hfunctions : env'.functions = env.functions) (hblind : env.functions.Blind) (name : String) :
    env'.called? name = env.called? name := by
  unfold called?
  rw [hfunctions]
  cases hf : env.functions.get? name with
  | none => rfl
  | some f =>
    have hlabelled : ∀ label, (env'.toCaller.labelled label).keys
        = (env.toCaller.labelled label).keys := fun label => by
      rw [Caller.keys_labelled, Caller.keys_labelled, hkeys]
    exact congrArg some (funext fun label => funext (hblind name f hf _ _ (hlabelled label)))

/-- Two environments that differ in what names stand for alone follow each other. -/
theorem Environment.follows_of_blind {env env' : Environment} (hkeys : env'.keys = env.keys)
    (hoperators : env'.operators = env.operators) (hfunctions : env'.functions = env.functions)
    (hblind : env.functions.Blind) : env.Follows (fun _ => False) env' where
  binary op l r := .inl (by rw [hoperators])
  unary op v := .inl (by rw [hoperators])
  compare op l r := .inl (by rw [hoperators])
  called name := .inl (called?_eq_of_blind hkeys hfunctions hblind name)

/-- **An expression sees only what it names**: what stands for the names that it does not
mention, and what stands in a scope for the functions that it calls, does not matter, as long as
the functions themselves do not look; and the standard ones do not. -/
theorem evaluate_eq_of_mentions :
    (∀ M, (FunctionTable.standard M).Blind)
      ∧ ∀ {env env' : Environment}, env'.keys = env.keys → env'.operators = env.operators →
        env'.functions = env.functions → env.functions.Blind →
        ∀ {source : String} {e : Expr}, parseExpression source = .ok e →
        (∀ n, e.Mentions n → env.lookup n = env'.lookup n) →
        env.evaluate source = env'.evaluate source := by
  refine ⟨FunctionTable.blind_standard, ?_⟩
  intro env env' hkeys hoperators hfunctions hblind source e hparse hnames
  have hfollows := Environment.follows_of_blind hkeys hoperators hfunctions hblind
  have hagree : Unless (fun _ => False) (env.evaluate source) (env'.evaluate source) := by
    refine unless_evaluate hfollows fun e' he => ?_
    rw [hparse] at he
    cases he
    exact hnames
  exact hagree.eq_of_not fun _ h => h

/-- A call of `len` in two environments that differ in the tree, in an entry of `P`, in a name
bound to a function's, and in a name that is not mentioned. -/
theorem evaluate_eq_of_mentions_of_call :
    let keys : Keyring := .keyless "!e"
    let env : Environment :=
      ⟨⟨⟨[⟨.params, [("P", .int 1)]⟩, ⟨.globals, [("len", .str "a"), ("n", .int 2)]⟩],
        .map [("a", .int 1)], .map [("k", .str "xy")]⟩, keys⟩, .standard Range.halting, .standard⟩
    let env' : Environment :=
      ⟨⟨⟨[⟨.loop, [("item", .null), ("n", .int 2)]⟩], .null, .map [("k", .str "xy")]⟩, keys⟩,
        .standard Range.halting, .standard⟩
    let e : Expr := .chain (.call (.name "len") [.attribute (.name "S") "k"]) [(.mul, .name "n")]
    parseExpression "len(S.k) * n" = .ok e ∧ (∀ m, e.Mentions m → env.lookup m = env'.lookup m)
      ∧ env.evaluate "len(S.k) * n" = env'.evaluate "len(S.k) * n" := by
  intro keys env env' e
  have hparse : parseExpression "len(S.k) * n" = .ok e := by cbv
  have hmentioned : ∀ m, e.Mentions m → m = "S" ∨ m = "n" := by
    intro m hm
    simp only [e] at hm
    cases hm with
    | operand hp hm =>
      simp only [Expr.operands, Expr.parts, List.map_cons, List.map_nil, List.mem_cons,
        List.not_mem_nil, or_false] at hp
      rcases hp with rfl | rfl
      · cases hm with
        | operand hp hm =>
          obtain rfl := List.mem_singleton.1 hp
          cases hm with
          | operand hp hm =>
            obtain rfl := List.mem_singleton.1 hp
            cases hm with
            | name => exact .inl rfl
            | operand hp _ => cases hp
      · cases hm with
        | name => exact .inr rfl
        | operand hp _ => cases hp
  have hnames : ∀ m, e.Mentions m → env.lookup m = env'.lookup m := by
    intro m hm
    rcases hmentioned m hm with rfl | rfl <;> rfl
  obtain ⟨hstandard, hsame⟩ := evaluate_eq_of_mentions
  have hblind : env.functions.Blind := hstandard Range.halting
  exact ⟨hparse, hnames, @hsame env env' rfl rfl rfl hblind _ e hparse hnames⟩

end ConfigTree
