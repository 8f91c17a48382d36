import ConfigTree.Proofs.Eval.Limit
import ConfigTree.Proofs.Eval.Trailers
import ConfigTree.Proofs.Expr.Size
import ConfigTree.Proofs.Number.Width

/-!
# Evaluation within the limit

Where all that names stand for is within the limit, so is the value of every expression that
calls no function without a check of its own.  What a source writes is shorter than the limit;
operators and the other functions keep it, and all else selects from what is there.

## Main definitions

* `Environment.WithinLimit` — all that names stand for is within the limit.
* `Expr.Checked` — an expression that is no call of a function without a check.

## Main results

* `Expr.limits_evalAt` — the step: an expression whose parts keep the limit keeps it.
* `evaluate_withinLimit` — what a source evaluates to is within the limit.
* `not_limits_evaluate_of_format` — with a function that has no check it need not be.
-/

namespace ConfigTree

/-- All that names stand for is within the limit. -/
structure Environment.WithinLimit (env : Environment) : Prop where
  /-- The bindings of all frames. -/
  binding : ∀ f ∈ env.scope, ∀ b ∈ f.bindings, b.2.WithinLimit
  /-- The tree resolved so far. -/
  root : env.root.WithinLimit
  /-- Its nearest mapping. -/
  current : env.current.WithinLimit

/-- An expression that is no call of a function without a check of its own. -/
def Expr.Checked : Expr → Prop
  | .call func _ => ∀ name, func.dottedName? = some name → name ∉ FunctionTable.unchecked
  | _ => True

/-! ### Names -/

namespace Scope

theorem withinLimit_of_lookup? {s : Scope} (h : ∀ f ∈ s, ∀ b ∈ f.bindings, b.2.WithinLimit)
    {name : String} {v : Value} (hv : s.lookup? name = some v) : v.WithinLimit := by
  induction s with
  | nil => cases hv
  | cons f rest ih =>
    unfold lookup? at hv
    split at hv
    next hget =>
      cases hv
      exact h f (by simp) _ (Entries.mem_of_get? hget)
    next => exact ih (fun g hg => h g (List.mem_cons_of_mem f hg)) hv

theorem withinLimit_of_lookupIn? {s : Scope} (h : ∀ f ∈ s, ∀ b ∈ f.bindings, b.2.WithinLimit)
    {layer : Layer} {name : String} {v : Value} (hv : s.lookupIn? layer name = some v) :
    v.WithinLimit :=
  withinLimit_of_lookup? (fun f hf => h f (List.mem_of_mem_filter hf)) hv

end Scope

namespace Environment

variable {env : Environment}

theorem limits_lookup (henv : env.WithinLimit) (name : String) : Limits (env.lookup name) := by
  unfold Sight.lookup
  -- the four sources in the program's own order: loop, `R`, `S`, scope
  split
  next hloop => exact limits_ok (Scope.withinLimit_of_lookupIn? henv.binding hloop)
  · split
    · exact limits_ok henv.root
    · split
      · exact limits_ok henv.current
      · split
        next hname => exact limits_ok (Scope.withinLimit_of_lookup? henv.binding hname)
        next => exact limits_error _

end Environment

/-- An entry inserted has the key of the one that it replaces, if it replaces one. -/
theorem Entries.mem_of_mem_insert {α : Type} {es : Entries α} {key : String} {v : α}
    {e : String × α} (h : e ∈ es.insert key v) : e = (key, v) ∨ e ∈ es := by
  unfold insert at h
  induction es with
  | nil => exact .inl (List.mem_singleton.1 h)
  | cons head es ih =>
    obtain ⟨k, w⟩ := head
    unfold alter at h
    split at h
    next hk =>
      subst hk
      -- the entry that is replaced, or one behind it
      rcases List.mem_cons.1 h with rfl | h
      · exact .inl rfl
      · exact .inr (List.mem_cons_of_mem _ h)
    next =>
      rcases List.mem_cons.1 h with rfl | h
      · exact .inr (by simp)
      · exact (ih h).imp_right (List.mem_cons_of_mem _)

namespace Value

theorem limits_member {v : Value} (hv : v.WithinLimit) (attr : String) :
    Limits (v.member attr) := by
  unfold member
  split
  · split
    next hget => exact limits_ok (hv.entry hget)
    next => exact limits_error _
  · split
    next hget =>
      obtain ⟨i, -, hi⟩ := Option.bind_eq_some_iff.1 hget
      exact limits_ok (hv.item (List.mem_of_getElem? hi))
    next => exact limits_error _
  · exact limits_error _

/-- A character of a string, an item of a list or an entry of a mapping. -/
theorem limits_item {v : Value} (hv : v.WithinLimit) (index : Value) : Limits (v.item index) := by
  unfold item
  split
  next items =>
    refine limits_bind fun i _ => limits_ok ?_
    rw [List.getD_eq_getElem?_getD]
    cases hi : items[i]? with
    | none => exact .null
    | some w => exact hv.item (List.mem_of_getElem? hi)
  next s =>
    refine limits_bind fun i _ => limits_ok (.str ?_)
    have hchar := (s.toList.getD i ' ').utf8Size_le_four
    have hmax : maxLength = 100000 := rfl
    rw [String.utf8ByteSize_singleton]
    omega
  next =>
    split
    next hget => exact limits_ok (hv.entry hget)
    next => exact limits_error _
  next => exact limits_error _

/-- A key is a string within the limit, or the text of a scalar, which is short. -/
theorem utf8ByteSize_le_of_entryKey {v : Value} (hv : v.WithinLimit) {key : String}
    (h : v.entryKey = .ok key) : key.utf8ByteSize ≤ maxLength := by
  -- the limit as a number, for `omega`
  have hmax : maxLength = 100000 := rfl
  cases v with
  | null =>
    cases h
    decide
  | bool b =>
    cases h
    cases b <;> decide
  | int n =>
    cases h
    have hsize := Number.utf8ByteSize_toString_le n
    show (toString n.toInt).utf8ByteSize ≤ maxLength
    omega
  | float x =>
    cases h
    have hsize := Number.utf8ByteSize_readable_le x
    show (Number.readable x).utf8ByteSize ≤ maxLength
    omega
  | str s =>
    cases h
    exact hv.size_le
  | list _ => cases h
  | map _ => cases h

/-- One more entry. -/
theorem WithinLimit.insert {entries : Mapping} (h : (Value.map entries).WithinLimit)
    {key : String} (hkey : key.utf8ByteSize ≤ maxLength) {v : Value} (hv : v.WithinLimit) :
    (Value.map (entries.insert key v)).WithinLimit := by
  rw [withinLimit_map_iff] at h ⊢
  intro e he
  rcases Entries.mem_of_mem_insert he with rfl | he
  · exact ⟨hkey, hv⟩
  · exact h e he

end Value

namespace Expr

/-! ### Lists of parts -/

theorem limits_nested {f : Spot → Evaluated Value} (h : ∀ s, Limits (f s)) (s : Spot) (i : Nat) :
    Limits (s.nested i f) := by
  unfold Spot.nested
  split
  · exact limits_error _
  · exact h _

/-- The texts and lists that a source can write are shorter than the limit. -/
theorem maxSourceLength_le : maxSourceLength ≤ maxLength := by decide

section Parts

variable {env : Environment}

/-- As many values as expressions, all of them within the limit. -/
theorem withinLimit_of_evalAll {es : List Expr} (h : ∀ e ∈ es, ∀ s, Limits (evalAt env e s))
    {s : Spot} {i : Nat} {done vs : List Value} (hdone : ∀ v ∈ done, v.WithinLimit)
    (hrun : evalAll env es s i done = .ok vs) :
    vs.length = done.length + es.length ∧ ∀ v ∈ vs, v.WithinLimit := by
  induction es generalizing i done with
  | nil =>
    cases hrun
    simpa using hdone
  | cons e es ih =>
    -- the first value joins those done, and the rest are evaluated behind it
    obtain ⟨v, hv, hnext⟩ := bind_eq_ok_iff.1 hrun
    have hwithin := limits_nested (h e (by simp)) s i v hv
    obtain ⟨hlength, hall⟩ := ih (fun e' he => h e' (List.mem_cons_of_mem e he))
      (List.forall_mem_cons.2 ⟨hwithin, hdone⟩) hnext
    exact ⟨by simp only [hlength, List.length_cons]; omega, hall⟩

theorem limits_evalItems {items : List Expr} (hlength : items.length ≤ maxSourceLength)
    (h : ∀ e ∈ items, ∀ s, Limits (evalAt env e s)) (s : Spot) :
    Limits (do return .list (← evalAll env items s 0 [])) := by
  -- there are as many values as items, and a source is too short to write too many
  refine limits_bind fun vs hvs => ?_
  obtain ⟨hvs_length, hvs_all⟩ := withinLimit_of_evalAll h (by simp) hvs
  refine limits_ok (.list ?_ hvs_all)
  rw [hvs_length, List.length_nil, Nat.zero_add]
  exact hlength.trans maxSourceLength_le

/-- What stands before an attribute or an index. -/
theorem limits_evalOperand {value : Expr} (h : ∀ s, Limits (evalAt env value s)) (s : Spot) :
    Limits (evalOperand env value s) := by
  unfold evalOperand
  split
  · exact h _
  · exact limits_nested h s 0

theorem limits_evalEntries {entries : List (Expr × Expr)}
    (hkeys : ∀ e ∈ entries, ∀ s, Limits (evalAt env e.1 s))
    (hvalues : ∀ e ∈ entries, ∀ s, Limits (evalAt env e.2 s)) {s : Spot} {i : Nat}
    {done : Mapping} (hdone : (Value.map done).WithinLimit) :
    Limits (evalEntries env entries s i done) := by
  induction entries generalizing i done with
  | nil => exact limits_ok hdone
  | cons e entries ih =>
    obtain ⟨key, value⟩ := e
    refine limits_bind fun k hk => ?_
    -- the key's text and the value are within the limit, and so is the mapping with them
    refine limits_bind fun name hname => limits_bind fun v hv => ?_
    have hk' := limits_nested (hkeys (key, value) (by simp)) s i k hk
    have hv' := limits_nested (hvalues (key, value) (by simp)) s (i + 1) v hv
    exact ih (fun e' he => hkeys e' (List.mem_cons_of_mem _ he))
      (fun e' he => hvalues e' (List.mem_cons_of_mem _ he))
      (hdone.insert (Value.utf8ByteSize_le_of_entryKey hk' hname) hv')

theorem limits_evalChain (hops : env.operators.KeepsLimit) {rest : List (BinaryOp × Expr)}
    (h : ∀ e ∈ rest.map Prod.snd, ∀ s, Limits (evalAt env e s)) {s : Spot} {i : Nat} {l : Value}
    (hl : l.WithinLimit) : Limits (evalChain env rest s i l) := by
  induction rest generalizing i l with
  | nil => exact limits_ok hl
  | cons e rest ih =>
    obtain ⟨op, e⟩ := e
    refine limits_bind fun r hr => limits_bind fun v hv => ?_
    have hr' := limits_nested (h e (by simp)) s i r hr
    exact ih (fun e' he => h e' (List.mem_cons_of_mem _ he)) (hops.binary op hl hr' v hv)

theorem limits_evalLogical (op : Connective) {operands : List Expr}
    (h : ∀ e ∈ operands, ∀ s, Limits (evalAt env e s)) {s : Spot} {i : Nat} {v : Value}
    (hv : v.WithinLimit) : Limits (evalLogical env op operands s i v) := by
  induction operands generalizing i v with
  | nil => exact limits_ok hv
  | cons e rest ih =>
    refine limits_bind fun w hw => ?_
    have hw' := limits_nested (h e (by simp)) s i w hw
    -- the operand is the result, or it is given up for the next one
    split
    · exact limits_ok hw'
    · exact ih (fun e' he => h e' (List.mem_cons_of_mem _ he)) hw'

/-- A comparison has a truth value, whatever is compared. -/
theorem limits_evalCompare (rest : List (Comparison × Expr)) (s : Spot) (i : Nat) (l : Value) :
    Limits (evalCompare env rest s i l) := by
  induction rest generalizing i l with
  | nil => exact limits_ok (.bool true)
  | cons e rest ih =>
    obtain ⟨op, e⟩ := e
    refine limits_bind fun r _ => limits_bind fun b _ => ?_
    split
    · exact ih _ _
    · exact limits_ok (.bool false)

/-- Only a function of the table can be called, and one with a check of its own keeps the limit
of its arguments. -/
theorem limits_evalCall {M : Number.Machine Evaluated} (hfunctions : env.functions = .standard M)
    (hpads : env.keys.sealer.Pads) {func : Expr} {args : List Expr}
    (hchecked : Checked (.call func args)) (h : ∀ e ∈ args, ∀ s, Limits (evalAt env e s))
    (s : Spot) : Limits (evalAt env (.call func args) s) := by
  rw [evalAt]
  split
  · exact limits_error _
  next name hname =>
    split
    · exact limits_error _
    next f hf =>
      rw [hfunctions] at hf
      have hkeeps := FunctionTable.keepsLimit_of_checked hf (hchecked name hname)
      exact limits_bind fun vs hvs => hkeeps _ vs hpads (withinLimit_of_evalAll h (by simp) hvs).2

end Parts

/-! ### Expressions -/

theorem limits_evalAt {M : Number.Machine Evaluated} {env : Environment}
    (hops : env.operators.KeepsLimit) (hfunctions : env.functions = .standard M)
    (hpads : env.keys.sealer.Pads) (henv : env.WithinLimit) {e : Expr}
    (he : e.Everywhere fun e => Undotted e ∧ Fits maxSourceLength e ∧ Checked e) (s : Spot) :
    Limits (evalAt env e s) := by
  -- Over the parts; `ih` has them at every spot, as a part is evaluated at a spot of its own.
  induction he generalizing s with
  | @intro e hhere hall ih =>
    have hundotted : e.Everywhere Undotted := Everywhere.mono ⟨hhere, hall⟩ fun _ h => h.1
    obtain ⟨-, hfits, hchecked⟩ := hhere
    cases e with
    | null => exact limits_ok .null
    | bool b => exact limits_ok (.bool b)
    | int n => exact limits_ok (.int n)
    | float x => exact limits_ok (.float x)
    | str t => exact limits_ok (.str (hfits.trans maxSourceLength_le))
    | name n => exact Environment.limits_lookup henv n
    | subscript value index =>
      rw [evalAt_subscript hundotted]
      have hvalue := limits_evalOperand (ih value (by simp)) s
      exact limits_bind fun v hv => limits_bind fun i _ => Value.limits_item (hvalue v hv) i
    | call func args =>
      refine limits_evalCall hfunctions hpads hchecked (fun e he => ?_) s
      exact ih e (List.mem_cons_of_mem func he)
    | list items => exact limits_evalItems hfits ih s
    | tuple items => exact limits_evalItems hfits ih s
    | dict entries =>
      have hkeys : ∀ e ∈ entries, ∀ s, Limits (evalAt env e.1 s) := fun e he =>
        ih e.1 (List.mem_append_left _ (List.mem_map_of_mem he))
      have hvalues : ∀ e ∈ entries, ∀ s, Limits (evalAt env e.2 s) := fun e he =>
        ih e.2 (List.mem_append_right _ (List.mem_map_of_mem he))
      exact limits_evalEntries hkeys hvalues (.map (by simp) (by simp))
    | unary op operand => exact limits_bind fun v _ => hops.unary op v
    | power base exponent =>
      refine limits_bind fun l hl => limits_bind fun r hr => ?_
      have hl' := limits_nested (ih base (by simp)) s 0 l hl
      have hr' := limits_nested (ih exponent (by simp)) s 1 r hr
      exact hops.binary .pow hl' hr'
    | chain first rest =>
      refine limits_bind fun l hl => limits_evalChain hops (fun e he => ?_) ?_
      · exact ih e (List.mem_cons_of_mem first he)
      · exact limits_nested (ih first (by simp)) s 0 l hl
    | logical op operands => exact limits_evalLogical op ih .null
    | compare first rest => exact limits_bind fun l _ => limits_evalCompare rest s 1 l
    -- The remaining constructor is the one of attributes.
    | _ value attr =>
      rw [evalAt_attribute hundotted]
      have hvalue := limits_evalOperand (ih value (by simp)) s
      exact limits_bind fun v hv => Value.limits_member (hvalue v hv) attr

end Expr

/-! ### Sources -/

/-- Where all that names stand for is within the limit, so is what a source evaluates to, if it
calls no function without a check. -/
theorem evaluate_withinLimit {M : Number.Machine Evaluated} {env : Environment}
    (hoperators : env.operators = .standard ∨ env.operators = .withBits)
    (hfunctions : env.functions = .standard M) (hpads : env.keys.sealer.Pads)
    (henv : env.WithinLimit) {source : String}
    (hsize : source.utf8ByteSize ≤ maxSourceLength)
    (hchecked : ∀ e, parseExpression source = .ok e → e.Everywhere Expr.Checked) :
    Limits (env.evaluate source) := by
  have hops : env.operators.KeepsLimit := by
    rcases hoperators with h | h
    · rw [h]
      exact OperatorTable.keepsLimit_standard
    · rw [h]
      exact OperatorTable.keepsLimit_withBits
  have hself : Limits (.ok (.str source)) :=
    limits_ok (.str (hsize.trans Expr.maxSourceLength_le))
  unfold Environment.evaluate
  split
  · exact hself
  · split
    next e hparse =>
      have hfits := (fits_of_parseExpression hparse).mono fun _ h => h.mono hsize
      have hall := (undotted_of_parseExpression hparse).and (hfits.and (hchecked e hparse))
      exact Expr.limits_evalAt hops hfunctions hpads henv hall _
    next => exact hself

/-- A bound text three times, joined by an entry of the tree. -/
theorem evaluate_withinLimit_of_join :
    let env : Environment :=
      ⟨⟨⟨[⟨.loop, [("x", .str "ab")]⟩], .null, .map [("k", .str "-")]⟩, .keyless "!e"⟩,
        .standard Range.halting, .withBits⟩
    let source := "F.join([x] * 3, S.k)"
    env.keys.sealer.Pads ∧ env.WithinLimit ∧ source.utf8ByteSize ≤ maxSourceLength
      ∧ (∀ e, parseExpression source = .ok e → e.Everywhere Expr.Checked)
      ∧ Limits (env.evaluate source) := by
  intro env source
  have hpads : env.keys.sealer.Pads := Cipher.pads_fernet [] 0
  have henv : env.WithinLimit := by
    refine ⟨?_, .null, .map ?_ ?_⟩
    · simpa [env] using Value.WithinLimit.str (by decide)
    · simp only [List.forall_mem_singleton]
      decide
    · simpa using Value.WithinLimit.str (by decide)
  have hsize : source.utf8ByteSize ≤ maxSourceLength := by decide
  have hparse : parseExpression source = .ok (.call (.attribute (.name "F") "join")
      [.chain (.list [.name "x"]) [(.mul, .int 3)], .attribute (.name "S") "k"]) := by cbv
  have hname (n : String) : (Expr.name n).Everywhere Expr.Checked := ⟨trivial, by simp⟩
  have hdotted (n attr : String) : (Expr.attribute (.name n) attr).Everywhere Expr.Checked :=
    ⟨trivial, by simpa using hname n⟩
  have hint (n : Int64) : (Expr.int n).Everywhere Expr.Checked := ⟨trivial, by simp⟩
  have hitems : (Expr.list [.name "x"]).Everywhere Expr.Checked :=
    ⟨trivial, by simpa using hname "x"⟩
  have hchain : (Expr.chain (.list [.name "x"]) [(.mul, .int 3)]).Everywhere Expr.Checked :=
    ⟨trivial, by simpa using ⟨hitems, hint 3⟩⟩
  have hchecked : ∀ e, parseExpression source = .ok e → e.Everywhere Expr.Checked := by
    intro e he
    rw [hparse] at he
    cases he
    refine ⟨?_, by simpa using ⟨hdotted "F" "join", hchain, hdotted "S" "k"⟩⟩
    simp [Expr.Checked, Expr.dottedName?, FunctionTable.unchecked]
  have hlimits := evaluate_withinLimit (.inr rfl) rfl hpads henv hsize hchecked
  exact ⟨hpads, henv, hsize, hchecked, hlimits⟩

/-! ### Without a check -/

/-- Two empty fields side by side put two texts together. -/
theorem Function.format_pair (caller : Caller) (v w : Value) :
    format caller [.str "\x7b\x7d\x7b\x7d", v, w] = .ok (.str (v.text ++ w.text)) := by
  have hfill : Template.fillFrom [v, w] 0 0 [] ['\x7b', '\x7d', '\x7b', '\x7d']
      = .ok (w.text.toList.reverse ++ (v.text.toList.reverse ++ [])).reverse := rfl
  have htemplate : Template.fill "\x7b\x7d\x7b\x7d" [v, w] = .ok (v.text ++ w.text) := by
    show (Template.fillFrom [v, w] 0 0 [] ['\x7b', '\x7d', '\x7b', '\x7d']).map String.ofList = _
    rw [hfill]
    simp [Except.map]
  simp [format, string, htemplate]

/-- A repeated text and another one, put together by a template. -/
theorem Expr.eval_format {M : Number.Machine Evaluated} {env : Environment}
    (hoperators : env.operators = .standard) (hfunctions : env.functions = .standard M)
    {n : Int64} {s t r : String}
    (hr : Operation.repeatString s n = .ok (.str r)) :
    eval env (.call (.attribute (.name "F") "format")
      [.str "\x7b\x7d\x7b\x7d", .chain (.str s) [(.mul, .int n)], .str t])
      = .ok (.str (r ++ t)) := by
  have hname : dottedName? (.attribute (.name "F") "format") = some "F.format" := rfl
  have hformat : (FunctionTable.standard M).get? "F.format" = some Function.format := rfl
  have hmul : OperatorTable.standard.binary .mul (.str s) (.int n) = .ok (.str r) := hr
  have hargs : evalAll env [.str "\x7b\x7d\x7b\x7d", .chain (.str s) [(.mul, .int n)], .str t]
      ⟨1, []⟩ 0 [] = .ok [.str "\x7b\x7d\x7b\x7d", .str r, .str t] := by
    simp [evalAll, evalAt, evalChain, Spot.nested, maxDepth, hoperators, hmul]
  rw [eval, evalAt, hname, hfunctions]
  simp only [hformat, hargs, ok_bind]
  rw [Function.format_pair, Value.text_str, Value.text_str]

/-- Two texts within the limit are put together to one that is not. -/
theorem not_limits_evaluate_of_format :
    let env : Environment :=
      ⟨⟨⟨[], .null, .null⟩, .keyless "!e"⟩, .standard Range.halting, .standard⟩
    let source := "F.format('\x7b\x7d\x7b\x7d', 'a' * 100000, 'a')"
    env.WithinLimit ∧ source.utf8ByteSize ≤ maxSourceLength
      ∧ (∃ s, env.evaluate source = .ok (.str s) ∧ maxLength < s.utf8ByteSize)
      ∧ ¬ Limits (env.evaluate source) := by
  intro env source
  have hparse : parseExpression source = .ok (.call (.attribute (.name "F") "format")
      [.str "\x7b\x7d\x7b\x7d", .chain (.str "a") [(.mul, .int 100000)], .str "a"]) := by cbv
  -- The text is named, for the kernel is not to write out so many characters.
  obtain ⟨s, hs, hlength⟩ : ∃ s, Operation.repeatString "a" 100000 = .ok (.str s)
      ∧ s.utf8ByteSize = 100000 := by
    refine ⟨_, rfl, ?_⟩
    rw [String.utf8ByteSize_ofList, Text.utf8Len_flatten_replicate]
    decide
  have heval : env.evaluate source = .ok (.str (s ++ "a")) := by
    have hblank : Text.isAllBlank source.toList = false := by decide
    rw [Environment.evaluate, hblank, hparse]
    exact Expr.eval_format rfl rfl hs
  have hlong : maxLength < (s ++ "a").utf8ByteSize := by
    rw [String.utf8ByteSize_append, hlength]
    decide
  refine ⟨⟨by simp [env], .null, .null⟩, by decide, ⟨_, heval, hlong⟩, fun h => ?_⟩
  have hsize := (h _ heval).size_le
  omega

end ConfigTree
