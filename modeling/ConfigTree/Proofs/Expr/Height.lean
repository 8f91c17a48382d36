import ConfigTree.Proofs.Expr.Counter
import ConfigTree.Proofs.Expr.Parts

/-!
# The height of what a source writes

Whatever goes down an expression part by part, to evaluate it, to compare it or to copy it, goes
down as many times at most as the expression is high.  A source can be long, but what it writes
is not high: a level adds one node for each of its precedences and one for each trailer, of which
there are `maxTrailers`, and there are `maxDepth` levels.

## Main definitions

* `Expr.WayDown` — a way down an expression; `Expr.height` — how long the longest one is.
* `Grammar.Low n L` — no expression of the language is higher than `n`.

## Main results

* `Expr.height_le_iff_forall_wayDown` — the height bounds the ways down, and nothing less does.
* `Grammar.low_level` — each level adds `maxTrailers + 11` at most.
* `reading_bounded` — what a source writes has a height of `300 * maxDepth` at most, and the
  counter of levels is back where it was after all that is read.
-/

namespace ConfigTree

namespace Expr

/-! ### Height -/

/-- An expression is larger than its parts. -/
theorem sizeOf_lt_of_mem_parts {e p : Expr} (h : p ∈ e.parts) : sizeOf p < sizeOf e := by
  have hitem {items : List Expr} (hp : p ∈ items) : sizeOf p < sizeOf items :=
    List.sizeOf_lt_of_mem hp
  have hpair {α β : Type} [SizeOf α] [SizeOf β] {pairs : List (α × β)} {a : α} {b : β}
      (hp : (a, b) ∈ pairs) : sizeOf a + sizeOf b < sizeOf pairs := by
    have hlt := List.sizeOf_lt_of_mem hp
    rw [Prod.mk.sizeOf_spec] at hlt
    omega
  cases e with
  | null | bool | int | float | str | name => simp at h
  | _ =>
    simp only [parts, List.mem_cons, List.mem_append, List.mem_map, Prod.exists,
      exists_and_right, exists_eq_right] at h
    simp only [attribute.sizeOf_spec, subscript.sizeOf_spec, call.sizeOf_spec, list.sizeOf_spec,
      tuple.sizeOf_spec, dict.sizeOf_spec, unary.sizeOf_spec, power.sizeOf_spec,
      chain.sizeOf_spec, logical.sizeOf_spec, compare.sizeOf_spec]
    grind

/-- How many expressions lie on the longest way down an expression. -/
def height (e : Expr) : Nat :=
  (e.parts.attach.map fun p => height p.1).foldr max 0 + 1
termination_by sizeOf e
decreasing_by exact sizeOf_lt_of_mem_parts p.2

theorem height_eq (e : Expr) : e.height = (e.parts.map height).foldr max 0 + 1 := by
  rw [height, List.attach_map_val]

theorem height_le_succ_iff {e : Expr} {n : Nat} :
    e.height ≤ n + 1 ↔ ∀ p ∈ e.parts, p.height ≤ n := by
  rw [height_eq, Nat.add_le_add_iff_right]
  constructor
  · intro h p hp
    exact (List.le_max_of_le (List.mem_map_of_mem hp) le_rfl).trans h
  · intro h
    exact List.max_le_of_forall_le _ _ (by simpa using h)

@[simp] theorem height_unary (op : UnaryOp) (e : Expr) :
    (unary op e).height = e.height + 1 := by
  simp [height_eq (unary op e)]

@[simp] theorem height_power (base exponent : Expr) :
    (power base exponent).height = max base.height exponent.height + 1 := by
  simp [height_eq (power base exponent)]

theorem height_pos (e : Expr) : 0 < e.height := by
  rw [height]
  exact Nat.succ_pos _

/-- A way down an expression: each of the expressions is a part of the one before it. -/
def WayDown (path : List Expr) : Prop := path.IsChain fun e p => p ∈ e.parts

/-- The height bounds the ways down, and nothing less does. -/
theorem height_le_iff_forall_wayDown {e : Expr} {n : Nat} :
    e.height ≤ n ↔ ∀ path, WayDown (e :: path) → (e :: path).length ≤ n := by
  induction n generalizing e with
  | zero =>
    refine ⟨fun h => absurd h (Nat.not_le.2 e.height_pos), fun h => ?_⟩
    exact absurd (h [] (.singleton e)) (Nat.not_succ_le_zero _)
  | succ n ih =>
    rw [height_le_succ_iff]
    -- a way down goes through one of the parts, and each of them has its own ways down
    constructor
    · intro h path hpath
      cases path with
      | nil => exact Nat.succ_le_succ (Nat.zero_le n)
      | cons p path =>
        obtain ⟨hp, hpath⟩ := List.isChain_cons_cons.1 hpath
        exact Nat.succ_le_succ (ih.1 (h p hp) path hpath)
    · intro h p hp
      refine ih.2 fun path hpath => ?_
      exact Nat.le_of_succ_le_succ (h (p :: path) (List.isChain_cons_cons.2 ⟨hp, hpath⟩))

end Expr

open ConfigTree.Expr

namespace Grammar

/-! ### What is derived is not high -/

/-- No expression of the language is higher than `n`. -/
def Low (n : Nat) (L : Language Expr) : Prop := ∀ ⦃w e⦄, L w e → e.height ≤ n

theorem Low.mono {n m : Nat} {L : Language Expr} (h : Low n L) (hnm : n ≤ m) : Low m L :=
  fun _ _ hw => (h hw).trans hnm

section Lists

variable {α : Type} {n : Nat}

theorem Items.low {item : Language Expr} (h : Low n item) {w : List Token.Kind}
    {es : List Expr} (hw : Items item w es) : ∀ e ∈ es, e.height ≤ n :=
  hw.forall_of_widen (P := fun _ (e : Expr) => e.height ≤ n) (fun _ _ _ he _ => he) h

theorem Run.low {op : Language α} {operand : Language Expr} (h : Low n operand)
    {w : List Token.Kind} {rest : List (α × Expr)} (hw : Run op operand w rest) :
    ∀ e ∈ rest.map Prod.snd, e.height ≤ n := by
  induction hw with
  | nil => simp
  | cons _ he _ ih => exact List.forall_mem_cons.2 ⟨h he, ih⟩

/-- A run adds one node. -/
theorem Low.flat {operand : Language Expr} (h : Low n operand) (op : Language α)
    (node : Expr → List (α × Expr) → Expr)
    (hnode : ∀ first rest, (node first rest).parts = first :: rest.map Prod.snd) :
    Low (n + 1) (Flat op node operand) := by
  intro w e hw
  cases hw with
  | operand he => exact (h he).trans (Nat.le_succ n)
  | node hfirst hrest _ =>
    rw [height_le_succ_iff, hnode]
    exact List.forall_mem_cons.2 ⟨h hfirst, hrest.low h⟩

theorem Low.connected {operand : Language Expr} (h : Low n operand) (op : Connective) :
    Low (n + 1) (Connected op operand) :=
  h.flat _ _ fun _ _ => rfl

end Lists

/-- No expression of the languages of a level is higher than `n`. -/
structure Inner.Low (n : Nat) (inner : Inner) : Prop where
  /-- Expressions. -/
  expression : Grammar.Low n inner.expression
  /-- Operands of `not`. -/
  negated : Grammar.Low n inner.negated
  /-- Operands of signs, and exponents. -/
  signed : Grammar.Low n inner.signed

section Level

variable {n : Nat} {inner : Inner}

theorem low_atom (h : inner.Low n) : Low (n + 1) (Atom inner) := by
  intro w e hw
  cases hw with
  | group he => exact (h.expression he).trans (Nat.le_succ n)
  | int | float | str | name | true | false | none | unit =>
    exact height_le_succ_iff.2 (by simp)
  | tuple he hes =>
    exact height_le_succ_iff.2 (List.forall_mem_cons.2 ⟨h.expression he, hes.low h.expression⟩)
  | list hes => exact height_le_succ_iff.2 (hes.low h.expression)
  | dict hes =>
    exact height_le_succ_iff.2 (hes.forall_parts_dict (P := fun _ e => e.height ≤ n)
      (fun _ _ _ he _ => he) h.expression)

/-- A trailer adds one node. -/
theorem Trailer.low (h : inner.Low n) {u : List Token.Kind} {f : Expr → Expr}
    (hu : Trailer inner u f) {e : Expr} {m : Nat} (he : e.height ≤ m) (hnm : n ≤ m) :
    (f e).height ≤ m + 1 := by
  have hwithin {p : Expr} (hp : p.height ≤ n) : p.height ≤ m := hp.trans hnm
  rw [height_le_succ_iff]
  cases hu with
  | dotted name => simpa using he
  | subscript hindex => simpa using ⟨he, hwithin (h.expression hindex)⟩
  | call hargs =>
    exact List.forall_mem_cons.2 ⟨he, fun a ha => hwithin (hargs.low h.expression a ha)⟩

/-- So many trailers add so many nodes. -/
theorem Trailed.low (h : inner.Low n) {k : Nat} {w : List Token.Kind} {e e' : Expr}
    (hw : Trailed inner k e w e') {m : Nat} (he : e.height ≤ m) (hnm : n ≤ m) :
    e'.height ≤ m + k := by
  -- The operand of the next trailer is the node of this one, so the bound grows with each.
  induction hw generalizing m with
  | nil => exact he
  | @cons k _ _ _ _ _ htrailer _ ih =>
    have hnext := ih (htrailer.low h he hnm) (Nat.le_succ_of_le hnm)
    omega

theorem low_postfixed (h : inner.Low n) : Low (n + 1 + maxTrailers) (Postfixed inner) := by
  rintro _ e ⟨hcount, hatom, htrailed⟩
  have hle := htrailed.low h (low_atom h hatom) (Nat.le_succ n)
  omega

theorem low_powered (h : inner.Low n) : Low (n + maxTrailers + 2) (Powered inner) := by
  intro w e hw
  cases hw with
  | operand he =>
    have hle := low_postfixed h he
    omega
  | power hbase hexponent =>
    have hbase' := low_postfixed h hbase
    have hexponent' := h.signed hexponent
    rw [height_power]
    omega

theorem low_signed (h : inner.Low n) : Low (n + maxTrailers + 2) (Signed inner) := by
  intro w e hw
  cases hw with
  | operand he => exact low_powered h he
  | sign _ he =>
    have hle := h.signed he
    rw [height_unary]
    omega

theorem low_ranked (h : inner.Low n) (r : Nat) :
    Low (n + maxTrailers + 2 + r) (ranked inner r) := by
  induction r with
  | zero => exact low_signed h
  | succ r ih => exact ih.flat _ _ fun _ _ => rfl

theorem low_negated (h : inner.Low n) : Low (n + maxTrailers + 9) (Negated inner) := by
  intro w e hw
  cases hw with
  | operand he => exact (low_ranked h BinaryOp.bitOr.rank).flat _ _ (fun _ _ => rfl) he
  | not he =>
    have hle := h.negated he
    rw [height_unary]
    omega

/-- **A level adds one node for each trailer** and at most eleven more: one for an operand, one
for its power, six for the ranks of operators, one for comparisons and two for the connectives. -/
theorem Inner.Low.next (h : inner.Low n) :
    Inner.Low (n + (maxTrailers + 11)) ⟨AnyOf inner, Negated inner, Signed inner⟩ where
  expression := ((low_negated h).connected .and).connected .or
  negated := (low_negated h).mono (by omega)
  signed := (low_signed h).mono (by omega)

end Level

/-- No level is higher than those below it and its own nodes. -/
theorem low_level (n : Nat) : (level n).Low (n * (maxTrailers + 11)) := by
  induction n with
  | zero => constructor <;> exact fun _ _ hw => hw.elim
  | succ n ih =>
    rw [Nat.succ_mul]
    exact ih.next

/-- A bare tuple adds one node. -/
theorem low_source : Low (maxDepth * (maxTrailers + 11) + 1) Source := by
  have hlevel := low_level maxDepth
  intro w e hw
  cases hw with
  | expression he => exact (hlevel.expression he).trans (Nat.le_succ _)
  | tuple he hes =>
    -- the items of a bare tuple are read at the same level as an expression alone
    refine height_le_succ_iff.2 ?_
    exact List.forall_mem_cons.2 ⟨hlevel.expression he, hes.low hlevel.expression⟩

end Grammar

/-- What a source writes is not high, however long the source is. -/
theorem height_le_of_parseExpression {source : String} {e : Expr}
    (h : parseExpression source = .ok e) : e.height ≤ maxDepth * (maxTrailers + 11) + 1 := by
  obtain ⟨w, -, -, hsource⟩ := source_of_parseExpression h
  exact Grammar.low_source hsource

/-- **Reading and what is read are bounded.**  However long a source is, what it writes has no way
down of more than `300 * maxDepth` expressions, trailers counted.  And reading it with a counter
of levels is reading it: at every count, each reader that knows the counter reads what the one
with so many levels less reads, and has the counter where it was whenever it reads something. -/
theorem reading_bounded :
    (∀ source e, parseExpression source = .ok e →
      e.height ≤ 300 * maxDepth
        ∧ ∀ path, WayDown (e :: path) → (e :: path).length ≤ 300 * maxDepth)
    ∧ (∀ ts, (Counter.parse ts).run 0 = (parseTokens ts).map (·, 0))
    ∧ ∀ (α : Type) (rule : Counter.Rule α) (bound n d : Nat), maxDepth < d + n →
      ∀ ts a rest d', (rule.reader bound (Counter.level bound n) ts).run d = .ok ((a, rest), d') ↔
        rule.parser bound (Parser.level bound (maxDepth - d)) ts = .ok (a, rest) ∧ d' = d := by
  refine ⟨fun source e hparse => ?_, Counter.tracks_parse, ?_⟩
  · have hbound : maxDepth * (maxTrailers + 11) + 1 ≤ 300 * maxDepth := by decide
    have hheight : e.height ≤ 300 * maxDepth := (height_le_of_parseExpression hparse).trans hbound
    exact ⟨hheight, height_le_iff_forall_wayDown.1 hheight⟩
  · intro α rule bound n d hn ts a rest d'
    exact (Counter.tracks_rule rule bound hn ts).run_eq_ok_iff

/-- The way from the whole of `(a.b)[-0]` to its number, and the operand of the sign, which is read
at the count 3 and leaves it there. -/
theorem reading_bounded_of_index :
    let e : Expr := .subscript (.attribute (.name "a") "b") (.unary .minus (.int 0))
    let ts : List Token := [⟨.int 0, 7, 1⟩, ⟨.symbol .rightBracket, 8, 1⟩, ⟨.stop, 9, 0⟩]
    parseExpression "(a.b)[-0]" = .ok e
      ∧ e.height ≤ 300 * maxDepth
      ∧ WayDown [e, .unary .minus (.int 0), .int 0]
      ∧ [e, .unary .minus (.int 0), .int 0].length ≤ 300 * maxDepth
      ∧ maxDepth < 3 + 62
      ∧ (Counter.Rule.signed.reader 10 (Counter.level 10 62) ts).run 3 = .ok ((.int 0, ts.tail), 3)
      := by
  intro e ts
  have hparse : parseExpression "(a.b)[-0]" = .ok e := by cbv
  have hway : WayDown [e, .unary .minus (.int 0), .int 0] := by
    refine List.isChain_cons_cons.2 ⟨?_, List.isChain_cons_cons.2 ⟨?_, .singleton _⟩⟩
    all_goals simp [e]
  -- the reader without the counter is the one that can be evaluated
  have hread : Counter.Rule.signed.parser 10 (Parser.level 10 (maxDepth - 3)) ts
      = .ok (.int 0, ts.tail) := by cbv
  obtain ⟨hheight, hways⟩ := reading_bounded.1 _ _ hparse
  refine ⟨hparse, hheight, hway, hways _ hway, by decide, ?_⟩
  exact (reading_bounded.2.2 _ .signed 10 62 3 (by decide) _ _ _ _).2 ⟨hread, rfl⟩

end ConfigTree
