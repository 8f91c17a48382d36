import ConfigTree.Proofs.Expr.Operand

/-!
# Reading is recognition

The tokens of a source are read to an expression exactly if the grammar derives it from
them.  The loops over operators stop at no earlier token than the derivation, since one word
of the language would be left over, and at no later one, since no operator carries on what
stands before the end.

A reader of one precedence recognises its language if that of the next tighter one does, and
the readers of a level if those of the next deeper one do.

## Main definitions

* `Parser.RecognisesOp` — a reader of operators and the words of those.

## Main results

* `Parser.Recognises.flat` — runs of operators, for all precedences.
* `Parser.recognises_level` — the readers of each level.
* `parseTokens_eq_ok_iff` — the tokens of a source are read to an expression exactly if the
  grammar derives it.
-/

namespace ConfigTree

open Grammar

namespace Parser

/-! ### Runs of operators -/

/-- A reader of the operators between operands that begin with at most `b`: the operators carry
on a word of precedence `r`, and tokens that do not are no operator. -/
structure RecognisesOp {α : Type} (r b : Nat) (op? : List Token → Option (α × List Token))
    (op : Language α) : Prop where
  /-- Only operators are taken. -/
  sound : ∀ ⦃ts o rest⦄, op? ts = some (o, rest) → ∃ w, ts = w ++ rest ∧ op (w.map Token.kind) o
  /-- All of an operator is taken. -/
  complete : ∀ ⦃k o⦄, op k o → ∀ ⦃w rest⦄, w.map Token.kind = k →
    Begins b (rest.map Token.kind) → op? (w ++ rest) = some (o, rest)
  /-- Where a word of this precedence stops there is no operator. -/
  none_of_stops : ∀ ⦃ts⦄, Stops (r + 1) ts → op? ts = none
  /-- Where there is an operator, an operand stops. -/
  stops : ∀ ⦃k o⦄, op k o → ∀ ⦃w⦄, w.map Token.kind = k → ∀ rest, Stops r (w ++ rest)

section Flat

variable {α : Type} {bound r b : Nat} {op? : List Token → Option (α × List Token)}
  {op : Language α} {operand : Parser Expr} {L : Language Expr}

theorem sound_operatorsFrom (hop : RecognisesOp r b op? op)
    (h : Recognises bound (Stops r) operand L) (n : Nat) :
    ∀ {done all : List (α × Expr)} {ts rest : List Token},
      operatorsFrom op? operand n done ts = .ok (all, rest) →
      ∃ w os, ts = w ++ rest ∧ all = done.reverse ++ os ∧ Run op L (w.map Token.kind) os := by
  induction n with
  | zero =>
    intro done all ts rest hrun
    cases hrun
    exact ⟨[], [], rfl, by simp, .nil⟩
  | succ n ih =>
    intro done all ts rest hrun
    rw [operatorsFrom] at hrun
    rcases ho : op? ts with _ | ⟨o, ts₁⟩
    · simp only [ho] at hrun
      cases hrun
      exact ⟨[], [], rfl, by simp, .nil⟩
    · simp only [ho] at hrun
      obtain ⟨⟨e, ts₂⟩, he, hnext⟩ := bind_eq_ok_iff.1 hrun
      -- the operator, its operand, and the operators after them
      obtain ⟨w, os, rfl, rfl, hw⟩ := ih hnext
      obtain ⟨u, rfl, hu⟩ := hop.sound ho
      obtain ⟨v, rfl, hv⟩ := h.sound he
      refine ⟨u ++ v ++ w, (o, e) :: os, by simp, by simp, ?_⟩
      simpa using Run.cons hu hv hw

theorem complete_operatorsFrom (hop : RecognisesOp r b op? op)
    (h : Recognises bound (Stops r) operand L) (hproper : Proper b L) {k : List Token.Kind}
    {os : List (α × Expr)} (hk : Run op L k os) :
    ∀ (n : Nat) (done : List (α × Expr)) (w rest : List Token), w.map Token.kind = k →
      w.length ≤ bound → w.length ≤ n → Stops (r + 1) rest →
      Stops r (w ++ rest)
        ∧ operatorsFrom op? operand n done (w ++ rest) = .ok (done.reverse ++ os, rest) := by
  induction hk with
  | nil =>
    intro n done w rest hw _ _ hrest
    obtain rfl := List.map_eq_nil_iff.1 hw
    refine ⟨hrest.mono (Nat.le_succ r), ?_⟩
    cases n with
    | zero => simp [operatorsFrom]
    | succ n => simp [operatorsFrom, hop.none_of_stops hrest]
  | @cons u v x o e os hu hv _ ih =>
    intro n done w rest hw hbound hn hrest
    obtain ⟨w', w₃, rfl, hw', hw₃⟩ := List.map_eq_append_iff.1 hw
    obtain ⟨w₁, w₂, rfl, hw₁, hw₂⟩ := List.map_eq_append_iff.1 hw'
    -- an operand has a token, so the loop has a turn left for it
    have hfirst : Begins b (w₂.map Token.kind) := hw₂ ▸ (hproper hv).1
    have hpos := hfirst.length_pos
    simp only [List.length_append, List.length_map] at hbound hn hpos
    obtain ⟨n, rfl⟩ : ∃ m, n = m + 1 := ⟨n - 1, by omega⟩
    -- the operand stops at the next operator, or where the whole run does
    obtain ⟨hstops, hnext⟩ := ih n ((o, e) :: done) w₃ rest hw₃ (by omega) (by omega) hrest
    have hnext' : Begins b ((w₂ ++ (w₃ ++ rest)).map Token.kind) := by
      simpa using hfirst.append _
    have ho := hop.complete hu hw₁ hnext'
    have he := h.complete hv hw₂ (by omega) hstops
    simp only [List.append_assoc]
    refine ⟨hop.stops hu hw₁ _, ?_⟩
    simp only [operatorsFrom, ho, he, ok_bind, hnext]
    simp

/-- A run of operators with their operands between them, as one node. -/
def flat (bound : Nat) (op? : List Token → Option (α × List Token))
    (node : Expr → List (α × Expr) → Expr) (operand : Parser Expr) : Parser Expr := fun ts => do
  let (first, ts) ← operand ts
  let (rest, ts) ← operatorsFrom op? operand bound [] ts
  return (if rest.isEmpty then first else node first rest, ts)

/-- The loop takes all operators of a run, since each carries on what stands before it, and
none after it. -/
theorem Recognises.flat (h : Recognises bound (Stops r) operand L)
    (hop : RecognisesOp r b op? op) (hproper : Proper b L)
    (node : Expr → List (α × Expr) → Expr) :
    Recognises bound (Stops (r + 1)) (flat bound op? node operand) (Flat op node L) := by
  constructor
  · intro ts e rest hrun
    obtain ⟨⟨first, ts₁⟩, hfirst, hnext⟩ := bind_eq_ok_iff.1 hrun
    obtain ⟨⟨all, ts₂⟩, hall, he⟩ := bind_eq_ok_iff.1 hnext
    obtain ⟨w, os, rfl, rfl, hw⟩ := sound_operatorsFrom hop h bound hall
    cases he
    obtain ⟨v, hts, hv⟩ := h.sound hfirst
    refine ⟨v ++ w, by simp [hts], ?_⟩
    rw [List.map_append]
    generalize w.map Token.kind = k at hw
    cases hw with
    -- without an operator there is no node
    | nil => simpa using Flat.operand hv
    | cons ho he hos => exact .node hv (.cons ho he hos) (by simp)
  · intro k e hk w rest hw hbound hends
    cases hk with
    | operand he =>
      have hread := h.complete he hw hbound (hends.mono (Nat.le_succ r))
      have hrun := (complete_operatorsFrom hop h hproper .nil bound [] [] rest rfl (by simp)
        (by simp) hends).2
      rw [List.nil_append] at hrun
      simp only [Parser.flat, hread, ok_bind, hrun]
      rfl
    | @node u v first os hfirst hos hne =>
      obtain ⟨w₁, w₂, rfl, hw₁, hw₂⟩ := List.map_eq_append_iff.1 hw
      rw [List.length_append] at hbound
      obtain ⟨hstops, hrun⟩ := complete_operatorsFrom hop h hproper hos bound [] w₂ rest hw₂
        (by omega) (by omega) hends
      have hread := h.complete hfirst hw₁ (by omega) hstops
      rw [List.append_assoc]
      simp only [Parser.flat, hread, ok_bind, hrun]
      simp [pure, Except.pure, hne]

end Flat

/-! ### Binary operators -/

/-- The operator that comes first, among those that `op?` has. -/
def symbolOp? (op? : Symbol → Option BinaryOp) : List Token → Option (BinaryOp × List Token)
  | ⟨.symbol s, _, _⟩ :: ts => (op? s).map (·, ts)
  | _ => none

theorem chained_eq (bound : Nat) (op? : Symbol → Option BinaryOp) (operand : Parser Expr) :
    chained bound op? operand = flat bound (symbolOp? op?) .chain operand := rfl

theorem recognisesOp_symbolOp? {r b : Nat} {op? : Symbol → Option BinaryOp}
    (h : ∀ s op, op? s = some op ↔ op.rank = r + 1 ∧ op.symbol = s) :
    RecognisesOp r b (symbolOp? op?) (OfRank (r + 1)) where
  sound ts o rest hrun := by
    unfold symbolOp? at hrun
    split at hrun
    next s pos length ts =>
      obtain ⟨o', ho', heq⟩ := Option.map_eq_some_iff.1 hrun
      cases heq
      obtain ⟨hrank, hs⟩ := (h s _).1 ho'
      exact ⟨[_], rfl, hrank, by simp [hs]⟩
    next => simp at hrun
  complete k o hk w rest hw _ := by
    obtain ⟨hrank, rfl⟩ := hk
    obtain ⟨⟨_, _, _⟩, rfl, rfl⟩ := List.map_eq_singleton_iff.1 hw
    have ho := (h o.symbol o).2 ⟨hrank, rfl⟩
    simp [symbolOp?, ho]
  none_of_stops ts hstops := by
    unfold symbolOp?
    split
    next s pos length ts =>
      rcases ho : op? s with _ | o
      · rfl
      · obtain ⟨hrank, rfl⟩ := (h s o).1 ho
        have hlt : r + 1 < o.rank := hstops _ (joins?_symbol o)
        omega
    next => rfl
  stops k o hk w hw rest := by
    obtain ⟨hrank, rfl⟩ := hk
    obtain ⟨t, rfl, ht⟩ := List.map_eq_singleton_iff.1 hw
    have hlt : ∀ j ∈ joins? (.symbol o.symbol), r < j := by
      intro j hj
      rw [joins?_symbol, Option.mem_some_iff] at hj
      omega
    exact stops_cons ht hlt

section Level

variable {bound : Nat} {deeper : Deeper} {inner : Inner}

/-- One rank more. -/
theorem Recognises.chained {r : Nat} {operand : Parser Expr} {op? : Symbol → Option BinaryOp}
    (hoperand : Recognises bound (Stops r) operand (ranked inner r)) (h : inner.Proper)
    (hop : ∀ s op, op? s = some op ↔ op.rank = r + 1 ∧ op.symbol = s) :
    Recognises bound (Stops (r + 1)) (chained bound op? operand) (ranked inner (r + 1)) := by
  rw [chained_eq]
  exact hoperand.flat (recognisesOp_symbolOp? hop) (proper_ranked h r) .chain

theorem recognises_disjunction (h : deeper.Recognises bound inner) :
    Recognises bound (Stops 6) (disjunction bound deeper) (ranked inner 6) := by
  have hsigned : Recognises bound (Stops 0) (signed bound deeper) (ranked inner 0) :=
    recognises_signed h
  have hterm : Recognises bound (Stops 1) (term bound deeper) (ranked inner 1) :=
    hsigned.chained h.proper fun s op => by cases s <;> cases op <;> decide
  have hsum : Recognises bound (Stops 2) (sum bound deeper) (ranked inner 2) :=
    hterm.chained h.proper fun s op => by cases s <;> cases op <;> decide
  have hshifted : Recognises bound (Stops 3) (shifted bound deeper) (ranked inner 3) :=
    hsum.chained h.proper fun s op => by cases s <;> cases op <;> decide
  have hconjunction : Recognises bound (Stops 4) (conjunction bound deeper) (ranked inner 4) :=
    hshifted.chained h.proper fun s op => by cases s <;> cases op <;> decide
  have hexclusion : Recognises bound (Stops 5) (exclusion bound deeper) (ranked inner 5) :=
    hconjunction.chained h.proper fun s op => by cases s <;> cases op <;> decide
  exact hexclusion.chained h.proper fun s op => by cases s <;> cases op <;> decide

/-! ### Comparisons and connectives -/

theorem recognisesOp_comparison? :
    RecognisesOp 6 1 comparison? (fun w op => w = op.words) where
  sound ts o rest hrun := by
    unfold comparison? at hrun
    split at hrun <;> cases hrun
    case h_8 => exact ⟨[_, _], rfl, rfl⟩
    case h_9 => exact ⟨[_, _], rfl, rfl⟩
    all_goals exact ⟨[_], rfl, rfl⟩
  complete k o hk w rest hw hrest := by
    subst hk
    obtain ⟨c, v, hcv, n, hn, hc⟩ := hrest
    obtain ⟨⟨kind, pos, length⟩, rest, rfl, rfl, -⟩ := List.map_eq_cons_iff.1 hcv
    -- An operand begins with no `not`, so `is` is not taken for the front of `is not`.
    have hnot : kind ≠ .keyword .not := by
      rintro rfl
      cases hc
      omega
    cases o with
    | notIn | notSame =>
      obtain ⟨⟨_, _, _⟩, w', rfl, rfl, hw'⟩ := List.map_eq_cons_iff.1 hw
      obtain ⟨⟨_, _, _⟩, rfl, rfl⟩ := List.map_eq_singleton_iff.1 hw'
      rfl
    | same =>
      obtain ⟨⟨_, _, _⟩, rfl, rfl⟩ := List.map_eq_singleton_iff.1 hw
      simp [comparison?, hnot]
    | eq | ne | lt | le | gt | ge | isIn =>
      obtain ⟨⟨_, _, _⟩, rfl, rfl⟩ := List.map_eq_singleton_iff.1 hw
      rfl
  none_of_stops ts hstops := by
    unfold comparison?
    split
    case h_11 => rfl
    all_goals exact absurd (hstops 7 rfl) (by decide)
  stops k o hk w hw rest := by
    subst hk
    cases o with
    | notIn | notSame =>
      obtain ⟨t, w', rfl, ht, -⟩ := List.map_eq_cons_iff.1 hw
      exact stops_cons ht (by simp [joins?])
    | eq | ne | lt | le | gt | ge | isIn | same =>
      obtain ⟨t, rfl, ht⟩ := List.map_eq_singleton_iff.1 hw
      exact stops_cons ht (by simp [joins?])

theorem recognises_compared (h : deeper.Recognises bound inner) :
    Recognises bound (Stops 7) (compared bound deeper) (Compared inner) :=
  (recognises_disjunction h).flat recognisesOp_comparison? (proper_ranked h.proper 6) .compare

theorem recognises_negated (h : deeper.Recognises bound inner) :
    Recognises bound (Stops 7) (negated bound deeper) (Negated inner) := by
  have hcompared := recognises_compared h
  constructor
  · intro ts e rest hrun
    rw [negated] at hrun
    rcases hnot : eatWord? .not ts with _ | ts'
    · simp only [hnot] at hrun
      obtain ⟨w, hts, hw⟩ := hcompared.sound hrun
      exact ⟨w, hts, .operand hw⟩
    · simp only [hnot] at hrun
      obtain ⟨⟨e', ts₁⟩, he', he⟩ := bind_eq_ok_iff.1 hrun
      cases he
      obtain ⟨t, rfl, ht⟩ := eatWord?_eq_some_iff.1 hnot
      obtain ⟨w, rfl, hw⟩ := h.negated.sound he'
      refine ⟨t :: w, rfl, ?_⟩
      simpa [ht, UnaryOp.word] using Negated.not hw
  · intro k e hk w rest hw hbound hends
    cases hk with
    | operand he =>
      have hread := hcompared.complete he hw hbound hends
      obtain ⟨c, v, hcv, n, hn, hc⟩ := (proper_compared h.proper he).1
      obtain ⟨t, w', rfl, rfl, hw'⟩ := List.map_eq_cons_iff.1 (hw.trans hcv)
      -- a comparison does not begin with the word: that would open one level more
      have hnot : eatWord? .not (t :: (w' ++ rest)) = none := by
        refine eatWord?_cons_of_ne fun ht => ?_
        rw [ht] at hc
        cases hc
        omega
      rw [List.cons_append] at hread ⊢
      simp only [negated, hnot, hread]
    | @not v e he =>
      obtain ⟨t, w', rfl, ht, hw'⟩ := List.map_eq_cons_iff.1 hw
      have hnot : eatWord? .not (t :: (w' ++ rest)) = some (w' ++ rest) :=
        eatWord?_eq_some_iff.2 ⟨t, rfl, ht⟩
      have hread := h.negated.complete he hw' (Nat.le_of_succ_le hbound) hends
      rw [List.cons_append]
      simp only [negated, hnot, hread, ok_bind]
      rfl

theorem recognisesOp_eatWord? {r b : Nat} (op : Connective)
    (h : joins? (.keyword op.word) = some (r + 1)) :
    RecognisesOp r b (fun ts => (eatWord? op.word ts).map ((), ·))
      (fun w (_ : Unit) => w = [.keyword op.word]) where
  sound ts o rest hrun := by
    obtain ⟨ts', hword, heq⟩ := Option.map_eq_some_iff.1 hrun
    cases heq
    obtain ⟨t, rfl, ht⟩ := eatWord?_eq_some_iff.1 hword
    exact ⟨[t], rfl, by simp [ht]⟩
  complete k o hk w rest hw _ := by
    obtain ⟨t, rfl, ht⟩ := List.map_eq_singleton_iff.1 (hw.trans hk)
    have hword : eatWord? op.word (t :: rest) = some rest := eatWord?_eq_some_iff.2 ⟨t, rfl, ht⟩
    simp [hword]
  none_of_stops ts hstops := by
    rcases hword : eatWord? op.word ts with _ | rest
    · rfl
    · obtain ⟨t, rfl, ht⟩ := eatWord?_eq_some_iff.1 hword
      have hlt := hstops (r + 1) (by rw [ht, h]; rfl)
      omega
  stops k o hk w hw rest := by
    obtain ⟨t, rfl, ht⟩ := List.map_eq_singleton_iff.1 (hw.trans hk)
    refine stops_cons ht fun j hj => ?_
    rw [h, Option.mem_some_iff] at hj
    omega

theorem connected_eq (bound : Nat) (op : Connective) (operand : Parser Expr) :
    connected bound op.word op operand
      = flat bound (fun ts => (eatWord? op.word ts).map ((), ·))
        (fun first rest => .logical op (first :: rest.map Prod.snd)) operand := rfl

theorem Recognises.connected {r b : Nat} {operand : Parser Expr} {L : Language Expr}
    (hoperand : Recognises bound (Stops r) operand L) (hproper : Proper b L) (op : Connective)
    (h : joins? (.keyword op.word) = some (r + 1)) :
    Recognises bound (Stops (r + 1)) (connected bound op.word op operand) (Connected op L) := by
  rw [connected_eq]
  exact hoperand.flat (recognisesOp_eatWord? op h) hproper _

theorem recognises_anyOf (h : deeper.Recognises bound inner) :
    Recognises bound (Stops 9) (anyOf bound deeper) (AnyOf inner) := by
  have hall : Recognises bound (Stops 8) (allOf bound deeper) (AllOf inner) :=
    (recognises_negated h).connected (proper_negated h.proper) .and rfl
  exact hall.connected ((proper_negated h.proper).connected .and) .or rfl

end Level

/-- At every level the readers recognise the languages of the level. -/
theorem recognises_level (bound n : Nat) : (level bound n).Recognises bound (Grammar.level n) := by
  induction n with
  | zero =>
    have hbottom {ends : List Token → Prop} : Recognises bound ends
        (fail · .tooDeep : Parser Expr) (fun _ _ => False) :=
      ⟨fun _ _ _ hrun => by simp [fail] at hrun, fun _ _ hk => hk.elim⟩
    exact ⟨hbottom, hbottom, hbottom, proper_level 0⟩
  | succ n ih =>
    exact ⟨recognises_anyOf ih, recognises_negated ih, recognises_signed ih,
      proper_level (n + 1)⟩

/-! ### Whole sources -/

theorem atEnd_iff {ts : List Token} :
    atEnd ts = true ↔ ts = [] ∨ ∃ t rest, ts = t :: rest ∧ t.kind = .stop := by
  rcases ts with _ | ⟨⟨kind, pos, length⟩, ts⟩
  · simp [atEnd]
  · cases kind <;> simp [atEnd]

theorem atEnd_of_begins {r : Nat} {ts : List Token} (h : Begins r (ts.map Token.kind)) :
    atEnd ts = false := by
  obtain ⟨c, v, hcv, n, -, hc⟩ := h
  obtain ⟨t, rest, rfl, rfl, -⟩ := List.map_eq_cons_iff.1 hcv
  refine Bool.eq_false_iff.2 fun hend => ?_
  rcases atEnd_iff.1 hend with hnil | ⟨t', rest', heq, ht⟩
  · simp at hnil
  · cases heq
    rw [ht] at hc
    cases hc

section Source

variable {bound : Nat} {deeper : Deeper} {inner : Inner}

/-- The words of a bare tuple after its first item. -/
inductive Tail (inner : Inner) : Language (List Expr)
  | nil : Tail inner [] []
  | cons {w : List Token.Kind} {es : List Expr} : Items inner.expression w es →
    Tail inner (.symbol .comma :: w) es

theorem sound_tupleFrom (h : deeper.Recognises bound inner) (n : Nat) :
    ∀ {done all : List Expr} {ts rest : List Token},
      tupleFrom deeper n done ts = .ok (all, rest) →
      ∃ w es, ts = w ++ rest ∧ all = done.reverse ++ es ∧ Tail inner (w.map Token.kind) es := by
  induction n with
  | zero =>
    intro done all ts rest hrun
    cases hrun
    exact ⟨[], [], rfl, by simp, .nil⟩
  | succ n ih =>
    intro done all ts rest hrun
    rw [tupleFrom] at hrun
    rcases hcomma : eat? .comma ts with _ | ts'
    · simp only [hcomma] at hrun
      cases hrun
      exact ⟨[], [], rfl, by simp, .nil⟩
    · simp only [hcomma] at hrun
      obtain ⟨t, rfl, ht⟩ := eat?_eq_some_iff.1 hcomma
      split at hrun
      · cases hrun
        exact ⟨[t], [], rfl, by simp, by simpa [ht] using Tail.cons Items.nil⟩
      · obtain ⟨⟨e, ts₁⟩, he, hnext⟩ := bind_eq_ok_iff.1 hrun
        -- the commas are read before the items here, so an item ends what its comma has begun
        obtain ⟨w, es, rfl, rfl, hw⟩ := ih hnext
        obtain ⟨v, rfl, hv⟩ := h.expression.sound he
        refine ⟨t :: v ++ w, e :: es, by simp, by simp, ?_⟩
        generalize hk : w.map Token.kind = k at hw
        cases hw with
        | nil => simpa [ht, hk] using Tail.cons (Items.last hv)
        | cons hes => simpa [ht, hk] using Tail.cons (Items.cons hv hes)

theorem complete_tupleFrom (h : deeper.Recognises bound inner) {k : List Token.Kind}
    {es : List Expr} (hk : Items inner.expression k es) :
    ∀ (n : Nat) (done : List Expr) (c : Token) (w : List Token) (stop : Token),
      w.map Token.kind = k → w.length ≤ bound → w.length < n → c.kind = .symbol .comma →
      stop.kind = .stop →
      tupleFrom deeper n done (c :: (w ++ [stop])) = .ok (done.reverse ++ es, [stop]) := by
  have hend {t : Token} (ht : t.kind = .stop) : atEnd [t] = true :=
    atEnd_iff.2 (.inr ⟨t, [], rfl, ht⟩)
  induction hk with
  | nil =>
    intro n done c w stop hw _ hn hc hstop
    obtain rfl := List.map_eq_nil_iff.1 hw
    obtain ⟨n, rfl⟩ : ∃ m, n = m + 1 := ⟨n - 1, by omega⟩
    simp [tupleFrom, eat?_cons _ hc, hend hstop]
  | @last k e he =>
    intro n done c w stop hw hbound hn hc hstop
    -- an item begins like an expression, so the end is not reached before it
    have hfirst : Begins 2 (w.map Token.kind) := hw ▸ (h.proper.expression he).1
    have hpos := hfirst.length_pos
    rw [List.length_map] at hpos
    obtain ⟨n, rfl⟩ : ∃ m, n = m + 2 := ⟨n - 2, by omega⟩
    have hnotend : atEnd (w ++ [stop]) = false := atEnd_of_begins (by simpa using hfirst.append _)
    have hstops : Stops 9 [stop] := stops_cons hstop (by simp [joins?])
    have hread := h.expression.complete he hw hbound hstops
    have hnocomma : eat? .comma [stop] = none := eat?_cons_of_ne (by simp [hstop])
    simp [tupleFrom, eat?_cons _ hc, hnotend, hread, hnocomma]
  | @cons k v e es he _ ih =>
    intro n done c w stop hw hbound hn hc hstop
    obtain ⟨w₁, w', rfl, hw₁, hw'⟩ := List.map_eq_append_iff.1 hw
    obtain ⟨d, w₂, rfl, hd, hw₂⟩ := List.map_eq_cons_iff.1 hw'
    have hfirst : Begins 2 (w₁.map Token.kind) := hw₁ ▸ (h.proper.expression he).1
    simp only [List.length_append, List.length_cons] at hbound hn
    obtain ⟨n, rfl⟩ : ∃ m, n = m + 1 := ⟨n - 1, by omega⟩
    have hnotend : atEnd (w₁ ++ d :: (w₂ ++ [stop])) = false :=
      atEnd_of_begins (by simpa using hfirst.append _)
    have hstops : Stops 9 (d :: (w₂ ++ [stop])) := stops_cons hd (by simp [joins?])
    have hread := h.expression.complete he hw₁ (by omega) hstops
    -- the comma behind the item begins the rest
    have hrest := ih n (e :: done) d w₂ stop hw₂ (by omega) (by omega) hd hstop
    rw [List.append_assoc, List.cons_append]
    simp only [tupleFrom, eat?_cons _ hc, hnotend, hread, ok_bind, hrest]
    simp

end Source

/-- An expression, or several with commas between them, and what is left. -/
def whole (bound : Nat) (top : Deeper) : Parser Expr := fun ts => do
  let (first, rest) ← top.expression ts
  match eat? .comma rest with
  | some _ => do
    let (items, rest) ← tupleFrom top bound [] rest
    return (.tuple (first :: items), rest)
  | none => return (first, rest)

theorem parseTokens_eq {ts : List Token} (h : atEnd ts = false) :
    parseTokens ts = (do
      let (e, rest) ← whole ts.length (level ts.length maxDepth) ts
      if atEnd rest then return e else fail rest .trailing) := by
  simp only [parseTokens, h, whole, bind_assoc]
  refine bind_congr fun r => ?_
  cases eat? .comma r.2 <;> simp

theorem sound_whole {bound : Nat} {ts rest : List Token} {e : Expr}
    (hrun : whole bound (level bound maxDepth) ts = .ok (e, rest)) (hend : atEnd rest = true) :
    ∃ w, ts = w ++ rest ∧ Source (w.map Token.kind) e := by
  have hlevel := recognises_level bound maxDepth
  obtain ⟨⟨first, ts₁⟩, hfirst, hnext⟩ := bind_eq_ok_iff.1 hrun
  obtain ⟨w, rfl, hw⟩ := hlevel.expression.sound hfirst
  rcases hcomma : eat? .comma ts₁ with _ | ts₂
  · simp only [hcomma] at hnext
    cases hnext
    exact ⟨w, rfl, .expression hw⟩
  · simp only [hcomma] at hnext
    obtain ⟨⟨items, ts₃⟩, hitems, he⟩ := bind_eq_ok_iff.1 hnext
    cases he
    obtain ⟨v, es, rfl, rfl, hv⟩ := sound_tupleFrom hlevel bound hitems
    refine ⟨w ++ v, by simp, ?_⟩
    rw [List.map_append]
    generalize hk : v.map Token.kind = k at hv
    cases hv with
    | nil =>
      -- The comma would be left over.
      obtain rfl := List.map_eq_nil_iff.1 hk
      obtain ⟨t, rfl, ht⟩ := eat?_eq_some_iff.1 hcomma
      rcases atEnd_iff.1 hend with hnil | ⟨t', rest', heq, ht'⟩
      · simp at hnil
      · cases heq
        simp [ht] at ht'
    | cons hes => exact .tuple hw hes

theorem complete_whole {k : List Token.Kind} {e : Expr} (hk : Source k e) {bound : Nat}
    {w : List Token} {stop : Token} (hw : w.map Token.kind = k) (hbound : w.length ≤ bound)
    (hstop : stop.kind = .stop) :
    whole bound (level bound maxDepth) (w ++ [stop]) = .ok (e, [stop]) := by
  have hlevel := recognises_level bound maxDepth
  cases hk with
  | expression he =>
    have hstops : Stops 9 [stop] := stops_cons hstop (by simp [joins?])
    have hread := hlevel.expression.complete he hw hbound hstops
    have hnocomma : eat? .comma [stop] = none := eat?_cons_of_ne (by simp [hstop])
    simp only [whole, hread, ok_bind, hnocomma]
    rfl
  | @tuple u v first es hfirst hes =>
    obtain ⟨w₁, w', rfl, hw₁, hw'⟩ := List.map_eq_append_iff.1 hw
    obtain ⟨c, w₂, rfl, hc, hw₂⟩ := List.map_eq_cons_iff.1 hw'
    simp only [List.length_append, List.length_cons] at hbound
    have hstops : Stops 9 (c :: (w₂ ++ [stop])) := stops_cons hc (by simp [joins?])
    have hread := hlevel.expression.complete hfirst hw₁ (by omega) hstops
    have hitems := complete_tupleFrom hlevel hes bound [] c w₂ stop hw₂ (by omega) (by omega)
      hc hstop
    rw [List.append_assoc, List.cons_append]
    simp only [whole, hread, ok_bind, eat?_cons _ hc, hitems]
    rfl

/-- Tokens up to the end of the source are all of a word that stops there. -/
theorem eq_of_append_stop {w u rest : List Token} {stop : Token} (hw : ∀ t ∈ w, t.kind ≠ .stop)
    (hstop : stop.kind = .stop) (hu : ∀ t ∈ u, t.kind ≠ .stop) (hend : atEnd rest = true)
    (heq : w ++ [stop] = u ++ rest) : u = w := by
  rcases atEnd_iff.1 hend with rfl | ⟨t, rest', rfl, ht⟩
  · rw [List.append_nil] at heq
    exact absurd hstop (hu stop (by simp [← heq]))
  · rcases List.append_eq_append_iff.1 heq with ⟨v, rfl, hv⟩ | ⟨v, rfl, hv⟩
    · cases v with
      | nil => simp
      | cons d v => simp at hv
    · cases v with
      | nil => simp
      | cons d v =>
        cases hv
        exact absurd ht (hw t (by simp))

end Parser

open ConfigTree.Parser

/-- What the tokens up to the end of a source are read to is derived from them. -/
theorem source_of_parseTokens {w : List Token} {stop : Token} {e : Expr}
    (hw : ∀ t ∈ w, t.kind ≠ .stop) (hstop : stop.kind = .stop)
    (hrun : parseTokens (w ++ [stop]) = .ok e) : Source (w.map Token.kind) e := by
  have hstart : atEnd (w ++ [stop]) = false := by
    by_contra h
    rw [Bool.not_eq_false] at h
    simp [parseTokens, h, fail] at hrun
  rw [parseTokens_eq hstart] at hrun
  obtain ⟨⟨e', rest⟩, hwhole, hlast⟩ := bind_eq_ok_iff.1 hrun
  by_cases hend : atEnd rest = true
  · simp only [hend] at hlast
    cases hlast
    obtain ⟨u, heq, hu⟩ := sound_whole hwhole hend
    have hnostop : ∀ t ∈ u, t.kind ≠ .stop := by
      intro t ht hkind
      exact (proper_source hu).2 (hkind ▸ List.mem_map_of_mem ht)
    obtain rfl := eq_of_append_stop hw hstop hnostop hend heq
    exact hu
  · simp [hend, fail] at hlast

/-- What is derived from the tokens before the end of a source is what they are read to. -/
theorem parseTokens_of_source {w : List Token} {stop : Token} {e : Expr}
    (hstop : stop.kind = .stop) (h : Source (w.map Token.kind) e) :
    parseTokens (w ++ [stop]) = .ok e := by
  have hstart : atEnd (w ++ [stop]) = false :=
    atEnd_of_begins (by simpa using (proper_source h).1.append _)
  have hend : atEnd [stop] = true := atEnd_iff.2 (.inr ⟨stop, [], rfl, hstop⟩)
  have hlength : w.length ≤ (w ++ [stop]).length := by simp
  have hwhole := complete_whole h rfl hlength hstop
  rw [parseTokens_eq hstart, hwhole]
  simp [hend]

/-- Tokens that end a source are read to an expression exactly if the grammar derives it from
those before the end. -/
theorem parseTokens_eq_ok_iff {w : List Token} {stop : Token} (hw : ∀ t ∈ w, t.kind ≠ .stop)
    (hstop : stop.kind = .stop) (e : Expr) :
    parseTokens (w ++ [stop]) = .ok e ↔ Source (w.map Token.kind) e :=
  ⟨source_of_parseTokens hw hstop, parseTokens_of_source hstop⟩

/-- The tokens of `-a ** b not in (1,),`, which derive a bare tuple of one comparison. -/
theorem parseTokens_eq_ok_iff_of_tuple :
    let w : List Token := [⟨.symbol .minus, 0, 1⟩, ⟨.name "a", 1, 1⟩, ⟨.symbol .doubleStar, 3, 2⟩,
      ⟨.name "b", 6, 1⟩, ⟨.keyword .not, 8, 3⟩, ⟨.keyword .in, 12, 2⟩, ⟨.symbol .leftParen, 15, 1⟩,
      ⟨.int 1, 16, 1⟩, ⟨.symbol .comma, 17, 1⟩, ⟨.symbol .rightParen, 18, 1⟩,
      ⟨.symbol .comma, 19, 1⟩]
    let stop : Token := ⟨.stop, 20, 0⟩
    (∀ t ∈ w, t.kind ≠ .stop) ∧ stop.kind = .stop ∧
      Source (w.map Token.kind) (.tuple [.compare (.unary .minus (.power (.name "a") (.name "b")))
        [(.notIn, .tuple [.int 1])]]) := by
  intro w stop
  have hw : ∀ t ∈ w, t.kind ≠ .stop := by simp [w]
  exact ⟨hw, rfl, (parseTokens_eq_ok_iff hw (rfl : stop.kind = .stop) _).1 rfl⟩

end ConfigTree
