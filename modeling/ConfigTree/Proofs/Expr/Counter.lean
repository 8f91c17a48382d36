import ConfigTree.Proofs.Expr.Recognition

/-!
# Counting the levels

The readers of a level are given those of the next deeper one, and below the last level nothing
can be read.  The same can be done with one set of readers and a counter: going into brackets,
behind a sign, behind `not` or into an exponent adds one to it, which fails where the sum is more
than `maxDepth`, and coming back takes the one off again.

Here is that way of reading, with the counter as a state that every reader could change.  What
starts at the count `d` does the same as the readers with `maxDepth - d` levels left, and the
count is `d` again after it, since each reader is put together from steps that do so.

## Main definitions

* `Counter.Reader` — a reader with the counter; `Counter.nested` — one level deeper.
* `Counter.level`, `Counter.parse` — the readers, and what they make of all tokens.
* `Counter.Rule` — the readers by name, `Rule.reader` with the counter and `Rule.parser` without.
* `Counter.Tracks d m x` — started at the count `d`, `m` does what `x` does and ends at `d`.

## Main results

* `Counter.Tracks.bind` — two steps one after the other.
* `Counter.tracks_rule` — every reader with the counter does what the one without does.
* `Counter.tracks_parse` — and so do all tokens.
-/

namespace ConfigTree

/-- The binary operators. -/
def BinaryOp.all : List BinaryOp :=
  [.add, .sub, .mul, .div, .floorDiv, .mod, .pow, .bitAnd, .bitOr, .bitXor, .shiftLeft, .shiftRight]

/-- The operator of a rank that a symbol writes. -/
def BinaryOp.ofRank? (r : Nat) (s : Symbol) : Option BinaryOp :=
  all.find? fun op => op.rank = r ∧ op.symbol = s

namespace Parser

/-! ### Binary operators by their rank -/

/-- The reader of what binds at least as tightly as the operators of a rank. -/
def tier (bound : Nat) (deeper : Deeper) : Nat → Parser Expr
  | 0 => signed bound deeper
  | r + 1 => flat bound (symbolOp? (BinaryOp.ofRank? (r + 1))) .chain (tier bound deeper r)

theorem chained_eq_tier {bound r : Nat} {deeper : Deeper} {op? : Symbol → Option BinaryOp}
    {operand : Parser Expr} (hop : op? = BinaryOp.ofRank? (r + 1))
    (hoperand : operand = tier bound deeper r) :
    chained bound op? operand = tier bound deeper (r + 1) := by
  subst hop hoperand
  rfl

/-- The readers of the operators are those of the ranks one after the other. -/
theorem disjunction_eq_tier (bound : Nat) (deeper : Deeper) :
    disjunction bound deeper = tier bound deeper BinaryOp.bitOr.rank := by
  have hterm : term bound deeper = tier bound deeper 1 :=
    chained_eq_tier (by funext s; cases s <;> rfl) rfl
  have hsum : sum bound deeper = tier bound deeper 2 :=
    chained_eq_tier (by funext s; cases s <;> rfl) hterm
  have hshifted : shifted bound deeper = tier bound deeper 3 :=
    chained_eq_tier (by funext s; cases s <;> rfl) hsum
  have hconjunction : conjunction bound deeper = tier bound deeper 4 :=
    chained_eq_tier (by funext s; cases s <;> rfl) hshifted
  have hexclusion : exclusion bound deeper = tier bound deeper 5 :=
    chained_eq_tier (by funext s; cases s <;> rfl) hconjunction
  exact chained_eq_tier (by funext s; cases s <;> rfl) hexclusion

end Parser

namespace Counter

open ConfigTree.Parser

/-! ### Reading with a counter -/

/-- A step that can fail and can change the count. -/
abbrev Step (α : Type) := StateT Nat (Except SyntaxError) α

/-- Reads something from the front of the tokens and leaves the rest. -/
abbrev Reader (α : Type) := List Token → Step (α × List Token)

/-- Counts one more, which may be too much. -/
def enter (ts : List Token) : Step Unit := do
  modify (· + 1)
  if maxDepth < (← get) then fail ts .tooDeep

/-- Counts one less. -/
def leave : Step Unit := modify (· - 1)

/-- Reads one level deeper. -/
def nested {α : Type} (r : Reader α) : Reader α := fun ts => do
  enter ts
  let read ← r ts
  leave
  return read

/-- The readers that count one more. -/
structure Inner where
  /-- A whole expression. -/
  expression : Reader Expr
  /-- The operand of `not`. -/
  negated : Reader Expr
  /-- The operand of a sign, or an exponent. -/
  signed : Reader Expr

/-- Items with commas between them up to `close`; at most `n` are read, after those `done` held
back to front. -/
def itemsFrom {α : Type} (item : Reader α) (close : Symbol) (fault : SyntaxFault) :
    Nat → List α → Reader (List α)
  | 0, done, ts => do
    let ts ← expect close fault ts
    return (done.reverse, ts)
  | n + 1, done, ts =>
    match eat? close ts with
    | some rest => return (done.reverse, rest)
    | none => do
      let (a, ts) ← item ts
      match eat? .comma ts with
      | some ts => itemsFrom item close fault n (a :: done) ts
      | none => do
        let ts ← expect close fault ts
        return ((a :: done).reverse, ts)

/-- Operators with their right operands, at most `n` of them, after those `done` held back to
front. -/
def operatorsFrom {α : Type} (op? : List Token → Option (α × List Token)) (operand : Reader Expr) :
    Nat → List (α × Expr) → Reader (List (α × Expr))
  | 0, done, ts => return (done.reverse, ts)
  | n + 1, done, ts =>
    match op? ts with
    | none => return (done.reverse, ts)
    | some (op, ts) => do
      let (e, ts) ← operand ts
      operatorsFrom op? operand n ((op, e) :: done) ts

/-- A run of operators with their operands between them, as one node. -/
def flat {α : Type} (bound : Nat) (op? : List Token → Option (α × List Token))
    (node : Expr → List (α × Expr) → Expr) (operand : Reader Expr) : Reader Expr := fun ts => do
  let (first, ts) ← operand ts
  let (rest, ts) ← operatorsFrom op? operand bound [] ts
  return (if rest.isEmpty then first else node first rest, ts)

section Level

variable (bound : Nat) (inner : Inner)

/-- Expressions with commas between them up to `close`. -/
def sequence (close : Symbol) : Reader (List Expr) :=
  itemsFrom inner.expression close .closing bound []

/-- A key, a colon and a value. -/
def entry : Reader (Expr × Expr) := fun ts => do
  let (key, ts) ← inner.expression ts
  let ts ← expect .colon .colon ts
  let (value, ts) ← inner.expression ts
  return ((key, value), ts)

/-- Keys and values up to the closing brace. -/
def dict : Reader Expr := fun ts => do
  let (entries, ts) ← itemsFrom (entry inner) .rightBrace .brace bound [] ts
  return (.dict entries, ts)

/-- What follows an opening parenthesis. -/
def parenthesised : Reader Expr := fun ts =>
  match eat? .rightParen ts with
  | some rest => return (.tuple [], rest)
  | none => do
    let (first, ts) ← inner.expression ts
    match eat? .rightParen ts with
    | some rest => return (first, rest)
    | none =>
      let ts ← expect .comma .commaOrParen ts
      let (items, ts) ← sequence bound inner .rightParen ts
      return (.tuple (first :: items), ts)

/-- A literal, a name or something in brackets. -/
def atom : Reader Expr
  | ⟨.int n, _, _⟩ :: ts => return (.int n, ts)
  | ⟨.float x, _, _⟩ :: ts => return (.float x, ts)
  | ⟨.str s, _, _⟩ :: ts => return (.str s, ts)
  | ⟨.name n, _, _⟩ :: ts => return (.name n, ts)
  | ⟨.keyword .true, _, _⟩ :: ts => return (.bool true, ts)
  | ⟨.keyword .false, _, _⟩ :: ts => return (.bool false, ts)
  | ⟨.keyword .none, _, _⟩ :: ts => return (.null, ts)
  | ⟨.symbol .leftParen, _, _⟩ :: ts => parenthesised bound inner ts
  | ⟨.symbol .leftBracket, _, _⟩ :: ts => do
    let (items, ts) ← sequence bound inner .rightBracket ts
    return (.list items, ts)
  | ⟨.symbol .leftBrace, _, _⟩ :: ts => dict bound inner ts
  | ts => fail ts .operand

/-- The attributes, indices and argument lists after `e`, at most `n` of them. -/
def trailersFrom : Nat → Expr → Reader Expr
  | 0, e, ts => if atTrailer ts then fail ts .tooManyTrailers else return (e, ts)
  | n + 1, e, ts =>
    match ts with
    | ⟨.symbol .dot, _, _⟩ :: ts => do
      let (attr, ts) ← attributeName ts
      trailersFrom n (.attribute e attr) ts
    | ⟨.symbol .leftBracket, _, _⟩ :: ts => do
      let (index, ts) ← inner.expression ts
      let ts ← expect .rightBracket .bracket ts
      trailersFrom n (.subscript e index) ts
    | ⟨.symbol .leftParen, _, _⟩ :: ts => do
      let (args, ts) ← sequence bound inner .rightParen ts
      trailersFrom n (.call e args) ts
    | ts => return (e, ts)

/-- An operand with its trailers. -/
def postfixed : Reader Expr := fun ts => do
  let (e, ts) ← atom bound inner ts
  trailersFrom bound inner maxTrailers e ts

/-- An operand with its power, which takes a signed operand. -/
def powered : Reader Expr := fun ts => do
  let (base, ts) ← postfixed bound inner ts
  match eat? .doubleStar ts with
  | some ts => do
    let (exponent, ts) ← inner.signed ts
    return (.power base exponent, ts)
  | none => return (base, ts)

/-- An operand with the sign before it. -/
def signed : Reader Expr := fun ts =>
  match ts with
  | ⟨.symbol s, _, _⟩ :: rest =>
    match sign? s with
    | some op => do
      let (e, ts) ← inner.signed rest
      return (.unary op e, ts)
    | none => powered bound inner ts
  | _ => powered bound inner ts

/-- What binds at least as tightly as the operators of a rank. -/
def tier : Nat → Reader Expr
  | 0 => signed bound inner
  | r + 1 => flat bound (symbolOp? (BinaryOp.ofRank? (r + 1))) .chain (tier r)

/-- A run of comparisons. -/
def compared : Reader Expr := flat bound comparison? .compare (tier bound inner BinaryOp.bitOr.rank)

/-- A comparison, or `not` before one. -/
def negated : Reader Expr := fun ts =>
  match eatWord? .not ts with
  | some rest => do
    let (e, ts) ← inner.negated rest
    return (.unary .not e, ts)
  | none => compared bound inner ts

/-- A run of operands with one connective between them. -/
def connected (op : Connective) (operand : Reader Expr) : Reader Expr :=
  flat bound (fun ts => (eatWord? op.word ts).map ((), ·))
    (fun first rest => .logical op (first :: rest.map Prod.snd)) operand

/-- A run of `and`. -/
def allOf : Reader Expr := connected bound .and (negated bound inner)

/-- A run of `or`. -/
def anyOf : Reader Expr := connected bound .or (allOf bound inner)

end Level

/-- The readers.  They go at most `n` levels deep, which is far enough where the counter stops
them before. -/
def level (bound : Nat) : Nat → Inner
  | 0 => ⟨fun ts => fail ts .tooDeep, fun ts => fail ts .tooDeep, fun ts => fail ts .tooDeep⟩
  | n + 1 =>
    let inner := level bound n
    ⟨nested (anyOf bound inner), nested (negated bound inner), nested (signed bound inner)⟩

/-- The expressions after the commas of a bare tuple, at most `n`, after those `done` held back
to front. -/
def tupleFrom (inner : Inner) : Nat → List Expr → Reader (List Expr)
  | 0, done, ts => return (done.reverse, ts)
  | n + 1, done, ts =>
    match eat? .comma ts with
    | none => return (done.reverse, ts)
    | some ts =>
      if atEnd ts then return (done.reverse, ts)
      else do
        let (e, ts) ← inner.expression ts
        tupleFrom inner n (e :: done) ts

/-- An expression, or several with commas between them, and what is left. -/
def whole (bound : Nat) (top : Inner) : Reader Expr := fun ts => do
  let (first, rest) ← top.expression ts
  match eat? .comma rest with
  | some _ => do
    let (items, rest) ← tupleFrom top bound [] rest
    return (.tuple (first :: items), rest)
  | none => return (first, rest)

/-- The expression that tokens write. -/
def parse (ts : List Token) : Step Expr :=
  if atEnd ts then fail ts .empty
  else do
    let (e, rest) ← whole ts.length (level ts.length (maxDepth + 1)) ts
    if atEnd rest then return e else fail rest .trailing

/-! ### Steps that keep the count -/

/-- Started at the count `d`, the step does what `x` does, and the count is `d` again after it. -/
def Tracks {α : Type} (d : Nat) (m : Step α) (x : Except SyntaxError α) : Prop :=
  m.run d = x.map (·, d)

/-- The reader with the counter tracks the one without, on whatever tokens. -/
def TracksAll {α : Type} (d : Nat) (r : Reader α) (p : Parser α) : Prop :=
  ∀ ts, Tracks d (r ts) (p ts)

section Steps

variable {α β : Type} {d : Nat}

theorem Tracks.return (a : α) : Tracks d (pure a : Step α) (.ok a) := rfl

/-- What knows of no counter leaves it alone. -/
theorem Tracks.lift (x : Except SyntaxError α) : Tracks d (x : Step α) x := by
  cases x with
  | error e => rfl
  | ok a => rfl

/-- Two steps one after the other. -/
theorem Tracks.bind {m : Step α} {x : Except SyntaxError α} {f : α → Step β}
    {g : α → Except SyntaxError β} (h : Tracks d m x) (hf : ∀ a, Tracks d (f a) (g a)) :
    Tracks d (m >>= f) (x >>= g) := by
  unfold Tracks at *
  rw [StateT.run_bind, h]
  -- what fails ends both alike; what is read leaves the count, so the next starts at it
  cases x with
  | error e => rfl
  | ok a => exact hf a

/-- **The count is back** where it was after every success, and only then is there one. -/
theorem Tracks.run_eq_ok_iff {m : Step α} {x : Except SyntaxError α} (h : Tracks d m x) {a : α}
    {d' : Nat} : m.run d = .ok (a, d') ↔ x = .ok a ∧ d' = d := by
  rw [h, map_eq_ok_iff]
  aesop

theorem run_enter (ts : List Token) (d : Nat) :
    (enter ts).run d = if maxDepth < d + 1 then fail ts .tooDeep else .ok ((), d + 1) := by
  -- the count is one more before it is looked at
  change (if maxDepth < d + 1 then _ else _ : Step Unit).run (d + 1) = _
  split
  · rfl
  · rfl

/-- One level deeper, while the count is less than `maxDepth`. -/
theorem TracksAll.nested {r : Reader α} {p : Parser α} (h : TracksAll (d + 1) r p)
    (hd : d < maxDepth) : TracksAll d (nested r) p := by
  intro ts
  have hr : (r ts).run (d + 1) = (p ts).map (·, d + 1) := h ts
  unfold Tracks
  rw [Counter.nested, StateT.run_bind, run_enter, if_neg (Nat.not_lt.2 hd)]
  change (r ts >>= fun read => leave >>= fun _ => pure read).run (d + 1) = _
  rw [StateT.run_bind, hr]
  -- `leave` takes off the one that `enter` has added.
  cases p ts with
  | error e => rfl
  | ok read => rfl

/-- At the count `maxDepth` nothing deeper is read. -/
theorem tracksAll_nested_of_le (r : Reader α) (hd : maxDepth ≤ d) :
    TracksAll d (nested r) (fail · .tooDeep) := by
  intro ts
  unfold Tracks
  rw [Counter.nested, StateT.run_bind, run_enter, if_pos (Nat.lt_succ_of_le hd)]
  rfl

end Steps

/-! ### Readers that keep the count -/

section Loops

variable {α : Type} {d : Nat}

theorem TracksAll.itemsFrom {item : Reader α} {p : Parser α} (h : TracksAll d item p)
    (close : Symbol) (fault : SyntaxFault) (n : Nat) (done : List α) :
    TracksAll d (itemsFrom item close fault n done) (Parser.itemsFrom p close fault n done) := by
  induction n generalizing done with
  | zero =>
    intro ts
    exact (Tracks.lift _).bind fun ts => .return _
  | succ n ih =>
    intro ts
    unfold Counter.itemsFrom Parser.itemsFrom
    cases eat? close ts with
    | some rest => exact .return _
    | none =>
      refine (h ts).bind ?_
      -- what is left of the tokens is the same in both, and so is what to do with it
      rintro ⟨a, ts⟩
      dsimp only
      cases eat? .comma ts with
      | some ts => exact ih (a :: done) ts
      | none => exact (Tracks.lift _).bind fun ts => .return _

theorem TracksAll.operatorsFrom {operand : Reader Expr} {p : Parser Expr}
    (h : TracksAll d operand p) (op? : List Token → Option (α × List Token)) (n : Nat)
    (done : List (α × Expr)) :
    TracksAll d (operatorsFrom op? operand n done) (Parser.operatorsFrom op? p n done) := by
  induction n generalizing done with
  | zero => exact fun ts => .return _
  | succ n ih =>
    intro ts
    unfold Counter.operatorsFrom Parser.operatorsFrom
    cases op? ts with
    | none => exact .return _
    | some read => exact (h read.2).bind fun operand => ih _ operand.2

theorem TracksAll.flat {operand : Reader Expr} {p : Parser Expr} (h : TracksAll d operand p)
    (bound : Nat) (op? : List Token → Option (α × List Token))
    (node : Expr → List (α × Expr) → Expr) :
    TracksAll d (flat bound op? node operand) (Parser.flat bound op? node p) := fun ts =>
  (h ts).bind fun first => (h.operatorsFrom op? bound [] first.2).bind fun _ => .return _

theorem TracksAll.connected {operand : Reader Expr} {p : Parser Expr} (h : TracksAll d operand p)
    (bound : Nat) (op : Connective) :
    TracksAll d (connected bound op operand) (Parser.connected bound op.word op p) := by
  rw [connected_eq]
  exact h.flat bound _ _

end Loops

/-- The readers that count one more track those of a deeper level. -/
structure Inner.Tracks (d : Nat) (inner : Inner) (deeper : Deeper) : Prop where
  /-- Expressions. -/
  expression : TracksAll d inner.expression deeper.expression
  /-- Operands of `not`. -/
  negated : TracksAll d inner.negated deeper.negated
  /-- Operands of signs, and exponents. -/
  signed : TracksAll d inner.signed deeper.signed

section Level

variable {d : Nat} {inner : Inner} {deeper : Deeper} (h : inner.Tracks d deeper) (bound : Nat)
include h

theorem tracks_sequence (close : Symbol) :
    TracksAll d (sequence bound inner close) (Parser.sequence bound deeper close) := by
  intro ts
  rw [Parser.sequence, sequenceFrom_eq]
  exact h.expression.itemsFrom close .closing bound [] ts

theorem tracks_entry : TracksAll d (entry inner) (Parser.entry deeper) := fun ts =>
  (h.expression ts).bind fun _ => (Tracks.lift _).bind fun ts =>
    (h.expression ts).bind fun _ => .return _

theorem tracks_dict : TracksAll d (dict bound inner) (dictFrom deeper bound []) := by
  intro ts
  rw [dictFrom_eq]
  exact ((tracks_entry h).itemsFrom _ _ bound [] ts).bind fun _ => .return _

theorem tracks_parenthesised :
    TracksAll d (parenthesised bound inner) (Parser.parenthesised bound deeper) := by
  intro ts
  unfold Counter.parenthesised Parser.parenthesised
  cases eat? .rightParen ts with
  | some rest => exact .return _
  | none =>
    refine (h.expression ts).bind ?_
    rintro ⟨first, ts⟩
    dsimp only
    cases eat? .rightParen ts with
    | some rest => exact .return _
    | none =>
      exact (Tracks.lift _).bind fun ts => (tracks_sequence h bound _ ts).bind fun _ => .return _

theorem tracks_atom : TracksAll d (atom bound inner) (Parser.atom bound deeper) := by
  intro ts
  -- By the first token: nothing but an opening bracket leads to a reader that counts.
  rcases ts with _ | ⟨⟨kind, pos, length⟩, ts⟩
  · exact .lift _
  cases kind with
  | int | float | str | name => exact .return _
  | keyword k =>
    cases k with
    | true | false | none => exact .return _
    | _ => exact .lift _
  | symbol s =>
    cases s with
    | leftParen => exact tracks_parenthesised h bound ts
    | leftBracket => exact (tracks_sequence h bound _ ts).bind fun _ => .return _
    | leftBrace => exact tracks_dict h bound ts
    | _ => exact .lift _
  | stop => exact .lift _

theorem tracks_trailersFrom (n : Nat) (e : Expr) :
    TracksAll d (trailersFrom bound inner n e) (Parser.trailersFrom bound deeper n e) := by
  induction n generalizing e with
  | zero =>
    intro ts
    unfold Counter.trailersFrom Parser.trailersFrom
    split
    · exact .lift _
    · exact .return _
  | succ n ih =>
    intro ts
    rcases ts with _ | ⟨⟨kind, pos, length⟩, ts⟩
    · exact .return _
    cases kind with
    | symbol s =>
      -- an index and arguments are read one level deeper, a name is not
      cases s with
      | dot => exact (Tracks.lift _).bind fun attr => ih _ attr.2
      | leftBracket =>
        exact (h.expression ts).bind fun _ => (Tracks.lift _).bind fun ts => ih _ ts
      | leftParen => exact (tracks_sequence h bound _ ts).bind fun args => ih _ args.2
      | _ => exact .return _
    | _ => exact .return _

theorem tracks_postfixed : TracksAll d (postfixed bound inner) (Parser.postfixed bound deeper) :=
  fun ts => (tracks_atom h bound ts).bind fun operand =>
    tracks_trailersFrom h bound _ operand.1 operand.2

theorem tracks_powered : TracksAll d (powered bound inner) (Parser.powered bound deeper) := by
  intro ts
  refine (tracks_postfixed h bound ts).bind ?_
  rintro ⟨base, ts⟩
  dsimp only
  cases eat? .doubleStar ts with
  | some ts => exact (h.signed ts).bind fun _ => .return _
  | none => exact .return _

theorem tracks_signed : TracksAll d (signed bound inner) (Parser.signed bound deeper) := by
  have hpowered := tracks_powered h bound
  intro ts
  rcases ts with _ | ⟨⟨kind, pos, length⟩, ts⟩
  · exact hpowered []
  cases kind with
  | symbol s =>
    simp only [Counter.signed, Parser.signed]
    cases sign? s with
    | some op => exact (h.signed ts).bind fun _ => .return _
    | none => exact hpowered _
  | _ => exact hpowered _

theorem tracks_tier (r : Nat) : TracksAll d (tier bound inner r) (Parser.tier bound deeper r) := by
  induction r with
  | zero => exact tracks_signed h bound
  | succ r ih => exact ih.flat bound _ _

theorem tracks_compared : TracksAll d (compared bound inner) (Parser.compared bound deeper) := by
  -- the loosest of the operators, below which all others are
  have htier := tracks_tier h bound BinaryOp.bitOr.rank
  rw [← disjunction_eq_tier] at htier
  exact htier.flat bound comparison? .compare

theorem tracks_negated : TracksAll d (negated bound inner) (Parser.negated bound deeper) := by
  intro ts
  unfold Counter.negated Parser.negated
  cases eatWord? .not ts with
  | some rest => exact (h.negated rest).bind fun _ => .return _
  | none => exact tracks_compared h bound ts

theorem tracks_allOf : TracksAll d (allOf bound inner) (Parser.allOf bound deeper) :=
  (tracks_negated h bound).connected bound .and

theorem tracks_anyOf : TracksAll d (anyOf bound inner) (Parser.anyOf bound deeper) :=
  (tracks_allOf h bound).connected bound .or

end Level

/-- **Every level.**  The count that a reader starts at and the levels that are left for it make
up `maxDepth`, and the counter stops it before its own levels end. -/
theorem tracks_level (bound : Nat) {n d : Nat} (h : maxDepth < d + n) :
    (level bound n).Tracks d (Parser.level bound (maxDepth - d)) := by
  induction n generalizing d with
  | zero =>
    rw [Nat.sub_eq_zero_of_le (show maxDepth ≤ d from Nat.le_of_lt h)]
    exact ⟨fun _ => .lift _, fun _ => .lift _, fun _ => .lift _⟩
  | succ n ih =>
    rcases Nat.lt_or_ge d maxDepth with hd | hd
    · -- The counter lets the reader in, and one level less is left for those inside.
      obtain ⟨k, hk⟩ : ∃ k, maxDepth - d = k + 1 := ⟨maxDepth - d - 1, by omega⟩
      have hnext := ih (show maxDepth < d + 1 + n by omega)
      rw [show maxDepth - (d + 1) = k by omega] at hnext
      rw [hk]
      exact ⟨(tracks_anyOf hnext bound).nested hd, (tracks_negated hnext bound).nested hd,
        (tracks_signed hnext bound).nested hd⟩
    · -- The counter does not, and no level is left.
      rw [Nat.sub_eq_zero_of_le hd]
      exact ⟨tracksAll_nested_of_le _ hd, tracksAll_nested_of_le _ hd, tracksAll_nested_of_le _ hd⟩

/-! ### Readers by name -/

/-- The readers, by what they read. -/
inductive Rule : Type → Type
  /-- A whole expression, one level deeper. -/
  | expression : Rule Expr
  /-- A run of `or`. -/
  | anyOf : Rule Expr
  /-- A run of `and`. -/
  | allOf : Rule Expr
  /-- A comparison, or `not` before one. -/
  | negated : Rule Expr
  /-- A run of comparisons. -/
  | compared : Rule Expr
  /-- A run of operators of a rank. -/
  | tier (r : Nat) : Rule Expr
  /-- An operand with its sign. -/
  | signed : Rule Expr
  /-- An operand with its power. -/
  | powered : Rule Expr
  /-- An operand with its trailers. -/
  | postfixed : Rule Expr
  /-- An operand. -/
  | atom : Rule Expr
  /-- Expressions up to a closing bracket. -/
  | sequence (close : Symbol) : Rule (List Expr)
  /-- What follows an opening parenthesis. -/
  | parenthesised : Rule Expr
  /-- What follows an opening brace. -/
  | dict : Rule Expr

/-- The reader with the counter. -/
def Rule.reader (bound : Nat) (inner : Inner) {α : Type} : Rule α → Reader α
  | .expression => inner.expression
  | .anyOf => Counter.anyOf bound inner
  | .allOf => Counter.allOf bound inner
  | .negated => Counter.negated bound inner
  | .compared => Counter.compared bound inner
  | .tier r => Counter.tier bound inner r
  | .signed => Counter.signed bound inner
  | .powered => Counter.powered bound inner
  | .postfixed => Counter.postfixed bound inner
  | .atom => Counter.atom bound inner
  | .sequence close => Counter.sequence bound inner close
  | .parenthesised => Counter.parenthesised bound inner
  | .dict => Counter.dict bound inner

/-- The reader without the counter. -/
def Rule.parser (bound : Nat) (deeper : Deeper) {α : Type} : Rule α → Parser α
  | .expression => deeper.expression
  | .anyOf => Parser.anyOf bound deeper
  | .allOf => Parser.allOf bound deeper
  | .negated => Parser.negated bound deeper
  | .compared => Parser.compared bound deeper
  | .tier r => Parser.tier bound deeper r
  | .signed => Parser.signed bound deeper
  | .powered => Parser.powered bound deeper
  | .postfixed => Parser.postfixed bound deeper
  | .atom => Parser.atom bound deeper
  | .sequence close => Parser.sequence bound deeper close
  | .parenthesised => Parser.parenthesised bound deeper
  | .dict => dictFrom deeper bound []

/-- **Every reader with the counter does what the one without does.** -/
theorem tracks_rule {α : Type} (rule : Rule α) (bound : Nat) {n d : Nat} (h : maxDepth < d + n) :
    TracksAll d (rule.reader bound (level bound n))
      (rule.parser bound (Parser.level bound (maxDepth - d))) := by
  have hlevel := tracks_level bound h
  cases rule with
  | expression => exact hlevel.expression
  | anyOf => exact tracks_anyOf hlevel bound
  | allOf => exact tracks_allOf hlevel bound
  | negated => exact tracks_negated hlevel bound
  | compared => exact tracks_compared hlevel bound
  | tier r => exact tracks_tier hlevel bound r
  | signed => exact tracks_signed hlevel bound
  | powered => exact tracks_powered hlevel bound
  | postfixed => exact tracks_postfixed hlevel bound
  | atom => exact tracks_atom hlevel bound
  | sequence close => exact tracks_sequence hlevel bound close
  | parenthesised => exact tracks_parenthesised hlevel bound
  | dict => exact tracks_dict hlevel bound

/-! ### All tokens -/

theorem tracks_tupleFrom {d : Nat} {inner : Inner} {deeper : Deeper} (h : inner.Tracks d deeper)
    (n : Nat) (done : List Expr) :
    TracksAll d (tupleFrom inner n done) (Parser.tupleFrom deeper n done) := by
  induction n generalizing done with
  | zero => exact fun ts => .return _
  | succ n ih =>
    intro ts
    unfold Counter.tupleFrom Parser.tupleFrom
    cases eat? .comma ts with
    | none => exact .return _
    | some ts =>
      dsimp only
      split
      · exact .return _
      · exact (h.expression ts).bind fun item => ih _ item.2

theorem tracks_whole {d : Nat} {inner : Inner} {deeper : Deeper} (h : inner.Tracks d deeper)
    (bound : Nat) : TracksAll d (whole bound inner) (Parser.whole bound deeper) := by
  intro ts
  refine (h.expression ts).bind ?_
  rintro ⟨first, rest⟩
  dsimp only
  cases eat? .comma rest with
  | some _ => exact (tracks_tupleFrom h bound [] rest).bind fun _ => .return _
  | none => exact .return _

/-- What is read with the counter is what is read, and the count is 0 in the end. -/
theorem tracks_parse (ts : List Token) : Tracks 0 (parse ts) (parseTokens ts) := by
  unfold parse
  split
  next hend =>
    simp only [parseTokens, hend]
    exact .lift _
  next hend =>
    rw [parseTokens_eq (Bool.not_eq_true _ ▸ hend)]
    have hlevel := tracks_level ts.length (show maxDepth < 0 + (maxDepth + 1) by omega)
    refine (tracks_whole hlevel ts.length ts).bind ?_
    rintro ⟨e, rest⟩
    dsimp only
    split
    · exact .return _
    · exact .lift _

end Counter

end ConfigTree
