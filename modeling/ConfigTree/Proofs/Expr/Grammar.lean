import ConfigTree.Expr.Parser

/-!
# The grammar of expressions

The tokens that write an expression, without saying how they are read.  A language relates
words, which are lists of token kinds, to what they say.  There is one language for each
precedence, put together from that of the next tighter one.  What stands inside brackets,
behind a sign, behind `not` or in an exponent is of the languages one level deeper, and
there are `maxDepth` levels.

## Main definitions

* `Grammar.Items` — items with commas between them, perhaps with one after the last.
* `Grammar.Flat` — a run of operands with operators between them as one flat node; a run of
  one operand is that operand.
* `Grammar.Atom`, `Grammar.Trailed`, `Grammar.Powered`, `Grammar.Signed`, `Grammar.ranked`,
  `Grammar.Compared`, `Grammar.Negated`, `Grammar.AllOf`, `Grammar.AnyOf` — the precedences.
* `Grammar.level` — the languages with so many levels left; `Grammar.Source` — whole sources.

## Main results

* `Grammar.proper_expression` — an expression begins with an operand, a sign or `not`, and
  the end of the source is none of its tokens.
-/

namespace ConfigTree

/-! ### How operators are written -/

/-- The symbol of an operator. -/
def BinaryOp.symbol : BinaryOp → Symbol
  | .add => .plus
  | .sub => .minus
  | .mul => .star
  | .div => .slash
  | .floorDiv => .doubleSlash
  | .mod => .percent
  | .pow => .doubleStar
  | .bitAnd => .ampersand
  | .bitOr => .pipe
  | .bitXor => .caret
  | .shiftLeft => .shiftLeft
  | .shiftRight => .shiftRight

/-- How loosely an operator binds. -/
def BinaryOp.rank : BinaryOp → Nat
  | .pow => 0
  | .mul | .div | .floorDiv | .mod => 1
  | .add | .sub => 2
  | .shiftLeft | .shiftRight => 3
  | .bitAnd => 4
  | .bitXor => 5
  | .bitOr => 6

/-- The word of an operator before its operand. -/
def UnaryOp.word : UnaryOp → Token.Kind
  | .minus => .symbol .minus
  | .plus => .symbol .plus
  | .invert => .symbol .tilde
  | .not => .keyword .not

/-- The words of a comparison. -/
def Comparison.words : Comparison → List Token.Kind
  | .eq => [.symbol .equal]
  | .ne => [.symbol .notEqual]
  | .lt => [.symbol .less]
  | .le => [.symbol .lessEqual]
  | .gt => [.symbol .greater]
  | .ge => [.symbol .greaterEqual]
  | .isIn => [.keyword .in]
  | .notIn => [.keyword .not, .keyword .in]
  | .same => [.keyword .is]
  | .notSame => [.keyword .is, .keyword .not]

/-- The word of a connective. -/
def Connective.word : Connective → Keyword
  | .and => .and
  | .or => .or

/-- Words, each with what it says. -/
abbrev Language (α : Type) := List Token.Kind → α → Prop

namespace Grammar

/-! ### Lists and runs -/

/-- Items with commas between them, perhaps with one after the last. -/
inductive Items {α : Type} (item : Language α) : Language (List α)
  | nil : Items item [] []
  | last {w : List Token.Kind} {a : α} : item w a → Items item w [a]
  | cons {w v : List Token.Kind} {a : α} {as : List α} :
    item w a → Items item v as → Items item (w ++ .symbol .comma :: v) (a :: as)

/-- Operators with their right operands. -/
inductive Run {α : Type} (op : Language α) (operand : Language Expr) :
    Language (List (α × Expr))
  | nil : Run op operand [] []
  | cons {u w v : List Token.Kind} {o : α} {e : Expr} {rest : List (α × Expr)} :
    op u o → operand w e → Run op operand v rest →
      Run op operand (u ++ w ++ v) ((o, e) :: rest)

/-- An operand, or a run of at least two as one node. -/
inductive Flat {α : Type} (op : Language α) (node : Expr → List (α × Expr) → Expr)
    (operand : Language Expr) : Language Expr
  | operand {w : List Token.Kind} {e : Expr} : operand w e → Flat op node operand w e
  | node {w v : List Token.Kind} {e : Expr} {rest : List (α × Expr)} :
    operand w e → Run op operand v rest → rest ≠ [] →
      Flat op node operand (w ++ v) (node e rest)

/-! ### The precedences -/

/-- The languages that a level takes from the next deeper one. -/
structure Inner where
  /-- Whole expressions. -/
  expression : Language Expr
  /-- The operands of `not`. -/
  negated : Language Expr
  /-- The operands of a sign, and exponents. -/
  signed : Language Expr

section Level

variable (inner : Inner)

/-- A key and its value. -/
def Pair : Language (Expr × Expr) := fun w entry =>
  ∃ u v, w = u ++ .symbol .colon :: v ∧ inner.expression u entry.1 ∧ inner.expression v entry.2

/-- Literals, names, and what stands in brackets. -/
inductive Atom : Language Expr
  | int (n : Int64) : Atom [.int n] (.int n)
  | float (x : Float) : Atom [.float x] (.float x)
  | str (s : String) : Atom [.str s] (.str s)
  | name (n : String) : Atom [.name n] (.name n)
  | true : Atom [.keyword .true] (.bool true)
  | false : Atom [.keyword .false] (.bool false)
  | none : Atom [.keyword .none] .null
  | group {w : List Token.Kind} {e : Expr} : inner.expression w e →
    Atom (.symbol .leftParen :: w ++ [.symbol .rightParen]) e
  | unit : Atom [.symbol .leftParen, .symbol .rightParen] (.tuple [])
  | tuple {w v : List Token.Kind} {e : Expr} {es : List Expr} :
    inner.expression w e → Items inner.expression v es →
      Atom (.symbol .leftParen :: (w ++ .symbol .comma :: v) ++ [.symbol .rightParen])
        (.tuple (e :: es))
  | list {w : List Token.Kind} {es : List Expr} : Items inner.expression w es →
    Atom (.symbol .leftBracket :: w ++ [.symbol .rightBracket]) (.list es)
  | dict {w : List Token.Kind} {entries : List (Expr × Expr)} : Items (Pair inner) w entries →
    Atom (.symbol .leftBrace :: w ++ [.symbol .rightBrace]) (.dict entries)

/-- What may follow an operand, with what it makes of the operand. -/
inductive Trailer : Language (Expr → Expr)
  | dotted (n : String) : Trailer [.symbol .dot, .name n] (.attribute · n)
  | subscript {w : List Token.Kind} {index : Expr} : inner.expression w index →
    Trailer (.symbol .leftBracket :: w ++ [.symbol .rightBracket]) (.subscript · index)
  | call {w : List Token.Kind} {args : List Expr} : Items inner.expression w args →
    Trailer (.symbol .leftParen :: w ++ [.symbol .rightParen]) (.call · args)

/-- So many trailers after an operand, with what they make of it. -/
inductive Trailed : Nat → Expr → Language Expr
  | nil {e : Expr} : Trailed 0 e [] e
  | cons {k : Nat} {u w : List Token.Kind} {f : Expr → Expr} {e e' : Expr} :
    Trailer inner u f → Trailed k (f e) w e' → Trailed (k + 1) e (u ++ w) e'

/-- An operand with its trailers. -/
inductive Postfixed : Language Expr
  | intro {k : Nat} {w v : List Token.Kind} {e e' : Expr} :
    k ≤ maxTrailers → Atom inner w e → Trailed inner k e v e' → Postfixed (w ++ v) e'

/-- An operand, or a power with a signed exponent. -/
inductive Powered : Language Expr
  | operand {w : List Token.Kind} {e : Expr} : Postfixed inner w e → Powered w e
  | power {w v : List Token.Kind} {base exponent : Expr} :
    Postfixed inner w base → inner.signed v exponent →
      Powered (w ++ .symbol BinaryOp.pow.symbol :: v) (.power base exponent)

/-- An operand behind its signs. -/
inductive Signed : Language Expr
  | operand {w : List Token.Kind} {e : Expr} : Powered inner w e → Signed w e
  | sign {op : UnaryOp} {w : List Token.Kind} {e : Expr} : op ≠ .not → inner.signed w e →
    Signed (op.word :: w) (.unary op e)

/-- The binary operators of a rank. -/
def OfRank (r : Nat) : Language BinaryOp := fun w op =>
  op.rank = r ∧ w = [.symbol op.symbol]

/-- What binds at least as tightly as the operators of a rank: one flat node for each run of
operators of one rank. -/
def ranked : Nat → Language Expr
  | 0 => Signed inner
  | r + 1 => Flat (OfRank (r + 1)) .chain (ranked r)

/-- A run of comparisons. -/
def Compared : Language Expr :=
  Flat (fun w op => w = op.words) .compare (ranked inner BinaryOp.bitOr.rank)

/-- A comparison, or `not` before one. -/
inductive Negated : Language Expr
  | operand {w : List Token.Kind} {e : Expr} : Compared inner w e → Negated w e
  | not {w : List Token.Kind} {e : Expr} : inner.negated w e →
    Negated (UnaryOp.not.word :: w) (.unary .not e)

/-- A run of operands with a connective between them. -/
def Connected (op : Connective) (operand : Language Expr) : Language Expr :=
  Flat (fun w (_ : Unit) => w = [.keyword op.word])
    (fun first rest => .logical op (first :: rest.map Prod.snd)) operand

/-- A run of `and`. -/
def AllOf : Language Expr := Connected .and (Negated inner)

/-- A run of `or`. -/
def AnyOf : Language Expr := Connected .or (AllOf inner)

end Level

/-- The languages with so many levels left. -/
def level : Nat → Inner
  | 0 => ⟨fun _ _ => False, fun _ _ => False, fun _ _ => False⟩
  | n + 1 => ⟨AnyOf (level n), Negated (level n), Signed (level n)⟩

/-- A whole source: an expression, or several with commas between them as a tuple. -/
inductive Source : Language Expr
  | expression {w : List Token.Kind} {e : Expr} : (level maxDepth).expression w e → Source w e
  | tuple {w v : List Token.Kind} {e : Expr} {es : List Expr} :
    (level maxDepth).expression w e → Items (level maxDepth).expression v es →
      Source (w ++ .symbol .comma :: v) (.tuple (e :: es))

/-! ### How words begin -/

/-- What a token opens: 0 is an operand without a sign, 1 one with a sign, 2 one with `not`. -/
def opens? : Token.Kind → Option Nat
  | .int _ | .float _ | .str _ | .name _ => some 0
  | .keyword .true | .keyword .false | .keyword .none => some 0
  | .symbol .leftParen | .symbol .leftBracket | .symbol .leftBrace => some 0
  | .symbol .minus | .symbol .plus | .symbol .tilde => some 1
  | .keyword .not => some 2
  | _ => none

/-- The first token opens at most this much. -/
def Begins (r : Nat) (w : List Token.Kind) : Prop :=
  ∃ k v, w = k :: v ∧ ∃ n ≤ r, opens? k = some n

theorem begins_cons {r n : Nat} {k : Token.Kind} {v : List Token.Kind} (h : opens? k = some n)
    (hn : n ≤ r) : Begins r (k :: v) :=
  ⟨k, v, rfl, n, hn, h⟩

theorem Begins.append {r : Nat} {w : List Token.Kind} (h : Begins r w) (v : List Token.Kind) :
    Begins r (w ++ v) := by
  obtain ⟨k, u, rfl, hk⟩ := h
  exact ⟨k, u ++ v, rfl, hk⟩

theorem Begins.mono {r r' : Nat} {w : List Token.Kind} (h : Begins r w) (hr : r ≤ r') :
    Begins r' w := by
  obtain ⟨k, v, rfl, n, hn, hk⟩ := h
  exact ⟨k, v, rfl, n, by omega, hk⟩

theorem Begins.ne_nil {r : Nat} {w : List Token.Kind} (h : Begins r w) : w ≠ [] := by
  obtain ⟨k, v, rfl, -⟩ := h
  exact List.cons_ne_nil k v

theorem Begins.length_pos {r : Nat} {w : List Token.Kind} (h : Begins r w) : 0 < w.length :=
  List.length_pos_iff.2 h.ne_nil

/-- Words of one language begin alike, and have the end of the source nowhere. -/
def Proper (r : Nat) (L : Language Expr) : Prop :=
  ∀ ⦃w e⦄, L w e → Begins r w ∧ .stop ∉ w

theorem Proper.mono {r r' : Nat} {L : Language Expr} (h : Proper r L) (hr : r ≤ r') :
    Proper r' L := fun _ _ hw => ⟨(h hw).1.mono hr, (h hw).2⟩

theorem Items.stop_notMem {α : Type} {item : Language α} {w : List Token.Kind} {as : List α}
    (h : ∀ ⦃w a⦄, item w a → .stop ∉ w) (hw : Items item w as) : .stop ∉ w := by
  induction hw with
  | nil => simp
  | last ha => exact h ha
  | cons ha _ ih => simp [h ha, ih]

theorem Run.stop_notMem {α : Type} {op : Language α} {operand : Language Expr}
    {w : List Token.Kind} {rest : List (α × Expr)} (hop : ∀ ⦃w o⦄, op w o → .stop ∉ w)
    (h : ∀ ⦃w e⦄, operand w e → .stop ∉ w) (hw : Run op operand w rest) : .stop ∉ w := by
  induction hw with
  | nil => simp
  | cons ho he _ ih => simp [hop ho, h he, ih]

/-- A run begins as its first operand does. -/
theorem Proper.flat {r : Nat} {α : Type} {op : Language α}
    {node : Expr → List (α × Expr) → Expr} {operand : Language Expr} (h : Proper r operand)
    (hop : ∀ ⦃w o⦄, op w o → .stop ∉ w) : Proper r (Flat op node operand) := by
  intro w e hw
  cases hw with
  | operand he => exact h he
  | node he hrest _ =>
    -- the first operand is not empty, so that the run begins where it begins
    have hstop := hrest.stop_notMem hop fun _ _ hw => (h hw).2
    exact ⟨(h he).1.append _, by simp [(h he).2, hstop]⟩

/-- All languages of a level are proper. -/
structure Inner.Proper (inner : Inner) : Prop where
  /-- An expression may begin with `not`. -/
  expression : Grammar.Proper 2 inner.expression
  /-- An operand of `not` may begin with `not`. -/
  negated : Grammar.Proper 2 inner.negated
  /-- An operand of a sign may begin with a sign. -/
  signed : Grammar.Proper 1 inner.signed

section Level

variable {inner : Inner}

theorem Pair.stop_notMem (h : Proper 2 inner.expression) :
    ∀ ⦃w a⦄, Pair inner w a → .stop ∉ w := by
  rintro _ ⟨key, value⟩ ⟨u, v, rfl, hkey, hvalue⟩
  simp [(h hkey).2, (h hvalue).2]

theorem proper_atom (h : inner.Proper) : Proper 0 (Atom inner) := by
  have hitems {w : List Token.Kind} {es : List Expr} (hw : Items inner.expression w es) :
      .stop ∉ w := hw.stop_notMem fun _ _ hw => (h.expression hw).2
  intro w e hw
  cases hw with
  -- one token, or two brackets with nothing between them
  | int | float | str | name | true | false | none | unit =>
    exact ⟨begins_cons rfl (Nat.le_refl _), by simp⟩
  | group he => exact ⟨begins_cons rfl (Nat.le_refl _), by simp [(h.expression he).2]⟩
  | tuple he hes =>
    exact ⟨begins_cons rfl (Nat.le_refl _), by simp [(h.expression he).2, hitems hes]⟩
  | list hes => exact ⟨begins_cons rfl (Nat.le_refl _), by simp [hitems hes]⟩
  | dict hes =>
    have hstop := hes.stop_notMem (Pair.stop_notMem h.expression)
    exact ⟨begins_cons rfl (Nat.le_refl _), by simp [hstop]⟩

theorem Trailer.stop_notMem (h : inner.Proper) {w : List Token.Kind} {f : Expr → Expr}
    (hw : Trailer inner w f) : .stop ∉ w := by
  cases hw with
  | dotted n => simp
  | subscript he => simp [(h.expression he).2]
  | call hes => simp [hes.stop_notMem fun _ _ hw => (h.expression hw).2]

theorem Trailed.stop_notMem (h : inner.Proper) {k : Nat} {w : List Token.Kind} {e e' : Expr}
    (hw : Trailed inner k e w e') : .stop ∉ w := by
  induction hw with
  | nil => simp
  | cons ht _ ih => simp [ht.stop_notMem h, ih]

theorem proper_postfixed (h : inner.Proper) : Proper 0 (Postfixed inner) := by
  rintro _ e ⟨-, ha, ht⟩
  obtain ⟨hbegins, hstop⟩ := proper_atom h ha
  exact ⟨hbegins.append _, by simp [hstop, ht.stop_notMem h]⟩

theorem proper_powered (h : inner.Proper) : Proper 0 (Powered inner) := by
  intro w e hw
  cases hw with
  | operand he => exact proper_postfixed h he
  | power hb hx =>
    obtain ⟨hbegins, hstop⟩ := proper_postfixed h hb
    exact ⟨hbegins.append _, by simp [hstop, (h.signed hx).2]⟩

theorem proper_signed (h : inner.Proper) : Proper 1 (Signed inner) := by
  intro w e hw
  cases hw with
  | operand he => exact (proper_powered h).mono (Nat.zero_le 1) he
  | @sign op _ _ hop he =>
    cases op with
    | not => exact absurd rfl hop
    | minus | plus | invert =>
      exact ⟨begins_cons rfl (Nat.le_refl _), by simp [UnaryOp.word, (h.signed he).2]⟩

theorem proper_ranked (h : inner.Proper) (r : Nat) : Proper 1 (ranked inner r) := by
  induction r with
  | zero => exact proper_signed h
  | succ r ih =>
    refine ih.flat ?_
    rintro _ op ⟨-, rfl⟩
    simp

theorem proper_compared (h : inner.Proper) : Proper 1 (Compared inner) := by
  refine (proper_ranked h _).flat ?_
  rintro _ op rfl
  cases op <;> simp [Comparison.words]

theorem proper_negated (h : inner.Proper) : Proper 2 (Negated inner) := by
  intro w e hw
  cases hw with
  | operand he => exact (proper_compared h).mono (Nat.le_succ 1) he
  | not he => exact ⟨begins_cons rfl (Nat.le_refl _), by simp [UnaryOp.word, (h.negated he).2]⟩

theorem Proper.connected {r : Nat} {operand : Language Expr} (h : Proper r operand)
    (op : Connective) : Proper r (Connected op operand) := by
  refine h.flat ?_
  rintro _ _ rfl
  simp

end Level

theorem proper_level (n : Nat) : (level n).Proper := by
  induction n with
  -- no level is left, and its languages are empty
  | zero => constructor <;> exact fun _ _ hw => hw.elim
  | succ n ih =>
    exact ⟨((proper_negated ih).connected .and).connected .or, proper_negated ih,
      proper_signed ih⟩

/-- An expression begins with an operand, a sign or `not`, and the end of the source is none
of its tokens. -/
theorem proper_expression (n : Nat) : Proper 2 (level n).expression :=
  (proper_level n).expression

/-- The same of a whole source. -/
theorem proper_source : Proper 2 Source := by
  intro w e hw
  cases hw with
  | expression he => exact proper_expression _ he
  | tuple he hes =>
    obtain ⟨hbegins, hstop⟩ := proper_expression _ he
    have hitems := hes.stop_notMem fun _ _ hw => (proper_expression _ hw).2
    exact ⟨hbegins.append _, by simp [hstop, hitems]⟩

end Grammar

end ConfigTree
