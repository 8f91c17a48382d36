import ConfigTree.Proofs.Expr.Grammar
import ConfigTree.Proofs.Outcome
import Mathlib

/-!
# Reading operands

A reader recognises a language if it takes only words of the language and takes the whole of
a word wherever no token follows that would carry the word on.  Here are the readers of what
stands in brackets, of operands with their trailers, of powers and of signs; each inherits
both halves from the readers of the next deeper level.

## Main definitions

* `Stops r ts` — the tokens `ts` do not carry on a word of precedence `r`.
* `Parser.Recognises` — a reader and its language; `Parser.Deeper.Recognises` — the readers of
  a level.
* `Parser.itemsFrom` — the loop over items with commas between them, whatever they are.

## Main results

* `Parser.Recognises.itemsFrom` — lists, argument lists, tuples and mappings.
* `Parser.recognises_atom`, `Parser.recognises_postfixed`, `Parser.recognises_powered`,
  `Parser.recognises_signed` — the precedences up to the signs.
-/

namespace ConfigTree

open Grammar

/-! ### Tokens that carry a word on -/

/-- At which precedence a token carries on what stands before it: a trailer and `**` at 0, a
binary operator at its rank, and then comparisons, `and` and `or`. -/
def joins? : Token.Kind → Option Nat
  | .symbol .dot | .symbol .leftBracket | .symbol .leftParen | .symbol .doubleStar => some 0
  | .symbol .star | .symbol .slash | .symbol .doubleSlash | .symbol .percent => some 1
  | .symbol .plus | .symbol .minus => some 2
  | .symbol .shiftLeft | .symbol .shiftRight => some 3
  | .symbol .ampersand => some 4
  | .symbol .caret => some 5
  | .symbol .pipe => some 6
  | .symbol .equal | .symbol .notEqual | .symbol .less | .symbol .lessEqual => some 7
  | .symbol .greater | .symbol .greaterEqual => some 7
  | .keyword .in | .keyword .not | .keyword .is => some 7
  | .keyword .and => some 8
  | .keyword .or => some 9
  | _ => none

/-- The tokens do not carry on a word of precedence `r`. -/
def Stops (r : Nat) : List Token → Prop
  | t :: _ => ∀ j ∈ joins? t.kind, r < j
  | [] => True

theorem Stops.mono {r r' : Nat} {ts : List Token} (h : Stops r' ts) (hr : r ≤ r') :
    Stops r ts := by
  cases ts with
  | nil => trivial
  | cons t ts => exact fun j hj => Nat.lt_of_le_of_lt hr (h j hj)

theorem stops_cons {r : Nat} {t : Token} {ts : List Token} {k : Token.Kind} (ht : t.kind = k)
    (h : ∀ j ∈ joins? k, r < j) : Stops r (t :: ts) := by
  subst ht
  exact h

@[simp] theorem joins?_symbol (op : BinaryOp) : joins? (.symbol op.symbol) = some op.rank := by
  cases op <;> rfl

namespace Parser

/-! ### Single tokens -/

theorem eat?_eq_some_iff {s : Symbol} {ts rest : List Token} :
    eat? s ts = some rest ↔ ∃ t, ts = t :: rest ∧ t.kind = .symbol s := by
  constructor
  · intro h
    unfold eat? at h
    split at h
    · split at h
      next heq =>
        subst heq
        cases h
        exact ⟨_, rfl, rfl⟩
      next => simp at h
    · simp at h
  · rintro ⟨⟨kind, pos, length⟩, rfl, rfl⟩
    simp [eat?]

theorem eat?_cons {s : Symbol} {t : Token} (ts : List Token) (h : t.kind = .symbol s) :
    eat? s (t :: ts) = some ts :=
  eat?_eq_some_iff.2 ⟨t, rfl, h⟩

theorem eat?_cons_of_ne {s : Symbol} {t : Token} {ts : List Token} (h : t.kind ≠ .symbol s) :
    eat? s (t :: ts) = none := by
  refine Option.eq_none_iff_forall_ne_some.2 fun rest hrest => ?_
  obtain ⟨t', hts, ht'⟩ := eat?_eq_some_iff.1 hrest
  cases hts
  exact h ht'

theorem expect_eq_ok_iff {s : Symbol} {fault : SyntaxFault} {ts rest : List Token} :
    expect s fault ts = .ok rest ↔ ∃ t, ts = t :: rest ∧ t.kind = .symbol s := by
  rw [← eat?_eq_some_iff, expect]
  cases eat? s ts with
  | none => simp [fail]
  | some r => simp

theorem expect_cons {s : Symbol} {t : Token} (fault : SyntaxFault) (ts : List Token)
    (h : t.kind = .symbol s) : expect s fault (t :: ts) = .ok ts :=
  expect_eq_ok_iff.2 ⟨t, rfl, h⟩

theorem eatWord?_eq_some_iff {k : Keyword} {ts rest : List Token} :
    eatWord? k ts = some rest ↔ ∃ t, ts = t :: rest ∧ t.kind = .keyword k := by
  constructor
  · intro h
    unfold eatWord? at h
    split at h
    · split at h
      next heq =>
        subst heq
        cases h
        exact ⟨_, rfl, rfl⟩
      next => simp at h
    · simp at h
  · rintro ⟨⟨kind, pos, length⟩, rfl, rfl⟩
    simp [eatWord?]

theorem eatWord?_cons_of_ne {k : Keyword} {t : Token} {ts : List Token}
    (h : t.kind ≠ .keyword k) : eatWord? k (t :: ts) = none := by
  refine Option.eq_none_iff_forall_ne_some.2 fun rest hrest => ?_
  obtain ⟨t', hts, ht'⟩ := eatWord?_eq_some_iff.1 hrest
  cases hts
  exact h ht'

/-- No bracket is closed where a word begins. -/
theorem eat?_of_begins {s : Symbol} {r : Nat} {ts : List Token}
    (h : Begins r (ts.map Token.kind)) (hs : opens? (.symbol s) = none) : eat? s ts = none := by
  obtain ⟨k, v, hkv, n, -, hk⟩ := h
  obtain ⟨t, rest, rfl, rfl, -⟩ := List.map_eq_cons_iff.1 hkv
  refine eat?_cons_of_ne fun ht => ?_
  rw [ht, hs] at hk
  cases hk

/-! ### Readers and their languages -/

/-- A reader of a language: it takes nothing but words of it, and it takes all of a word of
at most `bound` tokens if what follows satisfies `ends`. -/
structure Recognises {α : Type} (bound : Nat) (ends : List Token → Prop) (p : Parser α)
    (L : Language α) : Prop where
  /-- Only words are taken. -/
  sound : ∀ ⦃ts a rest⦄, p ts = .ok (a, rest) → ∃ w, ts = w ++ rest ∧ L (w.map Token.kind) a
  /-- All of a word is taken. -/
  complete : ∀ ⦃k a⦄, L k a → ∀ ⦃w rest⦄, w.map Token.kind = k → w.length ≤ bound →
    ends rest → p (w ++ rest) = .ok (a, rest)

/-- Before any tokens, if it does not matter what follows. -/
theorem Recognises.complete_before {α : Type} {bound : Nat} {p : Parser α} {L : Language α}
    (h : Recognises bound (fun _ => True) p L) {k : List Token.Kind} {a : α} (hk : L k a)
    {w : List Token} (hw : w.map Token.kind = k) (hbound : w.length ≤ bound) (rest : List Token) :
    p (w ++ rest) = .ok (a, rest) :=
  h.complete hk hw hbound trivial

/-- The readers of a level and the languages of that level. -/
structure Deeper.Recognises (bound : Nat) (deeper : Deeper) (inner : Inner) : Prop where
  /-- Expressions. -/
  expression : Parser.Recognises bound (Stops 9) deeper.expression inner.expression
  /-- Operands of `not`. -/
  negated : Parser.Recognises bound (Stops 7) deeper.negated inner.negated
  /-- Operands of signs, and exponents. -/
  signed : Parser.Recognises bound (Stops 0) deeper.signed inner.signed
  /-- How the words begin. -/
  proper : inner.Proper

/-- Words up to a closing bracket. -/
def Closed {α : Type} (close : Symbol) (L : Language α) : Language α := fun w a =>
  ∃ v, w = v ++ [.symbol close] ∧ L v a

/-! ### What stands in brackets -/

section Items

variable {α : Type} {bound : Nat} {item : Parser α} {L : Language α} {close : Symbol}
  {fault : SyntaxFault}

/-- Items with commas between them up to `close`, whatever the items are. -/
def itemsFrom (item : Parser α) (close : Symbol) (fault : SyntaxFault) :
    Nat → List α → Parser (List α)
  | 0, done, ts => do
    let ts ← expect close fault ts
    return (done.reverse, ts)
  | n + 1, done, ts =>
    match eat? close ts with
    | some rest => .ok (done.reverse, rest)
    | none => do
      let (a, ts) ← item ts
      match eat? .comma ts with
      | some ts => itemsFrom item close fault n (a :: done) ts
      | none => do
        let ts ← expect close fault ts
        return ((a :: done).reverse, ts)

theorem sound_itemsFrom (h : Recognises bound (Stops 9) item L) (n : Nat) :
    ∀ {done : List α} {ts : List Token} {all : List α} {rest : List Token},
      itemsFrom item close fault n done ts = .ok (all, rest) →
      ∃ w as, ts = w ++ rest ∧ all = done.reverse ++ as ∧
        Closed close (Items L) (w.map Token.kind) as := by
  induction n with
  | zero =>
    intro done ts all rest hrun
    obtain ⟨ts', hclose, hall⟩ := bind_eq_ok_iff.1 hrun
    obtain ⟨t, rfl, ht⟩ := expect_eq_ok_iff.1 hclose
    cases hall
    exact ⟨[t], [], by simp, by simp, [], by simp [ht], .nil⟩
  | succ n ih =>
    intro done ts all rest hrun
    rw [itemsFrom] at hrun
    split at hrun
    next hclose =>
      -- the bracket closes at once, or behind a comma
      obtain ⟨t, rfl, ht⟩ := eat?_eq_some_iff.1 hclose
      cases hrun
      exact ⟨[t], [], by simp, by simp, [], by simp [ht], .nil⟩
    next =>
      obtain ⟨⟨a, ts₁⟩, ha, hnext⟩ := bind_eq_ok_iff.1 hrun
      obtain ⟨w, rfl, hw⟩ := h.sound ha
      rcases hcomma : eat? .comma ts₁ with _ | ts₂
      · simp only [hcomma] at hnext
        -- no comma: the item is the last
        obtain ⟨ts₂, hclose, hall⟩ := bind_eq_ok_iff.1 hnext
        obtain ⟨t, rfl, ht⟩ := expect_eq_ok_iff.1 hclose
        cases hall
        exact ⟨w ++ [t], [a], by simp, by simp, w.map Token.kind, by simp [ht], .last hw⟩
      · simp only [hcomma] at hnext
        -- a comma: what comes behind it is read in the same way
        obtain ⟨t, rfl, ht⟩ := eat?_eq_some_iff.1 hcomma
        obtain ⟨u, as, rfl, rfl, v, hu, hv⟩ := ih hnext
        exact ⟨w ++ t :: u, a :: as, by simp, by simp,
          w.map Token.kind ++ .symbol .comma :: v, by simp [ht, hu], .cons hw hv⟩

theorem complete_itemsFrom (h : Recognises bound (Stops 9) item L)
    (hbegins : ∀ ⦃w a⦄, L w a → Begins 2 w) (hopen : opens? (.symbol close) = none)
    (hjoin : joins? (.symbol close) = none) (hcomma : close ≠ .comma)
    {k : List Token.Kind} {as : List α} (hk : Items L k as) :
    ∀ (n : Nat) (done : List α) (w : List Token) (t : Token) (rest : List Token),
      w.map Token.kind = k → w.length ≤ bound → w.length ≤ n → t.kind = .symbol close →
      itemsFrom item close fault n done (w ++ t :: rest) = .ok (done.reverse ++ as, rest) := by
  induction hk with
  | nil =>
    intro n done w t rest hw _ _ ht
    obtain rfl := List.map_eq_nil_iff.1 hw
    cases n with
    | zero =>
      rw [List.nil_append, itemsFrom, expect_cons _ _ ht, List.append_nil]
      rfl
    | succ n => rw [List.nil_append, itemsFrom, eat?_cons _ ht, List.append_nil]
  | @last k a ha =>
    intro n done w t rest hw hbound hn ht
    -- an item has a token, so the loop has a turn left, and it does not close the bracket
    have hfirst : Begins 2 (w.map Token.kind) := hw ▸ hbegins ha
    have hpos := hfirst.length_pos
    rw [List.length_map] at hpos
    obtain ⟨n, rfl⟩ : ∃ m, n = m + 1 := ⟨n - 1, by omega⟩
    have hclose : eat? close (w ++ t :: rest) = none :=
      eat?_of_begins (by simpa using hfirst.append _) hopen
    have hstops : Stops 9 (t :: rest) := stops_cons ht (by simp [hjoin])
    have hread := h.complete ha hw hbound hstops
    have hnocomma : eat? .comma (t :: rest) = none :=
      eat?_cons_of_ne (by rw [ht]; simpa using hcomma)
    simp only [itemsFrom, hclose, hread, ok_bind, hnocomma, expect_cons _ _ ht]
    simp [pure, Except.pure]
  | @cons k v a as ha _ ih =>
    intro n done w t rest hw hbound hn ht
    obtain ⟨w₁, w', rfl, hw₁, hw'⟩ := List.map_eq_append_iff.1 hw
    obtain ⟨c, w₂, rfl, hc, hw₂⟩ := List.map_eq_cons_iff.1 hw'
    have hfirst : Begins 2 (w₁.map Token.kind) := hw₁ ▸ hbegins ha
    simp only [List.length_append, List.length_cons] at hbound hn
    obtain ⟨n, rfl⟩ : ∃ m, n = m + 1 := ⟨n - 1, by omega⟩
    have hclose : eat? close (w₁ ++ c :: (w₂ ++ t :: rest)) = none :=
      eat?_of_begins (by simpa using hfirst.append _) hopen
    -- the item ends at its comma
    have hstops : Stops 9 (c :: (w₂ ++ t :: rest)) := stops_cons hc (by simp [joins?])
    have hread := h.complete ha hw₁ (by omega) hstops
    have hrest := ih n (a :: done) w₂ t rest hw₂ (by omega) (by omega) ht
    rw [List.append_assoc, List.cons_append]
    simp only [itemsFrom, hclose, hread, ok_bind, eat?_cons _ hc, hrest]
    simp

/-- Items up to a closing bracket. -/
theorem Recognises.itemsFrom (h : Recognises bound (Stops 9) item L)
    (hbegins : ∀ ⦃w a⦄, L w a → Begins 2 w) (close : Symbol) (fault : SyntaxFault)
    (hopen : opens? (.symbol close) = none) (hjoin : joins? (.symbol close) = none)
    (hcomma : close ≠ .comma) :
    Recognises bound (fun _ => True) (itemsFrom item close fault bound [])
      (Closed close (Items L)) where
  sound ts all rest hrun := by
    obtain ⟨w, as, rfl, rfl, hw⟩ := sound_itemsFrom h bound hrun
    exact ⟨w, rfl, by simpa using hw⟩
  complete k all hk w rest hw hbound _ := by
    obtain ⟨v, rfl, hall⟩ := hk
    obtain ⟨w₁, w₂, rfl, hw₁, hw₂⟩ := List.map_eq_append_iff.1 hw
    obtain ⟨t, rfl, ht⟩ := List.map_eq_singleton_iff.1 hw₂
    rw [List.length_append] at hbound
    rw [List.append_assoc, List.singleton_append]
    exact complete_itemsFrom h hbegins hopen hjoin hcomma hall bound [] w₁ t rest hw₁ (by omega)
      (by omega) ht

end Items

section Level

variable {bound : Nat} {deeper : Deeper} {inner : Inner}

theorem sequenceFrom_eq (close : Symbol) (n : Nat) (done : List Expr) (ts : List Token) :
    sequenceFrom deeper close n done ts
      = itemsFrom deeper.expression close .closing n done ts := by
  induction n generalizing done ts with
  | zero => rfl
  | succ n ih =>
    have hnext : sequenceFrom deeper close n = itemsFrom deeper.expression close .closing n := by
      funext done ts
      exact ih done ts
    unfold sequenceFrom itemsFrom
    exact hnext ▸ rfl

/-- Expressions up to a closing bracket. -/
theorem recognises_sequence (h : deeper.Recognises bound inner) (close : Symbol)
    (hopen : opens? (.symbol close) = none) (hjoin : joins? (.symbol close) = none)
    (hcomma : close ≠ .comma) :
    Recognises bound (fun _ => True) (sequence bound deeper close)
      (Closed close (Items inner.expression)) := by
  have hsequence : sequence bound deeper close
      = itemsFrom deeper.expression close .closing bound [] := by
    funext ts
    exact sequenceFrom_eq close bound [] ts
  rw [hsequence]
  exact h.expression.itemsFrom (fun _ _ hw => (h.proper.expression hw).1) _ _ hopen hjoin hcomma

/-- A key, a colon and a value. -/
def entry (deeper : Deeper) : Parser (Expr × Expr) := fun ts => do
  let (key, ts) ← deeper.expression ts
  let ts ← expect .colon .colon ts
  let (value, ts) ← deeper.expression ts
  return ((key, value), ts)

theorem recognises_entry (h : deeper.Recognises bound inner) :
    Recognises bound (Stops 9) (entry deeper) (Pair inner) where
  sound ts a rest hrun := by
    obtain ⟨⟨key, ts₁⟩, hkey, hnext⟩ := bind_eq_ok_iff.1 hrun
    obtain ⟨ts₂, hcolon, hnext⟩ := bind_eq_ok_iff.1 hnext
    obtain ⟨⟨value, ts₃⟩, hvalue, hentry⟩ := bind_eq_ok_iff.1 hnext
    cases hentry
    obtain ⟨w, rfl, hw⟩ := h.expression.sound hkey
    obtain ⟨t, rfl, ht⟩ := expect_eq_ok_iff.1 hcolon
    obtain ⟨v, rfl, hv⟩ := h.expression.sound hvalue
    exact ⟨w ++ t :: v, by simp, w.map Token.kind, v.map Token.kind, by simp [ht], hw, hv⟩
  complete k a hk w rest hw hbound hends := by
    obtain ⟨u, v, rfl, hkey, hvalue⟩ := hk
    obtain ⟨w₁, w', rfl, hw₁, hw'⟩ := List.map_eq_append_iff.1 hw
    obtain ⟨t, w₂, rfl, ht, hw₂⟩ := List.map_eq_cons_iff.1 hw'
    simp only [List.length_append, List.length_cons] at hbound
    have hstops : Stops 9 (t :: (w₂ ++ rest)) := stops_cons ht (by simp [joins?])
    have hread := h.expression.complete hkey hw₁ (by omega) hstops
    have hread' := h.expression.complete hvalue hw₂ (by omega) hends
    rw [List.append_assoc, List.cons_append]
    simp only [entry, hread, ok_bind, expect_cons _ _ ht, hread']
    rfl

theorem dictFrom_eq (n : Nat) (done : List (Expr × Expr)) (ts : List Token) :
    dictFrom deeper n done ts = (do
      let (entries, ts) ← itemsFrom (entry deeper) .rightBrace .brace n done ts
      return (.dict entries, ts)) := by
  induction n generalizing done ts with
  | zero => simp [dictFrom, itemsFrom]
  | succ n ih =>
    rw [dictFrom, itemsFrom]
    cases eat? .rightBrace ts with
    | some rest => rfl
    | none =>
      simp only [entry, ih, bind_assoc, pure_bind]
      refine bind_congr fun r => bind_congr fun ts => bind_congr fun r' => ?_
      cases eat? .comma r'.2 <;> simp

/-- The entries up to a closing brace. -/
theorem recognises_dictFrom (h : deeper.Recognises bound inner) :
    Recognises bound (fun _ => True) (dictFrom deeper bound [])
      (fun w e => ∃ entries, e = .dict entries ∧ Closed .rightBrace (Items (Pair inner)) w entries)
      := by
  have hbegins : ∀ ⦃w a⦄, Pair inner w a → Begins 2 w := by
    rintro _ a ⟨u, v, rfl, hkey, -⟩
    exact (h.proper.expression hkey).1.append _
  have hitems := (recognises_entry h).itemsFrom hbegins .rightBrace .brace rfl rfl (by decide)
  constructor
  · intro ts e rest hrun
    rw [dictFrom_eq] at hrun
    obtain ⟨⟨entries, ts₁⟩, hentries, he⟩ := bind_eq_ok_iff.1 hrun
    cases he
    obtain ⟨w, rfl, hw⟩ := hitems.sound hentries
    exact ⟨w, rfl, entries, rfl, hw⟩
  · rintro k _ ⟨entries, rfl, hk⟩ w rest hw hbound hends
    rw [dictFrom_eq, hitems.complete hk hw hbound hends]
    rfl

/-- What stands behind an opening parenthesis. -/
theorem recognises_parenthesised (h : deeper.Recognises bound inner) :
    Recognises bound (fun _ => True) (parenthesised bound deeper)
      (fun w e => Atom inner (.symbol .leftParen :: w) e) := by
  have hsequence := recognises_sequence h .rightParen rfl rfl (by decide)
  constructor
  · intro ts e rest hrun
    rw [parenthesised] at hrun
    rcases hclose : eat? .rightParen ts with _ | ts'
    · simp only [hclose] at hrun
      -- no bracket at once: an expression comes first
      obtain ⟨⟨first, ts₁⟩, hfirst, hnext⟩ := bind_eq_ok_iff.1 hrun
      obtain ⟨w, rfl, hw⟩ := h.expression.sound hfirst
      rcases hclose : eat? .rightParen ts₁ with _ | ts₂
      · simp only [hclose] at hnext
        -- no bracket behind the first expression: it is the first of a tuple
        obtain ⟨ts₂, hcomma, hnext⟩ := bind_eq_ok_iff.1 hnext
        obtain ⟨⟨es, ts₃⟩, hes, he⟩ := bind_eq_ok_iff.1 hnext
        cases he
        obtain ⟨t, rfl, ht⟩ := expect_eq_ok_iff.1 hcomma
        obtain ⟨v, rfl, u, hv, hu⟩ := hsequence.sound hes
        refine ⟨w ++ t :: v, by simp, ?_⟩
        simpa [ht, hv] using Atom.tuple hw hu
      · simp only [hclose] at hnext
        cases hnext
        obtain ⟨t, rfl, ht⟩ := eat?_eq_some_iff.1 hclose
        refine ⟨w ++ [t], by simp, ?_⟩
        simpa [ht] using Atom.group hw
    · simp only [hclose] at hrun
      cases hrun
      obtain ⟨t, rfl, ht⟩ := eat?_eq_some_iff.1 hclose
      exact ⟨[t], rfl, by simpa [ht] using Atom.unit⟩
  · intro k e hk w rest hw hbound _
    -- The word after the parenthesis, by the three atoms that begin with one.
    have hstops {t : Token} (ts : List Token) {s : Symbol} (ht : t.kind = .symbol s)
        (hs : joins? (.symbol s) = none) : Stops 9 (t :: ts) := stops_cons ht (by simp [hs])
    have hopen {v : List Token} {first : Expr} (ts : List Token)
        (hv : inner.expression (v.map Token.kind) first) :
        eat? .rightParen (v ++ ts) = none :=
      eat?_of_begins (by simpa using (h.proper.expression hv).1.append _) rfl
    generalize hl : Token.Kind.symbol .leftParen :: k = l at hk
    cases hk with
    | int | float | str | name | true | false | none | list | dict => simp at hl
    | unit =>
      obtain rfl : k = [.symbol .rightParen] := by simpa using hl
      obtain ⟨t, rfl, ht⟩ := List.map_eq_singleton_iff.1 hw
      simp only [parenthesised, List.cons_append, List.nil_append, eat?_cons _ ht]
    | @group v e he =>
      obtain rfl : k = v ++ [.symbol .rightParen] := by simpa using hl
      obtain ⟨w₁, w₂, rfl, rfl, hw₂⟩ := List.map_eq_append_iff.1 hw
      obtain ⟨t, rfl, ht⟩ := List.map_eq_singleton_iff.1 hw₂
      rw [List.length_append] at hbound
      have hread := h.expression.complete he rfl (by omega) (hstops rest ht rfl)
      rw [List.append_assoc, List.singleton_append]
      simp only [parenthesised, hopen _ he, hread, ok_bind, eat?_cons _ ht]
      rfl
    | @tuple v u e es he hes =>
      obtain rfl : k = v ++ .symbol .comma :: (u ++ [.symbol .rightParen]) := by simpa using hl
      obtain ⟨w₁, w', rfl, rfl, hw'⟩ := List.map_eq_append_iff.1 hw
      obtain ⟨t, w₂, rfl, ht, hw₂⟩ := List.map_eq_cons_iff.1 hw'
      simp only [List.length_append, List.length_cons] at hbound
      have hread := h.expression.complete he rfl (by omega)
        (hstops (w₂ ++ rest) ht rfl)
      have hclose : eat? .rightParen (t :: (w₂ ++ rest)) = none :=
        eat?_cons_of_ne (by simp [ht])
      have hitems := hsequence.complete_before ⟨u, rfl, hes⟩ hw₂ (by omega) rest
      rw [List.append_assoc, List.cons_append]
      simp only [parenthesised, hopen _ he, hread, ok_bind, hclose,
        expect_cons _ _ ht, hitems]
      rfl

theorem recognises_atom (h : deeper.Recognises bound inner) :
    Recognises bound (fun _ => True) (atom bound deeper) (Atom inner) := by
  have hparen := recognises_parenthesised h
  have hlist := recognises_sequence h .rightBracket rfl rfl (by decide)
  have hdict := recognises_dictFrom h
  constructor
  · intro ts e rest hrun
    unfold atom at hrun
    split at hrun
    · cases hrun
      exact ⟨[_], rfl, .int _⟩
    · cases hrun
      exact ⟨[_], rfl, .float _⟩
    · cases hrun
      exact ⟨[_], rfl, .str _⟩
    · cases hrun
      exact ⟨[_], rfl, .name _⟩
    · cases hrun
      exact ⟨[_], rfl, .true⟩
    · cases hrun
      exact ⟨[_], rfl, .false⟩
    · cases hrun
      exact ⟨[_], rfl, .none⟩
    · obtain ⟨w, rfl, hw⟩ := hparen.sound hrun
      exact ⟨_ :: w, rfl, hw⟩
    · obtain ⟨⟨es, ts₁⟩, hes, he⟩ := bind_eq_ok_iff.1 hrun
      cases he
      obtain ⟨w, rfl, v, hv, hitems⟩ := hlist.sound hes
      exact ⟨_ :: w, rfl, by simpa [hv] using Atom.list hitems⟩
    · obtain ⟨w, rfl, entries, rfl, v, hv, hitems⟩ := hdict.sound hrun
      exact ⟨_ :: w, rfl, by simpa [hv] using Atom.dict hitems⟩
    · simp [fail] at hrun
  · intro k e hk w rest hw hbound _
    -- the first token tells which atom it is
    obtain ⟨c, v, hcv, -⟩ := (proper_atom h.proper hk).1
    obtain ⟨⟨kind, pos, length⟩, w', rfl, hc, hw'⟩ := List.map_eq_cons_iff.1 (hw.trans hcv)
    subst hcv hc hw'
    have hlength : w'.length ≤ bound := Nat.le_of_succ_le hbound
    generalize hl : kind :: w'.map Token.kind = l at hk
    cases hk with
    | int | float | str | name | true | false | none =>
      obtain ⟨rfl, hnil⟩ := List.cons.inj hl
      obtain rfl := List.map_eq_nil_iff.1 hnil
      rfl
    | unit =>
      obtain ⟨rfl, hrest⟩ := List.cons.inj hl
      exact hparen.complete Atom.unit hrest hlength trivial
    | group he =>
      obtain ⟨rfl, hrest⟩ := List.cons.inj hl
      exact hparen.complete (Atom.group he) hrest hlength trivial
    | tuple he hes =>
      obtain ⟨rfl, hrest⟩ := List.cons.inj hl
      exact hparen.complete (Atom.tuple he hes) hrest hlength trivial
    | @list u es hes =>
      obtain ⟨rfl, hrest⟩ := List.cons.inj hl
      have hread := hlist.complete_before ⟨u, rfl, hes⟩ hrest hlength rest
      simp only [atom, List.cons_append, hread, ok_bind]
      rfl
    | @dict u entries hes =>
      obtain ⟨rfl, hrest⟩ := List.cons.inj hl
      exact hdict.complete ⟨entries, rfl, u, rfl, hes⟩ hrest hlength trivial

/-! ### Trailers, powers and signs -/

theorem trailersFrom_of_not_atTrailer (n : Nat) (e : Expr) {ts : List Token}
    (h : atTrailer ts = false) : trailersFrom bound deeper n e ts = .ok (e, ts) := by
  cases n with
  | zero => simp [trailersFrom, h]
  | succ n =>
    unfold trailersFrom
    split <;> simp_all [atTrailer]

theorem sound_trailersFrom (h : deeper.Recognises bound inner) (n : Nat) :
    ∀ {e e' : Expr} {ts rest : List Token}, trailersFrom bound deeper n e ts = .ok (e', rest) →
      ∃ w, ∃ k ≤ n, ts = w ++ rest ∧ Trailed inner k e (w.map Token.kind) e' := by
  have hcall := recognises_sequence h .rightParen rfl rfl (by decide)
  induction n with
  | zero =>
    intro e e' ts rest hrun
    rw [trailersFrom] at hrun
    split at hrun
    · simp [fail] at hrun
    · cases hrun
      exact ⟨[], 0, le_rfl, rfl, .nil⟩
  | succ n ih =>
    intro e e' ts rest hrun
    -- one trailer, and those that are read behind it
    have hone {u ts : List Token} {f : Expr → Expr}
        (hu : Trailer inner (u.map Token.kind) f)
        (hrun : trailersFrom bound deeper n (f e) ts = .ok (e', rest)) :
        ∃ w, ∃ k ≤ n + 1, u ++ ts = w ++ rest ∧ Trailed inner k e (w.map Token.kind) e' := by
      obtain ⟨w, k, hk, rfl, hw⟩ := ih hrun
      refine ⟨u ++ w, k + 1, by omega, by simp, ?_⟩
      rw [List.map_append]
      exact .cons hu hw
    unfold trailersFrom at hrun
    split at hrun
    next pos length ts =>
      obtain ⟨⟨attr, ts₁⟩, hattr, hnext⟩ := bind_eq_ok_iff.1 hrun
      unfold attributeName at hattr
      split at hattr
      · cases hattr
        exact hone (u := [_, _]) (.dotted _) hnext
      · simp at hattr
      · simp [fail] at hattr
      · simp [fail] at hattr
    next pos length ts =>
      obtain ⟨⟨index, ts₁⟩, hindex, hafter⟩ := bind_eq_ok_iff.1 hrun
      obtain ⟨ts₂, hclose, hnext⟩ := bind_eq_ok_iff.1 hafter
      clear hafter
      obtain ⟨w, rfl, hw⟩ := h.expression.sound hindex
      obtain ⟨t, rfl, ht⟩ := expect_eq_ok_iff.1 hclose
      have hu : Trailer inner ((⟨.symbol .leftBracket, pos, length⟩ :: w ++ [t]).map Token.kind)
          (.subscript · index) := by
        simpa [ht] using Trailer.subscript hw
      simpa using hone hu hnext
    next pos length ts =>
      obtain ⟨⟨args, ts₁⟩, hargs, hnext⟩ := bind_eq_ok_iff.1 hrun
      obtain ⟨w, rfl, v, hv, hitems⟩ := hcall.sound hargs
      have hu : Trailer inner ((⟨.symbol .leftParen, pos, length⟩ :: w).map Token.kind)
          (.call · args) := by
        simpa [hv] using Trailer.call hitems
      simpa using hone hu hnext
    next =>
      cases hrun
      exact ⟨[], 0, by omega, rfl, .nil⟩

theorem complete_trailersFrom (h : deeper.Recognises bound inner) {k : Nat}
    {u : List Token.Kind} {e e' : Expr} (hu : Trailed inner k e u e') :
    ∀ (n : Nat) (w rest : List Token), w.map Token.kind = u → w.length ≤ bound → k ≤ n →
      atTrailer rest = false → trailersFrom bound deeper n e (w ++ rest) = .ok (e', rest) := by
  have hcall := recognises_sequence h .rightParen rfl rfl (by decide)
  induction hu with
  | nil =>
    intro n w rest hw _ _ hrest
    obtain rfl := List.map_eq_nil_iff.1 hw
    exact trailersFrom_of_not_atTrailer n _ hrest
  | @cons k u v f e e' htrailer _ ih =>
    intro n w rest hw hbound hn hrest
    -- the trailer that is read first, and the others
    obtain ⟨w₁, w₂, rfl, hw₁, hw₂⟩ := List.map_eq_append_iff.1 hw
    obtain ⟨n, rfl⟩ : ∃ m, n = m + 1 := ⟨n - 1, by omega⟩
    rw [List.length_append] at hbound
    have hnext := ih n w₂ rest hw₂ (by omega) (by omega) hrest
    rw [List.append_assoc]
    cases htrailer with
    | dotted name =>
      obtain ⟨⟨_, _, _⟩, w', rfl, rfl, hw'⟩ := List.map_eq_cons_iff.1 hw₁
      obtain ⟨⟨_, _, _⟩, rfl, rfl⟩ := List.map_eq_singleton_iff.1 hw'
      simpa [trailersFrom, attributeName] using hnext
    | @subscript v index hindex =>
      obtain ⟨⟨_, _, _⟩, w', rfl, rfl, hw'⟩ := List.map_eq_cons_iff.1 hw₁
      obtain ⟨w₃, w₄, rfl, hw₃, hw₄⟩ := List.map_eq_append_iff.1 hw'
      obtain ⟨t, rfl, ht⟩ := List.map_eq_singleton_iff.1 hw₄
      simp only [List.length_append, List.length_cons] at hbound
      have hstops : Stops 9 (t :: (w₂ ++ rest)) := stops_cons ht (by simp [joins?])
      have hread := h.expression.complete hindex hw₃ (by omega) hstops
      simpa [trailersFrom, hread, expect_cons _ _ ht] using hnext
    | @call v args hargs =>
      obtain ⟨⟨_, _, _⟩, w', rfl, rfl, hw'⟩ := List.map_eq_cons_iff.1 hw₁
      simp only [List.length_cons] at hbound
      have hread := hcall.complete_before ⟨v, rfl, hargs⟩ hw' (by omega) (w₂ ++ rest)
      simpa [trailersFrom, hread] using hnext

theorem recognises_postfixed (h : deeper.Recognises bound inner) :
    Recognises bound (fun rest => atTrailer rest = false) (postfixed bound deeper)
      (Postfixed inner) where
  sound ts e rest hrun := by
    obtain ⟨⟨e₁, ts₁⟩, hatom, htrailers⟩ := bind_eq_ok_iff.1 hrun
    obtain ⟨w, rfl, hw⟩ := (recognises_atom h).sound hatom
    obtain ⟨v, k, hk, rfl, hv⟩ := sound_trailersFrom h _ htrailers
    refine ⟨w ++ v, by simp, ?_⟩
    rw [List.map_append]
    exact .intro hk hw hv
  complete k e hk w rest hw hbound hends := by
    obtain ⟨hcount, hatom, htrailers⟩ := hk
    obtain ⟨w₁, w₂, rfl, hw₁, hw₂⟩ := List.map_eq_append_iff.1 hw
    rw [List.length_append] at hbound
    have hfirst := (recognises_atom h).complete_before hatom hw₁ (by omega) (w₂ ++ rest)
    have hnext := complete_trailersFrom h htrailers maxTrailers w₂ rest hw₂ (by omega) hcount hends
    simpa [postfixed, hfirst] using hnext

theorem not_atTrailer_of_stops {ts : List Token} (h : Stops 0 ts) : atTrailer ts = false := by
  unfold atTrailer
  split
  · simpa [joins?] using h 0
  · simpa [joins?] using h 0
  · simpa [joins?] using h 0
  · rfl

theorem eat?_doubleStar_of_stops {ts : List Token} (h : Stops 0 ts) :
    eat? .doubleStar ts = none := by
  cases ts with
  | nil => rfl
  | cons t ts =>
    refine eat?_cons_of_ne fun ht => ?_
    simpa [ht, joins?] using h 0

theorem recognises_powered (h : deeper.Recognises bound inner) :
    Recognises bound (Stops 0) (powered bound deeper) (Powered inner) := by
  have hpostfixed := recognises_postfixed h
  constructor
  · intro ts e rest hrun
    obtain ⟨⟨base, ts₁⟩, hbase, hnext⟩ := bind_eq_ok_iff.1 hrun
    obtain ⟨w, rfl, hw⟩ := hpostfixed.sound hbase
    rcases hstar : eat? .doubleStar ts₁ with _ | ts₂
    · simp only [hstar] at hnext
      cases hnext
      exact ⟨w, rfl, .operand hw⟩
    · simp only [hstar] at hnext
      obtain ⟨⟨exponent, ts₃⟩, hexponent, he⟩ := bind_eq_ok_iff.1 hnext
      cases he
      obtain ⟨t, rfl, ht⟩ := eat?_eq_some_iff.1 hstar
      obtain ⟨v, rfl, hv⟩ := h.signed.sound hexponent
      refine ⟨w ++ t :: v, by simp, ?_⟩
      simpa [ht, BinaryOp.symbol] using Powered.power hw hv
  · intro k e hk w rest hw hbound hends
    cases hk with
    | operand he =>
      have hread := hpostfixed.complete he hw hbound (not_atTrailer_of_stops hends)
      simp only [powered, hread, ok_bind, eat?_doubleStar_of_stops hends]
      rfl
    | @power u v base exponent hb hx =>
      obtain ⟨w₁, w', rfl, hw₁, hw'⟩ := List.map_eq_append_iff.1 hw
      obtain ⟨t, w₂, rfl, ht, hw₂⟩ := List.map_eq_cons_iff.1 hw'
      change t.kind = .symbol .doubleStar at ht
      simp only [List.length_append, List.length_cons] at hbound
      -- the two stars are no trailer, so the base ends before them
      have htrailer : atTrailer (t :: (w₂ ++ rest)) = false := by
        obtain ⟨kind, pos, length⟩ := t
        cases ht
        rfl
      have hread := hpostfixed.complete hb hw₁ (by omega) htrailer
      have hread' := h.signed.complete hx hw₂ (by omega) hends
      rw [List.append_assoc, List.cons_append]
      simp only [powered, hread, ok_bind, eat?_cons _ ht, hread']
      rfl

theorem sign?_eq_some_iff {s : Symbol} {op : UnaryOp} :
    sign? s = some op ↔ op ≠ .not ∧ op.word = .symbol s := by
  cases op <;> cases s <;> simp [sign?, UnaryOp.word]

theorem recognises_signed (h : deeper.Recognises bound inner) :
    Recognises bound (Stops 0) (signed bound deeper) (Signed inner) := by
  have hpowered := recognises_powered h
  constructor
  · intro ts e rest hrun
    unfold signed at hrun
    split at hrun
    next s pos length ts =>
      split at hrun
      next op hop =>
        obtain ⟨⟨e', ts₁⟩, he', he⟩ := bind_eq_ok_iff.1 hrun
        cases he
        obtain ⟨w, rfl, hw⟩ := h.signed.sound he'
        obtain ⟨hne, hword⟩ := sign?_eq_some_iff.1 hop
        refine ⟨_ :: w, rfl, ?_⟩
        simpa [hword] using Signed.sign hne hw
      next =>
        obtain ⟨w, hts, hw⟩ := hpowered.sound hrun
        exact ⟨w, hts, .operand hw⟩
    next =>
      obtain ⟨w, hts, hw⟩ := hpowered.sound hrun
      exact ⟨w, hts, .operand hw⟩
  · intro k e hk w rest hw hbound hends
    cases hk with
    | operand he =>
      have hread := hpowered.complete he hw hbound hends
      obtain ⟨c, v, hcv, n, hn, hc⟩ := (proper_powered h.proper he).1
      obtain ⟨⟨kind, pos, length⟩, w', rfl, rfl, hw'⟩ := List.map_eq_cons_iff.1 (hw.trans hcv)
      cases kind with
      | symbol s =>
        -- A sign would have opened more.
        have hsign : sign? s = none := by
          cases s <;> first | rfl | (simp [opens?] at hc; omega)
        simpa [signed, hsign] using hread
      | int | float | str | name | keyword | stop => simpa [signed] using hread
    | @sign op v e hop he =>
      obtain ⟨⟨kind, pos, length⟩, w', rfl, hkind, hw'⟩ := List.map_eq_cons_iff.1 hw
      -- all signs but the word are symbols
      obtain ⟨s, hs⟩ : ∃ s, op.word = .symbol s := by
        cases op with
        | not => exact absurd rfl hop
        | minus | plus | invert => exact ⟨_, rfl⟩
      obtain rfl : kind = .symbol s := hkind.trans hs
      have hsign : sign? s = some op := sign?_eq_some_iff.2 ⟨hop, hs⟩
      have hread := h.signed.complete he hw' (Nat.le_of_succ_le hbound) hends
      simp only [signed, List.cons_append, hsign, hread, ok_bind]
      rfl

end Level

end Parser

end ConfigTree
