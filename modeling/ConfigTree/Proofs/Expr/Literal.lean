import ConfigTree.Cipher.Fernet
import ConfigTree.Proofs.Expr.Recognition
import ConfigTree.Proofs.Expr.Scan
import ConfigTree.Proofs.Tree.Leaves
import ConfigTree.Eval.Expression

/-!
# Literals are evaluated to their values

The literal of a value is a source, and evaluation gives the value back, whatever the scope,
the functions and the keys are.  Left out are floats, strings with a line break, which no
quoted text may have, the least whole number, whose digits without the sign are no word, and
mappings with keys that are not written as they are.

The proof goes along the value three times: its literal spells a word of the grammar, which
says an expression, and that expression has the value.

## Main definitions

* `Value.height` — how deep lists and mappings lie in each other.
* `Value.Spellable` — the values that a literal can write.
* `Value.expr` — the expression that a literal is.
* `Spells L cs a` — the characters `cs` are read as a word of `L` that says `a`.

## Main results

* `spells_literal` — a literal is read as its expression.
* `evalAt_expr` — that expression has the value.
* `evaluate_literal` — evaluating a literal gives the value.
-/

namespace ConfigTree

open Grammar Lexer

namespace Value

mutual

/-- How deep lists and mappings lie in each other: nothing lies in a scalar. -/
def height : Value → Nat
  | .list items => itemsHeight items
  | .map entries => entriesHeight entries
  | _ => 0
termination_by structural v => v

/-- The height that items give to their list. -/
def itemsHeight : List Value → Nat
  | [] => 0
  | v :: vs => max (height v + 1) (itemsHeight vs)
termination_by structural vs => vs

/-- The height that entries give to their mapping. -/
def entriesHeight : List (String × Value) → Nat
  | [] => 0
  | (_, v) :: es => max (height v + 1) (entriesHeight es)
termination_by structural es => es

end

theorem height_item {items : List Value} {v : Value} (hv : v ∈ items) :
    v.height + 1 ≤ (Value.list items).height := by
  show v.height + 1 ≤ itemsHeight items
  induction items with
  | nil => simp at hv
  | cons w items ih =>
    rw [itemsHeight]
    rcases List.mem_cons.1 hv with rfl | hv
    · exact le_max_left _ _
    · exact (ih hv).trans (le_max_right _ _)

theorem height_entry {entries : Mapping} {e : String × Value} (he : e ∈ entries) :
    e.2.height + 1 ≤ (Value.map entries).height := by
  show e.2.height + 1 ≤ entriesHeight entries
  induction entries with
  | nil => simp at he
  | cons f entries ih =>
    obtain ⟨k, w⟩ := f
    rw [entriesHeight]
    rcases List.mem_cons.1 he with rfl | he
    · exact le_max_left _ _
    · exact (ih he).trans (le_max_right _ _)

/-- A key that stands between quotes as it is. -/
def PlainKey (k : String) : Prop := ∀ c ∈ k.toList, c ≠ '\'' ∧ c ≠ '\\' ∧ c ≠ '\n'

/-- The values that a literal can write. -/
inductive Spellable : Value → Prop
  | null : Spellable .null
  | bool (b : Bool) : Spellable (.bool b)
  | int {n : Int64} : Number.least < n.toInt → Spellable (.int n)
  | str {s : String} : '\n' ∉ s.toList → Spellable (.str s)
  | list {items : List Value} : (∀ v ∈ items, Spellable v) → Spellable (.list items)
  | map {entries : Mapping} : Entries.Unique entries → (∀ e ∈ entries, PlainKey e.1) →
    (∀ e ∈ entries, Spellable e.2) → Spellable (.map entries)

mutual

/-- The expression that the literal of a value is. -/
def expr : Value → Expr
  | .null => .null
  | .bool b => .bool b
  | .int n => if n.toInt < 0 then .unary .minus (.int (-n)) else .int n
  | .float x => .float x
  | .str s => .str s
  | .list items => .list (itemExprs items)
  | .map entries => .dict (entryExprs entries)
termination_by structural v => v

/-- The expressions of the items of a list. -/
def itemExprs : List Value → List Expr
  | [] => []
  | v :: vs => expr v :: itemExprs vs
termination_by structural vs => vs

/-- The expressions of the entries of a mapping. -/
def entryExprs : List (String × Value) → List (Expr × Expr)
  | [] => []
  | (k, v) :: es => (.str k, expr v) :: entryExprs es
termination_by structural es => es

end

theorem itemExprs_eq (items : List Value) : itemExprs items = items.map expr := by
  induction items with
  | nil => rfl
  | cons v items ih => rw [itemExprs, ih, List.map_cons]

theorem entryExprs_eq (entries : Mapping) :
    entryExprs entries = entries.map fun e => (.str e.1, expr e.2) := by
  induction entries with
  | nil => rfl
  | cons e entries ih =>
    obtain ⟨k, v⟩ := e
    rw [entryExprs, ih, List.map_cons]

end Value

open Value

/-! ### The literal is a word of the grammar -/

/-- Before anything that separates, the characters `cs` are read as a word of `L` that says
`a`. -/
def Spells {α : Type} (L : Language α) (cs : List Char) (a : α) : Prop :=
  ∃ ks, (∀ rest, Separates rest → Scans cs ks rest) ∧ L ks a

section Spells

variable {α β : Type} {L : Language β}

/-- Items with a comma and a blank between them. -/
theorem spells_items {chars : α → List Char} {meaning : α → β} {as : List α}
    (h : ∀ a ∈ as, Spells L (chars a) (meaning a)) :
    Spells (Items L) ([',', ' '].intercalate (as.map chars)) (as.map meaning) := by
  induction as with
  | nil => exact ⟨[], fun rest _ => .nil rest, .nil⟩
  | cons a as ih =>
    obtain ⟨ks, hscans, hks⟩ := h a (by simp)
    cases as with
    | nil => exact ⟨ks, by simpa using hscans, .last hks⟩
    | cons a' as =>
      obtain ⟨ks', hscans', hks'⟩ := ih fun b hb => h b (List.mem_cons_of_mem a hb)
      refine ⟨ks ++ .symbol .comma :: ks', fun rest hrest => ?_, .cons hks hks'⟩
      have hcomma (rest : List Char) : Scans [','] [.symbol .comma] rest :=
        .symbol rest rfl rfl rfl rfl fun next => by simp [symbol?]
      have hblank := (Scans.space _).append (hscans' rest hrest)
      have hafter := (hcomma _).append hblank
      have hall := (hscans _ (separates_cons _ (by simp))).append hafter
      simpa [List.intercalate_cons_cons] using hall

/-- What stands between two brackets. -/
theorem Spells.bracketed {cs : List Char} {b : β} (h : Spells L cs b) {o c : Char}
    {s t : Symbol} (ho : ∀ rest, Scans [o] [.symbol s] rest)
    (hc : ∀ rest, Scans [c] [.symbol t] rest) (hclose : c ∈ [',', ':', ']', '\x7d']) :
    Spells (fun w a => ∃ v, w = .symbol s :: v ++ [.symbol t] ∧ L v a) (o :: (cs ++ [c])) b := by
  obtain ⟨ks, hscans, hks⟩ := h
  refine ⟨.symbol s :: ks ++ [.symbol t], fun rest _ => ?_, ks, rfl, hks⟩
  have hinner := (hscans _ (separates_cons rest hclose)).append (hc rest)
  exact (ho _).append hinner

end Spells

/-- A key, a colon, a blank and a value. -/
theorem Spells.pair {inner : Inner} {cs cs' : List Char} {key value : Expr}
    (hkey : Spells inner.expression cs key) (hvalue : Spells inner.expression cs' value) :
    Spells (Pair inner) (cs ++ [':', ' '] ++ cs') (key, value) := by
  obtain ⟨ks, hscans, hks⟩ := hkey
  obtain ⟨ks', hscans', hks'⟩ := hvalue
  refine ⟨ks ++ .symbol .colon :: ks', fun rest hrest => ?_, ks, ks', rfl, hks, hks'⟩
  have hcolon (rest : List Char) : Scans [':'] [.symbol .colon] rest :=
    .symbol rest rfl rfl rfl rfl fun next => by simp [symbol?]
  have hblank := (Scans.space _).append (hscans' rest hrest)
  have hafter := (hcolon _).append hblank
  have hall := (hscans _ (separates_cons _ (by simp))).append hafter
  simpa using hall

namespace Grammar

theorem expression_of_signed {n : Nat} {w : List Token.Kind} {e : Expr}
    (h : Signed (level n) w e) : (level (n + 1)).expression w e := by
  have hranked (r : Nat) : ranked (level n) r w e := by
    induction r with
    | zero => exact h
    | succ r ih => exact .operand ih
  exact .operand (.operand (.operand (.operand (hranked _))))

theorem signed_of_atom {inner : Inner} {w : List Token.Kind} {e : Expr} (h : Atom inner w e) :
    Signed inner w e := by
  have hpostfixed : Postfixed inner (w ++ []) e := .intro (Nat.zero_le _) h .nil
  rw [List.append_nil] at hpostfixed
  exact .operand (.operand hpostfixed)

end Grammar

theorem spells_str {s : String} (h : '\n' ∉ s.toList) (n : Nat) :
    Spells (level (n + 1)).expression (quoted s).toList (.str s) :=
  ⟨_, fun rest _ => scans_quoted h rest, expression_of_signed (signed_of_atom (.str s))⟩

/-- A word of one keyword. -/
theorem spells_keyword {c : Char} {cs : List Char} {k : Keyword} {e : Expr} (n : Nat)
    (hscans : ∀ rest, Separates rest → Scans (c :: cs) [.keyword k] rest)
    (he : ∀ inner, Atom inner [.keyword k] e) :
    Spells (level (n + 1)).expression (c :: cs) e :=
  ⟨_, hscans, expression_of_signed (signed_of_atom (he _))⟩

/-- The digits of a whole number, behind a minus if it is negative. -/
theorem spells_int {k : Int64} (hk : Number.least < k.toInt) (n : Nat) :
    Spells (level (n + 2)).expression (toString k.toInt).toList (expr (.int k)) := by
  have hlt := Int64.toInt_lt k
  have hgreatest : Number.greatest.toNat = 9223372036854775807 := rfl
  have hleast : Number.least = -9223372036854775808 := rfl
  rw [Int.toString_eq_repr, Int.repr_eq_if, expr]
  by_cases hneg : k.toInt < 0
  · rw [if_neg (by omega), if_pos hneg, String.toList_append, Nat.toList_repr]
    -- the digits are those of the magnitude, which is a word since the least one is left out
    have hvalue : Int64.ofNat (-k.toInt).toNat = -k := by
      rw [← Int64.ofInt_eq_ofNat, Int.toNat_of_nonneg (by omega), Int64.ofInt_neg,
        Int64.ofInt_toInt]
    have hminus (rest : List Char) : Scans ['-'] [.symbol .minus] rest :=
      .symbol rest rfl rfl rfl rfl fun next => by simp [symbol?]
    have hscans (rest : List Char) (hrest : Separates rest) :
        Scans (Nat.toDigits 10 (-k.toInt).toNat) [.int (-k)] rest := by
      rw [← hvalue]
      exact scans_digits (by omega) hrest
    refine ⟨[.symbol .minus, .int (-k)], fun rest hrest => ?_, ?_⟩
    · exact (hminus _).append (hscans rest hrest)
    · exact expression_of_signed (@Signed.sign _ .minus _ _ (by decide) (signed_of_atom (.int _)))
  · rw [if_pos (by omega), if_neg hneg, Nat.toList_repr]
    have hvalue : Int64.ofNat k.toInt.toNat = k := by
      rw [← Int64.ofInt_eq_ofNat, Int.toNat_of_nonneg (by omega), Int64.ofInt_toInt]
    refine ⟨[.int k], fun rest hrest => ?_, expression_of_signed (signed_of_atom (.int k))⟩
    have hscans := scans_digits (n := k.toInt.toNat) (by omega) hrest
    rwa [hvalue] at hscans

/-- A plain key stands between quotes as a string does. -/
theorem toList_quoted_of_plainKey {k : String} (h : PlainKey k) :
    (quoted k).toList = '\'' :: (k.toList ++ ['\'']) := by
  have hescaped : k.toList.flatMap escaped = k.toList := by
    have hall : ∀ c ∈ k.toList, escaped c = [c] := by
      intro c hc
      simp [escaped, (h c hc).1, (h c hc).2.1]
    rw [List.flatMap_congr hall]
    exact List.flatMap_singleton' _
  rw [toList_quoted, hescaped]

theorem toList_literal_list (items : List Value) :
    (literal (.list items)).toList
      = '[' :: ([',', ' '].intercalate (items.map fun v => v.literal.toList) ++ [']']) := by
  simp only [literal, literalsFrom_eq, List.reverse_nil, List.nil_append, String.toList_append,
    String.toList_intercalate, List.map_map]
  rfl

theorem toList_literal_map {entries : Mapping} (h : ∀ e ∈ entries, PlainKey e.1) :
    (literal (.map entries)).toList = '\x7b' :: ([',', ' '].intercalate
      (entries.map fun e => (quoted e.1).toList ++ [':', ' '] ++ e.2.literal.toList)
        ++ ['\x7d']) := by
  have hentries : entries.map (String.toList ∘ fun e => "'" ++ e.1 ++ "': " ++ literal e.2)
      = entries.map fun e => (quoted e.1).toList ++ [':', ' '] ++ e.2.literal.toList := by
    refine List.map_congr_left fun e he => ?_
    rw [toList_quoted_of_plainKey (h e he)]
    simp
  simp only [literal, entriesFrom_eq, List.reverse_nil, List.nil_append, String.toList_append,
    String.toList_intercalate, List.map_map, hentries]
  rfl

/-- A literal is read as its expression, where as many levels are left as it needs: one more
than the value is high, and one for a sign. -/
theorem spells_literal {v : Value} (hv : v.Spellable) :
    ∀ n, v.height + 2 ≤ n → Spells (level n).expression v.literal.toList v.expr := by
  induction hv with
  | null =>
    intro n hn
    obtain ⟨n, rfl⟩ : ∃ m, n = m + 1 := ⟨n - 1, by omega⟩
    have hscans (rest : List Char) (hrest : Separates rest) :
        Scans ('N' :: ['o', 'n', 'e']) [.keyword .none] rest :=
      .keyword hrest rfl rfl rfl rfl rfl
    exact spells_keyword n hscans fun _ => .none
  | bool b =>
    intro n hn
    obtain ⟨n, rfl⟩ : ∃ m, n = m + 1 := ⟨n - 1, by omega⟩
    cases b with
    | true =>
      have hscans (rest : List Char) (hrest : Separates rest) :
          Scans ('T' :: ['r', 'u', 'e']) [.keyword .true] rest :=
        .keyword hrest rfl rfl rfl rfl rfl
      exact spells_keyword n hscans fun _ => .true
    | false =>
      have hscans (rest : List Char) (hrest : Separates rest) :
          Scans ('F' :: ['a', 'l', 's', 'e']) [.keyword .false] rest :=
        .keyword hrest rfl rfl rfl rfl rfl
      exact spells_keyword n hscans fun _ => .false
  -- a sign needs a level of its own
  | int hk =>
    intro n hn
    obtain ⟨n, rfl⟩ : ∃ m, n = m + 2 := ⟨n - 2, by omega⟩
    exact spells_int hk n
  | str hs =>
    intro n hn
    obtain ⟨n, rfl⟩ : ∃ m, n = m + 1 := ⟨n - 1, by omega⟩
    exact spells_str hs n
  | @list items _ ih =>
    intro n hn
    obtain ⟨n, rfl⟩ : ∃ m, n = m + 1 := ⟨n - 1, by omega⟩
    -- the items are read one level further down
    have hitems : ∀ v ∈ items, Spells (level n).expression v.literal.toList v.expr := by
      intro v hv
      have hheight := height_item hv
      exact ih v hv n (by omega)
    have hopen (rest : List Char) : Scans ['['] [.symbol .leftBracket] rest :=
      .symbol rest rfl rfl rfl rfl fun next => by simp [symbol?]
    have hclose (rest : List Char) : Scans [']'] [.symbol .rightBracket] rest :=
      .symbol rest rfl rfl rfl rfl fun next => by simp [symbol?]
    rw [toList_literal_list, expr, itemExprs_eq]
    obtain ⟨ks, hscans, v, rfl, hv⟩ := (spells_items hitems).bracketed hopen hclose (by simp)
    exact ⟨_, hscans, expression_of_signed (signed_of_atom (.list hv))⟩
  | @map entries _ hkeys _ ih =>
    intro n hn
    -- keys and values are read one level further down, and the keys need one themselves
    obtain ⟨n, rfl⟩ : ∃ m, n = m + 2 := ⟨n - 2, by omega⟩
    have hentries : ∀ e ∈ entries, Spells (Pair (level (n + 1)))
        ((quoted e.1).toList ++ [':', ' '] ++ e.2.literal.toList) (.str e.1, expr e.2) := by
      intro e he
      have hheight := height_entry he
      have hline : '\n' ∉ e.1.toList := fun hmem => (hkeys e he _ hmem).2.2 rfl
      exact (spells_str hline n).pair (ih e he (n + 1) (by omega))
    have hopen (rest : List Char) : Scans ['\x7b'] [.symbol .leftBrace] rest :=
      .symbol rest rfl rfl rfl rfl fun next => by simp [symbol?]
    have hclose (rest : List Char) : Scans ['\x7d'] [.symbol .rightBrace] rest :=
      .symbol rest rfl rfl rfl rfl fun next => by simp [symbol?]
    rw [toList_literal_map hkeys, expr, entryExprs_eq]
    obtain ⟨ks, hscans, v, rfl, hv⟩ := (spells_items hentries).bracketed hopen hclose (by simp)
    exact ⟨_, hscans, expression_of_signed (signed_of_atom (.dict hv))⟩

/-! ### The expression has the value -/

section Values

variable {env : Environment}

theorem nested_eq {s : Spot} (hs : s.depth ≤ maxDepth) (i : Nat) (f : Spot → Evaluated Value) :
    s.nested i f = f ⟨s.depth + 1, i :: s.label⟩ :=
  if_neg (Nat.not_lt.2 hs)

theorem evalAll_itemExprs {items : List Value} {s : Spot} (hs : s.depth ≤ maxDepth)
    (h : ∀ v ∈ items, ∀ label, v.expr.evalAt env ⟨s.depth + 1, label⟩ = .ok v) (i : Nat)
    (done : List Value) :
    Expr.evalAll env (itemExprs items) s i done = .ok (done.reverse ++ items) := by
  induction items generalizing i done with
  | nil => simp [itemExprs, Expr.evalAll]
  | cons v items ih =>
    have hv : s.nested i (v.expr.evalAt env) = .ok v := by
      rw [nested_eq hs]
      exact h v (by simp) _
    have hrest := ih (fun w hw => h w (List.mem_cons_of_mem v hw)) (i + 1) (v :: done)
    simp only [itemExprs, Expr.evalAll, hv, ok_bind, hrest]
    simp

theorem evalEntries_entryExprs {entries : Mapping} {s : Spot} (hs : s.depth ≤ maxDepth)
    (h : ∀ e ∈ entries, ∀ label, e.2.expr.evalAt env ⟨s.depth + 1, label⟩ = .ok e.2) (i : Nat)
    {done : Mapping} (hunique : Entries.Unique (done ++ entries)) :
    Expr.evalEntries env (entryExprs entries) s i done = .ok (.map (done ++ entries)) := by
  induction entries generalizing i done with
  | nil => simp [entryExprs, Expr.evalEntries]
  | cons e entries ih =>
    obtain ⟨k, v⟩ := e
    have hkey : s.nested i (Expr.evalAt env (.str k)) = .ok (.str k) := nested_eq hs _ _
    have hv : s.nested (i + 1) (v.expr.evalAt env) = .ok v := by
      rw [nested_eq hs]
      exact h (k, v) (by simp) _
    have hnew : Entries.get? done k = none :=
      Entries.get?_eq_none_iff.2 (Entries.Unique.not_mem_keys hunique)
    have hinsert : done.insert k v = done ++ [(k, v)] := Entries.alter_of_get?_eq_none hnew _
    have hunique' : Entries.Unique ((done ++ [(k, v)]) ++ entries) := by simpa using hunique
    have hrest := ih (fun f hf => h f (List.mem_cons_of_mem _ hf)) (i + 2) hunique'
    have hentry : entryKey (.str k) = .ok k := rfl
    simp only [entryExprs, Expr.evalEntries, hkey, ok_bind, hentry, hv, hinsert, hrest]
    simp

/-- The expression of a literal has the value, as deep as there is room for it. -/
theorem evalAt_expr (hminus : env.operators.unary? .minus = some Operation.minus) {v : Value}
    (hv : v.Spellable) :
    ∀ s : Spot, s.depth + v.height ≤ maxDepth → v.expr.evalAt env s = .ok v := by
  induction hv with
  | null => exact fun s _ => rfl
  | bool b => exact fun s _ => rfl
  | str _ => exact fun s _ => rfl
  | @int n hn =>
    intro s hs
    rw [expr]
    split
    next hneg =>
      -- a negative number is the negation of its magnitude, and both are words
      have hvalue : (-n).toInt = -n.toInt := by
        have hleast : Number.least = -9223372036854775808 := rfl
        rw [Int64.toInt_neg, Int.bmod_eq_of_le (by omega) (by omega)]
      have hword : Number.word? (-(-n).toInt) = some n := by
        rw [hvalue, Int.neg_neg, Number.word?_toInt]
      have hfit : Operation.minus (.int (-n)) = .ok (.int n) := by
        show Operation.fit "-" (-(-n).toInt) = .ok (.int n)
        rw [Operation.fit, hword, Operation.orOverflow]
      have hoperand : s.nested 0 (Expr.evalAt env (.int (-n))) = .ok (.int (-n)) :=
        nested_eq (by omega) _ _
      rw [Expr.evalAt, hoperand]
      show env.operators.unary .minus (.int (-n)) = .ok (.int n)
      rw [OperatorTable.unary, hminus]
      exact hfit
    next => rfl
  | @list items _ ih =>
    intro s hs
    have hitems : ∀ v ∈ items, ∀ label, v.expr.evalAt env ⟨s.depth + 1, label⟩ = .ok v := by
      intro v hv label
      have hheight := height_item hv
      exact ih v hv ⟨s.depth + 1, label⟩ (by show s.depth + 1 + v.height ≤ maxDepth; omega)
    have hall := evalAll_itemExprs (by omega) hitems 0 []
    rw [expr, Expr.evalAt, hall]
    rfl
  | @map entries hunique _ _ ih =>
    intro s hs
    have hentries : ∀ e ∈ entries, ∀ label,
        e.2.expr.evalAt env ⟨s.depth + 1, label⟩ = .ok e.2 := by
      intro e he label
      have hheight := height_entry he
      exact ih e he ⟨s.depth + 1, label⟩ (by show s.depth + 1 + e.2.height ≤ maxDepth; omega)
    rw [expr, Expr.evalAt]
    exact evalEntries_entryExprs (by omega) hentries 0 hunique

end Values

/-! ### Literals are evaluated -/

theorem not_isBlank_of_isDigit {c : Char} (h : Text.isDigit c = true) :
    Text.isBlank c = false := by
  have hrange : 48 ≤ c.toNat ∧ c.toNat ≤ 57 := by
    simpa [Text.isDigit, Char.le_def, UInt32.le_iff_toNat_le] using h
  simp only [Text.isBlank]
  grind

/-- A literal has a character that is not blank. -/
theorem not_isAllBlank_literal {v : Value} (hv : v.Spellable) :
    Text.isAllBlank v.literal.toList = false := by
  have hsome {c : Char} {cs : List Char} (hc : c ∈ cs) (hblank : Text.isBlank c = false) :
      Text.isAllBlank cs = false := List.all_eq_false.2 ⟨c, hc, by simp [hblank]⟩
  have hdigits (n : Nat) : ∃ c ∈ Nat.toDigits 10 n, Text.isBlank c = false := by
    obtain ⟨c, cs, hcs⟩ := List.exists_cons_of_ne_nil (Nat.toDigits_ne_nil (n := n) (b := 10))
    have hmem : c ∈ Nat.toDigits 10 n := by simp [hcs]
    exact ⟨c, hmem, not_isBlank_of_isDigit (isDigit_of_mem_toDigits hmem)⟩
  cases hv with
  | null => rfl
  | bool b => cases b <;> rfl
  | @int n _ =>
    rw [literal, Int.toString_eq_repr, Int.repr_eq_if]
    split
    · obtain ⟨c, hc, hblank⟩ := hdigits n.toInt.toNat
      rw [Nat.toList_repr]
      exact hsome hc hblank
    · rw [String.toList_append]
      exact hsome (c := '-') (by simp) rfl
  | str _ =>
    rw [literal, toList_quoted]
    exact hsome (c := '\'') (by simp) rfl
  | list _ =>
    rw [toList_literal_list]
    exact hsome (c := '[') (by simp) rfl
  | map _ hkeys _ =>
    rw [toList_literal_map hkeys]
    exact hsome (c := '\x7b') (by simp) rfl

/-- Evaluating the literal of a value gives the value. -/
theorem evaluate_literal {env : Environment} (hops : env.operators = .standard) {v : Value}
    (hv : v.Spellable) (hheight : v.height ≤ 60)
    (hsize : v.literal.utf8ByteSize ≤ maxSourceLength) : env.evaluate v.literal = .ok v := by
  have hmax : maxDepth = 64 := rfl
  have hdepth : v.height + 2 ≤ maxDepth := by omega
  obtain ⟨ks, hscans, hks⟩ := spells_literal hv maxDepth hdepth
  have hend : Separates [] := fun c hc => by simp at hc
  obtain ⟨w, stop, htokens, rfl, hstop⟩ := exists_tokenize_of_scans (hscans [] hend)
  -- the literal is read as its expression
  have hparse : parseTokens (w ++ [stop]) = .ok v.expr :=
    parseTokens_of_source hstop (.expression hks)
  have hexpr : parseExpression v.literal = .ok v.expr := by
    rw [parseExpression, if_neg (Nat.not_lt.2 hsize), htokens]
    simp only [hparse]
    rfl
  have hminus : env.operators.unary? .minus = some Operation.minus := by rw [hops]; rfl
  -- and the expression has the value
  have hvalue : v.expr.eval env = .ok v :=
    evalAt_expr hminus hv ⟨1, []⟩ (by show 1 + v.height ≤ maxDepth; omega)
  rw [Environment.evaluate, not_isAllBlank_literal hv, hexpr]
  exact hvalue

/-- A mapping with a negative number, quotes and backslashes in it, in a scope that hides the
names of its keys. -/
theorem evaluate_literal_of_nested :
    let v : Value := .map [("a", .list [.int (-3), .str "it's \\", .null]), ("b c", .map [])]
    let env : Environment :=
      ⟨⟨⟨[⟨.loop, [("a", .null)]⟩], .null, .null⟩, .keyless "fernet"⟩, .standard Range.halting,
        .standard⟩
    v.Spellable ∧ v.height ≤ 60 ∧ v.literal.utf8ByteSize ≤ maxSourceLength
      ∧ v.literal = "\x7b'a': [-3, 'it\\'s \\\\', None], 'b c': \x7b\x7d\x7d"
      ∧ env.evaluate v.literal = .ok v := by
  intro v env
  have hlist : Spellable (.list [.int (-3), .str "it's \\", .null]) := by
    refine .list fun w hw => ?_
    simp only [List.mem_cons, List.not_mem_nil, or_false] at hw
    rcases hw with rfl | rfl | rfl
    · exact .int (by decide)
    · exact .str (by decide)
    · exact .null
  have hv : v.Spellable := by
    refine .map (by decide) (by simp [PlainKey]) fun e he => ?_
    simp only [List.mem_cons, List.not_mem_nil, or_false] at he
    rcases he with rfl | rfl
    · exact hlist
    · exact .map (by decide) (by simp) (by simp)
  have hheight : v.height ≤ 60 := by decide
  have hsize : v.literal.utf8ByteSize ≤ maxSourceLength := by decide
  exact ⟨hv, hheight, hsize, rfl, evaluate_literal rfl hv hheight hsize⟩

end ConfigTree
