import ConfigTree.Proofs.Expr.Recognition

/-!
# The parts of what a source writes

An expression is made of parts, and those of parts of their own.  What each of them holds
beside its parts, a text, a name or a number, is a token of the source, and each token is read
somewhere in its characters.  So what holds of every token that can be read holds everywhere
in an expression that a source writes.

## Main definitions

* `Expr.parts` — the expressions that an expression is made of directly.
* `Expr.Everywhere P` — an expression and all that it is made of satisfy `P`.
* `Expr.WrittenIn w` — what an expression holds beside its parts is among the words `w`.
* `Lexer.Scanned cs` — the tokens that can be read somewhere in the characters `cs`.

## Main results

* `Grammar.written_source` — what is derived from a word is written in it everywhere.
* `exists_of_tokenize` — the tokens of a source are scanned, and the end comes last.
* `written_of_parseExpression` — an expression is written everywhere in words scanned in its
  source.
-/

namespace ConfigTree

namespace Expr

/-- The expressions that an expression is made of directly. -/
@[simp] def parts : Expr → List Expr
  | .attribute value _ => [value]
  | .subscript value index => [value, index]
  | .call func args => func :: args
  | .list items => items
  | .tuple items => items
  | .dict entries => entries.map Prod.fst ++ entries.map Prod.snd
  | .unary _ operand => [operand]
  | .power base exponent => [base, exponent]
  | .chain first rest => first :: rest.map Prod.snd
  | .logical _ operands => operands
  | .compare first rest => first :: rest.map Prod.snd
  | _ => []

theorem key_mem_parts {entries : List (Expr × Expr)} {e : Expr × Expr} (he : e ∈ entries) :
    e.1 ∈ (Expr.dict entries).parts :=
  List.mem_append_left _ (List.mem_map_of_mem he)

theorem value_mem_parts {entries : List (Expr × Expr)} {e : Expr × Expr} (he : e ∈ entries) :
    e.2 ∈ (Expr.dict entries).parts :=
  List.mem_append_right _ (List.mem_map_of_mem he)

/-- An expression and all that it is made of satisfy `P`. -/
inductive Everywhere (P : Expr → Prop) : Expr → Prop
  | intro {e : Expr} : P e → (∀ p ∈ e.parts, Everywhere P p) → Everywhere P e

theorem Everywhere.and {P Q : Expr → Prop} {e : Expr} (hP : e.Everywhere P)
    (hQ : e.Everywhere Q) : e.Everywhere fun e => P e ∧ Q e := by
  induction hP with
  | intro he _ ih =>
    obtain ⟨he', hparts'⟩ := hQ
    exact ⟨⟨he, he'⟩, fun p hp => ih p hp (hparts' p hp)⟩

theorem Everywhere.mono {P Q : Expr → Prop} {e : Expr} (hP : e.Everywhere P)
    (h : ∀ e, P e → Q e) : e.Everywhere Q := by
  induction hP with
  | intro he _ ih => exact ⟨h _ he, ih⟩

/-- What holds everywhere in an expression holds everywhere in each part of it. -/
theorem Everywhere.within {P : Expr → Prop} {e : Expr} (h : e.Everywhere P) :
    e.Everywhere fun p => p.Everywhere P := by
  induction h with
  | intro he hparts ih => exact ⟨⟨he, hparts⟩, ih⟩

/-- What an expression holds beside its parts is among the words, no list has more items than
there are words, and no run of operands is of one alone. -/
def WrittenIn (w : List Token.Kind) : Expr → Prop
  | .int n => .int n ∈ w
  | .float x => .float x ∈ w
  | .str s => .str s ∈ w
  | .name n => .name n ∈ w
  | .attribute _ attr => .name attr ∈ w
  | .list items => items.length ≤ w.length
  | .tuple items => items.length ≤ w.length
  | .chain _ rest => rest ≠ []
  | .logical _ operands => 1 < operands.length
  | .compare _ rest => rest ≠ []
  | _ => True

theorem WrittenIn.widen {v w : List Token.Kind} {e : Expr} (h : e.WrittenIn v)
    (hvw : v.Sublist w) : e.WrittenIn w := by
  cases e with
  | int | float | str | name => exact hvw.subset h
  | list | tuple => exact Nat.le_trans h hvw.length_le
  | chain | logical | compare => exact h
  | null | bool | subscript | call | dict | unary | power => trivial
  -- The remaining constructor is the one of attributes.
  | _ => exact hvw.subset h

theorem Everywhere.widen {v w : List Token.Kind} {e : Expr} (h : e.Everywhere (WrittenIn v))
    (hvw : v.Sublist w) : e.Everywhere (WrittenIn w) :=
  h.mono fun _ he => he.widen hvw

end Expr

open ConfigTree.Expr

namespace Grammar

/-! ### What is derived from a word -/

/-- What the words of a language say is written in them everywhere. -/
def Written (L : Language Expr) : Prop :=
  ∀ ⦃w e⦄, L w e → e.Everywhere (WrittenIn w)

section Lists

variable {α : Type}

theorem Items.length_le {item : Language α} {w : List Token.Kind} {as : List α}
    (h : Items item w as) : as.length ≤ w.length + 1 := by
  induction h with
  | nil => simp
  | last _ => simp
  | cons _ _ ih =>
    simp only [List.length_cons, List.length_append]
    omega

/-- What holds of each item by its own words holds of it by the words of the whole list. -/
theorem Items.forall_of_widen {item P : Language α}
    (hP : ∀ ⦃v w a⦄, P v a → v.Sublist w → P w a) (hitem : ∀ ⦃w a⦄, item w a → P w a)
    {w : List Token.Kind} {as : List α} (h : Items item w as) : ∀ a ∈ as, P w a := by
  induction h with
  | nil => simp
  | last ha => simpa using hitem ha
  | @cons w v a as ha _ ih =>
    have hv : v.Sublist (w ++ .symbol .comma :: v) :=
      (List.sublist_cons_self _ v).trans (List.sublist_append_right w _)
    refine List.forall_mem_cons.2 ⟨hP (hitem ha) (List.sublist_append_left w _), ?_⟩
    intro b hb
    exact hP (ih b hb) hv

theorem Items.written {item : Language Expr} (hitem : Written item) {w : List Token.Kind}
    {es : List Expr} (h : Items item w es) : ∀ e ∈ es, e.Everywhere (WrittenIn w) :=
  h.forall_of_widen (fun _ _ _ he hvw => he.widen hvw) hitem

theorem Run.written {op : Language α} {operand : Language Expr} (hoperand : Written operand)
    {w : List Token.Kind} {rest : List (α × Expr)} (h : Run op operand w rest) :
    ∀ e ∈ rest.map Prod.snd, e.Everywhere (WrittenIn w) := by
  induction h with
  | nil => simp
  | @cons u w v o e rest _ he _ ih =>
    have hw : w.Sublist (u ++ w ++ v) :=
      (List.sublist_append_right u w).trans (List.sublist_append_left _ v)
    refine List.forall_mem_cons.2 ⟨(hoperand he).widen hw, ?_⟩
    intro e he
    exact (ih e he).widen (List.sublist_append_right _ v)

theorem Written.flat {op : Language α} {operand : Language Expr} (hoperand : Written operand)
    (node : Expr → List (α × Expr) → Expr)
    (hnode : ∀ w first rest, rest ≠ [] →
      (node first rest).WrittenIn w ∧ (node first rest).parts = first :: rest.map Prod.snd) :
    Written (Flat op node operand) := by
  intro w e h
  cases h with
  | operand he => exact hoperand he
  | @node u v first rest hfirst hrest hne =>
    -- the node itself, its first operand and the others, each by its own part of the word
    obtain ⟨hhere, hparts⟩ := hnode (u ++ v) first rest hne
    refine ⟨hhere, ?_⟩
    rw [hparts]
    refine List.forall_mem_cons.2 ⟨(hoperand hfirst).widen (List.sublist_append_left u v), ?_⟩
    intro e he
    exact (hrest.written hoperand e he).widen (List.sublist_append_right u v)

end Lists

/-- What the words of the languages of a level say is written in them everywhere. -/
structure Inner.Written (inner : Inner) : Prop where
  /-- An expression has a word. -/
  length_pos : ∀ ⦃w e⦄, inner.expression w e → 0 < w.length
  /-- Expressions. -/
  expression : Grammar.Written inner.expression
  /-- Operands of `not`. -/
  negated : Grammar.Written inner.negated
  /-- Operands of signs, and exponents. -/
  signed : Grammar.Written inner.signed

/-- What stands between two brackets is a part of the word. -/
theorem sublist_bracketed {s t : Symbol} (w : List Token.Kind) :
    w.Sublist (.symbol s :: w ++ [.symbol t]) :=
  (List.sublist_cons_self _ w).trans (List.sublist_append_left _ _)

section Level

variable {inner : Inner}

/-- A tuple has an item before its first comma. -/
theorem written_tuple {item : Language Expr} (h : Written item) {w v : List Token.Kind}
    {e : Expr} {es : List Expr} (hw : 0 < w.length) (he : item w e) (hes : Items item v es) :
    (Expr.tuple (e :: es)).Everywhere (WrittenIn (w ++ .symbol .comma :: v)) := by
  have hlength := hes.length_le
  have hv : v.Sublist (w ++ .symbol .comma :: v) :=
    (List.sublist_cons_self _ v).trans (List.sublist_append_right w _)
  refine ⟨?_, List.forall_mem_cons.2 ⟨(h he).widen (List.sublist_append_left w _), ?_⟩⟩
  · show (e :: es).length ≤ (w ++ .symbol .comma :: v).length
    simp only [List.length_cons, List.length_append]
    omega
  · intro e' he'
    exact (hes.written h e' he').widen hv

/-- What holds of each expression by its own words holds of all keys and values by the words of
the whole mapping. -/
theorem Items.forall_parts_dict {P : Language Expr}
    (hP : ∀ ⦃v w e⦄, P v e → v.Sublist w → P w e)
    (hexpression : ∀ ⦃w e⦄, inner.expression w e → P w e) {w : List Token.Kind}
    {entries : List (Expr × Expr)} (h : Items (Pair inner) w entries) :
    ∀ p ∈ (Expr.dict entries).parts, P w p := by
  have hentry : ∀ ⦃w entry⦄, Pair inner w entry → P w entry.1 ∧ P w entry.2 := by
    rintro _ entry ⟨u, v, rfl, hkey, hvalue⟩
    have hv : v.Sublist (u ++ .symbol .colon :: v) :=
      (List.sublist_cons_self _ v).trans (List.sublist_append_right u _)
    exact ⟨hP (hexpression hkey) (List.sublist_append_left u _), hP (hexpression hvalue) hv⟩
  -- as an entry, key and value go together
  have hall : ∀ entry ∈ entries, P w entry.1 ∧ P w entry.2 :=
    h.forall_of_widen (P := fun w (entry : Expr × Expr) => P w entry.1 ∧ P w entry.2)
      (fun _ _ _ he hvw => ⟨hP he.1 hvw, hP he.2 hvw⟩) hentry
  intro p hp
  rcases List.mem_append.1 hp with hp | hp
  · obtain ⟨entry, hmem, rfl⟩ := List.mem_map.1 hp
    exact (hall entry hmem).1
  · obtain ⟨entry, hmem, rfl⟩ := List.mem_map.1 hp
    exact (hall entry hmem).2

theorem written_atom (h : inner.Written) : Written (Atom inner) := by
  intro w e hw
  cases hw with
  | int | float | str | name => exact ⟨List.mem_singleton.2 rfl, by simp⟩
  | true | false | none => exact ⟨trivial, by simp⟩
  | unit => exact ⟨Nat.zero_le _, by simp⟩
  | group he => exact (h.expression he).widen (sublist_bracketed _)
  | tuple he hes =>
    exact (written_tuple h.expression (h.length_pos he) he hes).widen (sublist_bracketed _)
  | @list w es hes =>
    have hlength := hes.length_le
    refine ⟨?_, fun e he => (hes.written h.expression e he).widen (sublist_bracketed _)⟩
    show es.length ≤ _
    simp only [List.length_cons, List.length_append, List.length_nil]
    omega
  | dict hes =>
    have hparts := hes.forall_parts_dict (P := fun w e => e.Everywhere (WrittenIn w))
      (fun _ _ _ he hvw => he.widen hvw) h.expression
    exact ⟨trivial, fun p hp => (hparts p hp).widen (sublist_bracketed _)⟩

theorem Trailer.written (h : inner.Written) {u v : List Token.Kind} {f : Expr → Expr}
    (hu : Trailer inner u f) {e : Expr} (he : e.Everywhere (WrittenIn v)) :
    (f e).Everywhere (WrittenIn (v ++ u)) := by
  have hvalue := he.widen (List.sublist_append_left v u)
  cases hu with
  | dotted name => exact ⟨by simp [WrittenIn], by simpa using hvalue⟩
  | @subscript w index hindex =>
    have hindex' : index.Everywhere
        (WrittenIn (v ++ (.symbol .leftBracket :: w ++ [.symbol .rightBracket]))) :=
      ((h.expression hindex).widen (sublist_bracketed w)).widen (List.sublist_append_right v _)
    exact ⟨trivial, by simpa using ⟨hvalue, hindex'⟩⟩
  | call hargs =>
    refine ⟨trivial, List.forall_mem_cons.2 ⟨hvalue, fun a ha => ?_⟩⟩
    exact ((hargs.written h.expression a ha).widen (sublist_bracketed _)).widen
      (List.sublist_append_right v _)

theorem Trailed.written (h : inner.Written) {k : Nat} {w v : List Token.Kind} {e e' : Expr}
    (hw : Trailed inner k e w e') (he : e.Everywhere (WrittenIn v)) :
    e'.Everywhere (WrittenIn (v ++ w)) := by
  induction hw generalizing v with
  | nil => exact he.widen (List.sublist_append_left v [])
  | cons htrailer _ ih =>
    rw [← List.append_assoc]
    exact ih (htrailer.written h he)

theorem written_powered (h : inner.Written) : Written (Powered inner) := by
  have hpostfixed : Written (Postfixed inner) := by
    rintro _ e ⟨-, hatom, htrailed⟩
    exact htrailed.written h (written_atom h hatom)
  intro w e hw
  cases hw with
  | operand he => exact hpostfixed he
  | @power w v base exponent hb hx =>
    have hv : v.Sublist (w ++ .symbol BinaryOp.pow.symbol :: v) :=
      (List.sublist_cons_self _ v).trans (List.sublist_append_right w _)
    have hbase := (hpostfixed hb).widen
      (List.sublist_append_left w (.symbol BinaryOp.pow.symbol :: v))
    have hexponent := (h.signed hx).widen hv
    exact ⟨trivial, by simpa using ⟨hbase, hexponent⟩⟩

theorem written_signed (h : inner.Written) : Written (Signed inner) := by
  intro w e hw
  cases hw with
  | operand he => exact written_powered h he
  | @sign op w e _ he =>
    have hoperand := (h.signed he).widen (List.sublist_cons_self op.word w)
    exact ⟨trivial, by simpa using hoperand⟩

theorem written_ranked (h : inner.Written) (r : Nat) : Written (ranked inner r) := by
  induction r with
  | zero => exact written_signed h
  | succ r ih => exact ih.flat .chain fun _ _ _ hne => ⟨hne, rfl⟩

theorem written_negated (h : inner.Written) : Written (Negated inner) := by
  intro w e hw
  cases hw with
  | operand he =>
    exact (written_ranked h _).flat .compare (fun _ _ _ hne => ⟨hne, rfl⟩) he
  | @not w e he =>
    have hoperand := (h.negated he).widen (List.sublist_cons_self UnaryOp.not.word w)
    exact ⟨trivial, by simpa using hoperand⟩

theorem Written.connected {operand : Language Expr} (h : Written operand) (op : Connective) :
    Written (Connected op operand) := by
  refine h.flat (fun first rest => .logical op (first :: rest.map Prod.snd)) ?_
  intro w first rest hne
  refine ⟨?_, rfl⟩
  show 1 < (first :: rest.map Prod.snd).length
  have hlength := List.length_pos_iff.2 hne
  rw [List.length_cons, List.length_map]
  omega

end Level

theorem written_level (n : Nat) : (level n).Written := by
  induction n with
  | zero => constructor <;> exact fun _ _ hw => hw.elim
  | succ n ih =>
    -- no expression is written without a word, which is what a tuple needs
    refine ⟨fun _ _ hw => (proper_expression (n + 1) hw).1.length_pos, ?_, written_negated ih,
      written_signed ih⟩
    exact ((written_negated ih).connected .and).connected .or

/-- What is derived from a word is written in it everywhere. -/
theorem written_source : Written Source := by
  intro w e hw
  have hlevel := written_level maxDepth
  cases hw with
  | expression he => exact hlevel.expression he
  | tuple he hes =>
    exact written_tuple hlevel.expression (proper_expression _ he).1.length_pos he hes

end Grammar

namespace Lexer

/-! ### Tokens of a source -/

/-- The tokens that can be read somewhere in the characters. -/
def Scanned (cs : List Char) (kind : Token.Kind) : Prop :=
  ∃ pos c rest n, (c :: rest) <:+ cs ∧ scan pos c rest = .ok (kind, n)

theorem Scanned.cons {cs : List Char} {kind : Token.Kind} (h : Scanned cs kind) (c : Char) :
    Scanned (c :: cs) kind := by
  obtain ⟨pos, d, rest, n, hsuffix, hscan⟩ := h
  exact ⟨pos, d, rest, n, hsuffix.trans (List.suffix_cons c cs), hscan⟩

/-- Each character starts one token at most, and the end of the source comes last. -/
theorem exists_of_tokensFrom {passing pos : Nat} {done ts : List Token} {cs : List Char}
    (h : tokensFrom passing pos done cs = .ok ts) :
    ∃ w stop, ts = done.reverse ++ w ++ [stop] ∧ stop.kind = .stop ∧ w.length ≤ cs.length
      ∧ ∀ t ∈ w, Scanned cs t.kind := by
  induction cs generalizing passing pos done with
  | nil =>
    cases h
    exact ⟨[], ⟨.stop, pos, 0⟩, by simp, rfl, by simp, by simp⟩
  | cons c cs ih =>
    -- A character of the token before, or one that separates tokens, adds none.
    have hskip {passing pos : Nat} (hrest : tokensFrom passing pos done cs = .ok ts) :
        ∃ w stop, ts = done.reverse ++ w ++ [stop] ∧ stop.kind = .stop
          ∧ w.length ≤ (c :: cs).length ∧ ∀ t ∈ w, Scanned (c :: cs) t.kind := by
      obtain ⟨w, stop, hts, hstop, hlength, hw⟩ := ih hrest
      exact ⟨w, stop, hts, hstop, Nat.le_succ_of_le hlength, fun t ht => (hw t ht).cons c⟩
    unfold tokensFrom at h
    split at h
    · exact hskip h
    · split at h
      · exact hskip h
      · split at h
        · cases h
        next kind n hscan =>
          obtain ⟨w, stop, rfl, hstop, hlength, hw⟩ := ih h
          refine ⟨⟨kind, pos, c.utf8Size + byteSize (cs.take n)⟩ :: w, stop, by simp, hstop,
            Nat.succ_le_succ hlength, ?_⟩
          exact List.forall_mem_cons.2
            ⟨⟨pos, c, cs, n, List.suffix_refl _, hscan⟩, fun t ht => (hw t ht).cons c⟩

theorem kind_of_scanNumber {pos n : Nat} {c : Char} {cs : List Char} {kind : Token.Kind}
    (h : scanNumber pos c cs = .ok (kind, n)) : (∃ x, kind = .float x) ∨ ∃ i, kind = .int i := by
  simp only [scanNumber, ok_bind, error_bind, pure_eq_ok, throw_eq_error] at h
  grind

/-- **The sorts of tokens** that can start with a character: numbers, words, texts and symbols. -/
theorem kind_of_scan {pos n : Nat} {c : Char} {cs : List Char} {kind : Token.Kind}
    (h : scan pos c cs = .ok (kind, n)) :
    ((∃ x, kind = .float x) ∨ ∃ i, kind = .int i)
      ∨ (isNameStart c = true ∧ scanWord c cs = (kind, n))
      ∨ (∃ s, kind = .str s ∧ stringFrom c [] 0 cs = .ok (s, n))
      ∨ ∃ s, kind = .symbol s := by
  unfold scan at h
  split at h
  -- the first character tells: a digit, a letter, a quote, or something else
  · exact .inl (kind_of_scanNumber h)
  · split at h
    next hstart => exact .inr (.inl ⟨hstart, Except.ok.inj h⟩)
    next =>
      split at h
      · unfold scanString at h
        split at h
        next s m hread =>
          cases h
          exact .inr (.inr (.inl ⟨s, rfl, hread⟩))
        next => cases h
      · unfold scanSymbol at h
        split at h
        next s m _ =>
          cases h
          exact .inr (.inr (.inr ⟨s, rfl⟩))
        next => cases h

/-- A word is a keyword, or a name of the letters of a name. -/
theorem kind_of_scanWord {n : Nat} {c : Char} {cs : List Char} {kind : Token.Kind}
    (hc : isNameStart c = true) (h : scanWord c cs = (kind, n)) :
    (∃ k, kind = .keyword k) ∨ ∃ m, kind = .name m ∧ ∀ d ∈ m.toList, isNameRest d = true := by
  unfold scanWord at h
  dsimp only at h
  split at h
  next k _ =>
    cases h
    exact .inl ⟨k, rfl⟩
  next =>
    cases h
    refine .inr ⟨_, rfl, ?_⟩
    rw [String.toList_ofList]
    refine List.forall_mem_cons.2 ⟨?_, fun d hd => (List.mem_takeWhile_imp hd)⟩
    unfold isNameStart at hc
    unfold isNameRest Char.isAlphanum
    rcases Bool.or_eq_true_iff.1 hc with hc | hc
    · simp [hc]
    · simp [hc]

theorem Scanned.ne_stop {cs : List Char} {kind : Token.Kind} (h : Scanned cs kind) :
    kind ≠ .stop := by
  obtain ⟨pos, c, rest, n, -, hscan⟩ := h
  rcases kind_of_scan hscan with (⟨x, rfl⟩ | ⟨i, rfl⟩) | ⟨hc, hword⟩ | ⟨s, rfl, -⟩ | ⟨s, rfl⟩
  · simp
  · simp
  · rcases kind_of_scanWord hc hword with ⟨k, rfl⟩ | ⟨m, rfl, -⟩ <;> simp
  · simp
  · simp

end Lexer

/-- The tokens of a source are scanned in it, and its end comes last. -/
theorem exists_of_tokenize {source : String} {ts : List Token} (h : tokenize source = .ok ts) :
    ∃ w stop, ts = w ++ [stop] ∧ stop.kind = .stop ∧ w.length ≤ source.toList.length
      ∧ ∀ t ∈ w, Lexer.Scanned source.toList t.kind := by
  obtain ⟨w, stop, hts, hrest⟩ := Lexer.exists_of_tokensFrom h
  exact ⟨w, stop, by simpa using hts, hrest⟩

/-- What a source is read to is derived from its tokens, which are scanned in it. -/
theorem source_of_parseExpression {source : String} {e : Expr}
    (h : parseExpression source = .ok e) :
    ∃ w : List Token.Kind, w.length ≤ source.toList.length
      ∧ (∀ k ∈ w, Lexer.Scanned source.toList k) ∧ Grammar.Source w e := by
  unfold parseExpression at h
  split at h
  · cases h
  · split at h
    · cases h
    next ts hts =>
      obtain ⟨w, stop, rfl, hstop, hlength, hw⟩ := exists_of_tokenize hts
      have hrun := mapError_eq_ok_iff.1 h
      have hsource := source_of_parseTokens (fun t ht => (hw t ht).ne_stop) hstop hrun
      refine ⟨w.map Token.kind, by rwa [List.length_map], ?_, hsource⟩
      intro k hk
      obtain ⟨t, ht, rfl⟩ := List.mem_map.1 hk
      exact hw t ht

/-- **An expression is written everywhere** in words that are scanned in its source. -/
theorem written_of_parseExpression {source : String} {e : Expr}
    (h : parseExpression source = .ok e) :
    ∃ w : List Token.Kind, w.length ≤ source.toList.length
      ∧ (∀ k ∈ w, Lexer.Scanned source.toList k) ∧ e.Everywhere (Expr.WrittenIn w) := by
  obtain ⟨w, hlength, hscanned, hsource⟩ := source_of_parseExpression h
  exact ⟨w, hlength, hscanned, Grammar.written_source hsource⟩

end ConfigTree
