import ConfigTree.Proofs.Outcome
import ConfigTree.Proofs.Tree.Place
import ConfigTree.Proofs.Walk.Step
import ConfigTree.Proofs.Walk.Visit

/-!
# Keys of mappings

A value becomes the key of an entry in four places.  A dictionary and an index take its key
text.  The operator `in` takes a string as it is, and finds nothing else.  A loop takes the text
of a value, which is its key text unless it is a truth value: those are written with a capital
letter in a text, and without one in a key text.

So what an index finds `in` finds too if it is a string, and the instance of a loop stands where
an index with its key looks for it unless the key is a truth value.

## Main definitions

* `Mapping.ofPairs` — the mapping with an entry for each of some keys and values.
* `Expr.evalPairs` — the keys and values of a dictionary.
* `Surroundings.Makes` — a value of a loop, its key, the text of that and the instance.

## Main results

* `Value.isIn_iff_item` — for which keys `in` and an index agree.
* `Expr.evalEntries_eq` — a dictionary is made of its keys and values.
* `Surroundings.makes_of_run_instances` — an instance stands under the text of its key.
* `item_of_key` — what an index finds of what each of the four puts in place.
-/

namespace ConfigTree

open Walk

/-! ### Indices and membership -/

namespace Value

theorem item_map_eq_ok_iff {m : Mapping} {k v : Value} :
    (Value.map m).item k = .ok v ↔ Entries.get? m k.keyText = some v := by
  unfold item
  dsimp only
  cases Entries.get? m k.keyText <;> simp

theorem exists_item_iff {m : Mapping} {k : Value} :
    (∃ v, (Value.map m).item k = .ok v) ↔ Entries.has m k.keyText = true := by
  simp only [item_map_eq_ok_iff, Entries.has, Option.isSome_iff_exists]

/-- Only a string is ever in a mapping. -/
theorem isIn_map_iff {m : Mapping} {k : Value} :
    Operation.isIn k (.map m) = .ok (.bool true)
      ↔ (∃ s, k = .str s) ∧ Entries.has m k.keyText = true := by
  cases k with
  -- a string is looked up as it is, any other value is not in it
  | str s =>
    show (Except.ok (Value.bool (Entries.has m s)) : Evaluated Value) = .ok (.bool true) ↔ _
    simp
  | _ =>
    show (Except.ok (Value.bool false) : Evaluated Value) = .ok (.bool true) ↔ _
    simp

/-- **Membership is what an index finds** for strings, and for keys that are not there. -/
theorem isIn_iff_item {m : Mapping} {k : Value} :
    (Operation.isIn k (.map m) = .ok (.bool true) ↔ ∃ v, (Value.map m).item k = .ok v)
      ↔ (∃ s, k = .str s) ∨ Entries.has m k.keyText = false := by
  rw [isIn_map_iff, exists_item_iff]
  cases Entries.has m k.keyText <;> simp

end Value

/-! ### Dictionaries -/

namespace Mapping

/-- The mapping with one more entry, for a key and a value. -/
def put (m : Mapping) (pair : Value × Value) : Mapping := Entries.insert m pair.1.keyText pair.2

/-- The mapping with an entry for each of the keys and values, put in one after the other. -/
def ofPairs (pairs : List (Value × Value)) : Mapping := pairs.foldl put []

theorem get?_foldl_put_of_ne {pairs : List (Value × Value)} {key : String}
    (h : ∀ pair ∈ pairs, pair.1.keyText ≠ key) (m : Mapping) :
    Entries.get? (pairs.foldl put m) key = Entries.get? m key := by
  induction pairs generalizing m with
  | nil => rfl
  | cons pair pairs ih =>
    rw [List.foldl_cons, ih fun p hp => h p (List.mem_cons_of_mem pair hp)]
    exact Entries.get?_alter_of_ne m (h pair List.mem_cons_self) _

/-- The last of the values for a key stays. -/
theorem get?_ofPairs_of_last {front after : List (Value × Value)} {k w : Value}
    (h : ∀ pair ∈ after, pair.1.keyText ≠ k.keyText) :
    Entries.get? (ofPairs (front ++ (k, w) :: after)) k.keyText = some w := by
  rw [ofPairs, List.foldl_append, List.foldl_cons, get?_foldl_put_of_ne h]
  exact Entries.get?_alter_self _ _ _

theorem has_foldl_put {pairs : List (Value × Value)} {key : String} {m : Mapping}
    (h : Entries.has m key = true) : Entries.has (pairs.foldl put m) key = true := by
  induction pairs generalizing m with
  | nil => exact h
  | cons pair pairs ih =>
    refine ih ?_
    rw [← Entries.mem_keys_iff] at h ⊢
    rw [put, Entries.insert, Entries.keys_alter]
    split
    · exact h
    · exact List.mem_append_left _ h

theorem has_ofPairs {front after : List (Value × Value)} {k w : Value} :
    Entries.has (ofPairs (front ++ (k, w) :: after)) k.keyText = true := by
  rw [ofPairs, List.foldl_append, List.foldl_cons]
  refine has_foldl_put ?_
  rw [put, Entries.insert, Entries.has, Entries.get?_alter_self]
  rfl

end Mapping

theorem Value.entryKey_eq_ok {k : Value} {name : String} (h : k.entryKey = .ok name) :
    name = k.keyText := by
  cases k with
  | list | map => cases h
  | _ => exact (Except.ok.inj h).symm

namespace Expr

variable (env : Environment)

/-- The keys and values of a dictionary in order; a key is no list or mapping. -/
def evalPairs : List (Expr × Expr) → Spot → Nat → Evaluated (List (Value × Value))
  | [], _, _ => .ok []
  | (key, value) :: rest, s, i => do
    let k ← s.nested i (evalAt env key)
    let _ ← k.entryKey
    let w ← s.nested (i + 1) (evalAt env value)
    let pairs ← evalPairs rest s (i + 2)
    return (k, w) :: pairs

/-- **A dictionary is made of its keys and values**, put in one after the other. -/
theorem evalEntries_eq (entries : List (Expr × Expr)) (s : Spot) (i : Nat) (m : Mapping) :
    evalEntries env entries s i m
      = (do return .map ((← evalPairs env entries s i).foldl Mapping.put m)) := by
  induction entries generalizing i m with
  | nil => rfl
  | cons e entries ih =>
    obtain ⟨key, value⟩ := e
    rw [evalEntries, evalPairs]
    simp only [ih, bind_assoc, pure_bind, List.foldl_cons]
    congr 1
    funext k
    -- a key that is no key at all stops both before its value is looked at;
    -- else the entry goes under the key text
    cases hk : k.entryKey with
    | error fault => rfl
    | ok name =>
      obtain rfl := Value.entryKey_eq_ok hk
      rfl

end Expr

/-! ### Loops -/

/-- The key of an instance is the key text, but for truth values. -/
theorem eq_keyText_of_instanceKey? {k : Value} {text : String} (h : instanceKey? k = some text) :
    text = k.keyText ↔ ∀ b, k ≠ .bool b := by
  cases k with
  | bool b =>
    obtain rfl := Option.some.inj h
    cases b <;> simp [Value.text, Value.literal, Value.keyText]
  -- these have no text for a key, and only a truth value has one unlike its key text
  | null | list | map => cases h
  | int | float | str =>
    obtain rfl := Option.some.inj h
    exact ⟨fun _ _ => nofun, fun _ => rfl⟩

namespace Surroundings

variable (s : Surroundings) (template : TreePath → Scope → Walk Value) (source : String)
  (path : TreePath) (scope : Scope)

/-- What a loop makes of the value `item`, after the values `front`: the expression `source` for
its key has the value `k`, of the given text, and its instance is `w`. -/
def Makes (p : Progress) (front : List Value) (item k : Value) (text : String) (w : Value) : Prop :=
  ∃ made q r,
    let inner := scope.enter .loop [("item", item), ("index", .int (Int64.ofNat front.length))]
    (s.instances template (some source) path scope front 0 []).run p = (.ok made, q)
      ∧ (s.environmentAt q.texts q.index inner path).evaluate source = .ok k
      ∧ instanceKey? k = some text
      ∧ (template (path.entry text) inner).run q.evaluating = (.ok w, r)

variable {s template source path scope}

theorem run_loopKey_eq_ok {i : Nat} {p q : Progress} {text : String}
    (h : (s.loopKey (some source) i path scope).run p = (.ok text, q)) :
    ∃ k, (s.environmentAt p.texts p.index scope path).evaluate source = .ok k
      ∧ instanceKey? k = some text ∧ q = p.evaluating := by
  rw [loopKey, run_bind_of_ok (s.run_environmentNow scope path p)] at h
  split at h
  · simp at h
  next k hk =>
    split at h
    next text' hkey =>
      obtain ⟨rfl, rfl⟩ := run_pure_eq_ok_iff.mp h
      exact ⟨k, hk, hkey, rfl⟩
    · simp at h

/-- An instance that is made stays. -/
theorem get?_of_run_instances {key : Option String} {values : List Value} {i : Nat}
    {made generated : Mapping} {p q : Progress} {text : String} {w : Value}
    (hw : Entries.get? made text = some w)
    (h : (s.instances template key path scope values i made).run p = (.ok generated, q)) :
    Entries.get? generated text = some w := by
  induction values generalizing i made p with
  | nil =>
    obtain ⟨rfl, rfl⟩ := run_pure_eq_ok_iff.mp h
    exact hw
  | cons item rest ih =>
    rw [instances, run_bind_eq_ok_iff] at h
    obtain ⟨k, p₁, -, h⟩ := h
    -- another instance has another key
    by_cases hk : made.has k = true
    · simp [hk] at h
    · have hne : k ≠ text := by
        rintro rfl
        simp [Entries.has, hw] at hk
      rw [if_neg hk, run_bind_eq_ok_iff] at h
      obtain ⟨v, p₂, -, h⟩ := h
      rw [run_onIndex_bind] at h
      refine ih ?_ h
      rw [Entries.insert, Entries.get?_alter_of_ne made hne, hw]

/-- **An instance stands under the text of its key.** -/
theorem makes_of_run_instances {front after : List Value} {item : Value} {generated : Mapping}
    {p q : Progress}
    (h : (s.instances template (some source) path scope (front ++ item :: after) 0 []).run p
      = (.ok generated, q)) :
    ∃ k text w, s.Makes template source path scope p front item k text w
      ∧ Entries.get? generated text = some w := by
  -- the instances before it are made, then it is, and the rest cannot move it
  rw [instances_append, run_bind_eq_ok_iff] at h
  obtain ⟨made, p₁, hmade, h⟩ := h
  rw [instances, Nat.zero_add, run_bind_eq_ok_iff] at h
  obtain ⟨text, p₂, hkey, h⟩ := h
  obtain ⟨k, hk, htext, rfl⟩ := run_loopKey_eq_ok hkey
  by_cases hhas : made.has text = true
  · simp [hhas] at h
  · rw [if_neg hhas, run_bind_eq_ok_iff] at h
    obtain ⟨w, p₃, hw, h⟩ := h
    rw [run_onIndex_bind] at h
    refine ⟨k, text, w, ⟨made, p₁, p₃, hmade, hk, htext, hw⟩, ?_⟩
    exact get?_of_run_instances (Entries.get?_alter_self made text _) h

end Surroundings

/-! ### What an index finds -/

/-- **What an index finds.**  Membership is what an index finds exactly if the key is a string or
not there at all.  Of a dictionary an index finds each key, with the last value for it, and `in`
each that is a string.  Of a loop an index finds the instance by its key, unless that is a truth
value, whose instance stands under another text. -/
theorem item_of_key (m : Mapping) (key : Value) (env : Environment) (entries : List (Expr × Expr))
    (spot : Spot) (v : Value) (s : Surroundings)
    (fetch : String → String → TreePath → Scope → Walk Mapping) (fields : Mapping) (loop : Loop)
    (source : String) (path : TreePath) (scope : Scope) (p q : Progress) (generated : Mapping) :
    ((Operation.isIn key (.map m) = .ok (.bool true) ↔ ∃ u, (Value.map m).item key = .ok u)
      ↔ (∃ t, key = .str t) ∨ Entries.has m key.keyText = false)
    ∧ (Expr.evalAt env (.dict entries) spot = .ok v →
      ∃ pairs, Expr.evalPairs env entries spot 0 = .ok pairs ∧ v = .map (Mapping.ofPairs pairs)
        ∧ ∀ front k w after, pairs = front ++ (k, w) :: after →
          (∃ u, v.item k = .ok u)
            ∧ ((∀ pair ∈ after, pair.1.keyText ≠ k.keyText) → v.item k = .ok w)
            ∧ (Operation.isIn k v = .ok (.bool true) ↔ ∃ t, k = .str t))
    ∧ (Loop.ofValue (.map fields) = .ok loop → loop.key = some source →
      (walkInstances s fetch (.map fields) path scope).run p = (.ok generated, q) →
      ∃ values r,
        (s.loopValues (walkEntry s fetch fields "values") loop.values path scope).run p
          = (.ok values, r)
        ∧ ∀ front item after, values = front ++ item :: after →
          ∃ k text w, s.Makes (walkEntry s fetch fields "template") source path
              (scope.inLoop values) r front item k text w
            ∧ Entries.get? generated text = some w
            ∧ ((∀ b, k ≠ .bool b) → (Value.map generated).item k = .ok w)
            ∧ (∀ b, k = .bool b → text ≠ k.keyText)) := by
  refine ⟨Value.isIn_iff_item, ?_, ?_⟩
  · intro h
    rw [Expr.evalAt, Expr.evalEntries_eq, bind_eq_ok_iff] at h
    obtain ⟨pairs, hpairs, hv⟩ := h
    obtain rfl : v = .map (Mapping.ofPairs pairs) := (Except.ok.inj hv).symm
    refine ⟨pairs, hpairs, rfl, ?_⟩
    rintro front k w after rfl
    refine ⟨Value.exists_item_iff.2 Mapping.has_ofPairs, fun hlast => ?_, ?_⟩
    · exact Value.item_map_eq_ok_iff.2 (Mapping.get?_ofPairs_of_last hlast)
    · rw [Value.isIn_map_iff]
      exact and_iff_left Mapping.has_ofPairs
  · intro hloop hkey h
    rw [walkInstances, hloop] at h
    dsimp only at h
    rw [run_bind_eq_ok_iff] at h
    obtain ⟨values, r, hvalues, h⟩ := h
    refine ⟨values, r, hvalues, ?_⟩
    rintro front item after rfl
    rw [hkey] at h
    obtain ⟨k, text, w, hmakes, hw⟩ := Surroundings.makes_of_run_instances h
    -- its text is the key text unless `k` is a truth value
    obtain ⟨-, -, -, -, -, htext, -⟩ := id hmakes
    have hsame := eq_keyText_of_instanceKey? htext
    refine ⟨k, text, w, hmakes, hw, fun hk => ?_, fun b hb heq => hsame.1 heq b hb⟩
    rw [Value.item_map_eq_ok_iff, ← hsame.2 hk]
    exact hw

/-- A loop over one number with itself as the key, and a dictionary with a number for a key. -/
theorem item_of_key_of_number :
    let s : Surroundings := ⟨.empty, .empty, .keyless "fernet", Range.halting⟩
    let fetch := fun _ _ _ _ => pure []
    let fields : Mapping :=
      [("values", .list [.int 7]), ("template", .map []), ("key", .str "item")]
    let loop : Loop := ⟨.sequence [.int 7], [], some "item"⟩
    let generated : Mapping := [("7", .map [])]
    let env : Environment := ⟨⟨⟨[], .null, .null⟩, s.keys⟩, .empty, .empty⟩
    let v : Value := .map [("1", .str "a")]
    Loop.ofValue (.map fields) = .ok loop
      ∧ ((walkInstances s fetch (.map fields) [] []).run (.start none [])).1 = .ok generated
      ∧ (Value.map generated).item (.int 7) = .ok (.map [])
      ∧ Expr.evalAt env (.dict [(.int 1, .str "a")]) ⟨1, []⟩ = .ok v
      ∧ v.item (.int 1) = .ok (.str "a") := by
  have hparse : parseExpression "item" = .ok (.name "item") := by cbv
  intro s fetch fields loop generated env v
  have hloop : Loop.ofValue (.map fields) = .ok loop := by cbv
  have hrun : ((walkInstances s fetch (.map fields) [] []).run (.start none [])).1
      = .ok generated := by cbv
  have hdict : Expr.evalAt env (.dict [(.int 1, .str "a")]) ⟨1, []⟩ = .ok v := rfl
  obtain ⟨-, hdicts, hloops⟩ := item_of_key generated (.int 7) env [(.int 1, .str "a")] ⟨1, []⟩ v s
    fetch fields loop "item" [] [] (.start none [])
    ((walkInstances s fetch (.map fields) [] []).run (.start none [])).2 generated
  refine ⟨hloop, hrun, ?_, hdict, ?_⟩
  -- the loop: its only value is 7, and the key `item` evaluates to it
  · obtain ⟨values, r, hvalues, hall⟩ := hloops hloop rfl (Prod.ext hrun rfl)
    have hseven : ((s.loopValues (walkEntry s fetch fields "values") loop.values [] []).run
        (.start none [])).1 = .ok [.int 7] := rfl
    rw [hvalues] at hseven
    obtain rfl := Except.ok.inj hseven
    obtain ⟨k, text, w, ⟨made, q, -, hmade, hk, htext, -⟩, hw, hitem, -⟩ := hall [] (.int 7) [] rfl
    rw [Environment.evaluate_of_parse hparse rfl] at hk
    obtain rfl : Value.int 7 = k := Except.ok.inj hk
    obtain rfl := Option.some.inj htext
    obtain rfl : Value.map [] = w := Option.some.inj hw
    apply hitem
    intro b hb
    cases hb
  -- the dictionary: its only pair is the last with its key
  · obtain ⟨pairs, hpairs, -, hall⟩ := hdicts hdict
    have hone : Expr.evalPairs env [(.int 1, .str "a")] ⟨1, []⟩ 0
        = .ok [(.int 1, .str "a")] := rfl
    rw [hone] at hpairs
    obtain rfl := Except.ok.inj hpairs
    obtain ⟨-, hlast, -⟩ := hall [] (.int 1) (.str "a") [] rfl
    exact hlast (List.forall_mem_nil _)

/-- `1` is the key of a dictionary, and an index finds its value; and yet it is not in it.  The
instance for `True` is not what an index with `True` finds. -/
theorem isIn_ne_item_of_number :
    let env : Environment := ⟨⟨⟨[], .null, .null⟩, .keyless "fernet"⟩, .empty, .standard⟩
    env.evaluate "1 in \x7b1: 'a'\x7d" = .ok (.bool false)
      ∧ (Value.map [("1", .str "a")]).item (.int 1) = .ok (.str "a")
      ∧ instanceKey? (.bool true) = some "True"
      ∧ (Value.map [("True", .null)]).item (.bool true) = .error (.index (.key "True")) := by
  intro env
  have hparse : parseExpression "1 in \x7b1: 'a'\x7d"
      = .ok (.compare (.int 1) [(.isIn, .dict [(.int 1, .str "a")])]) := by cbv
  refine ⟨?_, rfl, rfl, rfl⟩
  rw [Environment.evaluate_of_parse hparse rfl]
  cbv

end ConfigTree
