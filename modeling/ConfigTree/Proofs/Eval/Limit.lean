import ConfigTree.Eval.Expression
import ConfigTree.Proofs.Cipher.Length
import ConfigTree.Proofs.Outcome
import ConfigTree.Proofs.Tree.Leaves
import Mathlib

/-!
# What operators and functions keep within the limit

Strings have at most `maxLength` bytes and lists at most `maxLength` items.  Operators and
functions that check the length of what they make keep both limits, and so does what makes
no string or list of its own.

## Main definitions

* `Value.WithinLimit` — all strings and lists in a value, at any depth, are within the limit.
* `Limits x` — an outcome that has a value has one within the limit.
* `Function.KeepsLimit` — a function of arguments within the limit.

## Main results

* `OperatorTable.keepsLimit_standard`, `OperatorTable.keepsLimit_withBits` — the operators of
  both tables keep the limit.
* `FunctionTable.keepsLimit_of_checked` — of the functions all but seven do.
-/

namespace ConfigTree

/-- All strings and lists in a value, at any depth, are within the limit, and so are the keys of
its mappings. -/
inductive Value.WithinLimit : Value → Prop
  | null : WithinLimit .null
  | bool (b : Bool) : WithinLimit (.bool b)
  | int (n : Int64) : WithinLimit (.int n)
  | float (x : Float) : WithinLimit (.float x)
  | str {s : String} : s.utf8ByteSize ≤ maxLength → WithinLimit (.str s)
  | list {items : List Value} : items.length ≤ maxLength → (∀ v ∈ items, WithinLimit v) →
    WithinLimit (.list items)
  | map {entries : Mapping} : (∀ e ∈ entries, e.1.utf8ByteSize ≤ maxLength) →
    (∀ e ∈ entries, WithinLimit e.2) → WithinLimit (.map entries)

theorem Value.withinLimit_map_iff {entries : Mapping} : (Value.map entries).WithinLimit ↔
    ∀ e ∈ entries, e.1.utf8ByteSize ≤ maxLength ∧ e.2.WithinLimit := by
  constructor
  · intro h
    cases h with
    | map hkeys hvalues => exact fun e he => ⟨hkeys e he, hvalues e he⟩
  · intro h
    exact .map (fun e he => (h e he).1) fun e he => (h e he).2

namespace Value.WithinLimit

theorem size_le {s : String} (h : (Value.str s).WithinLimit) : s.utf8ByteSize ≤ maxLength := by
  cases h with
  | str hs => exact hs

theorem item {items : List Value} (h : (Value.list items).WithinLimit) {v : Value}
    (hv : v ∈ items) : v.WithinLimit := by
  cases h with
  | list _ hitems => exact hitems v hv

theorem entry {entries : Mapping} (h : (Value.map entries).WithinLimit) {key : String} {v : Value}
    (hv : entries.get? key = some v) : v.WithinLimit :=
  (withinLimit_map_iff.1 h _ (Entries.mem_of_get? hv)).2

end Value.WithinLimit

/-- An outcome that has a value has one within the limit. -/
def Limits (x : Evaluated Value) : Prop := ∀ v, x = .ok v → v.WithinLimit

theorem limits_ok {v : Value} (h : v.WithinLimit) : Limits (.ok v) := by
  intro w hw
  cases hw
  exact h

theorem limits_error (e : EvalError) : Limits (.error e) := by
  intro v hv
  cases hv

theorem limits_bind {α : Type} {x : Evaluated α} {f : α → Evaluated Value}
    (h : ∀ a, x = .ok a → Limits (f a)) : Limits (x >>= f) := by
  intro v hv
  obtain ⟨a, ha, hnext⟩ := bind_eq_ok_iff.1 hv
  exact h a ha v hnext

namespace Operation

/-! ### Operators -/

theorem limits_orOverflow (symbol : String) (w? : Option Int64) :
    Limits (orOverflow symbol w?) := by
  cases w? with
  | none => exact limits_error _
  | some w => exact limits_ok (.int w)

theorem limits_fit (symbol : String) (n : Int) : Limits (fit symbol n) :=
  limits_orOverflow symbol _

theorem limits_numeric (symbol : String) (f : Int → Int → Int) (g : Float → Float → Float)
    (l r : Value) : Limits (numeric symbol f g l r) := by
  rw [numeric]
  split
  · exact limits_fit _ _
  · exact limits_ok (.float _)
  · exact limits_error _

theorem limits_whole (symbol : String) {f : Int64 → Int64 → Evaluated Value}
    (h : ∀ a b, Limits (f a b)) (l r : Value) : Limits (whole symbol f l r) := by
  rw [whole]
  split
  · exact h _ _
  · exact limits_error _

theorem le_of_checkLength {n : Nat} {u : Unit} (h : checkLength n = .ok u) : n ≤ maxLength := by
  rw [checkLength] at h
  split at h
  · cases h
  · omega

theorem limits_add {l r : Value} (hl : l.WithinLimit) (hr : r.WithinLimit) :
    Limits (add l r) := by
  unfold add
  -- beyond the limit a text or list is refused, all else is a number
  split
  next s t =>
    refine limits_bind fun _ hcheck => limits_ok (.str ?_)
    rw [String.utf8ByteSize_append]
    exact le_of_checkLength hcheck
  next xs ys =>
    refine limits_bind fun _ hcheck => limits_ok (.list ?_ ?_)
    · rw [List.length_append]
      exact le_of_checkLength hcheck
    · intro v hv
      rcases List.mem_append.1 hv with hv | hv
      · exact hl.item hv
      · exact hr.item hv
  next => exact limits_numeric _ _ _ _ _

/-- What is repeated stays within the limit, since a length beyond 64 bits is beyond it too. -/
theorem repetitions_mul_le {count : Int64} {unit n : Nat} (h : repetitions count unit = .ok n) :
    n * unit ≤ maxLength := by
  rw [repetitions] at h
  split at h
  -- nothing repeated is nothing, however often
  next hunit => simp [hunit]
  next =>
    obtain ⟨_, hcheck, hn⟩ := bind_eq_ok_iff.1 h
    cases hn
    have hle := le_of_checkLength hcheck
    have hmax : maxLength = 100000 := rfl
    omega

theorem limits_repeatString (s : String) (count : Int64) : Limits (repeatString s count) := by
  refine limits_bind fun n hn => limits_ok (.str ?_)
  -- the copies have as many bytes together as their number times those of one
  rw [String.utf8ByteSize_ofList, Text.utf8Len_flatten_replicate]
  exact repetitions_mul_le hn

theorem limits_repeatList {xs : List Value} (h : (Value.list xs).WithinLimit) (count : Int64) :
    Limits (repeatList xs count) := by
  refine limits_bind fun n hn => limits_ok (.list ?_ ?_)
  · have hlength : (List.replicate n xs).flatten.length = n * xs.length := by simp
    rw [hlength]
    exact repetitions_mul_le hn
  · intro v hv
    obtain ⟨ys, hys, hmem⟩ := List.mem_flatten.1 hv
    rw [List.eq_of_mem_replicate hys] at hmem
    exact h.item hmem

theorem limits_mul {l r : Value} (hl : l.WithinLimit) (hr : r.WithinLimit) :
    Limits (mul l r) := by
  unfold mul
  split
  · exact limits_repeatString _ _
  · exact limits_repeatString _ _
  · exact limits_repeatList hl _
  · exact limits_repeatList hr _
  · exact limits_numeric _ _ _ _ _

theorem limits_div (l r : Value) : Limits (div l r) := by
  unfold div
  split
  · split
    · exact limits_error _
    · exact limits_ok (.float _)
  · exact limits_error _

theorem limits_floorDiv (l r : Value) : Limits (floorDiv l r) := by
  unfold floorDiv
  split
  · split
    · exact limits_error _
    · exact limits_orOverflow _ _
  · split
    · exact limits_error _
    · exact limits_ok (.float _)
  · exact limits_error _

theorem limits_mod (l r : Value) : Limits (mod l r) := by
  unfold mod
  split
  · split
    · exact limits_error _
    · exact limits_orOverflow _ _
  · split
    · exact limits_error _
    · exact limits_ok (.float _)
  · exact limits_error _

theorem limits_floatPower (x y : Float) : Limits (floatPower x y) := by
  unfold floatPower
  split
  · exact limits_error _
  · dsimp only
    split
    · exact limits_error _
    · exact limits_ok (.float _)

theorem limits_pow (l r : Value) : Limits (pow l r) := by
  unfold pow
  split
  · split
    · exact limits_error _
    · split
      · split
        · split
          · exact limits_fit _ _
          · exact limits_error _
        · exact limits_floatPower _ _
      · exact limits_floatPower _ _
  · split
    · exact limits_error _
    · exact limits_floatPower _ _
  · exact limits_error _

theorem limits_shiftLeft (l r : Value) : Limits (shiftLeft l r) :=
  limits_whole _ (fun _ _ => limits_bind fun _ _ => limits_orOverflow _ _) l r

theorem limits_shiftRight (l r : Value) : Limits (shiftRight l r) :=
  limits_whole _ (fun _ _ => limits_bind fun _ _ => limits_ok (.int _)) l r

theorem limits_minus (v : Value) : Limits (minus v) := by
  unfold minus
  split
  · exact limits_fit _ _
  · exact limits_ok (.float _)
  · exact limits_error _

theorem limits_plus (v : Value) : Limits (plus v) := by
  unfold plus
  split
  · exact limits_ok (.int _)
  · exact limits_ok (.float _)
  · exact limits_error _

theorem limits_invert (v : Value) : Limits (invert v) := by
  unfold invert
  split
  · exact limits_ok (.int _)
  · exact limits_error _

end Operation

namespace OperatorTable

/-- The operators of a table make nothing beyond the limit.  A comparison only has a truth. -/
structure KeepsLimit (t : OperatorTable) : Prop where
  /-- Binary operators. -/
  binary : ∀ op {l r : Value}, l.WithinLimit → r.WithinLimit → Limits (t.binary op l r)
  /-- Unary operators. -/
  unary : ∀ op (v : Value), Limits (t.unary op v)

open Operation

theorem keepsLimit_standard : standard.KeepsLimit where
  binary op l r hl hr := by
    cases op with
    | add => exact limits_add hl hr
    | sub => exact limits_numeric _ _ _ l r
    | mul => exact limits_mul hl hr
    | div => exact limits_div l r
    | floorDiv => exact limits_floorDiv l r
    | mod => exact limits_mod l r
    | pow => exact limits_pow l r
    | bitAnd | bitOr | bitXor | shiftLeft | shiftRight => exact limits_error _
  unary op v := by
    cases op with
    | minus => exact limits_minus v
    | plus => exact limits_plus v
    | not => exact limits_ok (.bool _)
    | invert => exact limits_error _

theorem keepsLimit_withBits : withBits.KeepsLimit where
  binary op l r hl hr := by
    -- three of the operators on bits make a word of two words and never refuse
    have hbits (symbol : String) (f : Int64 → Int64 → Int64) :
        Limits (whole symbol (fun a b => .ok (.int (f a b))) l r) :=
      limits_whole symbol (fun a b => limits_ok (.int (f a b))) l r
    cases op with
    | bitAnd | bitOr | bitXor => exact hbits _ _
    | shiftLeft => exact limits_shiftLeft l r
    | shiftRight => exact limits_shiftRight l r
    | add => exact keepsLimit_standard.binary .add hl hr
    | sub => exact keepsLimit_standard.binary .sub hl hr
    | mul => exact keepsLimit_standard.binary .mul hl hr
    | div => exact keepsLimit_standard.binary .div hl hr
    | floorDiv => exact keepsLimit_standard.binary .floorDiv hl hr
    | mod => exact keepsLimit_standard.binary .mod hl hr
    | pow => exact keepsLimit_standard.binary .pow hl hr
  unary op v := by
    cases op with
    | invert => exact limits_invert v
    | minus => exact keepsLimit_standard.unary .minus v
    | plus => exact keepsLimit_standard.unary .plus v
    | not => exact keepsLimit_standard.unary .not v

end OperatorTable

/-! ### Functions -/

/-- A function of arguments within the limit makes nothing beyond it, where no message is longer
than its token. -/
def Function.KeepsLimit (f : Function) : Prop :=
  ∀ (caller : Caller) args, caller.keys.sealer.Pads → (∀ v ∈ args, v.WithinLimit) →
    Limits (f caller args)

namespace Function

theorem keepsLimit_ofOne (name : String) {f : Caller → Value → Evaluated Value}
    (h : ∀ caller v, caller.keys.sealer.Pads → v.WithinLimit → Limits (f caller v)) :
    (ofOne name f).KeepsLimit := by
  intro caller args hpads hargs
  unfold ofOne
  split
  next v => exact h caller v hpads (hargs v (by simp))
  next => exact limits_error _

theorem size_le_of_string {name : String} {v : Value} {s : String} (hv : v.WithinLimit)
    (h : string name v = .ok s) : s.utf8ByteSize ≤ maxLength := by
  unfold string at h
  split at h
  · cases h
    exact hv.size_le
  · cases h

theorem keepsLimit_len : len.KeepsLimit := by
  refine keepsLimit_ofOne _ fun _ v _ _ => ?_
  split
  · exact limits_ok (.int _)
  · exact limits_ok (.int _)
  · exact limits_ok (.int _)
  · exact limits_error _

theorem keepsLimit_int : int.KeepsLimit := by
  refine keepsLimit_ofOne _ fun _ v _ _ => ?_
  split
  · exact limits_ok (.int _)
  · exact limits_ok (.int _)
  · dsimp only
    split
    · exact limits_ok (.int _)
    · exact limits_error _
  · split
    · exact limits_ok (.int _)
    · exact limits_error _
  · exact limits_error _

theorem keepsLimit_float : float.KeepsLimit := by
  refine keepsLimit_ofOne _ fun _ v _ _ => ?_
  split
  · split
    · exact limits_ok (.float _)
    · exact limits_error _
  · split
    · exact limits_ok (.float _)
    · exact limits_error _

theorem keepsLimit_bool : bool.KeepsLimit := by
  intro caller args _ _
  unfold bool
  split
  · exact limits_ok (.bool _)
  · exact limits_ok (.bool _)
  · exact limits_error _

theorem keepsLimit_abs : abs.KeepsLimit := by
  refine keepsLimit_ofOne _ fun _ v _ _ => ?_
  split
  · split
    · exact limits_ok (.int _)
    · exact limits_error _
  · exact limits_ok (.int _)
  · exact limits_ok (.float _)
  · exact limits_error _

/-- The best value is one of those compared. -/
theorem limits_best (wanted : Ordering) {v : Value} {vs : List Value}
    (h : ∀ w ∈ v :: vs, w.WithinLimit) : Limits (best wanted v vs) := by
  induction vs generalizing v with
  | nil => exact limits_ok (h v (by simp))
  | cons w vs ih =>
    obtain ⟨hv, hw, hvs⟩ := by simpa only [List.forall_mem_cons] using h
    refine limits_bind fun o _ => ?_
    split
    · exact ih (List.forall_mem_cons.2 ⟨hw, hvs⟩)
    · exact ih (List.forall_mem_cons.2 ⟨hv, hvs⟩)

theorem keepsLimit_extreme (name : String) (wanted : Ordering) :
    (extreme name wanted).KeepsLimit := by
  intro caller args _ hargs
  unfold extreme
  dsimp only
  split
  · exact limits_error _
  -- one list stands for its items, several arguments for themselves
  next items =>
    have hitems : ∀ v ∈ items, v.WithinLimit := fun v hv => (hargs (.list items) (by simp)).item hv
    refine limits_bind fun candidates hcandidates => ?_
    cases hcandidates
    split
    · exact limits_error _
    · exact limits_best wanted hitems
  · exact limits_error _
  · refine limits_bind fun candidates hcandidates => ?_
    cases hcandidates
    split
    · exact limits_error _
    · exact limits_best wanted hargs

theorem keepsLimit_round : round.KeepsLimit := by
  intro caller args _ _
  refine limits_bind fun _ _ => limits_bind fun n _ => ?_
  split
  · exact limits_ok (.int _)
  · exact limits_ok (.int _)
  · unfold roundWhole
    dsimp only
    split
    · exact limits_ok (.int _)
    · exact limits_error _
  · exact limits_ok (.float _)
  · exact limits_error _

/-- A text that is refused where it is beyond the limit. -/
theorem limits_refused (s : String) (e : EvalError) :
    Limits (if maxLength < s.utf8ByteSize then throw e else return .str s) := by
  split
  · exact limits_error _
  next hsize => exact limits_ok (.str (Nat.not_lt.1 hsize))

theorem keepsLimit_join : join.KeepsLimit := by
  intro caller args _ _
  refine limits_bind fun _ _ => ?_
  dsimp only
  split
  · refine limits_bind fun separator _ => ?_
    split
    · exact limits_refused _ _
    · exact limits_error _
  · split
    · exact limits_refused _ _
    · exact limits_error _

theorem keepsLimit_replace : replace.KeepsLimit := by
  intro caller args _ _
  unfold replace
  split
  · refine limits_bind fun s _ => limits_bind fun old _ => limits_bind fun new _ => ?_
    split
    · exact limits_error _
    · exact limits_refused _ _
  · exact limits_error _

theorem keepsLimit_decrypt : decrypt.KeepsLimit := by
  refine keepsLimit_ofOne _ fun caller v hpads hv => limits_bind fun token htoken => ?_
  refine limits_bind fun text htext => limits_ok (.str ?_)
  -- a message is no longer than its token, and the token was within the limit
  exact (Keyring.utf8ByteSize_le_of_decrypt hpads htext).trans (size_le_of_string hv htoken)

/-! ### Ranges -/

/-- A list of scalars, as many as there may be. -/
theorem limits_map_list {x : Evaluated (List Value)}
    (h : ∀ items, x = .ok items → items.length ≤ maxLength ∧ ∀ v ∈ items, v.WithinLimit) :
    Limits (x.map Value.list) := by
  intro v hv
  obtain ⟨items, hx, rfl⟩ := map_eq_ok_iff.1 hv
  obtain ⟨hlength, hitems⟩ := h items hx
  exact .list hlength hitems

theorem le_of_checkCount {n : Nat} {u : Unit} (h : Range.checkCount n = .ok u) :
    n ≤ maxLength := by
  rw [Range.checkCount] at h
  split at h
  · cases h
  · omega

@[simp] theorem length_spaced (start stop : Float) (n : Nat) :
    (Range.spaced start stop n).length = n := by
  unfold Range.spaced
  split
  · rfl
  · rfl
  · simp

theorem withinLimit_of_mem_spaced {start stop : Float} {n : Nat} {v : Value}
    (hv : v ∈ Range.spaced start stop n) : v.WithinLimit := by
  unfold Range.spaced at hv
  split at hv
  · simp at hv
  · obtain rfl := List.mem_singleton.1 hv
    exact .float _
  · obtain ⟨i, -, rfl⟩ := List.mem_map.1 hv
    exact .float _

theorem keepsLimit_linspace : linspace.KeepsLimit := by
  intro caller args _ _
  unfold linspace
  split
  · refine limits_map_list fun items hitems => ?_
    obtain ⟨start, -, hnext⟩ := bind_eq_ok_iff.1 hitems
    obtain ⟨stop, -, hnext⟩ := bind_eq_ok_iff.1 hnext
    obtain ⟨n, -, hnext⟩ := bind_eq_ok_iff.1 hnext
    obtain ⟨_, hcount, hspaced⟩ := bind_eq_ok_iff.1 hnext
    cases hspaced
    refine ⟨?_, fun v hv => withinLimit_of_mem_spaced hv⟩
    rw [length_spaced]
    exact le_of_checkCount hcount
  · exact limits_error _

theorem withinLimit_of_stepped {M : Number.Machine Evaluated} {a s : Int64} {n : Nat}
    {items : List Value} (h : Range.stepped M a s n = .ok items) :
    items.length = n ∧ ∀ v ∈ items, v.WithinLimit := by
  -- each value is made of one number below `n`
  have hitems := forall₂_of_mapM_eq_ok h
  refine ⟨by rw [← hitems.length_eq, List.length_range], fun v hv => ?_⟩
  obtain ⟨i, hi, rfl⟩ := List.mem_iff_getElem.1 hv
  obtain ⟨w, -, hw⟩ := map_eq_ok_iff.1 (hitems.get (hitems.length_eq ▸ hi) hi)
  have hitem : items[i] = .int w := hw.symm
  rw [hitem]
  exact .int w

theorem withinLimit_of_arange {M : Number.Machine Evaluated} {start stop step : Value}
    {items : List Value} (h : Range.arange M start stop step = .ok items) :
    items.length ≤ maxLength ∧ ∀ v ∈ items, v.WithinLimit := by
  -- words or floats: both check the number of values before they make one
  unfold Range.arange at h
  split at h
  · rw [Range.wholeRange] at h
    split at h
    · cases h
    · obtain ⟨_, hcount, hstepped⟩ := bind_eq_ok_iff.1 h
      obtain ⟨hlength, hitems⟩ := withinLimit_of_stepped hstepped
      exact ⟨hlength ▸ le_of_checkCount hcount, hitems⟩
  · obtain ⟨a, -, hnext⟩ := bind_eq_ok_iff.1 h
    obtain ⟨b, -, hnext⟩ := bind_eq_ok_iff.1 hnext
    obtain ⟨s, -, hnext⟩ := bind_eq_ok_iff.1 hnext
    rw [Range.floatRange] at hnext
    split at hnext
    · cases hnext
    · obtain ⟨_, hcount, hitems⟩ := bind_eq_ok_iff.1 hnext
      cases hitems
      refine ⟨by simpa using le_of_checkCount hcount, fun v hv => ?_⟩
      obtain ⟨i, -, rfl⟩ := List.mem_map.1 hv
      exact .float _

theorem keepsLimit_arange (M : Number.Machine Evaluated) : (arange M).KeepsLimit := by
  intro caller args _ _
  unfold arange
  split
  · exact limits_map_list fun items hitems => withinLimit_of_arange hitems
  · exact limits_map_list fun items hitems => withinLimit_of_arange hitems
  · exact limits_map_list fun items hitems => withinLimit_of_arange hitems
  · exact limits_error _

end Function

namespace FunctionTable

/-- The functions that make texts or lists of any length. -/
def unchecked : List String :=
  ["str", "F.upper", "F.lower", "F.split", "F.path_join", "F.format", "F.encrypt"]

open ConfigTree.Function

/-- All other functions keep the limit. -/
theorem keepsLimit_of_checked {M : Number.Machine Evaluated} {name : String} {f : Function}
    (hf : (standard M).get? name = some f) (hname : name ∉ unchecked) : f.KeepsLimit := by
  have hmem := Entries.mem_of_get? hf
  simp only [unchecked, List.mem_cons, List.not_mem_nil, or_false, not_or] at hname
  simp only [standard, List.mem_cons, Prod.mk.injEq, List.not_mem_nil, or_false] at hmem
  -- One case for each entry, in the order of the table.
  rcases hmem with ⟨-, rfl⟩ | ⟨rfl, -⟩ | ⟨-, rfl⟩ | ⟨-, rfl⟩ | ⟨-, rfl⟩ | ⟨-, rfl⟩ | ⟨-, rfl⟩
    | ⟨-, rfl⟩ | ⟨-, rfl⟩ | ⟨-, rfl⟩ | ⟨rfl, -⟩ | ⟨rfl, -⟩ | ⟨-, rfl⟩ | ⟨rfl, -⟩ | ⟨rfl, -⟩
    | ⟨rfl, -⟩ | ⟨rfl, -⟩ | ⟨-, rfl⟩ | ⟨-, rfl⟩ | ⟨-, rfl⟩
  · exact keepsLimit_len
  · simp at hname
  · exact keepsLimit_int
  · exact keepsLimit_float
  · exact keepsLimit_bool
  · exact keepsLimit_abs
  · exact keepsLimit_extreme _ _
  · exact keepsLimit_extreme _ _
  · exact keepsLimit_round
  · exact keepsLimit_join
  · simp at hname
  · simp at hname
  · exact keepsLimit_replace
  · simp at hname
  · simp at hname
  · simp at hname
  · simp at hname
  · exact keepsLimit_decrypt
  · exact keepsLimit_linspace
  · exact keepsLimit_arange M

end FunctionTable

end ConfigTree
