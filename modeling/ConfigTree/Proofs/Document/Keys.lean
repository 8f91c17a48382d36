import ConfigTree.Document.Evaluator
import ConfigTree.Proofs.Cipher.Sealing
import ConfigTree.Proofs.Eval.Trailers

/-!
# Keys in step with parameters

An evaluator has its tag and its key twice: in its keyring, which seals and opens, and among the
parameters, which expressions see as `P`.  They are set by different operations, and a missing or
misplaced entry means something else in the one place than in the other.  Still they agree after
every operation, so that tokens can be exchanged with whoever has the parameters only.

The cipher is any one that opens what it has sealed.

## Main definitions

* `Operation`, `Evaluator.after` — what can be done with an evaluator.
* `Evaluator.InStep` — the keyring is the one that the parameters describe.
* `Evaluator.callerAt` — where an expression of the evaluator calls a function.

## Main results

* `Evaluator.InStep.after`, `Evaluator.inStep_foldl` — one operation, and any number of them.
* `Evaluator.evaluate_ekey` — what an expression reads as `P.ekey`.
* `Evaluator.InStep.exists_encrypt`, `Evaluator.InStep.exists_decrypt` — tokens in both
  directions.
* `keys_inStep` — **keys stay in step with the parameters**.
-/

namespace ConfigTree

open Cipher

/-- What can be done with an evaluator. -/
inductive Operation
  /-- Other functions are put in, or the functions are edited. -/
  | setFunctions (functions : FunctionTable)
  /-- Other operators are put in. -/
  | setOperators (operators : OperatorTable)
  /-- Documents are imported from elsewhere. -/
  | setLibrary (library : Library)
  /-- Something is evaluated or resolved, and the next occasion is another one. -/
  | use (occasion : Occasion)
  /-- A fresh key is drawn. -/
  | newKey

namespace Evaluator

/-- The evaluator after an operation. -/
def after (e : Evaluator) : Operation → Evaluator
  | .setFunctions functions => { e with functions := functions }
  | .setOperators operators => { e with operators := operators }
  | .setLibrary library => { e with library := library }
  | .use occasion => { e with keys := { e.keys with occasion := occasion } }
  | .newKey => e.newKey.2

/-- The keyring has the cipher, the tag that the parameters name, and the key if they hold one. -/
structure InStep (e : Evaluator) (s : Sealer) : Prop where
  /-- The cipher is still the same. -/
  sealer : e.keys.sealer = s
  /-- The tag is the one that is read from the parameters. -/
  tag : ∀ o, (Keyring.ofParameters e.config.params s o).tag = e.keys.tag
  /-- A key among the parameters is the key in use. -/
  key : ∀ text, e.config.params.get? "ekey" = some (.str text) → e.keys.key = some text

variable {e : Evaluator} {s : Sealer}

/-! ### Keyrings of parameters -/

@[simp] theorem tag_make (tag key : Option String) (s : Sealer) (o : Occasion) :
    (Keyring.make tag key s o).tag = tag.getD defaultTag := by
  cases key <;> rfl

@[simp] theorem sealer_make (tag key : Option String) (s : Sealer) (o : Occasion) :
    (Keyring.make tag key s o).sealer = s := by
  cases key <;> rfl

@[simp] theorem tag_ofParameters (params : Mapping) (s : Sealer) (o : Occasion) :
    (Keyring.ofParameters params s o).tag
      = ((params.get? "etype").bind Value.str?).getD defaultTag :=
  tag_make _ _ s o

theorem ofParameters_of_key {params : Mapping} {text : String}
    (h : params.get? "ekey" = some (.str text)) (s : Sealer) (o : Occasion) :
    Keyring.ofParameters params s o
      = ⟨(Keyring.ofParameters params s o).tag, some text, s, o⟩ := by
  rw [tag_ofParameters, Keyring.ofParameters, h]
  rfl

/-! ### What expressions see -/

/-- The value that parameters hold for a key, or for none. -/
def keyValue (key : Option String) : Value := (key.map Value.str).getD .null

@[simp] theorem keyValue_none : keyValue none = .null := rfl

@[simp] theorem keyValue_some (key : String) : keyValue (some key) = .str key := rfl

/-- Expressions see the parameters as `P`; no loop hides them outside of a document. -/
theorem evaluate_ekey {v : Value} (h : e.config.params.get? "ekey" = some v) :
    e.evaluate "P.ekey" = .ok v := by
  have hparse : parseExpression "P.ekey" = .ok (.attribute (.name "P") "ekey") := by cbv
  have hundotted := undotted_of_parseExpression hparse
  have hparams : Expr.evalOperand e.environment (.name "P") ⟨1, []⟩
      = .ok (.map e.config.params) := rfl
  have hmember : (Value.map e.config.params).member "ekey" = .ok v := by
    rw [Value.member, h]
  rw [Evaluator.evaluate, Environment.evaluate_of_parse hparse rfl, Expr.eval,
    Expr.evalAt_attribute hundotted, hparams]
  exact hmember

/-! ### Fresh keys -/

/-- There is a key for every tag that names the cipher, and for no other. -/
theorem freshKey?_eq_none_iff (tag : String) (s : Sealer) (o : Occasion) :
    freshKey? tag s o = none ↔ isKnownTag tag = false := by
  unfold freshKey?
  split
  next hknown => simp [hknown]
  next hunknown => simpa using hunknown

namespace InStep

/-- Naming the cipher anew changes nothing, since it is the one in use. -/
theorem named (h : e.InStep s) :
    ((e.config.params.get? "etype").bind Value.str?).getD e.keys.tag = e.keys.tag := by
  have htag := h.tag e.keys.occasion
  rw [tag_ofParameters] at htag
  -- no name stands for the default, and that is the tag that was made of it
  cases hnamed : (e.config.params.get? "etype").bind Value.str? with
  | none => rfl
  | some tag =>
    rw [hnamed] at htag
    exact htag

theorem newKey_keys (h : e.InStep s) : e.newKey.2.keys = e.keys.renew := by
  rw [Evaluator.newKey, h.named]

/-- The key that is returned is the one in use afterwards, drawn for the tag in use. -/
theorem newKey_fst (h : e.InStep s) : e.newKey.1 = freshKey? e.keys.tag s e.keys.occasion := by
  rw [Evaluator.newKey, h.named, ← h.sealer]
  rfl

theorem newKey_params (h : e.InStep s) :
    e.newKey.2.config.params = e.config.params.insert "ekey" (keyValue e.newKey.1) := by
  rw [Evaluator.newKey, h.named]
  dsimp only
  cases e.keys.renew.key <;> rfl

/-- The key that is returned is stored among the parameters. -/
theorem get?_newKey (h : e.InStep s) :
    e.newKey.2.config.params.get? "ekey" = some (keyValue e.newKey.1) := by
  rw [h.newKey_params]
  exact Entries.get?_alter_self _ _ _

/-- The new key goes to both places; the cipher is named as before. -/
theorem newKey (h : e.InStep s) : e.newKey.2.InStep s where
  sealer := by
    rw [h.newKey_keys]
    exact h.sealer
  tag o := by
    -- the key is put beside the name of the cipher, which stays
    have hne : "ekey" ≠ "etype" := by decide
    have hkeep := Entries.get?_alter_of_ne e.config.params hne fun _ => keyValue e.newKey.1
    have htag := h.tag o
    rw [tag_ofParameters] at htag ⊢
    rw [h.newKey_params, h.newKey_keys, Entries.insert, hkeep, htag]
    rfl
  key text htext := by
    -- without a key the parameters hold nothing, which is no text
    rw [h.get?_newKey] at htext
    have hused : e.newKey.2.keys.key = e.newKey.1 := rfl
    cases hkey : e.newKey.1 with
    | none =>
      rw [hkey] at htext
      cases htext
    | some key =>
      rw [hkey] at htext hused
      cases htext
      exact hused

/-- **One operation** leaves keys and parameters in step. -/
theorem after (h : e.InStep s) (op : Operation) : (e.after op).InStep s := by
  cases op with
  | newKey => exact h.newKey
  | setFunctions functions => exact ⟨h.sealer, h.tag, h.key⟩
  | setOperators operators => exact ⟨h.sealer, h.tag, h.key⟩
  | setLibrary library => exact ⟨h.sealer, h.tag, h.key⟩
  | use occasion => exact ⟨h.sealer, h.tag, h.key⟩

end InStep

theorem inStep_make (config : Config) (library : Library) (s : Sealer) :
    (make config library s).InStep s where
  sealer := sealer_make _ _ s .first
  tag o := by
    rw [tag_ofParameters]
    exact (tag_ofParameters config.params s .first).symm
  key text htext := by
    -- the keyring is made of the parameters, so a key among them is taken over
    have hkeys : (make config library s).keys = _ := ofParameters_of_key htext s .first
    rw [hkeys]

/-- **Any number of operations** leave keys and parameters in step. -/
theorem inStep_foldl (h : e.InStep s) (ops : List Operation) :
    (ops.foldl Evaluator.after e).InStep s := by
  induction ops generalizing e with
  | nil => exact h
  | cons op ops ih => exact ih (h.after op)

/-! ### Tokens -/

theorem encrypt_str {caller : Caller} {text token : String}
    (h : caller.keys.encrypt text = .ok token) :
    Function.encrypt caller [.str text] = .ok (.str token) := by
  change (do return Value.str (← caller.keys.encrypt text)) = Except.ok (Value.str token)
  rw [h]
  rfl

theorem decrypt_str {caller : Caller} {text token : String}
    (h : caller.keys.decrypt token = .ok text) :
    Function.decrypt caller [.str token] = .ok (.str text) := by
  change (do return Value.str (← caller.keys.decrypt token)) = Except.ok (Value.str text)
  rw [h]
  rfl

/-- A place where an expression calls a function of the evaluator, at some occasion. -/
def callerAt (e : Evaluator) (sight : Sight) (o : Occasion) : Caller :=
  ⟨sight, { e.keys with occasion := o }⟩

namespace InStep

variable {written : String}

/-- Who has the parameters only has the same tag and key. -/
theorem requireKey (h : e.InStep s) (hwritten : e.config.params.get? "ekey" = some (.str written))
    (o : Occasion) :
    Keyring.requireKey e.config.params s o = .ok ⟨e.keys.tag, some written, s, o⟩ := by
  rw [Keyring.requireKey, hwritten, ← h.tag o, ← ofParameters_of_key hwritten s o]
  rfl

/-- What the evaluator seals is opened with the parameters alone. -/
theorem exists_encrypt (h : e.InStep s) (hopens : s.Opens)
    (hwritten : e.config.params.get? "ekey" = some (.str written))
    (haccepts : s.accepts written = true) (hknown : isKnownTag e.keys.tag = true)
    (sight : Sight) (o o' : Occasion) (text : String) :
    ∃ token, Function.encrypt (e.callerAt sight o) [.str text] = .ok (.str token)
      ∧ Keyring.decryptUnder e.config.params s o' token = .ok text := by
  have hsealer : (e.callerAt sight o).keys.sealer = s := h.sealer
  obtain ⟨token, hencrypt, hdecrypt⟩ := Keyring.exists_encrypt_decrypt
    (e.callerAt sight o).keys ⟨e.keys.tag, some written, s, o'⟩
    (hsealer ▸ hopens) hsealer.symm hknown rfl (h.key written hwritten) rfl
    (hsealer ▸ haccepts) text
  refine ⟨token, encrypt_str hencrypt, ?_⟩
  rw [Keyring.decryptUnder, h.requireKey hwritten]
  exact hdecrypt

/-- What is sealed with the parameters alone is opened by the evaluator. -/
theorem exists_decrypt (h : e.InStep s) (hopens : s.Opens)
    (hwritten : e.config.params.get? "ekey" = some (.str written))
    (haccepts : s.accepts written = true) (hknown : isKnownTag e.keys.tag = true)
    (sight : Sight) (o o' : Occasion) (text : String) :
    ∃ token, Keyring.encryptUnder e.config.params s o' text = .ok token
      ∧ Function.decrypt (e.callerAt sight o) [.str token] = .ok (.str text) := by
  have hsealer : (e.callerAt sight o).keys.sealer = s := h.sealer
  obtain ⟨token, hencrypt, hdecrypt⟩ := Keyring.exists_encrypt_decrypt
    ⟨e.keys.tag, some written, s, o'⟩ (e.callerAt sight o).keys
    hopens hsealer hknown rfl rfl (h.key written hwritten) haccepts text
  refine ⟨token, ?_, decrypt_str hdecrypt⟩
  rw [Keyring.encryptUnder, h.requireKey hwritten]
  exact hencrypt

end InStep

end Evaluator

/-- **Keys stay in step with the parameters**, whatever is done with an evaluator.  Its tag is the
one that is read from them, and a key among them is the key in use.  A fresh key that is returned
is the key in use afterwards, and what an expression reads as `P.ekey`; for an unknown tag none is
returned, none is left, and an expression reads nothing.

So, with a cipher that opens what it has sealed, every text that the evaluator seals, in whatever
place of an evaluation, is got back with the parameters alone, and the other way round, whenever
they hold a key that the cipher accepts, and name it. -/
theorem keys_inStep (config : Config) (library : Library) {s : Sealer} (hopens : s.Opens)
    (ops : List Operation) :
    let e := ops.foldl Evaluator.after (.make config library s)
    (∀ o, (Keyring.ofParameters e.config.params s o).tag = e.keys.tag)
    ∧ (∀ text, e.config.params.get? "ekey" = some (.str text) → e.keys.key = some text)
    ∧ (∀ key after, e.newKey = (key, after) →
        key = freshKey? e.keys.tag s e.keys.occasion
        ∧ (key = none ↔ isKnownTag after.keys.tag = false)
        ∧ after.keys.key = key
        ∧ after.config.params.get? "ekey" = some (Evaluator.keyValue key)
        ∧ after.evaluate "P.ekey" = .ok (Evaluator.keyValue key))
    ∧ ∀ written, e.config.params.get? "ekey" = some (.str written) →
        s.accepts written = true → isKnownTag e.keys.tag = true →
        ∀ (sight : Sight) (o o' : Occasion) (text : String),
          (∃ token, Function.encrypt (e.callerAt sight o) [.str text] = .ok (.str token)
            ∧ Keyring.decryptUnder e.config.params s o' token = .ok text)
          ∧ ∃ token, Keyring.encryptUnder e.config.params s o' text = .ok token
            ∧ Function.decrypt (e.callerAt sight o) [.str token] = .ok (.str text) := by
  intro e
  have h : e.InStep s := Evaluator.inStep_foldl (Evaluator.inStep_make config library s) ops
  refine ⟨h.tag, h.key, ?_, ?_⟩
  · intro key after hnew
    -- the step itself keeps both in step, so what it returns can be read off the parameters
    obtain ⟨rfl, rfl⟩ : e.newKey.1 = key ∧ e.newKey.2 = after := by simp [hnew]
    have htag : e.newKey.2.keys.tag = e.keys.tag := by
      rw [h.newKey_keys]
      rfl
    refine ⟨h.newKey_fst, ?_, rfl, h.get?_newKey, Evaluator.evaluate_ekey h.get?_newKey⟩
    rw [h.newKey_fst, htag]
    exact Evaluator.freshKey?_eq_none_iff _ _ _
  · intro written hwritten haccepts hknown sight o o' text
    exact ⟨h.exists_encrypt hopens hwritten haccepts hknown sight o o' text,
      h.exists_decrypt hopens hwritten haccepts hknown sight o o' text⟩

/-- An evaluator without parameters draws a key, and with the parameters that it has then, texts
are exchanged in both directions. -/
theorem keys_inStep_of_newKey :
    let s := Cipher.fernet [] 60
    let e := [Operation.newKey].foldl Evaluator.after (.make .empty .empty s)
    let caller := e.callerAt ⟨[], .null, .null⟩ .first
    s.Opens
      ∧ ∃ written, e.config.params.get? "ekey" = some (.str written)
        ∧ s.accepts written = true ∧ isKnownTag e.keys.tag = true
        ∧ (∃ token, Function.encrypt caller [.str "a"] = .ok (.str token)
          ∧ Keyring.decryptUnder e.config.params s .first token = .ok "a")
        ∧ ∃ token, Keyring.encryptUnder e.config.params s .first "a" = .ok token
          ∧ Function.decrypt caller [.str token] = .ok (.str "a") := by
  intro s e caller
  have hopens : s.Opens := opens_fernet [] (by decide)
  let made : Evaluator := .make .empty .empty s
  have hmade : isKnownTag made.keys.tag = true := by decide
  -- first the key that is drawn, then the texts that are exchanged under it
  obtain ⟨-, -, hnew, -⟩ := keys_inStep .empty .empty hopens []
  obtain ⟨hfresh, -, -, hstored, -⟩ := hnew made.newKey.1 made.newKey.2 rfl
  have hdrawn : made.newKey.1 = some (s.freshKey (.next .first)) :=
    hfresh.trans (if_pos hmade)
  obtain ⟨-, -, -, htokens⟩ := keys_inStep .empty .empty hopens [.newKey]
  have hknown : isKnownTag e.keys.tag = true := by decide
  have hwritten : e.config.params.get? "ekey" = some (.str (s.freshKey (.next .first))) := by
    rw [hdrawn] at hstored
    exact hstored
  have haccepts : s.accepts (s.freshKey (.next .first)) = true := accepts_freshKey (.next .first)
  obtain ⟨hseal, hopen⟩ := htokens _ hwritten haccepts hknown ⟨[], .null, .null⟩ .first .first "a"
  exact ⟨hopens, _, hwritten, haccepts, hknown, hseal, hopen⟩

end ConfigTree
