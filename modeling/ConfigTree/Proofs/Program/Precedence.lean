import ConfigTree.Program.Options
import ConfigTree.Proofs.Outcome
import ConfigTree.Proofs.Tree.Place

/-!
# The command line before the file

Every option in force is the one of the command line if it has one, else the one of the file of
settings, else a default.  For parameters each of the two has up to two places: the tag of
the cipher and the key have options of their own, and every parameter can be assigned.  The
two options come first and the two assignments after them, so that an option of the file
overrules an assignment on the command line.

## Main definitions

* `assigned?` — what the last of some assignments of a key gives it.
* `Arguments.param?`, `Settings.param?` — what each of the two says of a parameter.
* `Overruled a s key` — the file has an option for a parameter that the command line assigns.
* `Options.Prefers a s o` — the options of `a` come before those of `s`.

## Main results

* `get?_assignAll`, `exists_assignAll_iff` — assignments made in order.
* `Options.get?_params`, `Options.cipher_eq` — the parameters in force, with their four places.
* `Options.exists_combine_iff` — when there are options in force.
* `prefers_of_combine` — **the command line comes first** but where it is overruled.
-/

namespace ConfigTree

/-! ### Assignments -/

/-- What the last of some assignments of a key gives it. -/
def assigned? (assignments : List String) (key : String) : Option Value :=
  Entries.get? (assignments.filterMap readAssignment?).reverse key

theorem assigned?_cons {text k : String} {v : Value} (h : readAssignment? text = some (k, v))
    (rest : List String) (key : String) :
    assigned? (text :: rest) key
      = (assigned? rest key).or (if k = key then some v else none) := by
  rw [assigned?, List.filterMap_cons_some h, List.reverse_cons, Entries.get?_append,
    Entries.get?_cons, Entries.get?_nil]
  rfl

theorem get?_insert (m : Mapping) (k key : String) (v : Value) :
    (Entries.insert m k v).get? key = (if k = key then some v else none).or (m.get? key) := by
  by_cases hk : k = key
  · subst hk
    rw [if_pos rfl, Option.some_or]
    exact Entries.get?_alter_self m k _
  · rw [if_neg hk, Option.none_or]
    exact Entries.get?_alter_of_ne m hk _

theorem assignAll_cons (m : Mapping) (text : String) (rest : List String) :
    assignAll m (text :: rest) = match readAssignment? text with
      | some (k, v) => assignAll (m.insert k v) rest
      | none => .error (.assignment text) := by
  rw [assignAll, List.foldlM_cons]
  cases readAssignment? text <;> rfl

/-- **Assignments made in order**: the last one of a key counts, and others leave it alone. -/
theorem get?_assignAll {m m' : Mapping} {assignments : List String}
    (h : assignAll m assignments = .ok m') (key : String) :
    m'.get? key = (assigned? assignments key).or (m.get? key) := by
  induction assignments generalizing m with
  | nil =>
    cases h
    rfl
  | cons text rest ih =>
    rw [assignAll_cons] at h
    cases hread : readAssignment? text with
    | none =>
      rw [hread] at h
      cases h
    | some pair =>
      obtain ⟨k, v⟩ := pair
      rw [hread] at h
      -- a later assignment of the key is preferred, then this one, then what was there before
      rw [ih h, assigned?_cons hread, get?_insert, Option.or_assoc]

/-- Assignments can be made if each has a key and an equals sign. -/
theorem exists_assignAll_iff {m : Mapping} {assignments : List String} :
    (∃ m', assignAll m assignments = .ok m')
      ↔ ∀ text ∈ assignments, (readAssignment? text).isSome := by
  induction assignments generalizing m with
  | nil => exact ⟨fun _ => by simp, fun _ => ⟨m, rfl⟩⟩
  | cons text rest ih =>
    rw [assignAll_cons, List.forall_mem_cons]
    cases readAssignment? text with
    | none => simp
    | some pair =>
      obtain ⟨k, v⟩ := pair
      simp only [ih, Option.isSome_some, true_and]

/-- An assignment of a text, told by parts that can be compared. -/
theorem readAssignment?_eq_of_parts {text k s : String}
    (h : (readAssignment? text).map (fun p => (p.1, p.2.str?)) = some (k, some s)) :
    readAssignment? text = some (k, .str s) := by
  obtain ⟨⟨k', v⟩, hread, hpair⟩ := Option.map_eq_some_iff.1 h
  cases v <;> cases hpair
  exact hread

/-! ### What is said of a parameter -/

/-- The value of a parameter that has an option of its own. -/
def ownValue (cipher key : Option String) (name : String) : Option Value :=
  if name = "etype" then cipher.map .str
  else if name = "ekey" then key.map .str
  else none

/-- What the command line says of a parameter: an option of its own counts more than an
assignment. -/
def Arguments.param? (a : Arguments) (name : String) : Option Value :=
  (ownValue a.cipher a.key name).or (assigned? a.params name)

/-- What a file of settings says of a parameter. -/
def Settings.param? (s : Settings) (name : String) : Option Value :=
  (ownValue s.cipher s.key name).or (s.params.get? name)

/-- The file has an option of its own for a parameter that the command line only assigns. -/
def Overruled (a : Arguments) (s : Settings) (name : String) : Prop :=
  ownValue a.cipher a.key name = none ∧ (assigned? a.params name).isSome
    ∧ (ownValue s.cipher s.key name).isSome

/-- But for what is overruled, the two places of the command line are in front of those of the
file. -/
theorem or_eq_of_not_overruled {a : Arguments} {s : Settings} {name : String}
    (h : ¬ Overruled a s name) :
    ((ownValue a.cipher a.key name).or (ownValue s.cipher s.key name)).or
        ((assigned? a.params name).or (s.params.get? name))
      = (a.param? name).or (s.param? name) := by
  rw [Arguments.param?, Settings.param?, Option.or_assoc, Option.or_assoc]
  -- only where the command line assigns and the file has an option is the order another
  cases hown : ownValue a.cipher a.key name with
  | some v => rfl
  | none =>
    cases hassigned : assigned? a.params name with
    | none => rfl
    | some v =>
      cases hfile : ownValue s.cipher s.key name with
      | none => rfl
      | some w => exact absurd ⟨hown, by rw [hassigned]; rfl, by rw [hfile]; rfl⟩ h

namespace Options

variable {a : Arguments} {s : Settings} {o : Options}

/-- The options in force, part by part. -/
theorem combine_eq_ok (h : combine a s = .ok o) :
    ∃ params names format, assignAll s.params a.params = .ok params
      ∧ assignAll s.names a.names = .ok names ∧ formatOf a.format s.format = .ok format
      ∧ o = {
        files := a.files
        params := withCipher params (cipherOf a.cipher s.cipher params) (a.key.or s.key)
        names := names
        includes := folders ((a.separator.or s.separator).getD ":")
          ((a.includes.or s.includes).getD ".")
        cipher := cipherOf a.cipher s.cipher params
        format := format
        output := a.output
        strict := a.strict || s.strict.getD false
        generateKey := a.generateKey } := by
  obtain ⟨params, hparams, h⟩ := bind_eq_ok_iff.1 h
  obtain ⟨names, hnames, h⟩ := bind_eq_ok_iff.1 h
  obtain ⟨format, hformat, h⟩ := bind_eq_ok_iff.1 h
  cases h
  exact ⟨params, names, format, hparams, hnames, hformat, rfl⟩

theorem get?_withCipher (params : Mapping) (cipher : String) (key : Option String)
    (name : String) :
    (withCipher params cipher key).get? name
      = (ownValue (some cipher) key name).or (params.get? name) := by
  have hne : "etype" ≠ "ekey" := by decide
  cases key with
  -- without a key there is one entry to put in, with one there are two, the key last
  | none =>
    rw [withCipher, get?_insert, ownValue]
    by_cases htag : name = "etype"
    · rw [if_pos htag.symm, if_pos htag, Option.map_some]
    · rw [if_neg (Ne.symm htag), if_neg htag, Option.map_none, ite_self]
  | some key =>
    rw [withCipher, get?_insert, get?_insert, ownValue]
    by_cases htag : name = "etype"
    · subst htag
      rw [if_neg hne.symm, if_pos rfl, if_pos rfl, Option.none_or, Option.map_some]
    · rw [if_neg (Ne.symm htag), if_neg htag, Option.none_or]
      by_cases hkey : name = "ekey"
      · rw [if_pos hkey.symm, if_pos hkey, Option.map_some]
      · rw [if_neg (Ne.symm hkey), if_neg hkey]

/-- **The parameters in force**: the two options come first, then the two assignments. -/
theorem get?_params (h : combine a s = .ok o) (name : String) :
    o.params.get? name = (ownValue (some o.cipher) (a.key.or s.key) name).or
      ((assigned? a.params name).or (s.params.get? name)) := by
  obtain ⟨params, names, format, hparams, -, -, rfl⟩ := combine_eq_ok h
  rw [get?_withCipher, get?_assignAll hparams]

/-- The tag of the cipher is looked for in the same four places; what is no text is no tag. -/
theorem cipher_eq (h : combine a s = .ok o) :
    o.cipher = ((a.cipher.or s.cipher).or (((assigned? a.params "etype").or
      (s.params.get? "etype")).bind Value.str?)).getD defaultTag := by
  obtain ⟨params, names, format, hparams, -, -, rfl⟩ := combine_eq_ok h
  rw [← get?_assignAll hparams]
  rfl

/-- There are options in force if all assignments can be made and the notation is known. -/
theorem exists_combine_iff :
    (∃ o, combine a s = .ok o) ↔ (∀ text ∈ a.params, (readAssignment? text).isSome)
      ∧ (∀ text ∈ a.names, (readAssignment? text).isSome)
      ∧ ∃ format, formatOf a.format s.format = .ok format := by
  constructor
  · rintro ⟨o, h⟩
    obtain ⟨params, names, format, hparams, hnames, hformat, -⟩ := combine_eq_ok h
    exact ⟨exists_assignAll_iff.1 ⟨params, hparams⟩, exists_assignAll_iff.1 ⟨names, hnames⟩,
      format, hformat⟩
  · rintro ⟨hparams, hnames, format, hformat⟩
    obtain ⟨params, hparams⟩ := exists_assignAll_iff.2 hparams
    obtain ⟨names, hnames⟩ := exists_assignAll_iff.2 hnames
    exact ⟨_, by rw [combine, hparams, hnames, hformat]; rfl⟩

theorem exists_combine_of_assignment {text : String} {pair : String × Value}
    (hread : readAssignment? text = some pair) (hparams : a.params = [text])
    (hnames : a.names = []) (hformat : a.format = none) (hset : s.format = none) :
    ∃ o, combine a s = .ok o := by
  rw [exists_combine_iff, hparams, hnames, hformat, hset, List.forall_mem_singleton, hread]
  exact ⟨rfl, by simp, .yaml, rfl⟩

/-! ### Precedence -/

/-- The options in force are those of the command line, else those of the file, else defaults. -/
structure Prefers (a : Arguments) (s : Settings) (o : Options) : Prop where
  /-- A parameter that is given, unless it is overruled; the tag of a cipher must be a text. -/
  param : ∀ name v, ¬ Overruled a s name → (name = "etype" → ∃ tag, v = .str tag) →
    (a.param? name).or (s.param? name) = some v → o.params.get? name = some v
  /-- A parameter that is not given; the tag of the cipher has a default. -/
  noParam : ∀ name, (a.param? name).or (s.param? name) = none →
    o.params.get? name = if name = "etype" then some (.str defaultTag) else none
  /-- The cipher is the one that the parameters name. -/
  cipher : o.params.get? "etype" = some (.str o.cipher)
  /-- A name. -/
  name : ∀ name, o.names.get? name = (assigned? a.names name).or (s.names.get? name)
  /-- The folders, and what stands between them. -/
  includes : o.includes
    = folders ((a.separator.or s.separator).getD ":") ((a.includes.or s.includes).getD ".")
  /-- The notation of the output, if the command line gives it. -/
  format : ∀ format, a.format = some format → o.format = format
  /-- The notation of the output, if only the file gives it. -/
  fileFormat : ∀ name, a.format = none → s.format = some name →
    DocumentFormat.ofName? name = some o.format
  /-- The notation of the output, if neither gives it. -/
  noFormat : a.format = none → s.format = none → o.format = .yaml
  /-- The posture; the command line can only make it stricter. -/
  strict : o.strict = (a.strict || s.strict.getD false)
  /-- What only the command line can give. -/
  rest : o.files = a.files ∧ o.output = a.output ∧ o.generateKey = a.generateKey

theorem ownValue_or (cipher cipher' key key' : Option String) (name : String) :
    ownValue (cipher.or cipher') (key.or key') name
      = (ownValue cipher key name).or (ownValue cipher' key' name) := by
  rw [ownValue, ownValue, ownValue]
  split
  · exact Option.map_or
  · split
    · exact Option.map_or
    · rfl

theorem ownValue_of_ne {name : String} (h : name ≠ "etype") (cipher cipher' key : Option String) :
    ownValue cipher key name = ownValue cipher' key name := by
  rw [ownValue, ownValue, if_neg h, if_neg h]

/-- Every parameter but the tag of the cipher is in force as it is given. -/
theorem get?_params_of_ne (h : combine a s = .ok o) {name : String} (hname : name ≠ "etype")
    (hnot : ¬ Overruled a s name) :
    o.params.get? name = (a.param? name).or (s.param? name) := by
  rw [get?_params h, ownValue_of_ne hname _ (a.cipher.or s.cipher), ownValue_or,
    or_eq_of_not_overruled hnot]

/-- The tag of the cipher is in force as it is given, if it is a text. -/
theorem cipher_of_given (h : combine a s = .ok o) (hnot : ¬ Overruled a s "etype") {tag : String}
    (htag : (a.param? "etype").or (s.param? "etype") = some (.str tag)) : o.cipher = tag := by
  rw [← or_eq_of_not_overruled hnot, ← ownValue_or] at htag
  rw [cipher_eq h]
  -- the two options are texts; only an assignment could be something else
  change (((a.cipher.or s.cipher).map Value.str).or _) = _ at htag
  cases hown : a.cipher.or s.cipher with
  | some own =>
    rw [hown] at htag
    cases htag
    rfl
  | none =>
    rw [hown, Option.map_none, Option.none_or] at htag
    rw [htag]
    rfl

theorem cipher_of_not_given (h : combine a s = .ok o)
    (hnone : (a.param? "etype").or (s.param? "etype") = none) : o.cipher = defaultTag := by
  obtain ⟨ha, hs⟩ := Option.or_eq_none_iff.1 hnone
  obtain ⟨hown, hassigned⟩ := Option.or_eq_none_iff.1 ha
  obtain ⟨hown', hset⟩ := Option.or_eq_none_iff.1 hs
  have hcipher : a.cipher = none := Option.map_eq_none_iff.1 hown
  have hcipher' : s.cipher = none := Option.map_eq_none_iff.1 hown'
  rw [cipher_eq h, hcipher, hcipher', hassigned, hset]
  rfl

theorem ofName?_of_formatOf {name : String} {format : DocumentFormat}
    (h : formatOf none (some name) = .ok format) : DocumentFormat.ofName? name = some format := by
  rw [formatOf] at h
  cases hname : DocumentFormat.ofName? name with
  | none =>
    rw [hname] at h
    cases h
  | some format' =>
    rw [hname] at h
    cases h
    rfl

end Options

/-- **The command line comes first**: the options in force are its own where it has one, and only
where it has none those of the file.  Left out is what the file overrules: it does so for the
cipher and the key, where it has an option and the command line an assignment only. -/
theorem prefers_of_combine {a : Arguments} {s : Settings} {o : Options}
    (h : Options.combine a s = .ok o) : o.Prefers a s := by
  have hcipher : o.params.get? "etype" = some (.str o.cipher) := Options.get?_params h "etype"
  obtain ⟨params, names, format, -, hnames, hformat, ho⟩ := Options.combine_eq_ok h
  refine ⟨?_, ?_, hcipher, ?_, ?_, ?_, ?_, ?_, ?_, ?_⟩
  · -- the tag is put in anew, so it is known through the cipher and not through the mapping
    intro name v hnot htext hv
    by_cases hname : name = "etype"
    · subst hname
      obtain ⟨tag, rfl⟩ := htext rfl
      rw [hcipher, Options.cipher_of_given h hnot hv]
    · rw [Options.get?_params_of_ne h hname hnot, hv]
  · intro name hnone
    by_cases hname : name = "etype"
    · subst hname
      rw [hcipher, Options.cipher_of_not_given h hnone, if_pos rfl]
    · have hnot : ¬ Overruled a s name := by
        -- what is not given at all is not assigned either, so nothing can be overruled
        rintro ⟨-, hassigned, -⟩
        rw [(Option.or_eq_none_iff.1 (Option.or_eq_none_iff.1 hnone).1).2] at hassigned
        cases hassigned
      rw [Options.get?_params_of_ne h hname hnot, hnone, if_neg hname]
  · intro name
    rw [ho]
    exact get?_assignAll hnames name
  · rw [ho]
  · intro given hgiven
    rw [hgiven] at hformat
    cases hformat
    rw [ho]
  · intro name hnone hset
    rw [hnone, hset] at hformat
    rw [ho]
    exact Options.ofName?_of_formatOf hformat
  · intro hnone hnone'
    rw [hnone, hnone'] at hformat
    cases hformat
    rw [ho]
  · rw [ho]
  · rw [ho]
    exact ⟨rfl, rfl, rfl⟩

/-- A parameter and a key of the command line before those of the file, with what only the file
has. -/
theorem prefers_of_combine_of_key :
    let a : Arguments := { Arguments.empty with params := ["n=x"], key := some "k" }
    let s : Settings := { Settings.empty with
      cipher := some "f", key := some "f", params := [("n", .int 2), ("m", .int 3)] }
    ∃ o, Options.combine a s = .ok o ∧ o.params.get? "n" = some (.str "x")
      ∧ o.params.get? "m" = some (.int 3) ∧ o.params.get? "ekey" = some (.str "k")
      ∧ o.params.get? "etype" = some (.str "f") := by
  intro a s
  have hread : readAssignment? "n=x" = some ("n", .str "x") :=
    readAssignment?_eq_of_parts (by decide +kernel)
  -- the one assignment is of `n`
  have hassigned (key : String) :
      assigned? a.params key = if "n" = key then some (.str "x") else none :=
    assigned?_cons hread [] key
  obtain ⟨o, ho⟩ := Options.exists_combine_of_assignment (s := s) hread (a := a) rfl rfl rfl rfl
  have hprefers := prefers_of_combine ho
  -- the file overrules nothing for which it has no option
  have hplain (name : String) (h : ownValue s.cipher s.key name = none) :
      ¬ Overruled a s name := by
    rintro ⟨-, -, hown⟩
    rw [h] at hown
    cases hown
  refine ⟨o, ho, ?_, ?_, ?_, ?_⟩
  · apply hprefers.param "n" (.str "x") (hplain "n" rfl) (by simp)
    rw [Arguments.param?, hassigned]
    rfl
  · apply hprefers.param "m" (.int 3) (hplain "m" rfl) (by simp)
    rw [Arguments.param?, hassigned]
    rfl
  · apply hprefers.param "ekey" (.str "k") (fun h => Option.some_ne_none _ h.1) (by simp)
    rfl
  · apply hprefers.param "etype" (.str "f") _ (fun _ => ⟨"f", rfl⟩)
    · rw [Arguments.param?, hassigned]
      rfl
    · rintro ⟨-, hsome, -⟩
      rw [hassigned] at hsome
      cases hsome

/-- A file with a cipher of its own overrules one that the command line assigns. -/
theorem not_prefers_of_assigned_cipher :
    let a : Arguments := { Arguments.empty with files := ["a.yml"], params := ["etype=fernet"] }
    let s : Settings := { Settings.empty with cipher := some "other" }
    Arguments.parse ["--param", "etype=fernet", "a.yml"] = .ok a
      ∧ Settings.ofText? "etype = \"other\"\n" = some s
      ∧ ∃ o, Options.combine a s = .ok o ∧ a.param? "etype" = some (.str "fernet")
        ∧ o.params.get? "etype" = some (.str "other") ∧ o.cipher = "other" := by
  intro a s
  have hparse : Arguments.parse ["--param", "etype=fernet", "a.yml"] = .ok a := by cbv
  have hfile : Settings.ofText? "etype = \"other\"\n" = some s := by cbv
  have hread : readAssignment? "etype=fernet" = some ("etype", .str "fernet") :=
    readAssignment?_eq_of_parts (by decide +kernel)
  have hassigned : a.param? "etype" = some (.str "fernet") := assigned?_cons hread [] "etype"
  obtain ⟨o, ho⟩ := Options.exists_combine_of_assignment (s := s) hread (a := a) rfl rfl rfl rfl
  have hcipher : o.cipher = "other" := Options.cipher_eq ho
  refine ⟨hparse, hfile, o, ho, hassigned, ?_, hcipher⟩
  rw [Options.get?_params ho, hcipher]
  rfl

end ConfigTree
