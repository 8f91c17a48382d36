import ConfigTree.Document.Loop
import ConfigTree.Proofs.Outcome

/-!
# Loops taken apart

What is wrong with a loop can be told from how it is written, or from the expressions for its
values and for the numbers of its generator.

The defects are stated here by themselves, in no order.  The program looks for them in one order,
in three places, and reports the first that it finds.

## Main definitions

* `Loop.WrittenAs` — what the values of a loop come from, as it is written.
* `Generator.Defect M evaluate fields fault` — a defect of a generator, and what it is reported as.
* `Loop.Defect M evaluate v fault` — a defect of a loop, and what it is reported as.
* `Loop.refusal?` — the fault for which the program refuses a loop.

## Main results

* `Loop.fields_of_ofValue` — a loop that was taken apart, field by field.
* `Loop.defect_of_refusal?` — what the program refuses has the defect that it reports.
* `Loop.not_defect_of_refusal?_eq_none` — what the program does not refuse has no defect.
-/

namespace ConfigTree

/-! ### The fields of a loop -/

namespace Loop

variable {fields : Mapping} {loop : Loop}

theorem fields_of_ofValue (h : ofValue (.map fields) = .ok loop) :
    valuesOf (Entries.get? fields "values") = .ok loop.values
      ∧ templateOf (Entries.get? fields "template") = .ok loop.template
      ∧ keyOf (Entries.get? fields "key") = .ok loop.key
      ∧ ∀ field ∈ Entries.keys fields, field ∈ fieldNames := by
  rw [ofValue, bind_eq_ok_iff] at h
  obtain ⟨values, hvalues, h⟩ := h
  rw [bind_eq_ok_iff] at h
  obtain ⟨template, htemplate, h⟩ := h
  rw [bind_eq_ok_iff] at h
  obtain ⟨key, hkey, h⟩ := h
  split at h
  · cases h
  · next hknown =>
    obtain rfl := Except.ok.inj h
    refine ⟨hvalues, htemplate, hkey, fun field hfield => ?_⟩
    simpa using List.find?_eq_none.mp hknown field hfield

theorem get?_template_of_ofValue (h : ofValue (.map fields) = .ok loop) :
    Entries.get? fields "template" = some (.map loop.template) := by
  obtain ⟨-, ht, -⟩ := fields_of_ofValue h
  unfold templateOf at ht
  split at ht
  · cases ht
  · next heq =>
    rw [heq, Except.ok.inj ht]
  · cases ht

/-- What the values of a loop come from is written there. -/
def WrittenAs (written : Option Value) : LoopValues → Prop
  | .generator g => ∃ parameters,
    written = some (.map parameters) ∧ Generator.ofFields parameters = .ok g
  | .sequence items => written = some (.list items)
  | .expression source => written = some (.str source)

theorem writtenAs_of_valuesOf {written : Option Value} {values : LoopValues}
    (h : valuesOf written = .ok values) : WrittenAs written values := by
  unfold valuesOf at h
  split at h
  · cases h
  · next parameters =>
    obtain ⟨g, hg, rfl⟩ := map_eq_ok_iff.mp h
    exact ⟨parameters, rfl, hg⟩
  · obtain rfl := Except.ok.inj h
    rfl
  · obtain rfl := Except.ok.inj h
    rfl
  · cases h

theorem get?_values_of_ofValue (h : ofValue (.map fields) = .ok loop) {items : List Value}
    (hitems : loop.values = .sequence items) :
    Entries.get? fields "values" = some (.list items) := by
  obtain ⟨hv, -⟩ := fields_of_ofValue h
  rw [hitems] at hv
  exact writtenAs_of_valuesOf hv

end Loop

variable {M : Number.Machine Evaluated} {evaluate : String → Evaluated Value}
  {fault : DocumentFault}

/-! ### Generators -/

namespace Generator

/-- The parameters of a kind in their order, each by all its names. -/
def Kind.parameters (kind : Kind) : List (List String) := [["start"], ["stop"], kind.third]

/-- The values that a kind of generator makes of three numbers. -/
def Kind.range (M : Number.Machine Evaluated) :
    Kind → Value → Value → Value → Evaluated (List Value)
  | .linspace => Range.linspace
  | .arange => Range.arange M

/-- What a parameter is worth: a text what it evaluates to, anything else itself. -/
def worth (evaluate : String → Evaluated Value) : Value → Evaluated Value
  | .str source => evaluate source
  | v => .ok v

/-- The fields say that the generator is of a kind. -/
def IsOf (fields : Mapping) (kind : Kind) : Prop :=
  ∃ name, fields.get? "kind" = some (.str name) ∧ Kind.ofName? name = some kind

/-- The fields give a parameter under the first of its names that they have. -/
def Gives (fields : Mapping) (names : List String) (v : Value) : Prop :=
  names.findSome? (Entries.get? fields) = some v

/-- The fields give a parameter that is worth a number. -/
def GivesNumber (evaluate : String → Evaluated Value) (fields : Mapping) (names : List String)
    (v : Value) : Prop :=
  ∃ written, Gives fields names written ∧ worth evaluate written = .ok v ∧ v.isNumber = true

/-- A defect of the generator with the given fields, and what it is reported as. -/
inductive Defect (M : Number.Machine Evaluated) (evaluate : String → Evaluated Value)
    (fields : Mapping) : DocumentFault → Prop
  /-- It has no kind. -/
  | noKind : fields.get? "kind" = none → Defect M evaluate fields (.malformedLoop .noKind)
  /-- Its kind is no text. -/
  | kind {v : Value} : fields.get? "kind" = some v → v.kind ≠ .str →
    Defect M evaluate fields (.malformedLoop (.generatorKind v.kind))
  /-- There is no such kind. -/
  | unknown {name : String} : fields.get? "kind" = some (.str name) → Kind.ofName? name = none →
    Defect M evaluate fields (.unknownGenerator name)
  /-- A parameter is not there under any of its names. -/
  | missing {kind : Kind} {names : List String} : IsOf fields kind → names ∈ kind.parameters →
    (∀ name ∈ names, fields.get? name = none) →
    Defect M evaluate fields (.missingParameter kind.name (names.headD ""))
  /-- A parameter is a text without a value. -/
  | failed {kind : Kind} {names : List String} {source : String} {e : EvalError} :
    IsOf fields kind → names ∈ kind.parameters → Gives fields names (.str source) →
    evaluate source = .error e →
    Defect M evaluate fields (.malformedLoop (.parameter kind.name (names.headD "") e))
  /-- A parameter is worth something other than a number. -/
  | notNumber {kind : Kind} {names : List String} {written v : Value} :
    IsOf fields kind → names ∈ kind.parameters → Gives fields names written →
    worth evaluate written = .ok v → v.isNumber = false →
    Defect M evaluate fields (.malformedLoop (.notNumber kind.name (names.headD "") v.literal))
  /-- It refuses the numbers. -/
  | refused {kind : Kind} {start stop third : Value} {e : EvalError} : IsOf fields kind →
    GivesNumber evaluate fields ["start"] start → GivesNumber evaluate fields ["stop"] stop →
    GivesNumber evaluate fields kind.third third → kind.range M start stop third = .error e →
    Defect M evaluate fields (.malformedLoop (.refused e))

variable {fields : Mapping} {kind : Kind} {names : List String} {g : Generator} {v w : Value}

@[simp] theorem Kind.mem_parameters :
    names ∈ kind.parameters ↔ names = ["start"] ∨ names = ["stop"] ∨ names = kind.third := by
  simp [parameters]

theorem IsOf.unique {other : Kind} (h : IsOf fields kind) (h' : IsOf fields other) :
    kind = other := by
  obtain ⟨name, hname, hkind⟩ := h
  obtain ⟨name', hname', hother⟩ := h'
  obtain rfl : name = name' := Value.str.inj (Option.some.inj (hname.symm.trans hname'))
  exact Option.some.inj (hkind.symm.trans hother)

theorem Gives.unique (h : Gives fields names v) (h' : Gives fields names w) : v = w :=
  Option.some.inj (h.symm.trans h')

theorem GivesNumber.unique (h : GivesNumber evaluate fields names v)
    (h' : GivesNumber evaluate fields names w) : v = w := by
  obtain ⟨written, hgives, hv, -⟩ := h
  obtain ⟨written', hgives', hw, -⟩ := h'
  obtain rfl := hgives.unique hgives'
  exact Except.ok.inj (hv.symm.trans hw)

theorem parameter_eq_ok_iff : parameter kind names fields = .ok v ↔ Gives fields names v := by
  unfold parameter Gives
  cases names.findSome? (Entries.get? fields) <;> simp

theorem parameter_eq_error_iff : parameter kind names fields = .error fault
    ↔ (∀ name ∈ names, fields.get? name = none)
      ∧ .missingParameter kind.name (names.headD "") = fault := by
  rw [← List.findSome?_eq_none_iff]
  unfold parameter
  cases names.findSome? (Entries.get? fields) <;> simp

theorem number_eq (name : String) : number kind name evaluate v = (do
    let w ← (worth evaluate v).mapError (.parameter kind.name name)
    if w.isNumber then return w else throw (.notNumber kind.name name w.literal)) := by
  cases v <;> rfl

theorem number_eq_ok_iff {name : String} :
    number kind name evaluate v = .ok w ↔ worth evaluate v = .ok w ∧ w.isNumber = true := by
  rw [number_eq, bind_eq_ok_iff]
  constructor
  · rintro ⟨u, hu, h⟩
    rw [mapError_eq_ok_iff] at hu
    split at h
    · next hnumber =>
      obtain rfl := Except.ok.inj h
      exact ⟨hu, hnumber⟩
    · cases h
  · rintro ⟨hw, hnumber⟩
    exact ⟨w, mapError_eq_ok_iff.mpr hw, if_pos hnumber⟩

theorem run_eq : g.run M evaluate = (do
    let start ← number g.kind "start" evaluate g.start
    let stop ← number g.kind "stop" evaluate g.stop
    let third ← number g.kind (g.kind.third.headD "") evaluate g.third
    (g.kind.range M start stop third).mapError .refused) := by
  obtain ⟨kind, start, stop, third⟩ := g
  cases kind <;> rfl

/-- A generator that can be read has a kind and all its parameters. -/
theorem gives_of_ofFields (h : ofFields fields = .ok g) : IsOf fields g.kind
    ∧ Gives fields ["start"] g.start ∧ Gives fields ["stop"] g.stop
    ∧ Gives fields g.kind.third g.third := by
  unfold ofFields at h
  split at h
  · cases h
  · next name hname =>
    split at h
    · cases h
    · next kind hkind =>
      obtain ⟨start, hstart, h⟩ := bind_eq_ok_iff.mp h
      obtain ⟨stop, hstop, h⟩ := bind_eq_ok_iff.mp h
      obtain ⟨third, hthird, h⟩ := bind_eq_ok_iff.mp h
      obtain rfl := Except.ok.inj h
      exact ⟨⟨name, hname, hkind⟩, parameter_eq_ok_iff.mp hstart, parameter_eq_ok_iff.mp hstop,
        parameter_eq_ok_iff.mp hthird⟩
  · cases h

/-- A generator that makes values makes them of three numbers. -/
theorem givesNumber_of_run {values : List Value} (hg : ofFields fields = .ok g)
    (h : g.run M evaluate = .ok values) : ∃ start stop third,
      GivesNumber evaluate fields ["start"] start ∧ GivesNumber evaluate fields ["stop"] stop
      ∧ GivesNumber evaluate fields g.kind.third third
      ∧ g.kind.range M start stop third = .ok values := by
  obtain ⟨-, hstart, hstop, hthird⟩ := gives_of_ofFields hg
  rw [run_eq] at h
  obtain ⟨start, hs, h⟩ := bind_eq_ok_iff.mp h
  obtain ⟨stop, ht, h⟩ := bind_eq_ok_iff.mp h
  obtain ⟨third, hu, h⟩ := bind_eq_ok_iff.mp h
  exact ⟨start, stop, third, ⟨_, hstart, number_eq_ok_iff.mp hs⟩,
    ⟨_, hstop, number_eq_ok_iff.mp ht⟩, ⟨_, hthird, number_eq_ok_iff.mp hu⟩,
    mapError_eq_ok_iff.mp h⟩

/-! ### What is reported is there -/

theorem defect_of_parameter (hof : IsOf fields kind) (hnames : names ∈ kind.parameters)
    (h : parameter kind names fields = .error fault) : Defect M evaluate fields fault := by
  obtain ⟨hnone, rfl⟩ := parameter_eq_error_iff.mp h
  exact .missing hof hnames hnone

/-- A generator that cannot be read has the defect that is reported. -/
theorem defect_of_ofFields (h : ofFields fields = .error fault) :
    Defect M evaluate fields fault := by
  unfold ofFields at h
  split at h
  · next hnone =>
    obtain rfl := Except.error.inj h
    exact .noKind hnone
  · next name hname =>
    split at h
    · next hnone =>
      obtain rfl := Except.error.inj h
      exact .unknown hname hnone
    · next kind hkind =>
      have hof : IsOf fields kind := ⟨name, hname, hkind⟩
      -- the three parameters, one after the other
      rcases bind_eq_error_iff.mp h with h | ⟨start, -, h⟩
      · exact defect_of_parameter hof (by simp) h
      rcases bind_eq_error_iff.mp h with h | ⟨stop, -, h⟩
      · exact defect_of_parameter hof (by simp) h
      rcases bind_eq_error_iff.mp h with h | ⟨third, -, h⟩
      · exact defect_of_parameter hof (by simp) h
      · cases h
  · next v hnot hv =>
    obtain rfl := Except.error.inj h
    refine .kind hv fun hkind => ?_
    cases v with
    | str name => exact hnot name rfl
    | _ => cases hkind

theorem defect_of_number {cause : LoopFault} (hof : IsOf fields kind)
    (hnames : names ∈ kind.parameters) (hgives : Gives fields names v)
    (h : number kind (names.headD "") evaluate v = .error cause) :
    Defect M evaluate fields (.malformedLoop cause) := by
  rw [number_eq] at h
  rcases bind_eq_error_iff.mp h with h | ⟨w, hw, h⟩
  · obtain ⟨e, he, rfl⟩ := mapError_eq_error_iff.mp h
    -- nothing but a text can fail to be worth something
    cases v with
    | str source => exact .failed hof hnames hgives he
    | _ => cases he
  · rw [mapError_eq_ok_iff] at hw
    split at h
    · cases h
    · next hnot =>
      obtain rfl := Except.error.inj h
      exact .notNumber hof hnames hgives hw (Bool.eq_false_of_not_eq_true hnot)

/-- A generator that makes nothing has the defect that is reported. -/
theorem defect_of_run {cause : LoopFault} (hg : ofFields fields = .ok g)
    (h : g.run M evaluate = .error cause) : Defect M evaluate fields (.malformedLoop cause) := by
  obtain ⟨hof, hstart, hstop, hthird⟩ := gives_of_ofFields hg
  rw [run_eq] at h
  rcases bind_eq_error_iff.mp h with h | ⟨start, hs, h⟩
  · exact defect_of_number hof (by simp) hstart h
  rcases bind_eq_error_iff.mp h with h | ⟨stop, ht, h⟩
  · exact defect_of_number hof (by simp) hstop h
  rcases bind_eq_error_iff.mp h with h | ⟨third, hu, h⟩
  · exact defect_of_number hof (by simp) hthird h
  · obtain ⟨e, he, rfl⟩ := mapError_eq_error_iff.mp h
    exact .refused hof ⟨_, hstart, number_eq_ok_iff.mp hs⟩ ⟨_, hstop, number_eq_ok_iff.mp ht⟩
      ⟨_, hthird, number_eq_ok_iff.mp hu⟩ he

/-! ### What is there is reported -/

/-- A generator that makes values has no defect. -/
theorem not_defect_of_run {values : List Value} (hg : ofFields fields = .ok g)
    (h : g.run M evaluate = .ok values) : ¬ Defect M evaluate fields fault := by
  have hof : IsOf fields g.kind := (gives_of_ofFields hg).1
  have ⟨name, hname, hkind⟩ := hof
  obtain ⟨start, stop, third, hstart, hstop, hthird, hrange⟩ := givesNumber_of_run hg h
  have hgiven : ∀ names ∈ g.kind.parameters, ∃ w, GivesNumber evaluate fields names w := by
    intro names hnames
    rcases Kind.mem_parameters.mp hnames with rfl | rfl | rfl
    · exact ⟨start, hstart⟩
    · exact ⟨stop, hstop⟩
    · exact ⟨third, hthird⟩
  -- each defect denies something a run needs: a kind, a parameter, a number or the range;
  -- both sides speak of the same ones, since a field gives one value
  intro hdefect
  cases hdefect with
  | noKind hnone => cases hname.symm.trans hnone
  | kind hv hne =>
    obtain rfl := Option.some.inj (hname.symm.trans hv)
    exact hne rfl
  -- the name of a kind cannot also be the name of none
  | unknown hname' hnone =>
    obtain rfl := Value.str.inj (Option.some.inj (hname.symm.trans hname'))
    cases hkind.symm.trans hnone
  -- the parameter that is missing was read
  | missing hof' hnames hnone =>
    obtain rfl := hof'.unique hof
    obtain ⟨w, written, hgives, -⟩ := hgiven _ hnames
    cases hgives.symm.trans (List.findSome?_eq_none_iff.mpr hnone)
  -- the same text cannot both fail and be worth something
  | failed hof' hnames hgives he =>
    obtain rfl := hof'.unique hof
    obtain ⟨w, written, hgives', hw, -⟩ := hgiven _ hnames
    obtain rfl := hgives.unique hgives'
    cases hw.symm.trans he
  -- nor can its worth be a number and not one
  | notNumber hof' hnames hgives hv hnot =>
    obtain rfl := hof'.unique hof
    obtain ⟨w, written, hgives', hw, hnumber⟩ := hgiven _ hnames
    obtain rfl := hgives.unique hgives'
    obtain rfl := Except.ok.inj (hw.symm.trans hv)
    cases hnumber.symm.trans hnot
  -- the three numbers are the same, so the range is asked for with the same
  | refused hof' hstart' hstop' hthird' he =>
    obtain rfl := hof'.unique hof
    obtain rfl := hstart.unique hstart'
    obtain rfl := hstop.unique hstop'
    obtain rfl := hthird.unique hthird'
    cases hrange.symm.trans he

end Generator

/-! ### Loops -/

namespace Loop

/-- A defect of the loop that a value describes, and what it is reported as.  A loop need not have
a key, and a key that is nothing counts as none. -/
inductive Defect (M : Number.Machine Evaluated) (evaluate : String → Evaluated Value) :
    Value → DocumentFault → Prop
  /-- It is no mapping. -/
  | notMapping {v : Value} : v.kind ≠ .map → Defect M evaluate v (.malformedLoop .notMapping)
  /-- It has no values or no template. -/
  | missing {fields : Mapping} {field : String} : field ∈ ["values", "template"] →
    fields.get? field = none → Defect M evaluate (.map fields) (.malformedLoop (.missing field))
  /-- Its values are nothing that values can come from. -/
  | values {fields : Mapping} {v : Value} : fields.get? "values" = some v →
    v.kind ∉ [.map, .list, .str] → Defect M evaluate (.map fields) (.malformedLoop (.values v.kind))
  /-- Its template is no mapping. -/
  | template {fields : Mapping} {v : Value} : fields.get? "template" = some v → v.kind ≠ .map →
    Defect M evaluate (.map fields) (.malformedLoop (.template v.kind))
  /-- Its key is no text. -/
  | key {fields : Mapping} {v : Value} : fields.get? "key" = some v → v.kind ∉ [.null, .str] →
    Defect M evaluate (.map fields) (.malformedLoop (.key v.kind))
  /-- It has another field. -/
  | unknownField {fields : Mapping} {field : String} : field ∈ fields.keys →
    field ∉ ["values", "template", "key"] →
    Defect M evaluate (.map fields) (.malformedLoop (.unknownField field))
  /-- Its values come from a generator with a defect. -/
  | generator {fields written : Mapping} {fault : DocumentFault} :
    fields.get? "values" = some (.map written) → Generator.Defect M evaluate written fault →
    Defect M evaluate (.map fields) fault
  /-- Its values come from an expression without a value. -/
  | valuesFailed {fields : Mapping} {source : String} {e : EvalError} :
    fields.get? "values" = some (.str source) → evaluate source = .error e →
    Defect M evaluate (.map fields) (.malformedLoop (.valuesFailed source e))
  /-- Its values come from an expression that is worth something other than a list. -/
  | notList {fields : Mapping} {source : String} {v : Value} :
    fields.get? "values" = some (.str source) → evaluate source = .ok v → v.kind ≠ .list →
    Defect M evaluate (.map fields) (.malformedLoop (.notList source v.kind))

/-- The fault for which the values of a loop are refused, if they are.  Values that are written as a
list are not: they are nodes, to be walked. -/
def valuesRefusal? (M : Number.Machine Evaluated) (evaluate : String → Evaluated Value) :
    LoopValues → Option DocumentFault
  | .sequence _ => none
  | .generator g =>
    match g.run M evaluate with
    | .error cause => some (.malformedLoop cause)
    | .ok _ => none
  | .expression source =>
    match evaluate source with
    | .error e => some (.malformedLoop (.valuesFailed source e))
    | .ok (.list _) => none
    | .ok v => some (.malformedLoop (.notList source v.kind))

/-- The fault for which the loop that a value describes is refused, if it is. -/
def refusal? (M : Number.Machine Evaluated) (evaluate : String → Evaluated Value) (v : Value) :
    Option DocumentFault :=
  match ofValue v with
  | .error fault => some fault
  | .ok loop => valuesRefusal? M evaluate loop.values

variable {fields : Mapping} {loop : Loop} {values : LoopValues} {v : Value}

/-! ### What is reported is there -/

theorem defect_of_valuesOf (h : valuesOf (Entries.get? fields "values") = .error fault) :
    Defect M evaluate (.map fields) fault := by
  unfold valuesOf at h
  split at h
  · next hnone =>
    obtain rfl := Except.error.inj h
    exact .missing (by simp) hnone
  · next written hwritten =>
    exact .generator hwritten (Generator.defect_of_ofFields (map_eq_error_iff.mp h))
  · cases h
  · cases h
  -- none of the three sorts that values can come from
  · next v hmap hlist hstr hv =>
    obtain rfl := Except.error.inj h
    refine .values hv ?_
    cases v with
    | map parameters => exact absurd rfl (hmap parameters)
    | list items => exact absurd rfl (hlist items)
    | str source => exact absurd rfl (hstr source)
    | _ => simp [Value.kind]

theorem defect_of_templateOf (h : templateOf (Entries.get? fields "template") = .error fault) :
    Defect M evaluate (.map fields) fault := by
  unfold templateOf at h
  split at h
  · next hnone =>
    obtain rfl := Except.error.inj h
    exact .missing (by simp) hnone
  · cases h
  · next v hmap hv =>
    obtain rfl := Except.error.inj h
    refine .template hv ?_
    cases v with
    | map template => exact absurd rfl (hmap template)
    | _ => exact nofun

theorem defect_of_keyOf (h : keyOf (Entries.get? fields "key") = .error fault) :
    Defect M evaluate (.map fields) fault := by
  unfold keyOf at h
  split at h
  · cases h
  · cases h
  · cases h
  · next v hnull hstr hv =>
    obtain rfl := Except.error.inj h
    refine .key hv ?_
    cases v with
    | null => exact absurd rfl hnull
    | str source => exact absurd rfl (hstr source)
    | _ => simp [Value.kind]

theorem exists_map_of_ofValue (h : ofValue v = .ok loop) : ∃ fields, v = .map fields := by
  unfold ofValue at h
  split at h
  · exact ⟨_, rfl⟩
  · cases h

/-- A loop that cannot be taken apart has the defect that is reported. -/
theorem defect_of_ofValue (h : ofValue v = .error fault) : Defect M evaluate v fault := by
  unfold ofValue at h
  split at h
  · next fields =>
    -- the fields are read in the order values, template, key; the first bad one is reported
    rcases bind_eq_error_iff.mp h with h | ⟨values, -, h⟩
    · exact defect_of_valuesOf h
    rcases bind_eq_error_iff.mp h with h | ⟨template, -, h⟩
    · exact defect_of_templateOf h
    rcases bind_eq_error_iff.mp h with h | ⟨key, -, h⟩
    · exact defect_of_keyOf h
    split at h
    -- all three are read, so it is another field that is in the way
    · next field hfound =>
      obtain rfl := Except.error.inj h
      refine .unknownField (List.mem_of_find?_eq_some hfound) ?_
      simpa [fieldNames] using List.find?_some hfound
    · cases h
  · next hmap =>
    obtain rfl := Except.error.inj h
    refine .notMapping ?_
    cases v with
    | map fields => exact absurd rfl (hmap fields)
    | _ => exact nofun

theorem defect_of_valuesRefusal? (hwritten : WrittenAs (Entries.get? fields "values") values)
    (h : valuesRefusal? M evaluate values = some fault) :
    Defect M evaluate (.map fields) fault := by
  cases values with
  | sequence items => cases h
  | generator g =>
    -- the generator was read from a mapping, which is where its defect is to be found
    obtain ⟨parameters, hparameters, hg⟩ := hwritten
    simp only [valuesRefusal?] at h
    split at h
    · next cause hrun =>
      obtain rfl := Option.some.inj h
      exact .generator hparameters (Generator.defect_of_run hg hrun)
    · cases h
  | expression source =>
    simp only [valuesRefusal?] at h
    split at h
    · next e he =>
      obtain rfl := Option.some.inj h
      exact .valuesFailed hwritten he
    · cases h
    · next v hlist hv =>
      obtain rfl := Option.some.inj h
      refine .notList hwritten hv ?_
      cases v with
      | list items => exact absurd rfl (hlist items)
      | _ => exact nofun

/-- **What the program refuses has the defect that it reports.** -/
theorem defect_of_refusal? (h : refusal? M evaluate v = some fault) :
    Defect M evaluate v fault := by
  unfold refusal? at h
  split at h
  · next cause hcause =>
    obtain rfl := Option.some.inj h
    exact defect_of_ofValue hcause
  · next loop hloop =>
    obtain ⟨fields, rfl⟩ := exists_map_of_ofValue hloop
    exact defect_of_valuesRefusal? (writtenAs_of_valuesOf (fields_of_ofValue hloop).1) h

/-! ### What is there is reported -/

/-- A generator whose values are not refused has no defect. -/
theorem not_defect_of_written_map {parameters : Mapping}
    (hwritten : WrittenAs (some (.map parameters)) values)
    (h : valuesRefusal? M evaluate values = none) :
    ¬ Generator.Defect M evaluate parameters fault := by
  cases values with
  | sequence items => cases hwritten
  | expression source => cases hwritten
  | generator g =>
    obtain ⟨parameters', hparameters, hg⟩ := hwritten
    -- the parameters it was read from are those it is accused for
    obtain rfl := Value.map.inj (Option.some.inj hparameters)
    simp only [valuesRefusal?] at h
    split at h
    · cases h
    · next made hrun => exact Generator.not_defect_of_run hg hrun

/-- An expression whose values are not refused is worth a list. -/
theorem exists_list_of_written_str {source : String}
    (hwritten : WrittenAs (some (.str source)) values)
    (h : valuesRefusal? M evaluate values = none) :
    ∃ items, evaluate source = .ok (.list items) := by
  cases values with
  | sequence items => cases hwritten
  | generator g =>
    obtain ⟨parameters, hparameters, -⟩ := hwritten
    cases hparameters
  | expression source' =>
    obtain rfl := Value.str.inj (Option.some.inj hwritten)
    simp only [valuesRefusal?] at h
    split at h
    · cases h
    · next items hitems => exact ⟨items, hitems⟩
    · cases h

/-- **What the program does not refuse has no defect.** -/
theorem not_defect_of_refusal?_eq_none (h : refusal? M evaluate v = none) :
    ¬ Defect M evaluate v fault := by
  unfold refusal? at h
  split at h
  · cases h
  next loop hloop =>
  obtain ⟨fields, rfl⟩ := exists_map_of_ofValue hloop
  -- the loop was taken apart, so each field has what it should
  obtain ⟨hvalues, htemplate, hkey, hknown⟩ := fields_of_ofValue hloop
  have hwritten := writtenAs_of_valuesOf hvalues
  intro hdefect
  cases hdefect with
  | notMapping hkind => exact hkind rfl
  | missing hfield hnone =>
    rcases List.mem_cons.mp hfield with rfl | hfield
    · rw [hnone] at hvalues
      cases hvalues
    · obtain rfl := List.mem_singleton.mp hfield
      rw [hnone] at htemplate
      cases htemplate
  | @values _ v hv hkind =>
    rw [hv] at hvalues
    cases v with
    | map | list | str => simp [Value.kind] at hkind
    | _ => cases hvalues
  | template hv hkind =>
    rw [get?_template_of_ofValue hloop] at hv
    obtain rfl := Option.some.inj hv
    exact hkind rfl
  | @key _ v hv hkind =>
    rw [hv] at hkey
    cases v with
    | null | str => simp [Value.kind] at hkind
    | _ => cases hkey
  | unknownField hfield hunknown => exact hunknown (hknown _ hfield)
  -- written well; what is left is what the values come from
  | generator hmap hdefect =>
    rw [hmap] at hwritten
    exact not_defect_of_written_map hwritten h hdefect
  | valuesFailed hstr he =>
    rw [hstr] at hwritten
    obtain ⟨items, hitems⟩ := exists_list_of_written_str hwritten h
    cases hitems.symm.trans he
  | notList hstr hv hkind =>
    rw [hstr] at hwritten
    obtain ⟨items, hitems⟩ := exists_list_of_written_str hwritten h
    obtain rfl := Except.ok.inj (hitems.symm.trans hv)
    exact hkind rfl

/-- A loop is reported as malformed, or for its generator. -/
theorem Defect.fault_eq (h : Defect M evaluate v fault) : (∃ cause, fault = .malformedLoop cause)
    ∨ (∃ kind, fault = .unknownGenerator kind)
    ∨ ∃ generator parameter, fault = .missingParameter generator parameter := by
  cases h with
  | generator _ hdefect =>
    cases hdefect with
    | unknown => exact .inr (.inl ⟨_, rfl⟩)
    | missing => exact .inr (.inr ⟨_, _, rfl⟩)
    | _ => exact .inl ⟨_, rfl⟩
  | _ => exact .inl ⟨_, rfl⟩

end Loop

end ConfigTree
