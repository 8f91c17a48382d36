import ConfigTree.Cipher.Fernet
import ConfigTree.Eval.Function
import ConfigTree.Proofs.Expr.Scan
import ConfigTree.Proofs.Outcome

/-!
# Filling in templates

A text whose braces are all doubled is written by a template as it was, whatever stands behind it:
the braces of such a text come in pairs, so that a brace of a field is never taken for the second
of a pair.  A field is replaced by the text of its value, and what has been written is not read
again.

## Main definitions

* `Template.escape` — a text as it is written in a template.
* `Template.field`, `Template.Position` — a field, and the position that it may name.
* `Template.Part`, `Template.Placed` — a field with its value and the text behind it; that fields
  stand for their values.

## Main results

* `Template.fillFrom_escape` — an escaped text is written as it was.
* `Template.fillFrom_field` — a field is replaced by its value.
* `Template.fill_parts` — both one after the other.
* `format_escaped` — escaped texts with fields between them.
-/

namespace ConfigTree

/-! ### Positions in digits -/

namespace Number

theorem digitValue?_of_isDigit {c : Char} (h : Text.isDigit c = true) :
    Text.digitValue? c = some (c.toNat - '0'.toNat) := by
  rw [Text.digitValue?, if_pos h]

theorem lt_ten_of_isDigit {c : Char} (h : Text.isDigit c = true) : c.toNat - '0'.toNat < 10 := by
  have hbounds : '0' ≤ c ∧ c ≤ '9' := by simpa [Text.isDigit] using h
  have hle : c.toNat ≤ '9'.toNat := hbounds.2
  have hzero : '0'.toNat = 48 := rfl
  have hnine : '9'.toNat = 57 := rfl
  omega

/-- Digits are read to the number that they write. -/
theorem digitsFrom?_of_digits {cs : List Char} (h : ∀ c ∈ cs, Text.isDigit c = true) (n : Nat) :
    digitsFrom? 10 n cs = some (Nat.ofDigitChars 10 cs n) := by
  induction cs generalizing n with
  | nil => rfl
  | cons c cs ih =>
    have hc := h c List.mem_cons_self
    rw [digitsFrom?, digitValue?_of_isDigit hc, Nat.ofDigitChars_cons, Nat.mul_comm 10 n]
    dsimp only
    rw [if_pos (lt_ten_of_isDigit hc)]
    exact ih (fun d hd => h d (List.mem_cons_of_mem c hd)) _

/-- One or more digits are a position if they write a word. -/
theorem readNat?_of_digits {cs : List Char} (h : ∀ c ∈ cs, Text.isDigit c = true) (hne : cs ≠ [])
    (hword : Nat.ofDigitChars 10 cs 0 < 18446744073709551616) :
    readNat? cs = some (Nat.ofDigitChars 10 cs 0) := by
  obtain ⟨c, rest, rfl⟩ := List.exists_cons_of_ne_nil hne
  have hplus : c ≠ '+' := Lexer.ne_of_isDigit (h c List.mem_cons_self) (by decide)
  unfold readNat?
  split
  -- a plus sign would be passed over, but the first character is a digit
  · next heq => exact absurd (List.cons.inj heq).1 hplus
  · have hdigits : digits? 10 (c :: rest) = some (Nat.ofDigitChars 10 (c :: rest) 0) :=
      digitsFrom?_of_digits h 0
    simp [hdigits, Option.filter, hword]

end Number

namespace Template

theorem isWord_of_isDigit {c : Char} (h : Text.isDigit c = true) : Text.isWord c = true := by
  have hbounds : '0' ≤ c ∧ c ≤ '9' := by simpa [Text.isDigit] using h
  have hle : c.toNat ≤ '9'.toNat := hbounds.2
  have hnine : '9'.toNat = 57 := rfl
  have hdigit : c.isDigit = true := by
    simpa only [Text.isDigit, Char.isDigit, Char.le_def] using h
  rw [Text.isWord, if_pos (by omega)]
  simp [Char.isAlphanum, hdigit]

/-- The position of an argument as a field may name it: in decimal digits, perhaps behind
zeros. -/
structure Position where
  /-- How many zeros come first. -/
  zeros : Nat
  /-- The position. -/
  index : UInt64

/-- A position in digits. -/
def Position.text (i : Position) : String :=
  String.ofList (List.replicate i.zeros '0') ++ toString i.index.toNat

namespace Position

variable (i : Position)

theorem toList_text :
    i.text.toList = List.replicate i.zeros '0' ++ Nat.toDigits 10 i.index.toNat := by
  rw [text, String.toList_append, String.toList_ofList, Nat.toString_eq_repr, Nat.toList_repr]

theorem isDigit_of_mem_text {c : Char} (h : c ∈ i.text.toList) : Text.isDigit c = true := by
  rw [toList_text, List.mem_append] at h
  rcases h with h | h
  · obtain rfl := List.eq_of_mem_replicate h
    rfl
  · exact Lexer.isDigit_of_mem_toDigits h

@[simp] theorem text_ne_nil : i.text.toList ≠ [] := by
  rw [toList_text]
  exact List.append_ne_nil_of_right_ne_nil _ Nat.toDigits_ne_nil

@[simp] theorem ofDigitChars_text : Nat.ofDigitChars 10 i.text.toList 0 = i.index.toNat := by
  rw [toList_text]
  -- zeros in front change nothing, since they are counted as tens of zero
  induction i.zeros with
  | zero => exact Nat.ofDigitChars_toDigits (by decide) (by decide)
  | succ n ih => rwa [List.replicate_succ, List.cons_append, Nat.ofDigitChars_cons]

/-- The digits of a position are read to it. -/
@[simp] theorem readNat?_text : Number.readNat? i.text.toList = some i.index.toNat := by
  have hword : i.index.toNat < 18446744073709551616 := i.index.toNat_lt
  have hread := Number.readNat?_of_digits (fun c => i.isDigit_of_mem_text) i.text_ne_nil
    (by rwa [ofDigitChars_text])
  rwa [ofDigitChars_text] at hread

end Position

/-! ### Escaped texts -/

/-- A character as it is written in a template. -/
def escapeChar (c : Char) : List Char := if c = opening ∨ c = closing then [c, c] else [c]

/-- A text as it is written in a template: with all its braces doubled. -/
def escape (s : String) : String := String.ofList (s.toList.flatMap escapeChar)

variable {args : List Value}

/-- Characters that have been dealt with are passed over. -/
theorem fillFrom_passing (k n : Nat) (written cs : List Char) :
    fillFrom args k n written cs = fillFrom args 0 n written (cs.drop k) := by
  induction k generalizing cs with
  | zero => rfl
  | succ k ih =>
    cases cs with
    | nil => rfl
    | cons c cs =>
      rw [fillFrom, List.drop_succ_cons]
      exact ih cs

/-- **An escaped text is written as it was**, whatever stands behind it. -/
theorem fillFrom_escape (n : Nat) (written cs rest : List Char) :
    fillFrom args 0 n written (cs.flatMap escapeChar ++ rest)
      = fillFrom args 0 n (cs.reverse ++ written) rest := by
  induction cs generalizing written with
  | nil => rfl
  | cons c cs ih =>
    rw [List.flatMap_cons, List.append_assoc, List.reverse_cons, List.append_assoc,
      List.singleton_append, ← ih (c :: written)]
    by_cases hc : c = opening ∨ c = closing
    · -- the two braces are dealt with together, so that none is left for what follows
      rw [escapeChar, if_pos hc, List.cons_append, List.singleton_append, fillFrom,
        if_pos ⟨hc, rfl⟩, fillFrom_passing, List.drop_one, List.tail_cons]
    · obtain ⟨hopen, -⟩ := not_or.mp hc
      rw [escapeChar, if_neg hc, List.singleton_append, fillFrom, if_neg fun h => hc h.1,
        if_neg hopen]

/-! ### Fields -/

/-- A field with a word in it. -/
def field (word : String) : String := String.ofList (opening :: word.toList ++ [closing])

/-- The word of a field ends at its closing brace. -/
theorem field?_append {word : List Char} (h : ∀ c ∈ word, Text.isWord c = true)
    (rest : List Char) : field? (word ++ closing :: rest) = some word := by
  have hclosing : Text.isWord closing = false := by decide
  have htake : (word ++ closing :: rest).takeWhile Text.isWord = word := by
    rw [List.takeWhile_append_of_pos h, List.takeWhile_cons_of_neg (by simp [hclosing]),
      List.append_nil]
  simp only [field?, htake, List.drop_left, if_true]

/-- **A field is replaced by the text of its value**, which is not looked at again. -/
theorem fillFrom_field {n : Nat} {word : List Char} {v : Value}
    (hword : ∀ c ∈ word, Text.isWord c = true) (hv : value? args n word = some v)
    (written rest : List Char) :
    fillFrom args 0 n written (opening :: word ++ closing :: rest)
      = fillFrom args 0 (if word.isEmpty then n + 1 else n) (v.text.toList.reverse ++ written)
        rest := by
  have hopening : Text.isWord opening = false := by decide
  -- an opening brace right behind would be a doubled one, and a word holds none
  have hhead : (word ++ closing :: rest).head? ≠ some opening := by
    cases word with
    | nil =>
      rw [List.nil_append, List.head?_cons]
      decide
    | cons c word =>
      intro h
      obtain rfl : c = opening := by simpa using h
      exact absurd (hword opening List.mem_cons_self) (by simp [hopening])
  have hdrop : (word ++ closing :: rest).drop (word.length + 1) = rest := by
    rw [List.drop_append]
    simp
  rw [List.cons_append, fillFrom, if_neg fun h => hhead h.2, if_pos rfl, field?_append hword]
  simp only [hv]
  rw [fillFrom_passing, hdrop]

/-- A field with the word in it, its value, and the text behind it. -/
structure Part where
  /-- The word. -/
  word : String
  /-- The value. -/
  value : Value
  /-- The text behind the field. -/
  text : String

/-- A part as it is written in a template. -/
def Part.written (part : Part) : String := field part.word ++ escape part.text

/-- What becomes of a part. -/
def Part.filled (part : Part) : String := part.value.text ++ part.text

/-- With so many empty fields before them, the fields stand for the values beside them. -/
def Placed (args : List Value) : Nat → List Part → Prop
  | _, [] => True
  | n, part :: parts => (∀ c ∈ part.word.toList, Text.isWord c = true)
    ∧ value? args n part.word.toList = some part.value
    ∧ Placed args (if part.word.toList.isEmpty then n + 1 else n) parts

theorem fillFrom_parts {n : Nat} {parts : List Part} (h : Placed args n parts)
    (written : List Char) :
    fillFrom args 0 n written (String.join (parts.map Part.written)).toList
      = .ok (written.reverse ++ (String.join (parts.map Part.filled)).toList) := by
  induction parts generalizing n written with
  | nil => simp [fillFrom]
  | cons part parts ih =>
    obtain ⟨hword, hvalue, hparts⟩ := h
    have hwritten : part.written.toList ++ (String.join (parts.map Part.written)).toList
        = opening :: part.word.toList ++ closing :: (part.text.toList.flatMap escapeChar
          ++ (String.join (parts.map Part.written)).toList) := by
      simp [Part.written, field, escape]
    rw [List.map_cons, String.join_cons, String.toList_append, hwritten,
      fillFrom_field hword hvalue, fillFrom_escape, ih hparts]
    simp [Part.filled]

/-- A template of escaped texts with fields between them. -/
theorem fill_parts {parts : List Part} (h : Placed args 0 parts) (start : String) :
    fill (escape start ++ String.join (parts.map Part.written)) args
      = .ok (start ++ String.join (parts.map Part.filled)) := by
  have hstart : (escape start).toList = start.toList.flatMap escapeChar := String.toList_ofList
  rw [fill, String.toList_append, hstart, fillFrom_escape, fillFrom_parts h]
  simp [Except.map, ← String.toList_inj]

/-- Empty fields stand for the arguments in their order. -/
theorem placed_next (parts : List (Value × String)) (before : List Value) :
    Placed (before ++ parts.map Prod.fst) before.length
      (parts.map fun part => ⟨"", part.1, part.2⟩) := by
  induction parts generalizing before with
  | nil => trivial
  | cons part parts ih =>
    refine ⟨by simp, by simp [value?], ?_⟩
    -- the value of this part joins those before it, and the next empty field takes the next
    have hrest := ih (before ++ [part.1])
    simpa using hrest

/-- Positions stand for the arguments there. -/
theorem placed_positions {parts : List (Position × Value × String)}
    (h : ∀ part ∈ parts, args[part.1.index.toNat]? = some part.2.1) (n : Nat) :
    Placed args n (parts.map fun part => ⟨part.1.text, part.2.1, part.2.2⟩) := by
  induction parts with
  | nil => trivial
  | cons part parts ih =>
    have hempty : part.1.text.toList.isEmpty = false := by
      simpa using part.1.text_ne_nil
    refine ⟨fun c hc => isWord_of_isDigit (part.1.isDigit_of_mem_text hc), ?_, ?_⟩
    · simp only [value?, hempty, Bool.false_eq_true, if_false, part.1.readNat?_text]
      exact h part List.mem_cons_self
    · simp only [hempty, Bool.false_eq_true, if_false]
      exact ih fun other hother => h other (List.mem_cons_of_mem part hother)

end Template

open Template

theorem Function.format_of_fill {template s : String} {args : List Value}
    (h : fill template args = .ok s) (caller : Caller) :
    Function.format caller (.str template :: args) = .ok (.str s) := by
  simp only [Function.format, Function.string, ok_bind, h]
  rfl

/-- **What is filled in is not read again, and escaped texts come out as they were.**  A template
of escaped texts with empty fields between them writes the texts with the arguments between them,
in their order and whatever braces their texts hold.  Fields that name the positions of arguments
may do so in any order, and name one more than once. -/
theorem format_escaped (M : Number.Machine Evaluated) (caller : Caller) (start : String) :
    ∃ format, Entries.get? (FunctionTable.standard M) "F.format" = some format
      ∧ (∀ parts : List (Value × String),
        format caller (.str (escape start
            ++ String.join (parts.map fun part => field "" ++ escape part.2))
            :: parts.map Prod.fst)
          = .ok (.str (start ++ String.join (parts.map fun part => part.1.text ++ part.2))))
      ∧ ∀ (args : List Value) (parts : List (Position × Value × String)),
        (∀ part ∈ parts, args[part.1.index.toNat]? = some part.2.1) →
        format caller (.str (escape start
            ++ String.join (parts.map fun part => field part.1.text ++ escape part.2.2)) :: args)
          = .ok (.str
            (start ++ String.join (parts.map fun part => part.2.1.text ++ part.2.2))) := by
  refine ⟨Function.format, rfl, fun parts => ?_, fun args parts hparts => ?_⟩
  · have hfill := fill_parts (placed_next parts []) start
    simp only [List.map_map, List.nil_append] at hfill
    exact Function.format_of_fill hfill caller
  · have hfill := fill_parts (placed_positions hparts 0) start
    simp only [List.map_map] at hfill
    exact Function.format_of_fill hfill caller

/-- Fields beside doubled braces: the second argument, the first behind a zero, and the second
again, with texts of braces. -/
theorem format_escaped_of_braces :
    let caller : Caller := ⟨⟨[], .null, .null⟩, .keyless "fernet"⟩
    let args : List Value := [.str "\x7b\x7d", .str "\x7d"]
    let parts : List (Position × Value × String) :=
      [(⟨0, 1⟩, .str "\x7d", "\x7d"), (⟨1, 0⟩, .str "\x7b\x7d", ""), (⟨0, 1⟩, .str "\x7d", "")]
    (∀ part ∈ parts, args[part.1.index.toNat]? = some part.2.1)
      ∧ Function.format caller
          (.str "\x7b\x7b\x7b1\x7d\x7d\x7d\x7b00\x7d\x7b1\x7d" :: args)
        = .ok (.str "\x7b\x7d\x7d\x7b\x7d\x7d") := by
  intro caller args parts
  have hparts : ∀ part ∈ parts, args[part.1.index.toNat]? = some part.2.1 := by
    simp [parts, args]
  obtain ⟨format, hformat, -, hpositions⟩ := format_escaped Range.halting caller "\x7b"
  obtain rfl : Function.format = format := Option.some.inj hformat
  -- the template that the theorem speaks of, and what it says of it
  have htemplate : escape "\x7b"
      ++ String.join (parts.map fun part => field part.1.text ++ escape part.2.2)
      = "\x7b\x7b\x7b1\x7d\x7d\x7d\x7b00\x7d\x7b1\x7d" := by cbv
  have hfilled : "\x7b" ++ String.join (parts.map fun part => part.2.1.text ++ part.2.2)
      = "\x7b\x7d\x7d\x7b\x7d\x7d" := by cbv
  have hformatted := hpositions args parts hparts
  rw [htemplate, hfilled] at hformatted
  exact ⟨hparts, hformatted⟩

end ConfigTree
