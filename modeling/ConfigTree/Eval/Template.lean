import ConfigTree.Eval.Error
import ConfigTree.Number.Word
import ConfigTree.Text.Word
import ConfigTree.Value.Text

/-!
# Text templates

A template is text with fields in braces.  An empty field takes the next
argument, a number the argument at that position and a word an entry of the last
argument, if that is a mapping.  A doubled brace stands for itself, and a brace
that belongs to no field and has no double stays.

## Main definitions

* `Template.fill` — the template with its fields filled in.
-/

namespace ConfigTree.Template

/-- The opening brace. -/
def opening : Char := '\x7b'

/-- The closing brace. -/
def closing : Char := '\x7d'

/-- The value for a field, when `next` empty fields have been filled already. -/
def value? (args : List Value) (next : Nat) (field : List Char) : Option Value :=
  if field.isEmpty then args[next]?
  else
    match Number.readNat? field with
    | some i => args[i]?
    | none => (args.getLast?.bind Value.map?).bind fun es => es.get? (String.ofList field)

/-- The word of a field whose opening brace has been read, if it is closed. -/
def field? (cs : List Char) : Option (List Char) :=
  let word := cs.takeWhile Text.isWord
  match cs.drop word.length with
  | c :: _ => if c = closing then some word else none
  | [] => none

/-- Fills in the rest of a template, of which `passing` characters have been dealt with.  What
is `written` is held back to front. -/
def fillFrom (args : List Value) (passing next : Nat) (written : List Char) :
    List Char → Evaluated (List Char)
  | [] => .ok written.reverse
  | c :: cs =>
    match passing with
    | n + 1 => fillFrom args n next written cs
    | 0 =>
      if (c = opening ∨ c = closing) ∧ cs.head? = some c then
        fillFrom args 1 next (c :: written) cs
      else if c = opening then
        match field? cs with
        | none => fillFrom args 0 next (c :: written) cs
        | some field =>
          match value? args next field with
          | some v =>
            fillFrom args (field.length + 1) (if field.isEmpty then next + 1 else next)
              (v.text.toList.reverse ++ written) cs
          | none =>
            .error (.index (.field (String.ofList (opening :: field ++ [closing]))))
      else fillFrom args 0 next (c :: written) cs

/-- The template with its fields filled in. -/
def fill (template : String) (args : List Value) : Evaluated String :=
  (fillFrom args 0 0 [] template.toList).map String.ofList

end ConfigTree.Template
