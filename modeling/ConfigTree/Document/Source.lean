import ConfigTree.Document.Evaluator
import ConfigTree.Json.Read
import ConfigTree.Yaml.Read

/-!
# Documents as text

A document is read from its text before it is resolved.  Blank text holds nothing,
in either notation.

## Main definitions

* `DocumentFormat.read` — the value of a text.
* `Evaluator.strictText`, `tolerantText` — a text read and resolved.
-/

namespace ConfigTree

/-- The value of a text; a text that is not in the notation is at fault under the name of its
origin. -/
def DocumentFormat.read (format : DocumentFormat) (origin text : String) :
    Except LoadError Value :=
  if Text.isAllBlank text.toList then .ok .null
  else
    let outcome := match format with
      | .yaml => (Yaml.read text).toOption
      | .json => (Json.read text).toOption
    match outcome with
    | some v => .ok v
    | none => .error (.malformed format origin)

/-- Where a text without a file comes from. -/
def textOrigin : String := "<string>"

namespace Evaluator

/-- A text resolved, or why it cannot be. -/
def strictText (e : Evaluator) (text : String) (log : Log) : Except Failure Value × Log :=
  match DocumentFormat.yaml.read textOrigin text with
  | .ok document => e.strict document log
  | .error cause => (.error (.load cause), log)

/-- A text resolved, if it can be.  That it cannot be resolved is logged; that it cannot be read
is not. -/
def tolerantText (e : Evaluator) (text : String) (log : Log) : Option Value × Log :=
  match DocumentFormat.yaml.read textOrigin text with
  | .ok document => e.tolerant document log
  | .error _ => (none, log)

end Evaluator

end ConfigTree
