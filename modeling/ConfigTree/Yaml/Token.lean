/-!
# Tokens of YAML

What a text is made of, with the beginnings and ends of blocks that only its margin
shows.

## Main definitions

* `Token`.
-/

namespace ConfigTree.Yaml

/-- A token. -/
inductive Token
  /-- The version of the notation. -/
  | version (major minor : Nat)
  /-- An abbreviation for the start of tags. -/
  | shorthand (handle start : String)
  /-- The marker before a document. -/
  | documentStart
  /-- The marker after a document. -/
  | documentEnd
  /-- The start of a list written as a block. -/
  | blockList
  /-- The start of a mapping written as a block. -/
  | blockMap
  /-- The end of a block. -/
  | blockEnd
  /-- A left bracket. -/
  | listStart
  /-- A right bracket. -/
  | listEnd
  /-- A left brace. -/
  | mapStart
  /-- A right brace. -/
  | mapEnd
  /-- The hyphen before an item. -/
  | item
  /-- A comma. -/
  | comma
  /-- What comes before a key, which a question mark may show. -/
  | key
  /-- The colon before a value. -/
  | value
  /-- A reference to an anchor. -/
  | alias (name : String)
  /-- A name for a node. -/
  | anchor (name : String)
  /-- A tag, its start abbreviated. -/
  | tag (handle rest : String)
  /-- A text, and whether it is written without quotes. -/
  | scalar (text : String) (plain : Bool)
  /-- The end of the text. -/
  | stop

end ConfigTree.Yaml
