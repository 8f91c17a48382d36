import ConfigTree.Expr.Syntax
import ConfigTree.Expr.Lexer

/-!
# Reading expressions

One function for each precedence, from `or` down to the operands.  An expression
inside brackets, and an operand behind a sign, `not` or `**`, is read by the same
functions one level deeper, and there are only so many levels: the functions of a
level are given those of the next deeper one, down to a level where every attempt
fails.

## Main definitions

* `ParseError` — why a source is no expression.
* `Parser.Deeper` — what a level knows of the level below it; `Parser.level`.
* `parseTokens`, `parseExpression` — the expression that tokens, or a source, write.
-/

namespace ConfigTree

/-- How deeply expressions may nest. -/
def maxDepth : Nat := 64

/-- The length of the longest source that is read, in bytes. -/
def maxSourceLength : Nat := 65536

/-- How many attributes, indices and argument lists may follow one operand. -/
def maxTrailers : Nat := 256

/-- What is missing or too much. -/
inductive SyntaxFault
  /-- Nothing but blanks. -/
  | empty
  /-- Something after the expression. -/
  | trailing
  /-- No name after a dot. -/
  | attribute
  /-- No expression where one has to stand. -/
  | operand
  /-- No closing bracket. -/
  | closing
  /-- No bracket after an index. -/
  | bracket
  /-- Neither a comma nor a closing parenthesis. -/
  | commaOrParen
  /-- No colon after a key. -/
  | colon
  /-- No closing brace. -/
  | brace
  /-- More levels than are allowed. -/
  | tooDeep
  /-- More trailers on one operand than are allowed. -/
  | tooManyTrailers
  deriving DecidableEq

/-- A fault and the offset of the token it is reported at. -/
structure SyntaxError where
  /-- The offset. -/
  pos : Nat
  /-- The fault. -/
  fault : SyntaxFault

/-- The fault in words. -/
def SyntaxFault.text : SyntaxFault → String
  | .empty => "empty expression"
  | .trailing => "unexpected token after expression"
  | .attribute => "expected attribute name after '.'"
  | .operand => "expected an expression"
  | .closing => "expected closing bracket"
  | .bracket => "expected ']'"
  | .commaOrParen => "expected ',' or ')'"
  | .colon => "expected ':' in dict literal"
  | .brace => "expected '\x7d'"
  | .tooDeep => "expression nested too deeply"
  | .tooManyTrailers => "too many trailers on one operand"

/-- Why a source is no expression. -/
inductive ParseError
  /-- It has no tokens. -/
  | lex (e : LexError)
  /-- Its tokens write no expression. -/
  | malformed (e : SyntaxError)
  /-- It is longer than is read at all. -/
  | tooLong

/-- The message of an error. -/
def ParseError.message : ParseError → String
  | .lex e => e.message
  | .malformed e => e.fault.text ++ " at offset " ++ toString e.pos
  | .tooLong => "expression longer than " ++ toString maxSourceLength ++ " bytes"

/-- Reads something from the front of the tokens and leaves the rest. -/
abbrev Parser (α : Type) := List Token → Except SyntaxError (α × List Token)

namespace Parser

/-- Where the first token stands. -/
def place : List Token → Nat
  | t :: _ => t.pos
  | [] => 0

/-- A fault at the first token. -/
def fail {α : Type} (ts : List Token) (fault : SyntaxFault) : Except SyntaxError α :=
  .error ⟨place ts, fault⟩

/-- The rest if the symbol `s` comes first. -/
def eat? (s : Symbol) : List Token → Option (List Token)
  | ⟨.symbol t, _, _⟩ :: ts => if t = s then some ts else none
  | _ => none

/-- The rest if the keyword `k` comes first. -/
def eatWord? (k : Keyword) : List Token → Option (List Token)
  | ⟨.keyword w, _, _⟩ :: ts => if w = k then some ts else none
  | _ => none

/-- The rest after the symbol `s`, which has to come first. -/
def expect (s : Symbol) (fault : SyntaxFault) (ts : List Token) :
    Except SyntaxError (List Token) :=
  match eat? s ts with
  | some rest => .ok rest
  | none => fail ts fault

/-- Whether the source ends here. -/
def atEnd : List Token → Bool
  | ⟨.stop, _, _⟩ :: _ => true
  | [] => true
  | _ => false

/-- What a level may ask of the level below it. -/
structure Deeper where
  /-- A whole expression. -/
  expression : Parser Expr
  /-- The operand of `not`. -/
  negated : Parser Expr
  /-- The operand of a sign, or an exponent. -/
  signed : Parser Expr

/-- Below the last level nothing can be read. -/
def Deeper.bottom : Deeper :=
  ⟨(fail · .tooDeep), (fail · .tooDeep), (fail · .tooDeep)⟩

variable (bound : Nat) (deeper : Deeper)

/-! ### Operands -/

/-- Expressions with commas between them up to `close`, perhaps with a comma after the last;
at most `n` are read, after those `done` held back to front. -/
def sequenceFrom (close : Symbol) : Nat → List Expr → Parser (List Expr)
  | 0, done, ts => do
    let ts ← expect close .closing ts
    return (done.reverse, ts)
  | n + 1, done, ts =>
    match eat? close ts with
    | some rest => .ok (done.reverse, rest)
    | none => do
      let (e, ts) ← deeper.expression ts
      match eat? .comma ts with
      | some ts => sequenceFrom close n (e :: done) ts
      | none => do
        let ts ← expect close .closing ts
        return ((e :: done).reverse, ts)

/-- Expressions with commas between them up to `close`. -/
def sequence (close : Symbol) : Parser (List Expr) := sequenceFrom deeper close bound []

/-- Keys and values up to the closing brace; at most `n` are read, after those `done` held
back to front. -/
def dictFrom : Nat → List (Expr × Expr) → Parser Expr
  | 0, done, ts => do
    let ts ← expect .rightBrace .brace ts
    return (.dict done.reverse, ts)
  | n + 1, done, ts =>
    match eat? .rightBrace ts with
    | some rest => .ok (.dict done.reverse, rest)
    | none => do
      let (key, ts) ← deeper.expression ts
      let ts ← expect .colon .colon ts
      let (value, ts) ← deeper.expression ts
      match eat? .comma ts with
      | some ts => dictFrom n ((key, value) :: done) ts
      | none => do
        let ts ← expect .rightBrace .brace ts
        return (.dict ((key, value) :: done).reverse, ts)

/-- What follows an opening parenthesis: nothing, one expression, or several as a tuple. -/
def parenthesised : Parser Expr := fun ts =>
  match eat? .rightParen ts with
  | some rest => .ok (.tuple [], rest)
  | none => do
    let (first, ts) ← deeper.expression ts
    match eat? .rightParen ts with
    | some rest => return (first, rest)
    | none =>
      let ts ← expect .comma .commaOrParen ts
      let (items, ts) ← sequence bound deeper .rightParen ts
      return (.tuple (first :: items), ts)

/-- A literal, a name or something in brackets. -/
def atom : Parser Expr
  | ⟨.int n, _, _⟩ :: ts => .ok (.int n, ts)
  | ⟨.float x, _, _⟩ :: ts => .ok (.float x, ts)
  | ⟨.str s, _, _⟩ :: ts => .ok (.str s, ts)
  | ⟨.name n, _, _⟩ :: ts => .ok (.name n, ts)
  | ⟨.keyword .true, _, _⟩ :: ts => .ok (.bool true, ts)
  | ⟨.keyword .false, _, _⟩ :: ts => .ok (.bool false, ts)
  | ⟨.keyword .none, _, _⟩ :: ts => .ok (.null, ts)
  | ⟨.symbol .leftParen, _, _⟩ :: ts => parenthesised bound deeper ts
  | ⟨.symbol .leftBracket, _, _⟩ :: ts => do
    let (items, ts) ← sequence bound deeper .rightBracket ts
    return (.list items, ts)
  | ⟨.symbol .leftBrace, _, _⟩ :: ts => dictFrom deeper bound [] ts
  | ts => fail ts .operand

/-- Whether an attribute, an index or an argument list comes first. -/
def atTrailer : List Token → Bool
  | ⟨.symbol .dot, _, _⟩ :: _ => true
  | ⟨.symbol .leftBracket, _, _⟩ :: _ => true
  | ⟨.symbol .leftParen, _, _⟩ :: _ => true
  | _ => false

/-- The attribute name after a dot.  A fault is reported at the token after the one that
should have been the name. -/
def attributeName : Parser String
  | ⟨.name n, _, _⟩ :: ts => .ok (n, ts)
  | [t] => .error ⟨t.pos, .attribute⟩
  | _ :: ts => fail ts .attribute
  | [] => fail [] .attribute

/-- The attributes, indices and argument lists after `e`, at most `n` of them. -/
def trailersFrom : Nat → Expr → Parser Expr
  | 0, e, ts => if atTrailer ts then fail ts .tooManyTrailers else .ok (e, ts)
  | n + 1, e, ts =>
    match ts with
    | ⟨.symbol .dot, _, _⟩ :: ts => do
      let (attr, ts) ← attributeName ts
      trailersFrom n (.attribute e attr) ts
    | ⟨.symbol .leftBracket, _, _⟩ :: ts => do
      let (index, ts) ← deeper.expression ts
      let ts ← expect .rightBracket .bracket ts
      trailersFrom n (.subscript e index) ts
    | ⟨.symbol .leftParen, _, _⟩ :: ts => do
      let (args, ts) ← sequence bound deeper .rightParen ts
      trailersFrom n (.call e args) ts
    | ts => .ok (e, ts)

/-- An operand with its trailers. -/
def postfixed : Parser Expr := fun ts => do
  let (e, ts) ← atom bound deeper ts
  trailersFrom bound deeper maxTrailers e ts

/-- An operand with its power, which takes a signed operand. -/
def powered : Parser Expr := fun ts => do
  let (base, ts) ← postfixed bound deeper ts
  match eat? .doubleStar ts with
  | some ts => do
    let (exponent, ts) ← deeper.signed ts
    return (.power base exponent, ts)
  | none => return (base, ts)

/-- The operator that a sign is. -/
def sign? : Symbol → Option UnaryOp
  | .minus => some .minus
  | .plus => some .plus
  | .tilde => some .invert
  | _ => none

/-- An operand with the sign before it. -/
def signed : Parser Expr := fun ts =>
  match ts with
  | ⟨.symbol s, _, _⟩ :: rest =>
    match sign? s with
    | some op => do
      let (e, ts) ← deeper.signed rest
      return (.unary op e, ts)
    | none => powered bound deeper ts
  | _ => powered bound deeper ts

/-! ### Operators -/

/-- Operators with their right operands, at most `n` of them, after those `done` held back to
front. -/
def operatorsFrom {α : Type} (op? : List Token → Option (α × List Token)) (operand : Parser Expr) :
    Nat → List (α × Expr) → Parser (List (α × Expr))
  | 0, done, ts => .ok (done.reverse, ts)
  | n + 1, done, ts =>
    match op? ts with
    | none => .ok (done.reverse, ts)
    | some (op, ts) => do
      let (e, ts) ← operand ts
      operatorsFrom op? operand n ((op, e) :: done) ts

/-- Operands with the operators of one precedence between them. -/
def chained (op? : Symbol → Option BinaryOp) (operand : Parser Expr) : Parser Expr := fun ts => do
  let next? : List Token → Option (BinaryOp × List Token)
    | ⟨.symbol s, _, _⟩ :: ts => (op? s).map (·, ts)
    | _ => none
  let (first, ts) ← operand ts
  let (rest, ts) ← operatorsFrom next? operand bound [] ts
  return (if rest.isEmpty then first else .chain first rest, ts)

/-- Products and quotients. -/
def term : Parser Expr :=
  chained bound
    (fun
      | .star => some .mul
      | .doubleSlash => some .floorDiv
      | .slash => some .div
      | .percent => some .mod
      | _ => none)
    (signed bound deeper)

/-- Sums and differences. -/
def sum : Parser Expr :=
  chained bound
    (fun
      | .plus => some .add
      | .minus => some .sub
      | _ => none)
    (term bound deeper)

/-- Shifts. -/
def shifted : Parser Expr :=
  chained bound
    (fun
      | .shiftLeft => some .shiftLeft
      | .shiftRight => some .shiftRight
      | _ => none)
    (sum bound deeper)

/-- Bits in all operands. -/
def conjunction : Parser Expr :=
  chained bound (fun | .ampersand => some .bitAnd | _ => none) (shifted bound deeper)

/-- Bits in one operand. -/
def exclusion : Parser Expr :=
  chained bound (fun | .caret => some .bitXor | _ => none) (conjunction bound deeper)

/-- Bits in any operand. -/
def disjunction : Parser Expr :=
  chained bound (fun | .pipe => some .bitOr | _ => none) (exclusion bound deeper)

/-- The comparison that comes first; `not in` and `is not` take two words. -/
def comparison? : List Token → Option (Comparison × List Token)
  | ⟨.symbol .equal, _, _⟩ :: ts => some (.eq, ts)
  | ⟨.symbol .notEqual, _, _⟩ :: ts => some (.ne, ts)
  | ⟨.symbol .less, _, _⟩ :: ts => some (.lt, ts)
  | ⟨.symbol .lessEqual, _, _⟩ :: ts => some (.le, ts)
  | ⟨.symbol .greater, _, _⟩ :: ts => some (.gt, ts)
  | ⟨.symbol .greaterEqual, _, _⟩ :: ts => some (.ge, ts)
  | ⟨.keyword .in, _, _⟩ :: ts => some (.isIn, ts)
  | ⟨.keyword .not, _, _⟩ :: ⟨.keyword .in, _, _⟩ :: ts => some (.notIn, ts)
  | ⟨.keyword .is, _, _⟩ :: ⟨.keyword .not, _, _⟩ :: ts => some (.notSame, ts)
  | ⟨.keyword .is, _, _⟩ :: ts => some (.same, ts)
  | _ => none

/-- A run of comparisons. -/
def compared : Parser Expr := fun ts => do
  let (first, ts) ← disjunction bound deeper ts
  let (rest, ts) ← operatorsFrom comparison? (disjunction bound deeper) bound [] ts
  return (if rest.isEmpty then first else .compare first rest, ts)

/-- A comparison, or `not` before one. -/
def negated : Parser Expr := fun ts =>
  match eatWord? .not ts with
  | some rest => do
    let (e, ts) ← deeper.negated rest
    return (.unary .not e, ts)
  | none => compared bound deeper ts

/-- A run of operands with one connective between them. -/
def connected (word : Keyword) (op : Connective) (operand : Parser Expr) : Parser Expr :=
  fun ts => do
    let (first, ts) ← operand ts
    let (rest, ts) ← operatorsFrom (fun ts => (eatWord? word ts).map ((), ·)) operand bound [] ts
    return (if rest.isEmpty then first else .logical op (first :: rest.map Prod.snd), ts)

/-- A run of `and`. -/
def allOf : Parser Expr := connected bound .and .and (negated bound deeper)

/-- A run of `or`. -/
def anyOf : Parser Expr := connected bound .or .or (allOf bound deeper)

/-- What can be read with `n` levels left. -/
def level : Nat → Deeper
  | 0 => .bottom
  | n + 1 => ⟨anyOf bound (level n), negated bound (level n), signed bound (level n)⟩

/-- The expressions after the commas of a bare tuple, at most `n`, after those `done` held back
to front. -/
def tupleFrom : Nat → List Expr → Parser (List Expr)
  | 0, done, ts => .ok (done.reverse, ts)
  | n + 1, done, ts =>
    match eat? .comma ts with
    | none => .ok (done.reverse, ts)
    | some ts =>
      if atEnd ts then .ok (done.reverse, ts)
      else do
        let (e, ts) ← deeper.expression ts
        tupleFrom n (e :: done) ts

end Parser

/-- The expression that tokens write; commas outside brackets make a tuple. -/
def parseTokens (ts : List Token) : Except SyntaxError Expr :=
  if Parser.atEnd ts then Parser.fail ts .empty
  else do
    let bound := ts.length
    let top := Parser.level bound maxDepth
    let (first, rest) ← top.expression ts
    let (e, rest) ←
      match Parser.eat? .comma rest with
      | some _ => do
        let (items, rest) ← Parser.tupleFrom top bound [] rest
        pure (Expr.tuple (first :: items), rest)
      | none => pure (first, rest)
    if Parser.atEnd rest then return e else Parser.fail rest .trailing

/-- The expression that a source writes. -/
def parseExpression (source : String) : Except ParseError Expr :=
  if maxSourceLength < source.utf8ByteSize then .error .tooLong
  else
    match tokenize source with
    | .error e => .error (.lex e)
    | .ok ts => (parseTokens ts).mapError .malformed

end ConfigTree
