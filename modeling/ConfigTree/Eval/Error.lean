import ConfigTree.Value
import ConfigTree.Expr.Operator
import ConfigTree.Number.Layout

/-!
# Failures of evaluation

Why an expression has no value.  A failure never ends the resolution of a
document: the text that failed is kept, and the failure is logged.  That the machine has
stopped is written down like any other failure, and whoever runs a resolution has to look
whether it has.

## Main definitions

* `EvalError` — the failures, each with its cause.
* `EvalError.message` — the failure in words.
-/

namespace ConfigTree

/-- The greatest length of a string, in bytes, or of a list, in items, that an operator makes. -/
def maxLength : Nat := 100000

/-- The greatest exponent, in either direction. -/
def maxPower : Nat := 4000000

/-- What is not there. -/
inductive NameFault
  /-- No binding of a name. -/
  | unbound (name : String)
  /-- No such entry in a mapping. -/
  | noEntry (key : String)
  /-- No such attribute of a value that is no mapping. -/
  | noAttribute (kind : Kind) (attr : String)

/-- What is of the wrong sort. -/
inductive TypeFault
  /-- The operands of a binary operator. -/
  | operands (symbol : String) (left right : Kind)
  /-- The operand of a unary operator. -/
  | operand (symbol : String) (kind : Kind)
  /-- Two values without an order. -/
  | unordered (left right : Kind)
  /-- A part of a string that is none. -/
  | partOfString (kind : Kind)
  /-- A container that holds nothing. -/
  | container (kind : Kind)
  /-- A mapping key that is a list or mapping. -/
  | key (kind : Kind)
  /-- A value that has no items. -/
  | subscript (kind : Kind)
  /-- An index that is no whole number. -/
  | index (container : String) (kind : Kind)
  /-- An argument that is no string. -/
  | notString (function : String) (kind : Kind)
  /-- An argument that is no list. -/
  | notList (function : String) (kind : Kind)
  /-- A value without a length. -/
  | noLength (kind : Kind)
  /-- An argument that cannot become a number. -/
  | notNumeric (function : String) (kind : Kind)
  /-- A value without an absolute value. -/
  | noMagnitude (kind : Kind)
  /-- A value to take the extreme of that has no items. -/
  | notIterable (kind : Kind)
  /-- A count of places that is no whole number. -/
  | places (kind : Kind)
  /-- A value that cannot be rounded. -/
  | notRoundable (kind : Kind)
  /-- A parameter of a range that is no number. -/
  | notNumber (parameter : String) (kind : Kind)
  /-- What a function supplied by the embedding program refuses, in its words. -/
  | refused (reason : String)

/-- What was divided by zero. -/
inductive DivisionFault
  /-- A quotient. -/
  | quotient
  /-- A rounded quotient or a remainder of whole numbers. -/
  | whole
  /-- A rounded quotient of floats. -/
  | floor
  /-- A remainder of floats. -/
  | remainder
  /-- Zero to a negative power. -/
  | power

/-- What does not fit in a whole number. -/
inductive OverflowFault
  /-- The result of an operation. -/
  | operation (symbol : String)
  /-- A float cut off to a whole number. -/
  | conversion (x : Float)
  /-- A float rounded to a whole number. -/
  | rounding (x : Float)

/-- What is not in range. -/
inductive IndexFault
  /-- A key of a mapping, as an expression would write it. -/
  | key (literal : String)
  /-- A position. -/
  | position (container : String) (index : Int)
  /-- A field of a template for which there is no value. -/
  | field (field : String)

/-- What is too large. -/
inductive LimitFault
  /-- A string or list that an operator would make. -/
  | length (n : Nat)
  /-- A range. -/
  | count (n : Nat)
  /-- An exponent. -/
  | exponent
  /-- A string that joins others. -/
  | joined
  /-- A string with parts replaced. -/
  | replaced
  /-- The nesting of an expression. -/
  | nesting

/-- What is of the right sort and yet impossible. -/
inductive ValueFault
  /-- A power that is no number. -/
  | domain
  /-- A shift to the other side. -/
  | negativeShift
  /-- A text that is no whole number. -/
  | intText (s : String)
  /-- A text that is no number. -/
  | floatText (s : String)
  /-- The extreme of nothing. -/
  | noItems (function : String)
  /-- Nothing to replace. -/
  | emptyPattern
  /-- Nothing to split at. -/
  | emptySeparator
  /-- A range that does not advance. -/
  | zeroStep
  /-- A count that is no natural number, as an expression would write it. -/
  | count (literal : String)

/-- Why a cipher cannot be used. -/
inductive CipherFault
  /-- No cipher has this tag. -/
  | unknown (tag : String)
  /-- There is no key. -/
  | noKey
  /-- The key does not suit the cipher. -/
  | badKey
  /-- The parameters hold no key. -/
  | noParameter

/-- Why a token cannot be read. -/
inductive TokenFault
  /-- It is malformed, from the future, forged or made with another key. -/
  | invalid
  /-- What it holds is no text. -/
  | notText

/-- How many arguments a function takes. -/
inductive Arity
  /-- This many. -/
  | exactly (n : Nat)
  /-- Any number between two, both included. -/
  | between (least greatest : Nat)
  /-- This many or more. -/
  | atLeast (n : Nat)

/-- Why an expression has no value. -/
inductive EvalError
  /-- Something named is not there. -/
  | name (fault : NameFault)
  /-- The operator table has no such operator. -/
  | unsupported (op : Operator)
  /-- A value is of the wrong sort. -/
  | type (fault : TypeFault)
  /-- Division by zero. -/
  | zeroDivision (fault : DivisionFault)
  /-- A whole number is out of range. -/
  | overflow (fault : OverflowFault)
  /-- A key or position is out of range. -/
  | index (fault : IndexFault)
  /-- A result is too large. -/
  | limit (fault : LimitFault)
  /-- Something other than a named function is called. -/
  | notCallable
  /-- A function is called with too few or too many arguments. -/
  | arity (function : String) (expected : Arity) (got : Nat)
  /-- The cipher cannot be used. -/
  | crypto (fault : CipherFault)
  /-- A token cannot be read. -/
  | decryption (fault : TokenFault)
  /-- A value is impossible. -/
  | value (fault : ValueFault)
  /-- The machine has stopped at a step that nothing tests. -/
  | halted

/-- The outcome of an evaluation. -/
abbrev Evaluated (α : Type) := Except EvalError α

/-- The fault in words. -/
def NameFault.text : NameFault → String
  | .unbound n => "name '" ++ n ++ "' is not defined"
  | .noEntry k => "'" ++ k ++ "' is not defined"
  | .noAttribute kind attr => "'" ++ kind.name ++ "' object has no attribute '" ++ attr ++ "'"

/-- The fault in words. -/
def TypeFault.text : TypeFault → String
  | .operands symbol left right =>
    "unsupported operand type(s) for " ++ symbol ++ ": '" ++ left.name ++ "' and '" ++ right.name
      ++ "'"
  | .operand symbol kind => "bad operand type for unary " ++ symbol ++ ": '" ++ kind.name ++ "'"
  | .unordered left right =>
    "comparison not supported between instances of '" ++ left.name ++ "' and '" ++ right.name ++ "'"
  | .partOfString kind => "'in <string>' requires string as left operand, not " ++ kind.name
  | .container kind => "argument of type '" ++ kind.name ++ "' is not iterable"
  | .key kind => "unhashable type: '" ++ kind.name ++ "'"
  | .subscript kind => "'" ++ kind.name ++ "' object is not subscriptable"
  | .index what kind =>
    what ++ " indices must be integers, not '" ++ kind.name ++ "'"
  | .notString function kind => function ++ "() expects a string, not '" ++ kind.name ++ "'"
  | .notList function kind => function ++ "() expects a list, not '" ++ kind.name ++ "'"
  | .noLength kind => "object of type '" ++ kind.name ++ "' has no len()"
  | .notNumeric function kind =>
    function ++ "() argument must be a string or a number, not '" ++ kind.name ++ "'"
  | .noMagnitude kind => "bad operand type for abs(): '" ++ kind.name ++ "'"
  | .notIterable kind => "'" ++ kind.name ++ "' object is not iterable"
  | .places kind => "ndigits must be an integer, not '" ++ kind.name ++ "'"
  | .notRoundable kind => "type " ++ kind.name ++ " doesn't define __round__ method"
  | .notNumber parameter kind => parameter ++ " must be a number, not " ++ kind.name
  | .refused reason => reason

/-- The fault in words. -/
def DivisionFault.text : DivisionFault → String
  | .quotient => "division by zero"
  | .whole => "integer division or modulo by zero"
  | .floor => "float floor division by zero"
  | .remainder => "float modulo"
  | .power => "0.0 cannot be raised to a negative power"

/-- The fault in words. -/
def OverflowFault.text : OverflowFault → String
  | .operation symbol => "integer overflow in " ++ symbol
  | .conversion x => "cannot convert " ++ Number.plain.write x ++ " to int"
  | .rounding x => "cannot round " ++ Number.plain.write x ++ " to int"

/-- The fault in words. -/
def IndexFault.text : IndexFault → String
  | .key literal => "key " ++ literal ++ " not found"
  | .position what i => what ++ " index " ++ toString i ++ " out of range"
  | .field name => "F.format(): no value for '" ++ name ++ "'"

/-- The fault in words. -/
def LimitFault.text : LimitFault → String
  | .length n => "result length " ++ toString n ++ " exceeds " ++ toString maxLength
  | .count n => toString n ++ " values exceed " ++ toString maxLength
  | .exponent => "exponent larger than " ++ toString maxPower
  | .joined => "joined string too long"
  | .replaced => "replaced string too long"
  | .nesting => "expression nested deeper than 64"

/-- The fault in words. -/
def ValueFault.text : ValueFault → String
  | .domain => "math domain error"
  | .negativeShift => "negative shift count"
  | .intText s => "invalid literal for int(): '" ++ s ++ "'"
  | .floatText s => "could not convert string to float: '" ++ s ++ "'"
  | .noItems function => function ++ "() arg is an empty sequence"
  | .emptyPattern => "F.replace(): empty pattern"
  | .emptySeparator => "F.split(): empty separator"
  | .zeroStep => "arange step must not be zero"
  | .count literal => "count must be a non-negative integer, got " ++ literal

/-- The fault in words. -/
def CipherFault.text : CipherFault → String
  | .unknown tag => "unknown cipher '" ++ tag ++ "'"
  | .noKey => "no encryption key"
  | .badKey => "invalid encryption key"
  | .noParameter => "params carry no 'ekey'"

/-- The fault in words. -/
def TokenFault.text : TokenFault → String
  | .invalid => "invalid token or key"
  | .notText => "plaintext is not valid UTF-8"

/-- The number of arguments in words. -/
def Arity.text : Arity → String
  | .exactly n => toString n
  | .between least greatest => toString least ++ " to " ++ toString greatest
  | .atLeast n => "at least " ++ toString n

/-- Whether `n` arguments are as many as a function takes. -/
def Arity.admits : Arity → Nat → Bool
  | .exactly m, n => n == m
  | .between least greatest, n => least ≤ n && n ≤ greatest
  | .atLeast m, n => m ≤ n

/-- The failure in words. -/
def EvalError.message : EvalError → String
  | .name fault => "NameError: " ++ fault.text
  | .unsupported op => "Unsupported operator: " ++ op.name
  | .type fault => "TypeError: " ++ fault.text
  | .zeroDivision fault => "ZeroDivisionError: " ++ fault.text
  | .overflow fault => "OverflowError: " ++ fault.text
  | .index fault => "IndexError: " ++ fault.text
  | .limit fault => "Limit exceeded: " ++ fault.text
  | .notCallable => "Not callable: only named functions can be called"
  | .arity function expected got =>
    function ++ "() expects " ++ expected.text ++ " argument(s), got " ++ toString got
  | .crypto fault => "Crypto error: " ++ fault.text
  | .decryption fault => "Decryption failed: " ++ fault.text
  | .value fault => "ValueError: " ++ fault.text
  | .halted => "Halted: arithmetic overflow"

end ConfigTree
