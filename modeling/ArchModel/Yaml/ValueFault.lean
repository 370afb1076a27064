/-!
# Scalars without a value

`ValueFault` is why a node has no value of its type, although the text around it is a document.
`ValueFault.kind` is the word for the kind of failure that it is.
-/

namespace ArchModel.Yaml

/-- Why a node has no value of its type. -/
inductive ValueFault
  /-- The text is no number. -/
  | number
  /-- The text is empty where a number is expected. -/
  | emptyNumber
  /-- A number has too many digits to be read. -/
  | longNumber
  /-- The text is no truth value. -/
  | truth
  /-- The text has not the form of a timestamp. -/
  | timestampForm
  /-- There is no such day or time. -/
  | timestampRange
  /-- A mapping stands where the text of a timestamp is expected. -/
  | timestampShape
  /-- There is no such code point. -/
  | character (code : Nat)
  /-- A mapping stands for its own default value, or collections are nested without an end in
  sight. -/
  | endless
  deriving DecidableEq, Repr

namespace ValueFault

/-- The greatest code point that is told apart from numbers that are none at all. -/
def greatestCode : Nat := 0x7fffffff

/-- The word for the kind of a failure. -/
def kind : ValueFault → String
  | emptyNumber => "IndexError"
  | truth => "KeyError"
  | timestampForm => "AttributeError"
  | timestampShape => "TypeError"
  | character code => if code ≤ greatestCode then "ValueError" else "OverflowError"
  | endless => "RecursionError"
  | number | longNumber | timestampRange => "ValueError"

end ValueFault

end ArchModel.Yaml
