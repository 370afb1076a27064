import ArchModel.Text.Lines

/-!
# Identities of classes

A class is known by its module and by the chain of names that leads to it in there. Classes of one
name in different modules are different classes.
-/

namespace ArchModel

open Text

/-- The identity of a class. -/
structure ClassId where
  /-- The dotted name of the module. -/
  module : String
  /-- The names of the classes around the class and its own, joined by dots. -/
  qualname : String
  deriving DecidableEq, Repr, Inhabited

namespace ClassId

/-- The name of the class itself. -/
def name (c : ClassId) : String := (split '.' c.qualname).getLast?.getD ""

/-- The written form. -/
def text (c : ClassId) : String := c.module ++ ":" ++ c.qualname

/-- The order of identities: by module, then by qualified name. -/
def le (a b : ClassId) : Bool :=
  if a.module = b.module then inOrder a.qualname b.qualname else inOrder a.module b.module

/-- Whether two identities are known and equal. -/
def same (a b : Option ClassId) : Bool := a.isSome && a == b

end ClassId

end ArchModel
