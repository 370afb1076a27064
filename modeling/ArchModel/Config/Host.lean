import ArchModel.Yaml.Value

/-!
# What loading relies on

Configurations are read with a reader of YAML that is not part of the program, and the groups in
them are gone through by functions that call themselves, on a stack that has an end.

* `YamlReader` makes a document of a text, or fails, which should be with `YamlFailure.malformed`.
* `Host` is a reader, whose documents are closed, with the number of calls that fit on the stack.
-/

namespace ArchModel

/-- Why a reader of YAML gives no document. -/
inductive YamlFailure
  /-- The text is no YAML; the message says why. -/
  | malformed (message : String)
  /-- The reader fails in another way, of a kind that is named. -/
  | other (kind : String)
  deriving DecidableEq, Repr

/-- A reader of YAML. -/
abbrev YamlReader := List Char → Except YamlFailure Yaml.Document

/-- What loading relies on. -/
structure Host where
  /-- The reader of the files. -/
  yaml : YamlReader
  /-- What the values of a document refer to is there. -/
  closed : ∀ cs d, yaml cs = .ok d → d.IsClosed
  /-- The number of calls within one another that fit on the stack. -/
  stack : Nat

end ArchModel
