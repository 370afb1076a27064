import ArchModel.Yaml.Cursor

/-!
# The tokens of YAML

A YAML text is a row of tokens, which ends in `Token.streamEnd` or in `Token.bad`. Collections in
block style start and end at tokens of their own, although no character stands for them: indentation
does.
-/

namespace ArchModel.Yaml

/-- A directive at the head of a document. -/
inductive Directive
  /-- The version of YAML. -/
  | version (major minor : Nat)
  /-- The meaning of a tag handle. -/
  | tag (handle meaning : String)
  /-- A directive that says nothing here. -/
  | other
  deriving DecidableEq, Repr

/-- A token. -/
inductive Token
  | directive (d : Directive)
  | documentStart
  | documentEnd
  | blockSequenceStart
  | blockMappingStart
  | blockEnd
  | flowSequenceStart
  | flowSequenceEnd
  | flowMappingStart
  | flowMappingEnd
  | flowEntry
  | blockEntry
  | key
  | value
  | alias (name : String)
  | anchor (name : String)
  /-- A tag, by its handle and suffix or by its suffix alone. -/
  | tag (handle : Option String) (suffix : String)
  /-- A scalar, and whether it stands without quotes or block header. -/
  | scalar (text : String) (plain : Bool)
  | streamEnd
  /-- The place where the text cannot be divided any further. -/
  | bad (f : Fault)
  deriving DecidableEq, Repr, Inhabited

end ArchModel.Yaml
