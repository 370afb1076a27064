import ArchModel.Tag.Parse

/-!
# Writing the content of a tag

`Schema.render?` writes a tag as a content: the arguments on one line between bars, without the
empty ones at the end, then a line with a dash for each parameter. A block has one more line per
entry, and a text of several lines stands between two delimiters of three quotes.

A parameter that is declared as a block is written as one whatever its value is, and a tag has no
content if that cannot be done (`ParamValue.asBlock?`).
-/

namespace ArchModel

open Text

/-- The key and the item that a text of two characters stands for. -/
def pairOfText? (s : String) : Option (String × String) :=
  match s.toList with
  | [key, item] => some (String.singleton key, String.singleton item)
  | _ => none

/-- The entries that a value has as a block. An empty text has none, and a list has one for each of
its texts. -/
def ParamValue.asBlock? : ParamValue → Option (Entries String String)
  | .block entries => some entries
  | .list items => (items.mapM pairOfText?).map Entries.ofList
  | .text value => if value = "" then some ∅ else none

namespace Tag

/-- The arguments without the empty ones at the end. -/
def trimArgs (args : List String) : List String :=
  (args.reverse.dropWhile (· = "")).reverse

/-- The line that lists the arguments, if there are any. -/
def renderArgs (args : List String) : List String :=
  let args := trimArgs args
  if args.isEmpty then [] else [join " | " args]

/-- The lines that declare one parameter. -/
def renderParam (name : String) : ParamValue → List String
  | .block entries =>
    ("- " ++ name ++ ":") :: entries.toList.map fun (key, item) => "  " ++ key ++ ": " ++ item
  | .list items => ["- " ++ name ++ ": " ++ join ", " items]
  | .text value =>
    if containsChar '\n' value then
      ("- " ++ name ++ ": " ++ multiline) ::
        (lines value).map (fun part => "  " ++ part) ++ ["  " ++ multiline]
    else ["- " ++ name ++ ": " ++ value]

end Tag

namespace Schema

/-- The lines that declare one parameter as the schema has it. -/
def renderParam? (schema : Schema) (name : String) (value : ParamValue) : Option (List String) :=
  if schema.params.get? name = some .block then
    value.asBlock?.map fun entries => Tag.renderParam name (.block entries)
  else some (Tag.renderParam name value)

/-- The content that stands for a tag. -/
def render? (schema : Schema) (t : Tag) : Option String := do
  let params ← t.params.toList.mapM fun (name, value) => schema.renderParam? name value
  return join "\n" (Tag.renderArgs t.args ++ params.flatten)

end Schema

end ArchModel
