import ArchModel.Config.Host
import ArchModel.Proofs.Yaml.Closed

/-!
# The host of a run

The program runs with the reader of YAML of this project, on a stack of the usual length.
-/

namespace ArchModel

/-- The reader of YAML of this project. -/
def yamlReader : YamlReader := fun cs =>
  match Yaml.Document.ofText cs with
  | .ok d => .ok d
  | .error (.fault f) => .error (.malformed f.message)
  | .error (.value f) => .error (.other f.kind)

theorem isClosed_of_yamlReader {cs : List Char} {d : Yaml.Document}
    (h : yamlReader cs = .ok d) : d.IsClosed := by
  unfold yamlReader at h
  split at h
  · next read =>
    cases h
    exact Yaml.Document.isClosed_ofText read
  · cases h
  · cases h

/-- The host of a run. About a thousand calls fit on the stack, of which some are around those that
load a configuration. -/
def Host.ofRun : Host where
  yaml := yamlReader
  closed _ _ := isClosed_of_yamlReader
  stack := 980

end ArchModel
