import Gatehouse.Config.Yaml
import Gatehouse.Options.Parsing

/-!
# The settings of a launch

The settings of a launch are those of its file, or the defaults when it names none, with what the
command line sets put over them. They are not normalized yet.
-/

namespace Gatehouse

structure LoadError where
  path : String
  cause : ConfigError

def LoadError.message (e : LoadError) : String :=
  "Failed to load configuration from " ++ e.path

namespace Launch

/-- The settings that the changes of the command line are put over. -/
def base (l : Launch) (read : String → FileContent) : Except LoadError Config :=
  match l.file with
  | none => .ok .default
  | some path => (Config.ofFile path (read path)).mapError fun cause => ⟨path, cause⟩

def loadSettings (l : Launch) (read : String → FileContent) : Except LoadError Config :=
  (l.base read).map l.settings

end Launch

end Gatehouse
