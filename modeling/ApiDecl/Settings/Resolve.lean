import ApiDecl.Settings.Config
import ApiDecl.Settings.Options

/-!
# The settings of a run

A value on the command line, even an empty one, stands above the environment, the environment above
the file, and the file above the defaults.
-/

namespace ApiDecl.Settings

open Files (FileSystem)
open Journal (Traced)

/-- Settings with what the command line overrides. -/
def applyOptions (o : Options) (c : Config) : Config :=
  c |>.set? .sourceDir o.sourceDir |>.set? .inclusion o.inclusion |>.set? .exclusion o.exclusion
    |>.set? .outputFile o.outputFile |>.set? .reportDir o.reportDir

/-- The directory to read, which has to be given. -/
def requireSourceDir (c : Config) : Except ConfigError String :=
  match c.sourceDir with
  | none => .error (.invalid .noSourceDir)
  | some directory => if directory.isEmpty then .error (.invalid .noSourceDir) else .ok directory

/-- The settings that a command line, the environment and the file together give. -/
def resolve [Pattern.CharacterNames] (fs : FileSystem) (env : Environment) (o : Options)
    (readYaml : DocumentReader := Yaml.Document.ofText) : Traced ConfigError Config := do
  let config ← load fs env o.config (strictMode env false) readYaml
  let config := applyOptions o config
  Traced.ofExcept (validatePatterns config)
  let _ ← Traced.ofExcept (requireSourceDir config)
  return config

end ApiDecl.Settings
