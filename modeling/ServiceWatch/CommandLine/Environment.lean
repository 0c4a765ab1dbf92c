import ServiceWatch.Data.Table
import ServiceWatch.Files.FilePath

/-! The variables of a program's environment, and what they say about the poller. -/
namespace ServiceWatch.CommandLine

open ServiceWatch.Files (FilePath)

abbrev Environment := Table String String

namespace Environment

/-- The value of a variable; an empty one counts as none. -/
def filled? (env : Environment) (name : String) : Option String :=
  match env.get? name with
  | some "" => none
  | value => value

def backendUrl? (env : Environment) : Option String := env.filled? "OUTPOST_BACKEND_URL"

def location? (env : Environment) : Option String := env.filled? "OUTPOST_LOCATION"

def settingsPath? (env : Environment) : Option String := env.filled? "OUTPOST_SETTINGS_PATH"

/-- The home directory, which is that of the account unless the environment names one. -/
def home? (env : Environment) (account : Option FilePath) : Option FilePath :=
  match env.filled? "HOME" with
  | some home => some ⟨home⟩
  | none => account

/-- The directory for configuration: the environment may give it as an absolute path. -/
def configDirectory? (env : Environment) (account : Option FilePath) : Option FilePath :=
  match env.get? "XDG_CONFIG_HOME" with
  | some text =>
    if FilePath.isAbsolute ⟨text⟩ then some ⟨text⟩ else (env.home? account).map (·.join ".config")
  | none => (env.home? account).map (·.join ".config")

/-- The file that keeps the identity unless another one is configured. -/
def defaultSettingsPath? (env : Environment) (account : Option FilePath) : Option FilePath :=
  (env.configDirectory? account).map fun directory =>
    (directory.join "outpost").join "poller-settings.json"

end Environment

end ServiceWatch.CommandLine
