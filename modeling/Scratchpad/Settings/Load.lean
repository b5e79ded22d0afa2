import Scratchpad.Host
import Scratchpad.Settings.Layers

/-!
# Loading the settings

The settings of a user on a host: the settings file is read from its place among the directories of
the user; one that cannot be read, or holds no text, counts as missing.
-/

namespace Scratchpad.Settings

/-- The settings under an environment on a host. -/
def load {σ : Type} (host : Host σ) (s : σ) (env : Environment) : Settings :=
  let path := defaultPath (.ofEnvironment env)
  ofSources path (host.readText s path).toOption env

end Scratchpad.Settings
