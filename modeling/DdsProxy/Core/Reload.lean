import DdsProxy.Yaml.YamlReaderConfiguration

/-!
Reloading the configuration of a running proxy. `DdsProxy::reload_configuration` checks the
new configuration with `is_valid` and hands it to `DdsPipe::reload_configuration`: the pipe
is the only reconfigurable part, so the proxy's participants and its own `configuration_`
stay as construction left them. `main` reloads from two callbacks, one run when the file
changes and one on a timer. Each loads the file, reloads, and turns any exception into a
warning, so the proxy keeps running with the pipe as it was.
-/

namespace DdsProxy.Core

variable {κ σ π ρ : Type}

def ConstructionException.what : ConstructionException → String
  | .configuration msg => msg
  | .initialization msg => msg

/-- `DdsProxy::reload_configuration`: `is_valid` first, then `DdsPipe::reload_configuration`
on the pipe, whose return code it returns. Neither is part of the sources, so both are
parameters; `reloadPipe` reads the configuration's `ddspipe_configuration`. -/
def DdsProxy.reloadConfiguration (isValid : DdsProxyConfiguration κ σ → Except String Unit)
    (reloadPipe : DdsProxyConfiguration κ σ → π → ρ × π)
    (newConfiguration : DdsProxyConfiguration κ σ) (pipe : π) :
    Except ConstructionException (ρ × π) :=
  match isValid newConfiguration with
  | .error msg =>
      .error (.configuration ("Configuration for Reload DDS Proxy is invalid: " ++ msg))
  | .ok () => .ok (reloadPipe newConfiguration pipe)

end DdsProxy.Core

namespace DdsProxy.Reload

open Core

variable {κ σ π ρ : Type}

section callbacks

variable (loadFromFile : String → Except ConstructionException (DdsProxyConfiguration κ σ))
  (reload : DdsProxyConfiguration κ σ → π → Except ConstructionException (ρ × π))

/-- The body of `main`'s two reload callbacks: load the configuration from `filePath`,
reload the proxy with it, and catch any exception as the warning "Error reloading
configuration file <name> with error: <what>". It returns the pipe and the warning. -/
def reloadFromFile (name filePath : String) (pipe : π) : π × Option String :=
  match loadFromFile filePath >>= fun configuration => reload configuration pipe with
  | .ok (_, pipe') => (pipe', none)
  | .error e =>
      (pipe, some ("Error reloading configuration file " ++ name ++ " with error: " ++ e.what))

def filewatcherCallback (filePath fileName : String) (pipe : π) : π × Option String :=
  reloadFromFile loadFromFile reload fileName filePath pipe

def periodicCallback (filePath : String) (pipe : π) : π × Option String :=
  reloadFromFile loadFromFile reload filePath filePath pipe

end callbacks

theorem reloadFromFile_reloadConfiguration
    (loadFromFile : String → Except ConstructionException (DdsProxyConfiguration κ σ))
    (isValid : DdsProxyConfiguration κ σ → Except String Unit)
    (reloadPipe : DdsProxyConfiguration κ σ → π → ρ × π) (name filePath : String) (pipe : π) :
    reloadFromFile loadFromFile (DdsProxy.reloadConfiguration isValid reloadPipe) name filePath
        pipe =
      match loadFromFile filePath with
      | .error e =>
          (pipe, some ("Error reloading configuration file " ++ name ++ " with error: " ++
            e.what))
      | .ok configuration =>
          match isValid configuration with
          | .error msg =>
              (pipe, some ("Error reloading configuration file " ++ name ++ " with error: " ++
                ("Configuration for Reload DDS Proxy is invalid: " ++ msg)))
          | .ok () => ((reloadPipe configuration pipe).2, none) := by
  unfold reloadFromFile
  cases loadFromFile filePath with
  | error e => rfl
  | ok configuration =>
      cases hv : isValid configuration <;>
        simp only [bind, Except.bind, DdsProxy.reloadConfiguration, hv, ConstructionException.what]

end DdsProxy.Reload
