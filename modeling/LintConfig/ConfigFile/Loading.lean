import LintConfig.ConfigFile
import LintConfig.FileTree

/-!
# Loading configurations

A configuration file becomes a configuration when its manifests are read and its rule entries are
normalized.

**Registry.**  The built-in plugin is registered first, then every plugin of the file in the order
of the file.  A manifest that is listed under several names is read once, and all its names denote
the same plugin: what counts is where the path leads by its steps, and not how it is spelled.

**First fault.**  The plugins are looked at in their order, and the rule entries only after them.
-/

namespace LintConfig

namespace ConfigFile

/-- Whether a plugin name is taken, by the built-in plugin or by bare identifiers. -/
def isReserved (name : String) : Bool := name = builtinName || name = ""

/-- Reads the manifest at a path. -/
def readManifest (view : FileView) (path : Path) : Except ConfigError PluginDeclaration :=
  match view.read? path with
  | none => .error (.unreadable path)
  | some text =>
    match Manifest.parse text with
    | .error cause => .error (.badManifest path cause)
    | .ok declaration => .ok declaration

/-- The plugin that was read from a path, among those read so far. -/
def alreadyLoaded? (loaded : List (Path × Plugin)) (path : Path) : Option Plugin :=
  (loaded.find? fun e => e.1.sameAs path).map Prod.snd

/-- Registers plugins by their names and manifest paths, one after the other.  `loaded` are the
manifests read so far, and `next` is the first number that no plugin and no rule has. -/
def registerAll (view : FileView) (base : Path) : List (String × Path) →
    (loaded : List (Path × Plugin)) → Registry → (next : Nat) → Except ConfigError (Registry × Nat)
  | [], _, registry, next => .ok (registry, next)
  | (name, manifest) :: rest, loaded, registry, next =>
    if isReserved name then .error (.reservedName name)
    else
      let path := base.join manifest
      match alreadyLoaded? loaded path with
      | some plugin => registerAll view base rest loaded (registry.insert name plugin) next
      | none =>
        match readManifest view path with
        | .error error => .error error
        | .ok declaration =>
          let (plugin, next) := declaration.build next
          registerAll view base rest ((path, plugin) :: loaded) (registry.insert name plugin) next

/-- The configuration that a file stands for.  Manifest paths are seen from `base`, and `builtins`
is registered as the built-in plugin; `next` is the first number that nothing in it has. -/
def load (file : ConfigFile) (view : FileView) (base : Path) (builtins : Plugin) (next : Nat) :
    Except ConfigError Configuration :=
  match registerAll view base file.plugins.entries [] ((∅ : Registry).insert builtinName builtins)
      next with
  | .error error => .error error
  | .ok (registry, _) =>
    match file.ruleEntries with
    | .error error => .error error
    | .ok rules => .ok { rules, plugins := some registry }

/-- Reads the configuration file at a path. -/
def read (view : FileView) (path : Path) : Except ConfigError ConfigFile :=
  match view.read? path with
  | none => .error (.unreadable path)
  | some text =>
    match parse? text with
    | some file => .ok file
    | none => .error .malformed

end ConfigFile

end LintConfig
