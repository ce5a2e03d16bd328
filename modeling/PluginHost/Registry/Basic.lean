import PluginHost.HostTable
import PluginHost.Roster

/-!
# The registry

The plugins of a host: those found in two directories and those that are part of the host.

* `Registry.rescan` replaces all plugins by what is found now and starts them.
* `load`, `unload` and `enableFor` act on the plugin with an identity.
* `tick` fetches positional data once, looking for a provider if there is none.
* `close` lets go of everything.

The registry keeps the last snapshot. A tick that brings no fresh data zeroes it, and so does a
scan. To unload the provider, or to take its permission away, leaves the last frame in it until the
next tick.
-/

namespace PluginHost

/-- Where plugins are looked for. -/
structure PluginDirectories where
  system : Option Path
  user : Option Path
deriving DecidableEq, Repr, Inhabited

namespace PluginDirectories

/-- The directories that are set, in the order in which they are read. -/
def toList (d : PluginDirectories) : List Path := d.system.toList ++ d.user.toList

end PluginDirectories

/-- A plugin that is part of the host. -/
structure BuiltIn where
  name : String
  generation : Generation
deriving DecidableEq, Repr

structure Registry where
  directories : PluginDirectories
  builtIns : List BuiltIn
  /-- Whether a plugin may be offered positional data once it is started. -/
  positionalDefault : Bool
  ledger : Ledger
  roster : Roster
  snapshot : Snapshot
deriving DecidableEq, Repr

namespace Registry

/-- A registry before its first scan. -/
def new (directories : PluginDirectories) : Registry :=
  ⟨directories, [], true, .initial, .empty, .zeroed⟩

/-- Adds a plugin that is part of the host; the next scan finds it. -/
def registerBuiltIn (r : Registry) (b : BuiltIn) : Registry :=
  { r with builtIns := r.builtIns ++ [b] }

/-! ## The plugins -/

def plugins (r : Registry) : List Plugin := r.roster.plugins

def size (r : Registry) : Nat := r.plugins.length

def isEmpty (r : Registry) : Bool := r.plugins.isEmpty

def byId? (r : Registry) (id : PluginId) : Option Plugin := r.roster.byId? id

/-- The plugin that provides positional data. -/
def providing? (r : Registry) : Option Plugin := r.roster.providing?

def isPositionalDataAvailable (r : Registry) : Bool := r.roster.isProviding

/-- Plugins that have been started and not shut down since. -/
def loadedPlugins (r : Registry) : List Plugin := r.plugins.filter (·.loaded)

def update (r : Registry) (p : Plugin) : Registry := { r with roster := r.roster.update p }

/-! ## Starting a plugin -/

/-- Hands the function table to a plugin of the current interface; an error, with nothing done, if
it asks for a version without a table. -/
def handTable (p : Plugin) : Interaction (Except PluginError Unit) :=
  match p.generation with
  | .legacy => return .ok ()
  | .current => do
    match HostTable.require (← p.apiVersion) with
    | .error e => return .error e
    | .ok () =>
      p.registerApi
      return .ok ()

/-- Starts a plugin that is not loaded. If it says that it started it gets the default permission
for positional data, else it is shut down. -/
def activate (positionalDefault : Bool) (p : Plugin) :
    Interaction (Except PluginError Status × Plugin) := do
  if p.loaded then return (.ok .ok, p)
  match ← handTable p with
  | .error e => return (.error e, p)
  | .ok () =>
    let (status, p) ← p.init
    if status.isOk then
      let p ← p.enable positionalDefault
      return (.ok status, p)
    else
      let p ← p.shutdown
      return (.ok status, p)

/-! ## Scanning -/

/-- The regular files with the extension of plugin libraries directly in a directory, in the order
of their paths. A directory that cannot be read has none. -/
def libraryFiles (fs : FileSystem) (directory : Path) : List Path :=
  match fs.readDir directory with
  | .error _ => []
  | .ok names =>
    let paths := names.map fun n => directory.join ⟨n⟩
    (paths.filter fun p => fs.isFile p && p.isPluginLibrary).mergeSort fun a b => !b.before a

def candidateFiles (fs : FileSystem) (d : PluginDirectories) : List Path :=
  d.toList.flatMap (libraryFiles fs)

/-- A library as its path stands for it now. -/
def librarySource (fs : FileSystem) (path : Path) : Source := .library path (fs.read path).toOption

/-- A plugin from a library: of the current interface, or else of the older one. -/
def instantiate (fs : FileSystem) (ledger : Ledger) (path : Path) :
    Interaction (Option Plugin × Ledger) := do
  let source := librarySource fs path
  match ← Plugin.create source .current ledger with
  | (.ok p, ledger) => return (some p, ledger)
  | (.error _, ledger) =>
    let (result, ledger) ← Plugin.create source .legacy ledger
    return (result.toOption, ledger)

/-- The plugins of libraries, as many as there are, and the identities spent. -/
def instantiateAll (fs : FileSystem) : Ledger → List Path → Interaction (List Plugin × Ledger)
  | ledger, [] => return ([], ledger)
  | ledger, path :: rest => do
    let (p, ledger) ← instantiate fs ledger path
    let (ps, ledger) ← instantiateAll fs ledger rest
    return (p.toList ++ ps, ledger)

/-- The plugins that are part of the host, from one index on. -/
def instantiateBuiltIns : Nat → Ledger → List BuiltIn → Interaction (List Plugin × Ledger)
  | _, ledger, [] => return ([], ledger)
  | index, ledger, b :: rest => do
    let (p, ledger) ← Plugin.create (.builtIn index) b.generation ledger
    let (ps, ledger) ← instantiateBuiltIns (index + 1) ledger rest
    return (p.toOption.toList ++ ps, ledger)

/-- Starts plugins one after the other, whatever comes of each. -/
def activateAll (positionalDefault : Bool) (ps : List Plugin) : Interaction (List Plugin) :=
  Interaction.traverse (fun p => Prod.snd <$> activate positionalDefault p) ps

/-- Lets go of plugins one after the other. -/
def dropAll : List Plugin → Interaction Unit
  | [] => return ()
  | p :: ps => do
    p.drop
    dropAll ps

/-- The last plugin of each identity. -/
def latest : List Plugin → List Plugin
  | [] => []
  | p :: ps => if ps.any (·.id == p.id) then latest ps else p :: latest ps

/-- The plugins that give way to a later one of the same identity. -/
def displaced : List Plugin → List Plugin
  | [] => []
  | p :: ps => if ps.any (·.id == p.id) then p :: displaced ps else displaced ps

/-- Lets go of all plugins, then looks for plugins in the file system and in the host and starts
them. Returns how many were found. -/
def rescan (fs : FileSystem) (r : Registry) : Interaction (Nat × Registry) := do
  let roster ← r.roster.release
  dropAll roster.plugins
  let (libraries, ledger) ← instantiateAll fs r.ledger (candidateFiles fs r.directories)
  let (hosted, ledger) ← instantiateBuiltIns 0 ledger r.builtIns
  let found ← activateAll r.positionalDefault (libraries ++ hosted)
  dropAll (displaced found)
  return (found.length, { r with ledger, roster := ⟨latest found, none⟩, snapshot := .zeroed })

/-! ## One plugin -/

/-- Starts the plugin with an identity. -/
def load (r : Registry) (id : PluginId) : Interaction (Except PluginError Status × Registry) :=
  match r.byId? id with
  | none => return (.error (.notFound id), r)
  | some p => do
    let (result, p) ← activate r.positionalDefault p
    return (result, r.update p)

/-- Shuts the plugin with an identity down; it stays registered. -/
def unload (r : Registry) (id : PluginId) : Interaction (Except PluginError Unit × Registry) :=
  match r.byId? id with
  | none => return (.error (.notFound id), r)
  | some _ => do
    let (_, roster) ← r.roster.releaseIf id
    match roster.byId? id with
    | none => return (.ok (), { r with roster })
    | some p =>
      let p ← p.shutdown
      return (.ok (), { r with roster := roster.update p })

/-- Allows or forbids the plugin with an identity to be offered positional data. An identity that
is not registered is passed over. -/
def enableFor (r : Registry) (id : PluginId) (on : Bool) : Interaction Registry :=
  match r.byId? id with
  | none => return r
  | some _ => do
    let roster ← if on then pure r.roster else Prod.snd <$> r.roster.releaseIf id
    match roster.byId? id with
    | none => return { r with roster }
    | some p =>
      let p ← p.enable on
      return { r with roster := roster.update p }

/-! ## Positional data -/

/-- The handles of plugins, the order in which they are offered positional data. -/
def handles (ps : List Plugin) : List Nat := ps.map (·.handle)

/-- Fetches positional data from the provider, after looking for one if there is none. A provider
that does not want to go on is released, and another one is looked for at once; its data comes
with the next tick. Returns whether the snapshot is fresh. -/
def tick (r : Registry) : Interaction (Bool × Registry) := do
  let roster ← r.roster.arbitrate (handles r.plugins)
  match roster.providing? with
  | none => return (false, { r with roster, snapshot := .zeroed })
  | some p =>
    let (proceed, p, snapshot) ← p.fetch r.snapshot
    let roster := roster.update p
    if proceed then return (true, { r with roster, snapshot })
    let roster ← roster.release
    let roster ← roster.arbitrate (handles (roster.plugins.filter (·.id != p.id)))
    return (false, { r with roster, snapshot := .zeroed })

/-! ## The end -/

/-- Lets go of all plugins in the order of their identities, of the provider last. -/
def close (r : Registry) : Interaction Unit := do
  dropAll (r.plugins.filter fun p => r.roster.provider != some p.handle)
  dropAll (r.plugins.filter fun p => r.roster.provider == some p.handle)

end Registry

end PluginHost
