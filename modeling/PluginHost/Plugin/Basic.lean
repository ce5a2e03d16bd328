import PluginHost.Legacy.Adapter

/-!
# Plugins

One plugin as the host keeps it: its identity, what it exports, and the flags of its life.

* `Plugin.create` maps the code, takes an identity and validates what is exported.
* `valid` says that it passed validation, `loaded` that it was started and not shut down since,
  `enabled` that it may be offered positional data, `active` that it took an offer.
* Operations return the plugin with its new flags. What the plugin itself does is asked through
  `Interaction.call`.
-/

namespace PluginHost

/-! ## Identities -/

/-- Hands out identities from one up; the last one is given out for ever. -/
structure IdAllocator where
  next : PluginId
deriving DecidableEq, Repr

namespace IdAllocator

def initial : IdAllocator := ⟨1⟩

def allocate (a : IdAllocator) : PluginId × IdAllocator :=
  (a.next, ⟨if a.next = 0xFFFFFFFF then a.next else a.next + 1⟩)

end IdAllocator

/-- Counts identities and attempts to use a source. -/
structure Ledger where
  ids : IdAllocator
  nextHandle : Nat
deriving DecidableEq, Repr

namespace Ledger

def initial : Ledger := ⟨.initial, 0⟩

def allocateId (l : Ledger) : PluginId × Ledger :=
  (l.ids.allocate.1, { l with ids := l.ids.allocate.2 })

def newHandle (l : Ledger) : Nat × Ledger :=
  (l.nextHandle, { l with nextHandle := l.nextHandle + 1 })

end Ledger

/-! ## Entry points -/

/-- The functions of the current interface that a plugin offers. -/
structure EntryPoints where
  available : List EntryPoint
deriving DecidableEq, Repr

namespace EntryPoints

def has (e : EntryPoints) (p : EntryPoint) : Bool := e.available.contains p

/-- The first mandatory function that a table does not export. -/
def firstMissing? (t : SymbolTable) : Option EntryPoint :=
  EntryPoint.mandatory.find? fun p => !t.exports p.symbol

/-- All three functions for positional data are exported. -/
def exportsPositional (t : SymbolTable) : Bool :=
  EntryPoint.positional.all fun p => t.exports p.symbol

/-- The functions that a table exports; those for positional data only together. -/
def ofTable (t : SymbolTable) : EntryPoints :=
  ⟨EntryPoint.all.filter fun p =>
    t.exports p.symbol && (exportsPositional t || !EntryPoint.positional.contains p)⟩

/-- Looks the mandatory functions up, then the others. -/
def resolve (t : SymbolTable) : Except PluginError EntryPoints :=
  match firstMissing? t with
  | some p => .error (.missingSymbol t.origin p.symbol)
  | none => .ok (ofTable t)

/-- A plugin has the functions that its table exports, those for positional data only if all of them
are there. -/
theorem has_ofTable (t : SymbolTable) (p : EntryPoint) :
    (ofTable t).has p =
      (t.exports p.symbol && (exportsPositional t || !EntryPoint.positional.contains p)) := by
  simp [has, ofTable, EntryPoint.mem_all, List.contains_eq_mem]

end EntryPoints

/-! ## The plugin -/

/-- How a plugin is driven. A plugin that did not pass validation has nothing to drive. -/
inductive Backend where
  | unresolved
  | current (entries : EntryPoints)
  | legacy (adapter : Legacy.Adapter)
deriving DecidableEq, Repr

structure Plugin where
  who : Occupant
  id : PluginId
  generation : Generation
  origin : String
  backend : Backend
  valid : Bool
  loaded : Bool
  enabled : Bool
  active : Bool
deriving DecidableEq, Repr

namespace Plugin

def handle (p : Plugin) : Nat := p.who.handle

/-- The path of the library, none for a plugin that is part of the host. -/
def path? (p : Plugin) : Option Path :=
  match p.who.source with
  | .library path _ => some path
  | .builtIn _ => none

def isBuiltIn (p : Plugin) : Bool := p.path?.isNone

/-- The plugin is of the current interface and exports the function. -/
def exports (p : Plugin) (e : EntryPoint) : Bool :=
  match p.backend with
  | .current entries => entries.has e
  | _ => false

def call (p : Plugin) (c : Call) : Interaction c.Reply := Interaction.call p.who c

/-- Calls a function of the current interface if the plugin has it; else the default is the
answer. -/
def callOr (p : Plugin) (e : EntryPoint) (c : Call) (default : c.Reply) : Interaction c.Reply :=
  if p.exports e then p.call c else pure default

/-- Calls a function of the current interface if the plugin has it and drops the answer. -/
def notify (p : Plugin) (e : EntryPoint) (c : Call) : Interaction Unit :=
  if p.exports e then do
    let _ ← p.call c
    return ()
  else return ()

/-! ## Creation -/

/-- A plugin that has its code and its identity but is not validated. -/
def construct (who : Occupant) (id : PluginId) (generation : Generation) (origin : String) :
    Plugin :=
  ⟨who, id, generation, origin, .unresolved, false, false, false, false⟩

/-- The way to drive a plugin of a generation that exports a table, or why it is none. -/
def validate (generation : Generation) (who : Occupant) (table : SymbolTable) :
    Interaction (Except PluginError Backend) :=
  match generation with
  | .current => pure ((EntryPoints.resolve table).map Backend.current)
  | .legacy => do
    let adapter ← Legacy.Adapter.resolve who table
    return adapter.map Backend.legacy

/-- The error for a source whose code cannot be mapped. -/
def loadError : Source → PluginError
  | .library path _ => .load path "no library can be loaded from this file"
  | .builtIn index => .invalid ("built-in " ++ toString index) "it has no symbols"

/-- The table of a source: a library is known by its path, a table in the host by its label. -/
def labelled (source : Source) (table : SymbolTable) : SymbolTable :=
  match source with
  | .library path _ => { table with origin := path.text }
  | .builtIn _ => table

/-- Maps the code of a source, takes the next identity and validates what is exported. A source
that cannot be mapped takes no identity; one that does not pass is released again, but its identity
is spent. -/
def create (source : Source) (generation : Generation) (ledger : Ledger) :
    Interaction (Except PluginError Plugin × Ledger) := do
  let (handle, ledger) := ledger.newHandle
  let who : Occupant := ⟨handle, source⟩
  match ← Interaction.call who .load with
  | none => return (.error (loadError source), ledger)
  | some table =>
    let table := labelled source table
    let (id, ledger) := ledger.allocateId
    let plugin := construct who id generation table.origin
    match ← validate generation who table with
    | .ok backend => return (.ok { plugin with backend, valid := true }, ledger)
    | .error e =>
      Interaction.call who .unload
      return (.error e, ledger)

/-! ## Life -/

/-- Stops providing positional data, if it was active. -/
def stopPositional (p : Plugin) : Interaction Plugin := do
  if !p.active then return p
  match p.backend with
  | .current _ => p.notify .stopPositional .stopPositional
  | .legacy adapter => adapter.stop p.who
  | .unresolved => pure ()
  return { p with active := false }

/-- Allows or forbids offers of positional data. A plugin that is not loaded cannot be allowed;
one that is forbidden stops. -/
def enable (p : Plugin) (on : Bool) : Interaction Plugin :=
  if on then
    return (if p.loaded then { p with enabled := true } else p)
  else
    stopPositional { p with enabled := false }

/-- Starts a plugin: tells it about the host, starts it, tells it its identity. It counts as loaded
whatever status it answers. A plugin that is loaded already is left alone. -/
def init (p : Plugin) : Interaction (Status × Plugin) := do
  if !p.valid then return (.genericError, p)
  if p.loaded then return (.ok, p)
  match p.backend with
  | .current _ =>
    p.notify .hostInfo (.hostInfo .host .pluginApi .minimumPluginApi)
    let status ← p.callOr .init .init .ok
    p.notify .registerId (.registerId p.id)
    return (status, { p with loaded := true })
  | _ => return (.ok, { p with loaded := true })

/-- Shuts a loaded plugin down, its positional data first. -/
def shutdown (p : Plugin) : Interaction Plugin := do
  if !p.loaded then return p
  let p ← p.stopPositional
  p.notify .shutdown .shutdown
  return { p with enabled := false, loaded := false }

/-- Lets go of a plugin: it is shut down if it is loaded, then its code is released. -/
def drop (p : Plugin) : Interaction Unit := do
  let p ← p.shutdown
  p.call .unload

/-- Hands the host's function table to a plugin of the current interface. -/
def registerApi (p : Plugin) : Interaction Unit := p.notify .registerApi .registerApi

/-! ## What a plugin says about itself -/

/-- Reads a pointer to a byte string: nothing for null. -/
def readText (pointer : Option (List UInt8)) : Option String := pointer.map Utf8.decodeTerminated

/-- The author of a plugin that states none. -/
def unknownAuthor : String := "Unknown"

def name (p : Plugin) : Interaction String :=
  match p.backend with
  | .legacy adapter => return adapter.name
  | _ => do return (readText (← p.callOr .name .name none)).getD Legacy.unknownName

def description (p : Plugin) : Interaction String :=
  match p.backend with
  | .legacy adapter => return adapter.description
  | _ => do return (readText (← p.callOr .description .description none)).getD Legacy.noDescription

def author (p : Plugin) : Interaction String := do
  return (readText (← p.callOr .author .author none)).getD unknownAuthor

def version (p : Plugin) : Interaction Version :=
  match p.backend with
  | .legacy adapter => return adapter.version
  | _ => p.callOr .version .version .zero

/-- The interface version that a plugin is written for; an older plugin cannot say. -/
def apiVersion (p : Plugin) : Interaction Version := p.callOr .apiVersion .apiVersion .unknown

/-- What a plugin can do; an older plugin is there for positional data. -/
def features (p : Plugin) : Interaction FeatureSet :=
  match p.backend with
  | .legacy _ => return .positional
  | _ => p.callOr .features .features .none

/-- Asks a plugin to do without some features; what it cannot do without is returned. -/
def deactivateFeatures (p : Plugin) (requested : FeatureSet) : Interaction FeatureSet :=
  p.callOr .deactivateFeatures (.deactivateFeatures requested) requested

/-! ## Positional data -/

/-- The processes whose names can be handed over as byte strings. -/
def nameable (processes : List Process) : List Process :=
  processes.filter fun q => !Utf8.hasNul q.name

/-- Offers the process table. A plugin without the functions for positional data declines for good;
one that accepts is active. -/
def offer (p : Plugin) (processes : List Process) : Interaction (OfferCode × Plugin) := do
  let code ← match p.backend with
    | .current _ =>
      let offered := nameable processes
      p.callOr .offerPositional
        (.offerPositional (offered.map fun q => Utf8.encode q.name) (offered.map (·.pid)))
        .permanent
    | .legacy adapter => adapter.offer p.who processes
    | .unresolved => pure .permanent
  return (code, if code = .ok then { p with active := true } else p)

/-- The frame that a plugin of the current interface left behind. Null texts are empty. -/
def frameOf (r : FetchReply) : Frame :=
  ⟨r.vectors, (readText r.context).getD "", (readText r.identity).getD "", r.proceed⟩

/-- Fetches into a snapshot and makes it finite. Returns whether the plugin wants to be asked again.
A plugin without the functions for positional data zeroes the snapshot and does not. -/
def fetch (p : Plugin) (s : Snapshot) : Interaction (Bool × Plugin × Snapshot) := do
  let (proceed, p, s) ← match p.backend with
    | .current entries =>
      if entries.has .fetchPositional then do
        let frame := frameOf (← p.call .fetchPositional)
        pure (frame.proceed, p, s.apply frame)
      else pure (false, p, Snapshot.zeroed)
    | .legacy adapter => do
      let (proceed, adapter, s) ← adapter.fetch p.who s
      pure (proceed, { p with backend := .legacy adapter }, s)
    | .unresolved => pure (false, p, Snapshot.zeroed)
  return (proceed, p, s.sanitized)

/-! ## Dialogs

Only older plugins have dialogs. -/

def aboutDialog? (p : Plugin) : Option Dialog :=
  match p.backend with
  | .legacy adapter => adapter.aboutDialog?
  | _ => none

def configDialog? (p : Plugin) : Option Dialog :=
  match p.backend with
  | .legacy adapter => adapter.configDialog?
  | _ => none

/-- Shows the about dialog; false if there is none. -/
def showAbout (p : Plugin) : Interaction Bool := Legacy.Adapter.showDialog p.who p.aboutDialog?

/-- Shows the dialog with settings; false if there is none. -/
def showConfig (p : Plugin) : Interaction Bool := Legacy.Adapter.showDialog p.who p.configDialog?

end Plugin

end PluginHost
