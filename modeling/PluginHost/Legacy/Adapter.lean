import PluginHost.Error
import PluginHost.Interaction
import PluginHost.Legacy.ChangeCache
import PluginHost.Text.Wide

/-!
# Plugins of the older interface

An older plugin is a set of static records with callbacks. The adapter reads the records once, and
then answers what a table of entry points answers: it offers processes through a try-lock, fetches
through buffers with change caches, and stops by unlocking.
-/

namespace PluginHost
namespace Legacy

/-- The number that the main record carries. -/
def magic : UInt32 := 0xd63ab7c0

/-- The short name by which a plugin withdraws itself. -/
def retractedName : String := "Retracted"

/-- The name of a plugin that states none. -/
def unknownName : String := "Unknown plugin"

/-- The description of a plugin that states none. -/
def noDescription : String := "No description provided"

/-- Reads a pointer to a wide string; null is the empty text. -/
def readWide (pointer : Option (List UInt32)) : String := Wide.read (pointer.getD [])

/-- What the host keeps of an older plugin. -/
structure Adapter where
  primary : LegacyPrimary
  extended : Option LegacyExtended
  dialogs : Option LegacyDialogs
  name : String
  description : String
  contextCache : ChangeCache UInt8
  identityCache : ChangeCache UInt32
deriving DecidableEq, Repr

/-- The long description if the plugin has a callback for it that returns some text, else the short
one, else a fixed text. -/
def readDescription (who : Occupant) (primary : LegacyPrimary) : Interaction String := do
  let long ← if primary.hasLongDescription then
      readWide <$> Interaction.call who .longDescription
    else pure ""
  let short := readWide primary.description
  return if !long.isEmpty then long else if !short.isEmpty then short else noDescription

/-- Reads the records of a plugin through its factories. It is refused if the main factory is
missing, returns null, or returns a record with another number or with the withdrawn name; the
first of these counts, and nothing else is asked of the plugin then. -/
def Adapter.resolve (who : Occupant) (table : SymbolTable) :
    Interaction (Except PluginError Adapter) := do
  if !table.exports LegacySymbol.primary then
    return .error (.missingSymbol table.origin LegacySymbol.primary)
  match ← Interaction.call who .primaryFactory with
  | none =>
    return .error (.invalid table.origin (LegacySymbol.primary ++ " returned null"))
  | some primary =>
    if primary.magic ≠ magic then
      return .error (.magicMismatch table.origin primary.magic magic)
    let shortName := readWide primary.shortName
    if shortName = retractedName then
      return .error (.retracted table.origin)
    let extended ← if table.exports LegacySymbol.extended then
        Interaction.call who .extendedFactory
      else pure none
    let dialogs ← if table.exports LegacySymbol.dialogs then
        Interaction.call who .dialogFactory
      else pure none
    let description ← readDescription who primary
    let name := if shortName.isEmpty then unknownName else shortName
    return .ok ⟨primary, extended, dialogs, name, description, .empty, .empty⟩

namespace Adapter

/-- The extended record states a major version; it is limited to the largest signed word. Without
that record the version is one. -/
def version (a : Adapter) : Version :=
  match a.extended with
  | none => ⟨1, 0, 0⟩
  | some e => ⟨Int32.ofNat (min e.version.toNat 2147483647), 0, 0⟩

/-! ## Positional data -/

/-- Wide strings are ordered unit by unit, a string before its extensions. -/
def wideLe : List UInt32 → List UInt32 → Bool
  | [], _ => true
  | _ :: _, [] => false
  | a :: as, b :: bs => a < b || (a == b && wideLe as bs)

/-- The process table as the process-aware lock receives it: names as wide strings in their order,
equal names in the table's order. -/
def lockEntries (processes : List Process) : List (List UInt32 × UInt64) :=
  (processes.map fun p => (Wide.encode p.name, p.pid)).mergeSort fun a b => wideLe a.1 b.1

/-- Tries to lock onto a game. The process-aware lock is preferred; a plugin without any lock never
locks. A lock that fails may be tried again. -/
def offer (a : Adapter) (who : Occupant) (processes : List Process) : Interaction OfferCode := do
  let locked : Int32 ←
    if (a.extended.map (·.hasTryLock)).getD false then
      Interaction.call who (.tryLockAmong (lockEntries processes))
    else if a.primary.hasTryLock then Interaction.call who .tryLock
    else pure 0
  return if locked = 0 then .temporary else .ok

/-- The bytes of the context: none for a null pointer, as many as the stated length else. -/
def contextBytes (r : LegacyFetchReply) : List UInt8 :=
  (r.context.getD []).take r.contextLength

/-- The units of the identity. -/
def identityUnits (r : LegacyFetchReply) : List UInt32 := Wide.terminated (r.identity.getD [])

/-- Fetches into a snapshot. Without a fetch callback the snapshot is zeroed and the plugin
stops. -/
def fetch (a : Adapter) (who : Occupant) (s : Snapshot) :
    Interaction (Bool × Adapter × Snapshot) := do
  if !a.primary.hasFetch then return (false, a, .zeroed)
  let r ← Interaction.call who .fetchLegacy
  let contextCache := a.contextCache.refresh Utf8.decode (contextBytes r)
  let identityCache := a.identityCache.refresh Wide.decode (identityUnits r)
  let frame : Frame := ⟨r.vectors, contextCache.text, identityCache.text, r.attached != 0⟩
  return (frame.proceed, { a with contextCache, identityCache }, s.apply frame)

/-- Lets go of the game. -/
def stop (a : Adapter) (who : Occupant) : Interaction Unit :=
  if a.primary.hasUnlock then Interaction.call who .unlock else return ()

/-! ## Dialogs

The record of dialogs is asked first, the main record second. -/

def aboutDialog? (a : Adapter) : Option Dialog :=
  if (a.dialogs.map (·.hasAbout)).getD false then some .extraAbout
  else if a.primary.hasAbout then some .primaryAbout
  else none

def configDialog? (a : Adapter) : Option Dialog :=
  if (a.dialogs.map (·.hasConfig)).getD false then some .extraConfig
  else if a.primary.hasConfig then some .primaryConfig
  else none

/-- Shows a dialog, if there is one, without a parent window. -/
def showDialog (who : Occupant) : Option Dialog → Interaction Bool
  | none => return false
  | some d => do
    Interaction.call who (.showDialog d)
    return true

end Adapter
end Legacy
end PluginHost
