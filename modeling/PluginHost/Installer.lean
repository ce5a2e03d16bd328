import PluginHost.Plugin.Info

/-!
# Installing plugins

A library file is looked at first and copied into a directory of plugins second.

* `Installer.inspect` loads the file as a plugin of either interface and asks it about itself. It
  changes no file and spends no identity of a registry.
* `Prepared.install` copies what was inspected; `copyInto` says how.
-/

namespace PluginHost
namespace Installer

/-- A file that proved to be a plugin, and where it is to go. -/
structure Prepared where
  source : Path
  directory : Path
  info : PluginInfo
deriving DecidableEq, Repr

/-- Why a file is no plugin: what each interface said. -/
def refusal (current legacy : PluginError) : String :=
  "not a plugin (current ABI: " ++ current.message ++ "; legacy ABI: " ++ legacy.message ++ ")"

/-- Loads a plugin of the current interface or else of the older one, with identities that count
from one. -/
def tryOut (source : Source) (candidate : Path) : Interaction (Except PluginError Plugin) := do
  match ← Plugin.create source .current .initial with
  | (.ok p, _) => return .ok p
  | (.error current, ledger) =>
    match ← Plugin.create source .legacy ledger with
    | (.ok p, _) => return .ok p
    | (.error legacy, _) => return .error (.install candidate (refusal current legacy))

/-- Looks at a file. It must be a regular one with the extension of plugin libraries. -/
def inspect (fs : FileSystem) (directory candidate : Path) :
    Interaction (Except PluginError Prepared) := do
  if !fs.isFile candidate then
    return .error (.install candidate "not a regular file")
  if !candidate.isPluginLibrary then
    return .error (.install candidate
      ("expected a ." ++ Path.libraryExtension ++ " plugin library"))
  match ← tryOut (.library candidate (fs.read candidate).toOption) candidate with
  | .error e => return .error e
  | .ok p =>
    let info ← p.info
    p.drop
    return .ok ⟨candidate, directory, info⟩

/-! ## Copying -/

/-- Both paths are there and lead to the same file. -/
def sameFile (fs : FileSystem) (a b : Path) : Bool :=
  match fs.canonicalize a, fs.canonicalize b with
  | .ok l, .ok m => l == m
  | _, _ => false

/-- Names the path that a file operation failed on. -/
def onPath {α : Type} (p : Path) (r : Except IoError α) : Except PluginError α :=
  r.mapError fun e => .io p (.io e)

/-- Takes away what is at the destination, if it leads to something. -/
def clear (fs : FileSystem) (destination : Path) : Except PluginError FileSystem :=
  if fs.exists? destination then onPath destination (fs.removeFile destination) else .ok fs

/-- Copies a file into a directory under its own name. The directory is created if it is missing; a
file that is there already is left as it is, another one of the name gives way. The file system is
as it is found after the operation, also when it failed. -/
def copyInto (fs : FileSystem) (source directory : Path) :
    Except PluginError Path × FileSystem :=
  match source.fileName? with
  | none => (.error (.install source "path has no file name"), fs)
  | some name =>
    match fs.createDirAll directory with
    | (.error e, fs) => (.error (.io directory (.io e)), fs)
    | (.ok (), fs) =>
      let destination := directory.join ⟨name⟩
      if sameFile fs source destination then (.ok destination, fs)
      else match clear fs destination with
        | .error e => (.error e, fs)
        | .ok fs =>
          match onPath destination (fs.copy source destination) with
          | .error e => (.error e, fs)
          | .ok fs => (.ok destination, fs)

/-- Copies a file that was inspected. The file system may have changed since. -/
def Prepared.install (p : Prepared) (fs : FileSystem) : Except PluginError Path × FileSystem :=
  copyInto fs p.source p.directory

/-- Inspects a file and copies it. -/
def install (fs : FileSystem) (directory candidate : Path) :
    Interaction (Except PluginError Path × FileSystem) := do
  match ← inspect fs directory candidate with
  | .error e => return (.error e, fs)
  | .ok p => return p.install fs

end Installer
end PluginHost
