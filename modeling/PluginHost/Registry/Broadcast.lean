import PluginHost.Plugin.Event
import PluginHost.Registry.Basic

/-!
# Broadcasts

What happens in the voice client goes to every loaded plugin in the order of their identities.
Received data goes no further than to the first plugin that handles it; an audio buffer goes through
all hooks, each working on what the ones before it left.
-/

namespace PluginHost
namespace Registry

def notify (r : Registry) (n : Notification) : Interaction Unit := do
  let _ ← Interaction.traverse (fun p : Plugin => p.notifyOf n) r.loadedPlugins
  return ()

/-- Offers data to plugins until one handles it. Returns whether one did. -/
def receiveInTurn (m : Message) : List Plugin → Interaction Bool
  | [] => return false
  | p :: ps => do
    if ← p.receive m then return true else receiveInTurn m ps

def receive (r : Registry) (m : Message) : Interaction Bool := receiveInTurn m r.loadedPlugins

/-- Passes a buffer through the hooks of plugins. Returns whether one of them changed it. -/
def pipeline {α : Type} (hook : Plugin → List α → Interaction (Bool × List α)) (ps : List Plugin)
    (samples : List α) : Interaction (Bool × List α) :=
  Interaction.foldM (fun (modified, samples) p => do
    let (changed, samples) ← hook p samples
    return (changed || modified, samples)) (false, samples) ps

def audioInput (r : Registry) (samples : List Int16) (channels : UInt16) (speech : Bool) :
    Interaction (Bool × List Int16) :=
  pipeline (fun p samples => p.audioInput samples channels speech) r.loadedPlugins samples

def audioStage (r : Registry) (stage : AudioStage) (samples : List Binary32)
    (channels : UInt16) : Interaction (Bool × List Binary32) :=
  pipeline (fun p samples => p.audioStage stage samples channels) r.loadedPlugins samples

end Registry
end PluginHost
