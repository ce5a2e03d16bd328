import PluginHost.Json.Printer
import PluginHost.Rehearsal.Stage

/-!
# Journals in JSON

An entry of the journal is an array: who was asked, what, and with which arguments.
-/

namespace PluginHost

/-- Bytes as pairs of hexadecimal digits. -/
def Json.hex (bs : List UInt8) : Json :=
  .string (String.ofList (bs.flatMap fun b => Json.hexPair b.toNat))

namespace Rehearsal
namespace Journal

def id (n : UInt32) : Json := .nat n.toNat
def number (n : Int32) : Json := .int n.toInt

open HostTable in
/-- The name of a question to the host's bridge, and its arguments. -/
def ofQuestion (q : Question) : String × List Json :=
  match q with
  | .inquiry .activeConnection => ("active_server_connection", [])
  | .inquiry (.localUser c) => ("local_user_id", [number c])
  | .inquiry (.userName c u) => ("user_name", [number c, id u])
  | .inquiry (.channelName c n) => ("channel_name", [number c, number n])
  | .inquiry (.allUsers c) => ("all_users", [number c])
  | .inquiry (.allChannels c) => ("all_channels", [number c])
  | .inquiry (.channelOfUser c u) => ("channel_of_user", [number c, id u])
  | .inquiry (.usersInChannel c n) => ("users_in_channel", [number c, number n])
  | .inquiry .transmissionMode => ("local_user_transmission_mode", [])
  | .inquiry (.findUser c s) => ("find_user_by_name", [number c, .string s])
  | .inquiry (.findChannel c s) => ("find_channel_by_name", [number c, .string s])
  | .command (.setTransmissionMode m) => ("request_local_user_transmission_mode", [number m.code])
  | .command (.moveUser c u n s) => ("request_user_move", [number c, id u, number n, .string s])
  | .command (.overwriteMicrophone on) =>
    ("request_microphone_activation_overwrite", [.bool on])
  | .command (.sendData caller c us bs s) =>
    ("send_data", [id caller, number c, .array (us.map id), .hex bs, .string s])
  | .command (.log caller s) => ("log", [id caller, .string s])
  | .command (.playSample caller s) => ("play_sample", [id caller, .string s])

/-- The size of a block of samples. -/
def ofBlock {α : Type} (b : AudioBlock α) : List Json := [.nat b.frames, .nat b.channels.toNat]

/-- Processes as an older plugin sees them, each name up to its end. -/
def ofEntries (entries : List (List UInt32 × UInt64)) : Json :=
  .array (entries.map fun (name, pid) =>
    .array [.array ((name.takeWhile (· != 0)).map id), .nat pid.toNat])

def dialogName : Dialog → String
  | .primaryAbout => "primary about"
  | .primaryConfig => "primary config"
  | .extraAbout => "qt about"
  | .extraConfig => "qt config"

/-- The name of a call, and its arguments. Dialogs are shown without a parent. -/
def ofCall : Call → String × List Json
  | .init => named .init []
  | .shutdown => named .shutdown []
  | .registerApi => named .registerApi []
  | .hostInfo host api least =>
    named .hostInfo [.string host.text, .string api.text, .string least.text]
  | .registerId i => named .registerId [id i]
  | .deactivateFeatures f => named .deactivateFeatures [id f.bits]
  | .offerPositional names pids =>
    named .offerPositional
      [.array ((names.zip pids).map fun (n, p) => .array [.hex n, .nat p.toNat])]
  | .fetchPositional => named .fetchPositional []
  | .stopPositional => named .stopPositional []
  | .serverConnected c => named .serverConnected [number c]
  | .serverDisconnected c => named .serverDisconnected [number c]
  | .channelEntered c u p n => named .channelEntered [number c, id u, number p, number n]
  | .channelExited c u n => named .channelExited [number c, id u, number n]
  | .talkingChanged c u s => named .talkingChanged [number c, id u, number s.code]
  | .receiveData c u d i => named .receiveData [number c, id u, .hex d, .string (Utf8.decode i)]
  | .audioInput b s => named .audioInput (ofBlock b ++ [.bool s])
  | .audioFetched b s u => named .audioFetched (ofBlock b ++ [.bool s, id u])
  | .audioProcessed b s u => named .audioProcessed (ofBlock b ++ [.bool s, id u])
  | .audioOutput b => named .audioOutput (ofBlock b)
  | .longDescription => ("longdesc", [])
  | .tryLock => ("trylock", [])
  | .tryLockAmong entries => ("trylock2", [ofEntries entries])
  | .unlock => ("unlock", [])
  | .fetchLegacy => ("fetch", [])
  | .showDialog d => (dialogName d, [.bool true])
  | _ => ("", [])
where
  named (e : EntryPoint) (args : List Json) : String × List Json := (e.symbol, args)

/-- The name of what a run gave up on. -/
def failureName : Failure → String
  | .settings => "LoadConfiguration"
  | .telemetry => "Telemetry"
  | .userDirectory => "MissingUserPluginDir"
  | .plugin => "Plugin"
  | .serialise => "Serialise"
  | .write => "Write"

def ofHealth (e : HealthEvent) : List Json :=
  .string e.name :: match e with
    | .scanned n => [.nat n]
    | .failed cause => [.string (failureName cause)]
    | _ => []

def question (q : HostTable.Question) : Json :=
  let (name, args) := ofQuestion q
  .array (.string "host" :: .string name :: args)

def entry : Entry → Json
  | .called part c =>
    let (name, args) := ofCall c
    .array (.nat part :: .string name :: args)
  | .logReturned part s => .array [.nat part, .string "log returned", number s.code]
  | .hostAsked q => question q
  | .processesListed => .array [.string "processes listed"]
  | .health e => .array (.string "health" :: ofHealth e)

def toJson (es : List Entry) : Json := .array (es.map entry)

end Journal
end Rehearsal
end PluginHost
