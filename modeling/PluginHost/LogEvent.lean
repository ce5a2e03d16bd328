import PluginHost.Call
import PluginHost.LogFilter.Basic
import PluginHost.Text.Quoted

/-!
# Log events

What goes to the operator's log: lines that plugins write and reports on the health of a run.
`LogEvent.shape` is what a filter knows about an event.
-/

namespace PluginHost

namespace HealthEvent

def name : HealthEvent → String
  | starting => "bootstrap_starting"
  | ready => "bootstrap_succeeded"
  | scanned _ => "plugins_scanned"
  | failed _ => "probe_failed"

def level : HealthEvent → LogLevel
  | starting => .debug
  | ready => .info
  | scanned _ => .info
  | failed _ => .error

/-- The fields of the event's log line. -/
def fields : HealthEvent → List String
  | starting => ["message", "event"]
  | ready => ["message", "event", "system_plugin_dir", "user_plugin_dir", "log_filter",
      "log_format", "plugin_log_level"]
  | scanned _ => ["message", "event", "count"]
  | failed _ => ["message", "event", "error"]

end HealthEvent

inductive LogEvent where
  /-- A line that a plugin wrote. -/
  | plugin (caller : PluginId) (message : String)
  | health (event : HealthEvent)
deriving DecidableEq, Repr

namespace LogEvent

/-- The target of reports on the health of a run. -/
def healthTarget : String := "lyre_probe::health"

def shape : LogEvent → LogFilter.EventShape
  | plugin .. => ⟨LogFilter.pluginTarget, ["message", "plugin_id"], .info⟩
  | health e => ⟨healthTarget, e.fields, e.level⟩

/-- The events that a filter shows. -/
def shown (f : LogFilter) (es : List LogEvent) : List LogEvent := es.filter fun e => f.shows e.shape

/-- The events of a run that its log can show: those since the log was set up. -/
def sinceReady (es : List LogEvent) : List LogEvent := es.dropWhile (· != health .ready)

/-- A character of a message in the compact format. One that a terminal obeys is written by number:
escape, bell, backspace, form feed, delete and the controls past ASCII. Others are kept, ends of
lines too. -/
def compactChar (c : Char) : List Char :=
  match c with
  | '\x1b' => "\\x1b".toList
  | '\x07' => "\\x07".toList
  | '\x08' => "\\x08".toList
  | '\x0c' => "\\x0c".toList
  | '\x7f' => "\\x7f".toList
  | _ => if 0x80 ≤ c.toNat && c.toNat ≤ 0x9f then Quoted.byNumber c else [c]

/-- A message as a log in the format has it. -/
def shownMessage (format : LogFormat) (message : String) : String :=
  match format with
  | .compact => String.ofList (message.toList.flatMap compactChar)
  | .json => message

end LogEvent

end PluginHost
