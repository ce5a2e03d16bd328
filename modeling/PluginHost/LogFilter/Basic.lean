import PluginHost.LogFilter.Directive
import PluginHost.Settings.Basic
import PluginHost.Text.Pieces

/-!
# Log filters

A filter decides which log events are shown, by directives in order of how specific they are: the
first one that applies to an event decides. Where none applies nothing is shown.

Log lines of plugins have a target of their own; `pluginDirective?` adds their level to a filter
that does not mention it. It does not look into the filter any further: how a filter is read and
what it shows is what the library that filters is documented to do.
-/

namespace PluginHost

namespace LogFilter

/-- A directive that can be decided from an event alone: a target, names of fields, a level. -/
structure Rule where
  target : Option String
  fields : List String
  level : LogLevel
deriving DecidableEq, Repr

/-- What a filter knows about an event. -/
structure EventShape where
  target : String
  fields : List String
  level : LogLevel
deriving DecidableEq, Repr

/-- The rule of a directive. Spans and values of fields are not known from an event alone. -/
def Directive.rule? (d : Directive) : Option Rule :=
  if d.span.isSome || d.fields.any (·.value.isSome) then none
  else some ⟨d.target, d.fields.map (·.name), d.level⟩

namespace Rule

/-- Rules for the same events. -/
def sameScope (a b : Rule) : Bool := a.target == b.target && a.fields == b.fields

/-- How long the target is; a rule without target comes below all others. -/
def targetLength (r : Rule) : Nat := (r.target.map fun t => t.utf8ByteSize + 1).getD 0

/-- The rule is more specific: it has the longer target, or else more fields. -/
def moreSpecific (a b : Rule) : Bool :=
  b.targetLength < a.targetLength ||
    (a.targetLength == b.targetLength && b.fields.length < a.fields.length)

/-- Among equally specific rules the later texts come first. -/
def before (a b : Rule) : Bool :=
  a.moreSpecific b || (!b.moreSpecific a &&
    ((b.target.getD "") < (a.target.getD "") ||
      (a.target == b.target && b.fields < a.fields)))

/-- The rule is about the event. -/
def appliesTo (r : Rule) (e : EventShape) : Bool :=
  (r.target.map fun t => t.toList.isPrefixOf e.target.toList).getD true &&
    r.fields.all e.fields.contains

end Rule

end LogFilter

/-- Rules, the most specific one first. -/
structure LogFilter where
  rules : List LogFilter.Rule
deriving DecidableEq, Repr

namespace LogFilter

def empty : LogFilter := ⟨[]⟩

/-- Adds a rule in its place; it replaces one for the same events. -/
def add (f : LogFilter) (r : Rule) : LogFilter :=
  let others := f.rules.filter (!·.sameScope r)
  ⟨others.takeWhile (·.before r) ++ r :: others.dropWhile (·.before r)⟩

def addDirective (f : LogFilter) (d : Directive) : LogFilter :=
  match d.rule? with
  | some r => f.add r
  | none => f

/-- The event is shown. -/
def shows (f : LogFilter) (e : EventShape) : Bool :=
  match f.rules.find? (·.appliesTo e) with
  | some r => e.level.rank ≤ r.level.rank
  | none => false

/-- Reads directives between commas; empty ones are passed over. -/
def parse (s : String) : Except ParseError LogFilter := do
  let texts := (Pieces.split ',' s.toList).filter (!·.isEmpty)
  let directives ← texts.mapM Directive.parse
  return directives.foldl addDirective empty

/-! ## Log lines of plugins -/

/-- The target of log lines that plugins write. -/
def pluginTarget : String := "lyre_plugins::plugin_log"

/-- Some directive of the filter text is about log lines of plugins. -/
def mentionsPlugins (s : String) : Bool :=
  (Pieces.split ',' s.toList).any fun piece => pluginTarget.toList.isPrefixOf (Blank.trim piece)

/-- The directive that sets the level of plugins' log lines, unless the filter text mentions
them. -/
def pluginDirective? (settings : Settings) : Option String :=
  if mentionsPlugins settings.logFilter then none
  else some (settings.pluginLogLevel.directiveFor pluginTarget)

/-- The filter that settings ask for. -/
def ofSettings (settings : Settings) : Except ParseError LogFilter := do
  let filter ← parse settings.logFilter
  match pluginDirective? settings with
  | none => return filter
  | some text => return filter.addDirective (← Directive.parse text.toList)

end LogFilter

end PluginHost
