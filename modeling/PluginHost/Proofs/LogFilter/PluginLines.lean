import Mathlib.Data.List.DropRight
import PluginHost.LogFilter.Basic

/-!
# The level of plugins' log lines

A filter text that names the target of plugins' log lines decides about them, and any other text
gets a directive for them. Which of both it is is told by how its directives begin.

* **`LogFilter.targetOf`**: the target of a directive.
* **`isPrefix_targetOf_iff`**: a directive begins with the target of plugins iff its own target
  does.
* **`plugin_directive_iff`**: which texts get the directive, and which of them should.
-/

namespace PluginHost

namespace Blank

variable {cs target : List Char}

/-- A text that does not begin with a blank is cut at its end only. -/
theorem trim_eq_rdropWhile (h : ∀ c ∈ cs.head?, isBlank c = false) :
    trim cs = cs.rdropWhile isBlank := by
  have hfront : cs.dropWhile isBlank = cs := by
    cases cs with
    | nil => rfl
    | cons c cs => simp [h c (by simp)]
  unfold trim
  rw [hfront]
  rfl

theorem isPrefix_of_trim (h : ∀ c ∈ cs.head?, isBlank c = false) : trim cs <+: cs := by
  rw [trim_eq_rdropWhile h]
  exact List.rdropWhile_prefix _ _

/-- A text that was trimmed does not begin with a blank. -/
theorem head_trim (cs : List Char) : ∀ c ∈ (trim cs).head?, isBlank c = false := by
  intro c hc
  have hprefix : trim cs <+: cs.dropWhile isBlank := List.rdropWhile_prefix _ _
  obtain ⟨more, hmore⟩ := hprefix
  have hhead : (cs.dropWhile isBlank).head? = some c := by
    rw [← hmore, List.head?_append, hc]
    rfl
  have hnot := List.head?_dropWhile_not isBlank cs
  rwa [hhead] at hnot

/-- What ends in no blank stays whole whatever follows it. -/
theorem isPrefix_rdropWhile (hne : target ≠ []) (h : isBlank (target.getLast hne) = false)
    (cs : List Char) : target <+: (target ++ cs).rdropWhile isBlank := by
  induction cs using List.reverseRecOn with
  | nil =>
    have hwhole : target.rdropWhile isBlank = target :=
      List.rdropWhile_eq_self_iff.2 fun _ => by simpa using h
    exact ⟨[], by rw [List.append_nil, hwhole]⟩
  | append_singleton cs c ih =>
    rw [← List.append_assoc, List.rdropWhile_concat]
    split
    · exact ih
    · rw [List.append_assoc]
      exact List.prefix_append _ _

end Blank

namespace LogFilter

variable {piece : List Char}

/-- The target of a directive: what stands before its first equals sign or bracket. -/
def targetOf (piece : List Char) : List Char :=
  Blank.trim ((Blank.trim piece).takeWhile fun c => c != '=' && c != '[')

/-- Some directive of the text has the target of plugins' log lines. -/
def namesPlugins (s : String) : Bool :=
  (Pieces.split ',' s.toList).any fun piece => targetOf piece == pluginTarget.toList

/-- A directive begins with the target of plugins iff its own target does. -/
theorem isPrefix_targetOf_iff :
    pluginTarget.toList <+: Blank.trim piece ↔ pluginTarget.toList <+: targetOf piece := by
  have hhead : ∀ c ∈ ((Blank.trim piece).takeWhile fun c => c != '=' && c != '[').head?,
      Blank.isBlank c = false := by
    intro c hc
    obtain ⟨more, hmore⟩ := List.takeWhile_prefix (l := Blank.trim piece)
      fun c => c != '=' && c != '['
    refine Blank.head_trim piece c ?_
    rw [← hmore, List.head?_append, hc]
    rfl
  constructor
  · rintro ⟨more, hmore⟩
    have hplain : (pluginTarget.toList.all fun c => c != '=' && c != '[') = true := by decide
    unfold targetOf
    rw [Blank.trim_eq_rdropWhile hhead, ← hmore,
      List.takeWhile_append_of_pos (List.all_eq_true.1 hplain)]
    exact Blank.isPrefix_rdropWhile (by decide) (by decide) _
  · intro h
    exact (h.trans (Blank.isPrefix_of_trim hhead)).trans (List.takeWhile_prefix _)

/-- A filter mentions plugins if one of its pieces has a target that begins with theirs. -/
theorem mentionsPlugins_iff {s : String} : mentionsPlugins s = true ↔
    ∃ piece ∈ Pieces.split ',' s.toList, pluginTarget.toList <+: targetOf piece := by
  simp [mentionsPlugins, isPrefix_targetOf_iff]

/-- It names them if one of its pieces has that target itself. -/
theorem namesPlugins_iff {s : String} : namesPlugins s = true ↔
    ∃ piece ∈ Pieces.split ',' s.toList, targetOf piece = pluginTarget.toList := by
  simp [namesPlugins]

theorem mentionsPlugins_of_namesPlugins {s : String} (h : namesPlugins s = true) :
    mentionsPlugins s = true := by
  obtain ⟨piece, hpiece, htarget⟩ := namesPlugins_iff.1 h
  exact mentionsPlugins_iff.2 ⟨piece, hpiece, htarget ▸ List.prefix_refl _⟩

/-- A filter text with a directive that begins with the target of plugins' log lines gets no
directive for them, and every other text gets the one that sets their level. That is as it should
be, no directive iff one has exactly that target, unless there are only directives with a longer
target that begins so. -/
theorem plugin_directive_iff (settings : Settings) :
    pluginDirective? settings = (if mentionsPlugins settings.logFilter then none
      else some (pluginTarget ++ "=" ++ settings.pluginLogLevel.text)) ∧
    (mentionsPlugins settings.logFilter = true ↔
      ∃ piece ∈ Pieces.split ',' settings.logFilter.toList,
        pluginTarget.toList <+: targetOf piece) ∧
    (namesPlugins settings.logFilter = true ↔
      ∃ piece ∈ Pieces.split ',' settings.logFilter.toList,
        targetOf piece = pluginTarget.toList) ∧
    ((pluginDirective? settings = if namesPlugins settings.logFilter then none
        else some (pluginTarget ++ "=" ++ settings.pluginLogLevel.text)) ↔
      namesPlugins settings.logFilter = true ∨
        ∀ piece ∈ Pieces.split ',' settings.logFilter.toList,
          ¬pluginTarget.toList <+: targetOf piece) := by
  refine ⟨rfl, mentionsPlugins_iff, namesPlugins_iff, ?_⟩
  have hnone : mentionsPlugins settings.logFilter = false ↔
      ∀ piece ∈ Pieces.split ',' settings.logFilter.toList,
        ¬pluginTarget.toList <+: targetOf piece := by
    rw [← Bool.not_eq_true, mentionsPlugins_iff]
    simp
  rw [← hnone, pluginDirective?]
  cases hnames : namesPlugins settings.logFilter with
  | true => simp [mentionsPlugins_of_namesPlugins hnames]
  | false => cases mentionsPlugins settings.logFilter <;> simp [LogLevel.directiveFor]

/-- A directive for other log lines silences those of plugins. -/
theorem longer_target_silences :
    let settings : Settings := { Settings.default [] with
      logFilter := "lyre_plugins::plugin_log_extra=off" }
    namesPlugins settings.logFilter = false ∧ pluginDirective? settings = none ∧
      (ofSettings settings).toOption.map (·.shows ⟨pluginTarget, [], .error⟩) = some false := by
  refine ⟨by decide +kernel, by decide +kernel, by decide +kernel⟩

end LogFilter

end PluginHost
