import Showcase.Settings.Basic

namespace Showcase

/-!
# Settings one by one

What a layer says and what settings hold is looked at through the names of the settings.  Then
putting layers on top of each other is the same for all of them: the last layer that says
something counts.
-/

inductive Setting where
  | scanPath
  | excludePatterns
  | configName
  | jsOnly
  | outputFormat
  | outputFile
  | parallel
  | failFast
  | quiet
  | verbose
  | useColors
  | showProgress
  | followLinks
deriving DecidableEq, Repr

/-- What a setting is set to. -/
abbrev Setting.Value : Setting → Type
  | .excludePatterns => List String
  | .scanPath | .configName | .outputFile => String
  | .outputFormat => OutputFormat
  | .jsOnly | .parallel | .failFast | .quiet | .verbose | .useColors | .showProgress
  | .followLinks => Bool

/-- What settings hold.  There need not be a file to write to. -/
def Settings.value (settings : Settings) : (s : Setting) → Option s.Value
  | .scanPath => some settings.scanPath
  | .excludePatterns => some settings.excludePatterns
  | .configName => some settings.configName
  | .jsOnly => some settings.jsOnly
  | .outputFormat => some settings.outputFormat
  | .outputFile => settings.outputFile
  | .parallel => some settings.parallel
  | .failFast => some settings.failFast
  | .quiet => some settings.quiet
  | .verbose => some settings.verbose
  | .useColors => some settings.useColors
  | .showProgress => some settings.showProgress
  | .followLinks => some settings.followLinks

theorem Settings.ext_value {settings other : Settings}
    (h : ∀ s, settings.value s = other.value s) : settings = other := by
  cases settings
  cases other
  simp only [Settings.mk.injEq]
  exact ⟨Option.some.inj (h .scanPath), Option.some.inj (h .excludePatterns),
    Option.some.inj (h .configName), Option.some.inj (h .jsOnly),
    Option.some.inj (h .outputFormat), h .outputFile, Option.some.inj (h .parallel),
    Option.some.inj (h .failFast), Option.some.inj (h .quiet), Option.some.inj (h .verbose),
    Option.some.inj (h .useColors), Option.some.inj (h .showProgress),
    Option.some.inj (h .followLinks)⟩

namespace PartialSettings

/-- What a layer says about a setting. -/
def said (layer : PartialSettings) : (s : Setting) → Option s.Value
  | .scanPath => layer.scanPath
  | .excludePatterns => layer.excludePatterns
  | .configName => layer.configName
  | .jsOnly => layer.jsOnly
  | .outputFormat => layer.outputFormat
  | .outputFile => layer.outputFile
  | .parallel => layer.parallel
  | .failFast => layer.failFast
  | .quiet => layer.quiet
  | .verbose => layer.verbose
  | .useColors => layer.useColors
  | .showProgress => layer.showProgress
  | .followLinks => layer.followLinks

theorem ext_said {layer other : PartialSettings} (h : ∀ s, layer.said s = other.said s) :
    layer = other := by
  cases layer
  cases other
  simp only [PartialSettings.mk.injEq]
  exact ⟨h .scanPath, h .excludePatterns, h .configName, h .jsOnly, h .outputFormat,
    h .outputFile, h .parallel, h .failFast, h .quiet, h .verbose, h .useColors, h .showProgress,
    h .followLinks⟩

@[simp] theorem said_empty (s : Setting) : empty.said s = none := by
  cases s <;> rfl

@[simp] theorem said_merge (lower upper : PartialSettings) (s : Setting) :
    (lower.merge upper).said s = (upper.said s <|> lower.said s) := by
  cases s <;> rfl

theorem value_complete (layer : PartialSettings) (s : Setting) :
    layer.complete.value s = (layer.said s <|> Settings.default.value s) := by
  have hgetD {α : Type} (o : Option α) (a : α) : some (o.getD a) = (o <|> some a) := by
    cases o <;> rfl
  cases s with
  | outputFile => rfl
  | scanPath | excludePatterns | configName | jsOnly | outputFormat | parallel | failFast | quiet
  | verbose | useColors | showProgress | followLinks => exact hgetD _ _

/-! ## Layers on top of each other -/

theorem merge_assoc (lower middle upper : PartialSettings) :
    (lower.merge middle).merge upper = lower.merge (middle.merge upper) := by
  refine ext_said fun s => ?_
  simp only [said_merge]
  cases upper.said s <;> rfl

theorem empty_merge (layer : PartialSettings) : empty.merge layer = layer := by
  refine ext_said fun s => ?_
  rw [said_merge, said_empty]
  cases layer.said s <;> rfl

/-- Of layers, the last that says something counts. -/
theorem said_foldl_merge (lowest : PartialSettings) (layers : List PartialSettings) (s : Setting) :
    (layers.foldl merge lowest).said s =
      (layers.reverse.findSome? (·.said s) <|> lowest.said s) := by
  induction layers generalizing lowest with
  | nil => rfl
  | cons layer rest ih =>
      simp only [List.foldl_cons, ih, said_merge, List.reverse_cons, List.findSome?_append,
        List.findSome?_cons, List.findSome?_nil]
      cases rest.reverse.findSome? (·.said s) with
      | none => cases layer.said s <;> rfl
      | some value => rfl

end PartialSettings

end Showcase
