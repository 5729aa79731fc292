import DefectCatalog.Settings

/-!
# Layering settings

One layer of settings laid over another.  Most settings of the upper layer count
if they differ from the default, and leave the lower layer's value otherwise.
Flags can only be turned away from their default, and a file counts if one is
named.
-/

namespace DefectCatalog.Settings

/-- The value of the upper layer if it differs from the default, else that of the lower one. -/
def pick {α : Type} [DecidableEq α] (default lower upper : α) : α :=
  if upper = default then lower else upper

/-- A flag that the upper layer can only raise. -/
def raised (lower upper : Bool) : Bool :=
  if upper then true else lower

/-- A flag that the upper layer can only lower. -/
def lowered (lower upper : Bool) : Bool :=
  if !upper then false else lower

/-- What the upper layer names, or else the lower one. -/
def named {α : Type} (lower upper : Option α) : Option α :=
  if upper.isSome then upper else lower

/-- The settings `lower` with `upper` laid over them. -/
def overlay (lower upper : Settings) : Settings :=
  let d : Settings := {}
  { data :=
      { bugs := pick d.data.bugs lower.data.bugs upper.data.bugs
        classification :=
          pick d.data.classification lower.data.classification upper.data.classification
        timeout := pick d.data.timeout lower.data.timeout upper.data.timeout }
    browse :=
      { sort := pick d.browse.sort lower.browse.sort upper.browse.sort
        reverse := raised lower.browse.reverse upper.browse.reverse
        mode := pick d.browse.mode lower.browse.mode upper.browse.mode
        showWelcome := lowered lower.browse.showWelcome upper.browse.showWelcome
        columns := pick d.browse.columns lower.browse.columns upper.browse.columns }
    output :=
      { format := pick .auto lower.output.format upper.output.format
        file := named lower.output.file upper.output.file
        plain := raised lower.output.plain upper.output.plain }
    screen :=
      { theme := pick d.screen.theme lower.screen.theme upper.screen.theme
        mouse := lowered lower.screen.mouse upper.screen.mouse } }

end DefectCatalog.Settings
