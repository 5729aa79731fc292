import DefectCatalog.Arguments

/-!
# What a command line decides about the settings

A command line chooses some settings and is silent on the others.  `Choices`
keeps the two apart, `Choices.laidOver` puts every choice above the settings of a
file.  The layer of settings that a command line makes does not keep them
apart: a choice of the default value looks like silence there.  So the settings
that count are the file's with the *telling* choices over them, those that
differ from the default (`effective_eq_laidOver_telling`), and a choice is lost
exactly if it is the default and the file says otherwise.
-/

namespace DefectCatalog

/-- What a command line says about the settings; `none`, `false` and the format
`auto` say nothing. -/
structure Choices where
  bugs : Option String := none
  classification : Option String := none
  timeout : Option UInt64 := none
  sort : Option (List String) := none
  reverse : Bool := false
  mode : Option Matching := none
  noWelcome : Bool := false
  format : OutputFormat := .auto
  file : Option String := none
  plain : Bool := false
  theme : Option String := none
  noMouse : Bool := false
deriving DecidableEq, Repr

namespace Command.Request

/-- What a command says on how a list starts. -/
def view : Request → ViewOptions
  | browse _ _ _ _ view | list _ _ view _ => view
  | _ => {}

/-- What a command says on how a report is written. -/
def output : Request → OutputOptions
  | list _ _ _ output | «show» _ _ _ output | labels _ _ output => output
  | _ => {}

def theme : Request → Option String
  | browse _ theme _ _ _ => theme
  | _ => none

def noWelcome : Request → Bool
  | browse _ _ noWelcome _ _ => noWelcome
  | _ => false

def noMouse : Request → Bool
  | browse _ _ _ noMouse _ => noMouse
  | _ => false

end Command.Request

/-- What a command line says about the settings; a list without a sort field
says nothing about the sort. -/
def Invocation.choices (i : Invocation) : Choices where
  bugs := i.shared.bugs
  classification := i.shared.classification
  timeout := i.shared.timeout
  sort := if i.request.view.sort.isEmpty then none else some i.request.view.sort
  reverse := i.request.view.reverse
  mode := i.request.view.mode
  noWelcome := i.request.noWelcome
  format := i.request.output.format
  file := i.request.output.file
  plain := i.shared.plain
  theme := i.request.theme
  noMouse := i.request.noMouse

namespace Choices

/-- The settings `s` with every choice over them. -/
def laidOver (c : Choices) (s : Settings) : Settings where
  data :=
    { bugs := c.bugs.getD s.data.bugs
      classification := c.classification.getD s.data.classification
      timeout := c.timeout.getD s.data.timeout }
  browse :=
    { sort := c.sort.getD s.browse.sort
      reverse := c.reverse || s.browse.reverse
      mode := c.mode.getD s.browse.mode
      showWelcome := !c.noWelcome && s.browse.showWelcome
      columns := s.browse.columns }
  output :=
    { format := if c.format = .auto then s.output.format else c.format
      file := c.file <|> s.output.file
      plain := c.plain || s.output.plain }
  screen :=
    { theme := c.theme.getD s.screen.theme
      mouse := !c.noMouse && s.screen.mouse }

/-- The choices without those of a default value. -/
def telling (c : Choices) (d : Settings := {}) : Choices :=
  { c with
    bugs := c.bugs.filter (· ≠ d.data.bugs)
    classification := c.classification.filter (· ≠ d.data.classification)
    timeout := c.timeout.filter (· ≠ d.data.timeout)
    sort := c.sort.filter (· ≠ d.browse.sort)
    mode := c.mode.filter (· ≠ d.browse.mode)
    theme := c.theme.filter (· ≠ d.screen.theme) }

/-- Where a default value is chosen, the settings `s` have it already.  Flags,
formats and files are not listed: what they choose is never a default. -/
structure DefaultsAgree (c : Choices) (s : Settings) (d : Settings := {}) : Prop where
  bugs : c.bugs = some d.data.bugs → s.data.bugs = d.data.bugs
  classification : c.classification = some d.data.classification →
    s.data.classification = d.data.classification
  timeout : c.timeout = some d.data.timeout → s.data.timeout = d.data.timeout
  sort : c.sort = some d.browse.sort → s.browse.sort = d.browse.sort
  mode : c.mode = some d.browse.mode → s.browse.mode = d.browse.mode
  theme : c.theme = some d.screen.theme → s.screen.theme = d.screen.theme

end Choices

/-- The layer of a command line is its choices over the defaults. -/
theorem Invocation.overrides_eq_laidOver (i : Invocation) :
    i.overrides = i.choices.laidOver {} := by
  obtain ⟨shared, request⟩ := i
  cases request <;>
    simp [overrides, choices, Choices.laidOver, sharedOverrides, withView, withOutput,
      Command.Request.view, Command.Request.output, Command.Request.theme,
      Command.Request.noWelcome, Command.Request.noMouse]
  -- the commands with a view remain: their sort, given or not
  case browse | list => split <;> rfl

namespace Settings

variable {α : Type} [DecidableEq α]

/-- Laid over a value, a choice made over the default counts if it is not the default. -/
theorem pick_getD (default lower : α) (choice : Option α) :
    pick default lower (choice.getD default) = (choice.filter (· ≠ default)).getD lower := by
  cases choice with
  | none => simp [pick]
  | some x => by_cases hx : x = default <;> simp [pick, Option.filter, hx]

/-- Leaving a choice of the default out changes nothing exactly if the value
below is the default too. -/
theorem getD_filter_eq_iff (default lower : α) (choice : Option α) :
    (choice.filter (· ≠ default)).getD lower = choice.getD lower ↔
      (choice = some default → lower = default) := by
  cases choice with
  | none => simp
  | some x => by_cases hx : x = default <;> simp [Option.filter, hx]

/-- A flag that can only be raised is raised on either layer. -/
theorem raised_eq_or (lower upper : Bool) : raised lower upper = (upper || lower) := by
  cases upper <;> rfl

/-- A flag that can only be lowered is lowered on either layer. -/
theorem lowered_eq_and (lower upper : Bool) : lowered lower upper = (upper && lower) := by
  cases upper <;> rfl

theorem named_eq_orElse {β : Type} (lower upper : Option β) :
    named lower upper = (upper <|> lower) := by
  cases upper <;> rfl

end Settings

/-- Laying choices over the defaults and then over `s` is laying the telling ones over `s`. -/
theorem Choices.overlay_laidOver (c : Choices) (s : Settings) :
    s.overlay (c.laidOver {}) = c.telling.laidOver s := by
  simp only [Settings.overlay, laidOver, telling, Settings.pick_getD, Settings.raised_eq_or,
    Settings.lowered_eq_and, Settings.named_eq_orElse]
  by_cases hformat : c.format = .auto <;> simp [Settings.pick, hformat]

/-- The telling choices do what all choices do exactly if no choice of a default is needed. -/
theorem Choices.laidOver_telling_eq_iff (c : Choices) (s : Settings) :
    c.telling.laidOver s = c.laidOver s ↔ c.DefaultsAgree s := by
  simp only [laidOver, telling, Settings.mk.injEq, DataSettings.mk.injEq, BrowseSettings.mk.injEq,
    OutputSettings.mk.injEq, ScreenSettings.mk.injEq, Settings.getD_filter_eq_iff, true_and,
    and_true]
  constructor
  · rintro ⟨⟨hbugs, hclassification, htimeout⟩, ⟨hsort, hmode⟩, -, htheme⟩
    exact ⟨hbugs, hclassification, htimeout, hsort, hmode, htheme⟩
  · rintro ⟨hbugs, hclassification, htimeout, hsort, hmode, htheme⟩
    exact ⟨⟨hbugs, hclassification, htimeout⟩, ⟨hsort, hmode⟩, rfl, htheme⟩

/-- **Which choices count.**  The settings that count are those of the file with
the telling choices over them: all other settings keep the file's values.  So
every choice counts exactly if, wherever the command line chooses a default
value, the file has that value too. -/
theorem Invocation.effective_eq_laidOver_telling (i : Invocation) (file : Settings) :
    i.effective file = i.choices.telling.laidOver file ∧
      (i.effective file = i.choices.laidOver file ↔ i.choices.DefaultsAgree file) := by
  have heffective : i.effective file = i.choices.telling.laidOver file := by
    rw [effective, i.overrides_eq_laidOver, i.choices.overlay_laidOver]
  refine ⟨heffective, ?_⟩
  rw [heffective]
  exact i.choices.laidOver_telling_eq_iff file

/-- Asking for the match mode `all`, which is the default, does not undo the
mode `any` of a file. -/
theorem Invocation.default_mode_is_lost :
    (Invocation.parse ["list", "--match", "all"]).toOption.map (fun i =>
        (i.choices.mode, (i.effective { browse := { mode := .any } }).browse.mode)) =
      some (some .all, .any) := by
  decide

end DefectCatalog
