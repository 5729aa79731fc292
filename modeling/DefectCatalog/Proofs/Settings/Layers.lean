import DefectCatalog.Settings.Overlay
import Mathlib.Logic.ExistsUnique

/-!
# Layers of settings

Settings are thirteen values that can be chosen one by one (`existsUnique_get`), and a
layer is laid over another value by value.  Flags and the file have rules of their own,
but for the defaults that they have, these come to the one rule of the others
(`get_overlay`).  So the laws of the rule are the laws of the layers (`layered_overlay`):
the defaults change nothing, above or below, a layer counts once however often it is
laid, and it does not matter which of three layers are put together first.
-/

namespace DefectCatalog

/-- The settings by name. -/
inductive Setting where
  | bugs
  | classification
  | timeout
  | sort
  | reverse
  | mode
  | showWelcome
  | columns
  | format
  | file
  | plain
  | theme
  | mouse
deriving DecidableEq, Repr

/-- What a setting is set to. -/
def Setting.Value : Setting → Type
  | bugs | classification | theme => String
  | timeout => UInt64
  | sort => List String
  | reverse | showWelcome | plain | mouse => Bool
  | mode => Matching
  | columns => List Column
  | format => OutputFormat
  | file => Option String

instance : (k : Setting) → DecidableEq k.Value
  | .bugs | .classification | .theme => inferInstanceAs (DecidableEq String)
  | .timeout => inferInstanceAs (DecidableEq UInt64)
  | .sort => inferInstanceAs (DecidableEq (List String))
  | .reverse | .showWelcome | .plain | .mouse => inferInstanceAs (DecidableEq Bool)
  | .mode => inferInstanceAs (DecidableEq Matching)
  | .columns => inferInstanceAs (DecidableEq (List Column))
  | .format => inferInstanceAs (DecidableEq OutputFormat)
  | .file => inferInstanceAs (DecidableEq (Option String))

namespace Settings

/-- What the settings say of one of them. -/
def get (s : Settings) : (k : Setting) → k.Value
  | .bugs => s.data.bugs
  | .classification => s.data.classification
  | .timeout => s.data.timeout
  | .sort => s.browse.sort
  | .reverse => s.browse.reverse
  | .mode => s.browse.mode
  | .showWelcome => s.browse.showWelcome
  | .columns => s.browse.columns
  | .format => s.output.format
  | .file => s.output.file
  | .plain => s.output.plain
  | .theme => s.screen.theme
  | .mouse => s.screen.mouse

/-- The settings with given values. -/
def ofValues (f : (k : Setting) → k.Value) : Settings where
  data := { bugs := f .bugs, classification := f .classification, timeout := f .timeout }
  browse :=
    { sort := f .sort
      reverse := f .reverse
      mode := f .mode
      showWelcome := f .showWelcome
      columns := f .columns }
  output := { format := f .format, file := f .file, plain := f .plain }
  screen := { theme := f .theme, mouse := f .mouse }

variable {a b : Settings}

theorem get_ofValues (f : (k : Setting) → k.Value) (k : Setting) : (ofValues f).get k = f k := by
  cases k <;> rfl

theorem ofValues_get (s : Settings) : ofValues s.get = s :=
  rfl

/-- Settings that say the same of each setting are the same. -/
theorem ext_get (h : ∀ k, a.get k = b.get k) : a = b := by
  rw [← ofValues_get a, ← ofValues_get b, funext h]

/-- **The thirteen are all there is to settings**, and each can be chosen whatever the others
are. -/
theorem existsUnique_get (f : (k : Setting) → k.Value) : ∃! s : Settings, ∀ k, s.get k = f k :=
  ⟨ofValues f, get_ofValues f, fun _ hs => ext_get fun k => (hs k).trans (get_ofValues f k).symm⟩

/-! ## The rule for a value -/

/-- A flag that is only raised is one whose default is not to be. -/
theorem raised_eq_pick (x y : Bool) : raised x y = pick false x y := by
  cases y <;> rfl

/-- A flag that is only lowered is one whose default is to be raised. -/
theorem lowered_eq_pick (x y : Bool) : lowered x y = pick true x y := by
  cases y <;> rfl

/-- To name something is to differ from naming nothing. -/
theorem named_eq_pick {α : Type} [DecidableEq α] (x y : Option α) :
    named x y = pick none x y := by
  cases y <;> rfl

section Rule

variable {α : Type} [DecidableEq α] (default x y z : α)

theorem pick_default_above : pick default x default = x :=
  if_pos rfl

theorem pick_default_below : pick default default x = x := by
  unfold pick
  split
  · next h => exact h.symm
  · rfl

theorem pick_pick_self : pick default (pick default x y) y = pick default x y := by
  unfold pick
  split <;> rfl

theorem pick_pick : pick default (pick default x y) z = pick default x (pick default y z) := by
  by_cases hz : z = default
  · rw [hz, pick_default_above, pick_default_above]
  · have habove : ∀ w, pick default w z = z := fun w => if_neg hz
    rw [habove, habove, habove]

end Rule

/-! ## The rule for settings -/

/-- **Layers are laid value by value**, each by the same rule. -/
theorem get_overlay (a b : Settings) (k : Setting) :
    (a.overlay b).get k = pick (({} : Settings).get k) (a.get k) (b.get k) := by
  cases k with
  | reverse | plain => exact raised_eq_pick _ _
  | showWelcome | mouse => exact lowered_eq_pick _ _
  | file => exact named_eq_pick _ _
  | _ => rfl

/-- The laws of laying layers of settings over one another. -/
structure Layered (a b c : Settings) : Prop where
  /-- The defaults change nothing when they are laid over settings, -/
  default_above : a.overlay {} = a
  /-- and are nothing where settings are laid over them. -/
  default_below : overlay {} a = a
  /-- A layer that is laid twice counts once. -/
  twice : (a.overlay b).overlay b = a.overlay b
  /-- The two upper layers can be put together first. -/
  assoc : (a.overlay b).overlay c = a.overlay (b.overlay c)
  /-- Each setting is that of the upper layer unless this is its default. -/
  get_eq : ∀ k, (a.overlay b).get k = if b.get k = ({} : Settings).get k then a.get k else b.get k
  /-- No setting depends on another one, of either layer. -/
  local_of_eq : ∀ k (a' b' : Settings), a'.get k = a.get k → b'.get k = b.get k →
    (a'.overlay b').get k = (a.overlay b).get k

/-- **Layers of settings are a lawful overlay**, and the settings by name are all of them. -/
theorem layered_overlay (a b c : Settings) :
    Layered a b c ∧ ∀ f : (k : Setting) → k.Value, ∃! s : Settings, ∀ k, s.get k = f k := by
  refine ⟨⟨?_, ?_, ?_, ?_, fun k => get_overlay a b k, ?_⟩, existsUnique_get⟩
  · exact ext_get fun k => (get_overlay a {} k).trans (pick_default_above ..)
  · exact ext_get fun k => (get_overlay {} a k).trans (pick_default_below ..)
  · apply ext_get
    intro k
    rw [get_overlay, get_overlay, pick_pick_self]
  · apply ext_get
    intro k
    rw [get_overlay, get_overlay, get_overlay, get_overlay, pick_pick]
  · intro k a' b' ha hb
    rw [get_overlay, get_overlay, ha, hb]

end Settings

end DefectCatalog
