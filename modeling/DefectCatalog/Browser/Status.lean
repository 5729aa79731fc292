/-!
# Status messages

A message in the footer.  News expires after a while; an error stays until it
is replaced.
-/

namespace DefectCatalog.Browser

/-- The weight of a message. -/
inductive Level where
  | info
  | error
deriving DecidableEq, Repr, Inhabited

/-- The message shown, if there is one, with the level of the last message. -/
structure StatusLine where
  message : Option String := none
  level : Level := .info
  /-- Whether the message expires. -/
  timed : Bool := false
deriving DecidableEq, Repr, Inhabited

namespace StatusLine

/-- Shows news. -/
def inform (_ : StatusLine) (text : String) : StatusLine :=
  { message := some text, level := .info, timed := true }

/-- Shows an error. -/
def report (_ : StatusLine) (text : String) : StatusLine :=
  { message := some text, level := .error, timed := false }

/-- Shows nothing; the level stays. -/
def clear (s : StatusLine) : StatusLine :=
  { s with message := none, timed := false }

/-- Shows nothing unless the message is an error. -/
def dismissNews (s : StatusLine) : StatusLine :=
  if s.level = .info then s.clear else s

/-- Lets a message go that expires; `due` tells whether its time has passed. -/
def expire (s : StatusLine) (due : Bool) : StatusLine :=
  if s.timed && due then s.clear else s

end StatusLine

end DefectCatalog.Browser
