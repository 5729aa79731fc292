import DefectCatalog.Text.ClusterTable
import DefectCatalog.Text.Width

/-!
# Clusters

The characters that a reader takes for one: a letter with its marks, the parts
of a Hangul syllable, two regional letters that make a flag, pictures tied by a
joiner, and consonants tied by a linking sign.  `clusters` cuts a text into
them.
-/

namespace DefectCatalog.Text

/-- What a character does at the border of a cluster. -/
inductive ClusterRole where
  | carriageReturn
  | lineFeed
  | control
  | extend
  | joiner
  | regional
  | prepend
  | spacing
  /-- A leading Hangul consonant. -/
  | leading
  /-- A Hangul vowel. -/
  | vowel
  /-- A trailing Hangul consonant. -/
  | trailing
  /-- A Hangul syllable without a trailing consonant. -/
  | openSyllable
  /-- A Hangul syllable with a trailing consonant. -/
  | closedSyllable
  | pictograph
  | other
deriving DecidableEq, Repr

/-- Characters that end every cluster, besides the control characters. -/
def breakingRanges : List (Nat × Nat) :=
  [(0x00AD, 0x00AD), (0x061C, 0x061C), (0x180E, 0x180E), (0x200B, 0x200B), (0x200E, 0x200F),
    (0x2028, 0x202E), (0x2060, 0x206F), (0xFEFF, 0xFEFF), (0xFFF0, 0xFFFB), (0x13430, 0x1343F),
    (0x1BCA0, 0x1BCA3), (0x1D173, 0x1D17A), (0xE0000, 0xE001F), (0xE0080, 0xE00FF),
    (0xE01F0, 0xE0FFF)]

/-- The role of a Hangul character. -/
def hangulRole? (n : Nat) : Option ClusterRole :=
  if inRanges [(0x1100, 0x115F), (0xA960, 0xA97C)] n then some .leading
  else if inRanges [(0x1160, 0x11A7), (0xD7B0, 0xD7C6)] n then some .vowel
  else if inRanges [(0x11A8, 0x11FF), (0xD7CB, 0xD7FB)] n then some .trailing
  else if 0xAC00 ≤ n && n ≤ 0xD7A3 then
    some (if (n - 0xAC00) % 28 == 0 then .openSyllable else .closedSyllable)
  else none

/-- The role of a character. -/
def clusterRole (c : Char) : ClusterRole :=
  let n := c.toNat
  if c = '\r' then .carriageReturn
  else if c = '\n' then .lineFeed
  else if isControl c then .control
  else if n < 0x300 then
    if n == 0xAD then .control else if n == 0xA9 || n == 0xAE then .pictograph else .other
  else if isJoiner c then .joiner
  else if inRanges breakingRanges n then .control
  else if inRanges extendRanges n then .extend
  else if 0x1F1E6 ≤ n && n ≤ 0x1F1FF then .regional
  else if inRanges spacingMarkRanges n then .spacing
  else if inRanges prependRanges n then .prepend
  else if inRanges pictographRanges n then .pictograph
  else (hangulRole? n).getD .other

/-- Signs that link the consonants before and after them. -/
def linkers : List Nat :=
  [0x094D, 0x09CD, 0x0ACD, 0x0B4D, 0x0C4D, 0x0D4D]

/-- The consonants that a sign can link. -/
def linkedRanges : List (Nat × Nat) :=
  [(0x0915, 0x0939), (0x0958, 0x095F), (0x0978, 0x097F), (0x0995, 0x09A8), (0x09AA, 0x09B0),
    (0x09B2, 0x09B2), (0x09B6, 0x09B9), (0x09DC, 0x09DD), (0x09DF, 0x09DF), (0x09F0, 0x09F1),
    (0x0A95, 0x0AA8), (0x0AAA, 0x0AB0), (0x0AB2, 0x0AB3), (0x0AB5, 0x0AB9), (0x0AF9, 0x0AF9),
    (0x0B15, 0x0B28), (0x0B2A, 0x0B30), (0x0B32, 0x0B33), (0x0B35, 0x0B39), (0x0B5C, 0x0B5D),
    (0x0B5F, 0x0B5F), (0x0B71, 0x0B71), (0x0C15, 0x0C28), (0x0C2A, 0x0C39), (0x0C58, 0x0C5A),
    (0x0D15, 0x0D3A)]

/-- What is known of the characters passed, for the border after the last one. -/
structure ClusterContext where
  last : ClusterRole
  /-- Whether the regional letters at the end are odd in number. -/
  oddRegionals : Bool := false
  /-- Whether a picture stands at the end, perhaps with marks. -/
  pictured : Bool := false
  /-- Whether such a picture is followed by a joiner. -/
  tied : Bool := false
  /-- Whether a consonant that can be linked stands at the end, perhaps with marks. -/
  consonant : Bool := false
  /-- Whether such a consonant is followed by a linking sign. -/
  linked : Bool := false

/-- What is known after a character. -/
def ClusterContext.pass (before : Option ClusterContext) (c : Char) : ClusterContext :=
  let role := clusterRole c
  let mark := role = .extend || role = .joiner
  let was := fun (f : ClusterContext → Bool) => before.any f
  let linker := linkers.contains c.toNat
  let consonant := c.toNat ≥ 0x0915 && inRanges linkedRanges c.toNat
  { last := role
    oddRegionals := role = .regional && !was fun b => b.oddRegionals
    pictured := role = .pictograph || (role = .extend && was fun b => b.pictured)
    tied := role = .joiner && was fun b => b.pictured
    consonant := consonant || (mark && was fun b => b.consonant)
    linked := mark && was fun b => b.linked || (linker && b.consonant) }

/-- Whether a Hangul character joins the one before it. -/
def joinsHangul (last next : ClusterRole) : Bool :=
  match last with
  | .leading =>
    next = .leading || next = .vowel || next = .openSyllable || next = .closedSyllable
  | .openSyllable | .vowel => next = .vowel || next = .trailing
  | .closedSyllable | .trailing => next = .trailing
  | _ => false

/-- Whether a role ends every cluster. -/
def ClusterRole.breaks : ClusterRole → Bool
  | carriageReturn | lineFeed | control => true
  | _ => false

/-- Whether a character belongs to the cluster before it. -/
def ClusterContext.joins (b : ClusterContext) (c : Char) : Bool :=
  let next := clusterRole c
  if b.last = .carriageReturn && next = .lineFeed then true
  else if b.last.breaks || next.breaks then false
  else
    joinsHangul b.last next || next = .extend || next = .joiner || next = .spacing ||
      b.last = .prepend || (b.linked && inRanges linkedRanges c.toNat) ||
      (b.tied && next = .pictograph) || (b.oddRegionals && next = .regional)

/-- The clusters of a text after what is known of the characters before it. -/
def clustersFrom (before : Option ClusterContext) : List Char → List (List Char)
  | [] => []
  | c :: rest =>
    let after := ClusterContext.pass before c
    match clustersFrom (some after) rest with
    | [] => [[c]]
    | cluster :: more =>
      if rest.head?.any after.joins then (c :: cluster) :: more else [c] :: cluster :: more

/-- The clusters of a text. -/
def clusters (s : List Char) : List (List Char) :=
  clustersFrom none s

end DefectCatalog.Text
