import DefectCatalog.Yaml.Node

/-!
# Reading YAML

A reader for single documents: block and flow collections, plain, quoted and
block scalars over several lines, comments, anchors and aliases, and document
markers.  Indentation is the column of the enclosing block collection: what
belongs to it stands further right, except that a sequence may stand below its
key.

The functions recurse on fuel.  Every call but a bounded number consumes a
character or leaves a level, so a small multiple of the length is enough.
-/

namespace DefectCatalog.Yaml

/-- What is still to be read, the column of its first character, and the named nodes. -/
structure Cursor where
  rest : List Char
  column : Nat := 0
  anchors : List (String × Node) := []

/-- A reading step, which may fail. -/
abbrev Reader := StateT Cursor Option

/-- The characters of an indicator in flow collections. -/
def isFlowMark (c : Char) : Bool :=
  c == ',' || c == '[' || c == ']' || c == '\x7b' || c == '\x7d'

/-- Whether a text starts with a blank, a line feed, or is at its end. -/
def startsBlank : List Char → Bool
  | [] => true
  | c :: _ => c == ' ' || c == '\t' || c == '\n'

/-- The text with every line break written as a line feed. -/
def normalizeBreaks : List Char → List Char
  | [] => []
  | '\r' :: '\n' :: rest => '\n' :: normalizeBreaks rest
  | '\r' :: rest => '\n' :: normalizeBreaks rest
  | '\u0085' :: rest => '\n' :: normalizeBreaks rest
  | c :: rest => c :: normalizeBreaks rest

/-- Whether a character may occur in a YAML text. -/
def isAllowed (c : Char) : Bool :=
  let n := c.toNat
  c == '\t' || c == '\n' || c == '\r' || n == 0x85 || (0x20 ≤ n && n ≤ 0x7E) ||
    (0xA0 ≤ n && n ≤ 0xFFFD) || 0x10000 ≤ n

/-- Whether the cursor stands at a marker that ends or starts a document. -/
def Cursor.atMarker (c : Cursor) : Bool :=
  c.column == 0 &&
    match c.rest with
    | '-' :: '-' :: '-' :: rest => startsBlank rest
    | '.' :: '.' :: '.' :: rest => startsBlank rest
    | _ => false

/-- Whether the cursor stands at the dash of a sequence entry. -/
def Cursor.atDash (c : Cursor) : Bool :=
  match c.rest with
  | '-' :: rest => startsBlank rest
  | _ => false

/-- Passes blanks, comments and line breaks.

`tabs` tells whether tabs may be passed here, `flow` whether they may be at the start of a line.
The answer tells whether a line break was passed. -/
def passGap (flow : Bool) : Bool → Bool → Bool → Nat → List Char → Bool × Nat × List Char
  | _, _, crossed, column, [] => (crossed, column, [])
  | comment, tabs, crossed, column, c :: rest =>
    if c == '\n' then passGap flow false flow true 0 rest
    else if comment then passGap flow true tabs crossed (column + 1) rest
    else if c == ' ' || (c == '\t' && tabs) then
      passGap flow false tabs crossed (column + 1) rest
    else if c == '#' then passGap flow true tabs crossed (column + 1) rest
    else (crossed, column, c :: rest)

/-- Moves to the next token, and tells whether that passed a line break.

In block collections no tab may stand before what could be a key: at the start of a line, or
after a dash. -/
def skipGap (flow : Bool) (tabs : Bool := true) : Reader Bool := do
  let c ← get
  let tabs := flow || (tabs && c.column != 0)
  let (crossed, column, rest) := passGap flow false tabs false c.column c.rest
  set { c with rest, column }
  return crossed

/-- Moves past `n` characters of the line. -/
def advance (n : Nat) : Reader Unit :=
  modify fun c => { c with rest := c.rest.drop n, column := c.column + n }

/-- The characters of a plain scalar on one line, up to what ends it. -/
def plainRun (flow : Bool) (before : Char) : List Char → List Char
  | [] => []
  | c :: rest =>
    if c == '\n' || (c == ':' && startsBlank rest) || (flow && isFlowMark c) ||
        (c == '#' && (before == ' ' || before == '\t')) then []
    else c :: plainRun flow c rest

/-- Whether a colon stands right before a flow indicator, where it has no meaning. -/
def hasStrayColon : List Char → List Char → Bool
  | [], _ => false
  | [':'], c :: _ => isFlowMark c
  | [_], [] => false
  | [_], _ => false
  | _ :: rest, after => hasStrayColon rest after

/-- The text without blanks at its end. -/
def dropBlankEnd (s : List Char) : List Char :=
  (s.reverse.dropWhile fun c => c == ' ' || c == '\t').reverse

/-- Passes blanks and line breaks, counting the breaks; no tab may indent a line. -/
def passBreaks? (indent : Int) : Nat → Nat → List Char → Option (Nat × Nat × List Char)
  | n, column, [] => some (n, column, [])
  | n, column, c :: rest =>
    if c == '\n' then passBreaks? indent (n + 1) 0 rest
    else if c == '\t' && 0 < n && column ≤ indent then none
    else if c == ' ' || c == '\t' then passBreaks? indent n (column + 1) rest
    else some (n, column, c :: rest)

/-- What `n` line breaks inside a folded scalar read as. -/
def foldBreaks (n : Nat) : List Char :=
  if n = 1 then [' '] else List.replicate (n - 1) '\n'

/-- Reads the further lines of a plain scalar that stand right of `indent`. -/
def plainMore (flow : Bool) (indent : Int) : Nat → List Char → Reader (List Char)
  | 0, _ => failure
  | fuel + 1, text => do
    let c ← get
    let (n, column, rest) ← passBreaks? indent 0 c.column c.rest
    let next : Cursor := { c with rest, column }
    match rest with
    | [] => return text
    | d :: _ =>
      if n = 0 || (!flow && (column : Int) ≤ indent) || next.atMarker || d == '#' then
        return text
      else
        let run := plainRun flow ' ' rest
        if run.isEmpty then return text
        else if flow && hasStrayColon run (rest.drop run.length) then failure
        else
          set { next with rest := rest.drop run.length, column := column + run.length }
          plainMore flow indent fuel (text ++ foldBreaks n ++ dropBlankEnd run)

/-- Whether a plain scalar may start with `c`, given what follows it. -/
def startsPlain (flow : Bool) (c : Char) (rest : List Char) : Bool :=
  if c == '-' || (!flow && (c == '?' || c == ':')) then !startsBlank rest
  else !(" \t\n-?:,[]\x7b\x7d#&*!|>'\"%@\x60".toList.contains c)

/-- A character of a quoted scalar; `escaped` ones take no part in folding. -/
structure QuotedChar where
  char : Char
  escaped : Bool

/-- The characters between single quotes; a quote inside is written twice. -/
def singleQuoted : List Char → Option (List QuotedChar × List Char)
  | [] => none
  | '\'' :: '\'' :: rest => do
    let (cs, rest) ← singleQuoted rest
    return (⟨'\'', true⟩ :: cs, rest)
  | '\'' :: rest => some ([], rest)
  | c :: rest => do
    let (cs, rest) ← singleQuoted rest
    return (⟨c, false⟩ :: cs, rest)

/-- The character of a code point that is no surrogate. -/
def charOfCode? (n : Nat) : Option Char :=
  if n ≤ 0x10FFFF && !(0xD800 ≤ n && n ≤ 0xDFFF) then some (Char.ofNat n) else none

/-- The character that an escape of one letter stands for. -/
def escapeOf? : Char → Option Char
  | '0' => some '\x00'
  | 'a' => some '\x07'
  | 'b' => some '\x08'
  | 't' => some '\t'
  | '\t' => some '\t'
  | 'n' => some '\n'
  | 'v' => some '\x0b'
  | 'f' => some '\x0c'
  | 'r' => some '\r'
  | 'e' => some '\x1b'
  | ' ' => some ' '
  | '"' => some '"'
  | '/' => some '/'
  | '\\' => some '\\'
  | 'N' => some '\u0085'
  | '_' => some '\u00a0'
  | 'L' => some '\u2028'
  | 'P' => some '\u2029'
  | '\n' => some '\n'
  | _ => none

/-- The number of hexadecimal digits after an escape letter. -/
def hexCount : Char → Nat
  | 'x' => 2
  | 'u' => 4
  | 'U' => 8
  | _ => 0

/-- The characters between double quotes, reading at most `fuel` of them. -/
def doubleQuoted : Nat → List Char → Option (List QuotedChar × List Char)
  | 0, _ => none
  | _, [] => none
  | _, '"' :: rest => some ([], rest)
  | fuel + 1, '\\' :: c :: rest => do
    let n := hexCount c
    let d ←
      if n = 0 then escapeOf? c
      else if rest.length < n then none
      else (Scalar.digits? 16 (rest.take n)).bind charOfCode?
    let (cs, rest) ← doubleQuoted fuel (rest.drop n)
    return (⟨d, true⟩ :: cs, rest)
  | fuel + 1, c :: rest => do
    let (cs, rest) ← doubleQuoted fuel rest
    return (⟨c, false⟩ :: cs, rest)

/-- Folds the lines of a quoted scalar.

`blanks` are blanks not yet written, `breaks` the line breaks passed since the last character,
`joined` tells that the first of them was escaped. -/
def foldQuoted (blanks : List Char) (breaks : Nat) (joined : Bool) :
    List QuotedChar → List Char
  | [] => if breaks = 0 then blanks else pause breaks joined
  | c :: rest =>
    if c.char == '\n' && c.escaped then
      if breaks = 0 then blanks ++ foldQuoted [] 1 true rest
      else pause breaks joined ++ foldQuoted [] 1 true rest
    else if c.char == '\n' then foldQuoted [] (breaks + 1) joined rest
    else if !c.escaped && (c.char == ' ' || c.char == '\t') then
      if breaks = 0 then foldQuoted (blanks ++ [c.char]) 0 joined rest
      else foldQuoted [] breaks joined rest
    else
      (if breaks = 0 then blanks else pause breaks joined) ++ c.char ::
        foldQuoted [] 0 false rest
where
  /-- What the line breaks before a character read as. -/
  pause (breaks : Nat) (joined : Bool) : List Char :=
    if joined then List.replicate (breaks - 1) '\n' else foldBreaks breaks

/-- The column after a text that starts in a column. -/
def columnAfter (column : Nat) (s : List Char) : Nat :=
  s.foldl (fun n c => if c == '\n' then 0 else n + 1) column

/-- Reads a quoted scalar, and tells whether it stands on one line. -/
def quotedScalar : Reader (String × Bool) := do
  let c ← get
  let found := match c.rest with
    | '"' :: rest => doubleQuoted (rest.length + 1) rest
    | '\'' :: rest => singleQuoted rest
    | _ => none
  match found with
  | none => failure
  | some (cs, rest) =>
    let passed := c.rest.take (c.rest.length - rest.length)
    set { c with rest, column := columnAfter c.column passed }
    return (String.ofList (foldQuoted [] 0 false cs), !passed.contains '\n')

/-- The name of an anchor or alias. -/
def anchorName (s : List Char) : List Char :=
  s.takeWhile fun c => c.isAlphanum || c == '-' || c == '_'

/-- Reads the name after an ampersand or a star. -/
def readName : Reader String := do
  let name := anchorName ((← get).rest.drop 1)
  advance (name.length + 1)
  if name.isEmpty || !(startsBlank (← get).rest || ((← get).rest.headD ' ' |> isFlowMark)) then
    failure
  else return String.ofList name

/-- The node with a name. -/
def namedNode (name : String) : Reader Node := do
  match (← get).anchors.find? fun a => a.1 == name with
  | some a => return a.2
  | none => failure

/-- Gives a node a name. -/
def nameNode (name : String) (n : Node) : Reader Unit :=
  modify fun c => { c with anchors := (name, n) :: c.anchors }

/-- How the line breaks at the end of a block scalar are kept. -/
inductive Chomping where
  | strip
  | clip
  | keep

/-- The header of a block scalar: how its end is kept, and its indentation if given. -/
def blockHeader (s : List Char) : Option (Chomping × Option Nat) :=
  let marks := s.takeWhile fun c => c != ' ' && c != '\t'
  let rest := s.drop marks.length
  let sound := match rest.dropWhile fun c => c == ' ' || c == '\t' with
    | [] => true
    | c :: _ => c == '#'
  if !sound then none
  else
    let mark? : Char → Option Chomping
      | '-' => some .strip
      | '+' => some .keep
      | _ => none
    let level? := fun c : Char =>
      if '1' ≤ c ∧ c ≤ '9' then some (c.toNat - 48) else none
    match marks with
    | [] => some (.clip, none)
    | [a] =>
      match mark? a with
      | some m => some (m, none)
      | none => (level? a).map fun n => (.clip, some n)
    | [a, b] =>
      match mark? a, level? b with
      | some m, some n => some (m, some n)
      | _, _ =>
        match level? a, mark? b with
        | some n, some m => some (m, some n)
        | _, _ => none
    | _ => none

/-- A line without its first `n` blanks, or nothing if text stands further left. -/
def unindent? : Nat → List Char → Option (List Char)
  | 0, s => some s
  | n + 1, ' ' :: rest => unindent? n rest
  | _ + 1, [] => some []
  | _ + 1, _ :: _ => none

/-- The lines of a block scalar, without their indentation. -/
def blockLines (indent : Nat) : List (List Char) → List (List Char)
  | [] => []
  | l :: rest =>
    match unindent? indent l with
    | some l => l :: blockLines indent rest
    | none => []

/-- The indentation of the first line that is not blank. -/
def firstIndent : List (List Char) → Nat
  | [] => 0
  | l :: rest =>
    if l.all (· == ' ') then firstIndent rest else (l.takeWhile (· == ' ')).length

/-- Joins the lines of a folded block scalar; lines that start with a blank stand alone. -/
def foldBlock : List (List Char) → List Char
  | [] => []
  | l :: rest =>
    let starts := fun s : List Char => s.head?.any fun c => c == ' ' || c == '\t'
    match rest with
    | [] => l
    | m :: _ =>
      if l.isEmpty then '\n' :: foldBlock rest
      else if starts l || starts m then l ++ '\n' :: foldBlock rest
      else if m.isEmpty then
        let empty := rest.takeWhile List.isEmpty
        let next := (rest.drop empty.length).headD []
        if starts next then l ++ '\n' :: foldBlock rest else l ++ foldBlock rest
      else l ++ ' ' :: foldBlock rest

/-- Cuts a text at its line feeds. -/
def cutLines : List Char → List (List Char)
  | [] => [[]]
  | c :: rest =>
    match cutLines rest with
    | l :: ls => if c == '\n' then [] :: l :: ls else (c :: l) :: ls
    | [] => [[c]]

/-- Reads a block scalar whose content stands right of `indent`. -/
def blockScalar (indent : Int) : Reader Node := do
  let c ← get
  let folded := c.rest.head? == some '>'
  match cutLines (c.rest.drop 1) with
  | [] => failure
  | header :: rest =>
    match blockHeader header with
    | none => failure
    | some (chomping, level) =>
      let base := (indent + 1).toNat
      let column := match level with
        | some n => indent.toNat + n
        | none => max (max base 1) (firstIndent rest)
      let closed := match rest.getLast? with
        | some [] => true
        | _ => false
      let body := blockLines column rest
      let atEnd := body.length == rest.length
      let body := if atEnd && closed then body.dropLast else body
      let unread := rest.drop body.length
      let content := (body.reverse.dropWhile List.isEmpty).reverse
      let tail := body.length - content.length
      let broken := !(atEnd && !closed)
      let text := if folded then foldBlock content else List.intercalate ['\n'] content
      let ending := match chomping with
        | .strip => 0
        | .clip => if content.isEmpty then 0 else if broken || 0 < tail then 1 else 0
        | .keep => tail + if content.isEmpty then 0 else if broken then 1 else 0
      set { c with rest := List.intercalate ['\n'] unread, column := 0 }
      return .scalar (String.ofList (text ++ List.replicate ending '\n')) false

/-- Moves past a tag. -/
def skipTag : Reader Unit := do
  let c ← get
  advance (c.rest.takeWhile fun d => d != ' ' && d != '\t' && d != '\n').length

mutual

/-- Reads a node inside a flow collection. -/
def flowNode : Nat → Reader Node
  | 0 => failure
  | fuel + 1 => do
    let _ ← skipGap true
    let c ← get
    if c.atMarker then failure
    else
      match c.rest with
      | [] => failure
      | '[' :: _ => do
        advance 1
        return .sequence (← flowItems fuel)
      | '\x7b' :: _ => do
        advance 1
        return .mapping (← flowEntries fuel)
      | '"' :: _ => return .scalar (← quotedScalar).1 false
      | '\'' :: _ => return .scalar (← quotedScalar).1 false
      | '*' :: _ => do namedNode (← readName)
      | '&' :: _ => do
        let name ← readName
        let n ← flowNode fuel
        nameNode name n
        return n
      | '!' :: _ => do
        skipTag
        flowNode fuel
      | d :: rest =>
        if startsPlain true d rest then do
          let run := plainRun true ' ' c.rest
          if hasStrayColon run (c.rest.drop run.length) then failure
          else
            advance run.length
            let text ← plainMore true (-1) fuel (dropBlankEnd run)
            return .scalar (String.ofList text) true
        else failure

/-- Reads the value after the colon of a flow entry; it may be absent. -/
def flowValue : Nat → Reader Node
  | 0 => failure
  | fuel + 1 => do
    advance 1
    let _ ← skipGap true
    match (← get).rest with
    | ',' :: _ => return .empty
    | ']' :: _ => return .empty
    | '\x7d' :: _ => return .empty
    | _ => flowNode fuel

/-- Reads the items of a flow sequence up to its end; a pair is a mapping of one entry. -/
def flowItems : Nat → Reader (List Node)
  | 0 => failure
  | fuel + 1 => do
    let _ ← skipGap true
    match (← get).rest with
    | ']' :: _ => do
      advance 1
      return []
    | _ => do
      let n ← flowNode fuel
      let _ ← skipGap true
      let n ← match (← get).rest with
        | ':' :: _ => do pure (Node.mapping [(n, ← flowValue fuel)])
        | _ => pure n
      let _ ← skipGap true
      match (← get).rest with
      | ',' :: _ => do
        advance 1
        return n :: (← flowItems fuel)
      | ']' :: _ => do
        advance 1
        return [n]
      | _ => failure

/-- Reads the entries of a flow mapping up to its end. -/
def flowEntries : Nat → Reader (List (Node × Node))
  | 0 => failure
  | fuel + 1 => do
    let _ ← skipGap true
    match (← get).rest with
    | '\x7d' :: _ => do
      advance 1
      return []
    | _ => do
      let key ← flowNode fuel
      let _ ← skipGap true
      let value ← match (← get).rest with
        | ':' :: _ => flowValue fuel
        | _ => pure .empty
      let _ ← skipGap true
      match (← get).rest with
      | ',' :: _ => do
        advance 1
        return (key, value) :: (← flowEntries fuel)
      | '\x7d' :: _ => do
        advance 1
        return [(key, value)]
      | _ => failure

end

/-- Whether a colon follows that makes what was read a key. -/
def colonFollows : Reader Bool := do
  let rest := (← get).rest.dropWhile fun c => c == ' ' || c == '\t'
  match rest with
  | ':' :: after => return startsBlank after
  | _ => return false

/-- Reads the key of a block mapping, up to its colon. -/
def blockKey : Reader Node := do
  let c ← get
  let key ← match c.rest with
    | '"' :: _ | '\'' :: _ => do
      let (s, oneLine) ← quotedScalar
      if oneLine then pure (Node.scalar s false) else failure
    | d :: rest =>
      if startsPlain false d rest then do
        let run := plainRun false ' ' c.rest
        advance run.length
        pure (Node.scalar (String.ofList (dropBlankEnd run)) true)
      else failure
    | [] => failure
  if ← colonFollows then
    let blanks := (← get).rest.takeWhile fun c => c == ' ' || c == '\t'
    advance blanks.length
    return key
  else failure

mutual

/-- Reads what follows an indicator of the collection at column `indent`.

`below` allows a sequence in that very column, `inline` a collection on the same line. -/
def blockValue (indent : Int) (below inline_ : Bool) : Nat → Reader Node
  | 0 => failure
  | fuel + 1 => do
    let crossed ← skipGap false (!inline_)
    let c ← get
    if c.rest.isEmpty || c.atMarker then return .empty
    else if !crossed then blockNode indent below inline_ fuel
    else if indent < c.column then blockNode indent below true fuel
    else if below && indent == c.column && c.atDash then
      return .sequence (← blockItems c.column fuel)
    else return .empty

/-- Reads a node at the cursor, inside the collection at column `indent`.

`collections` tells whether a block collection may start here. -/
def blockNode (indent : Int) (below collections : Bool) : Nat → Reader Node
  | 0 => failure
  | fuel + 1 => do
    let c ← get
    match c.rest with
    | [] => return .empty
    | '&' :: _ => do
      let name ← readName
      let n ← blockValue indent below false fuel
      nameNode name n
      return n
    | '!' :: _ => do
      skipTag
      blockValue indent below false fuel
    | '*' :: _ => do namedNode (← readName)
    | '[' :: _ => flowNode fuel
    | '\x7b' :: _ => flowNode fuel
    | '|' :: _ => blockScalar indent
    | '>' :: _ => blockScalar indent
    | '"' :: _ | '\'' :: _ => do
      let (s, oneLine) ← quotedScalar
      if ← colonFollows then
        if collections && oneLine then do
          set c
          return .mapping (← blockEntries c.column fuel)
        else failure
      else return .scalar s false
    | d :: rest =>
      if c.atDash then
        if collections then return .sequence (← blockItems c.column fuel) else failure
      else if startsPlain false d rest then do
        let run := plainRun false ' ' c.rest
        advance run.length
        if ← colonFollows then
          if collections then do
            set c
            return .mapping (← blockEntries c.column fuel)
          else failure
        else
          let text ← plainMore false indent fuel (dropBlankEnd run)
          if ← colonFollows then failure else return .scalar (String.ofList text) true
      else failure

/-- Reads the entries of the block sequence in a column. -/
def blockItems (column : Nat) : Nat → Reader (List Node)
  | 0 => failure
  | fuel + 1 => do
    advance 1
    let n ← blockValue column false true fuel
    let _ ← skipGap false
    let c ← get
    if !c.rest.isEmpty && !c.atMarker && c.column == column && c.atDash then
      return n :: (← blockItems column fuel)
    else return [n]

/-- Reads the entries of the block mapping in a column. -/
def blockEntries (column : Nat) : Nat → Reader (List (Node × Node))
  | 0 => failure
  | fuel + 1 => do
    let key ← blockKey
    advance 1
    let value ← blockValue column true false fuel
    let _ ← skipGap false
    let c ← get
    if c.rest.isEmpty || c.atMarker || c.column < column then return [(key, value)]
    else if c.column == column then return (key, value) :: (← blockEntries column fuel)
    else failure

end

/-- Moves past the lines of directives, and tells whether there were any. -/
def skipDirectives : Nat → Bool → Reader Bool
  | 0, _ => failure
  | fuel + 1, found => do
    let _ ← skipGap false
    let c ← get
    match c.rest with
    | '%' :: _ =>
      if c.column = 0 then do
        let rest := c.rest.dropWhile (· != '\n')
        set { c with rest, column := 1 }
        skipDirectives fuel true
      else failure
    | _ => return found

/-- Moves past marks of document ends, and tells whether the text ends there. -/
def onlyEnds : Nat → Reader Bool
  | 0 => failure
  | fuel + 1 => do
    let _ ← skipGap false
    let c ← get
    match c.rest with
    | [] => return true
    | '.' :: _ =>
      if c.atMarker then do
        advance 3
        onlyEnds fuel
      else return false
    | _ => return false

/-- Reads the document of a text; nothing if the text holds no document. -/
def document (fuel : Nat) : Reader (Option Node) := do
  let directives ← skipDirectives fuel false
  let c ← get
  if c.rest.isEmpty then
    if directives then failure else return none
  else
    let starts := c.atMarker && c.rest.head? == some '-'
    if directives && !starts then failure
    else
      let n ←
        if starts then do
          advance 3
          blockValue (-1) false false fuel
        else if c.atMarker then failure
        else blockNode (-1) false true fuel
      if ← onlyEnds fuel then return some n else failure

/-- Reads a YAML text of at most one document; a text without one is an empty mapping. -/
def read? (text : String) : Option Node := do
  if !text.toList.all isAllowed && text.toList.head? != some '\ufeff' then none
  else
    let s := normalizeBreaks text.toList
    let s := match s with
      | '\ufeff' :: rest => rest
      | _ => s
    let (n, _) ← (document (8 * s.length + 16)).run { rest := s }
    return n.getD (.mapping [])

end DefectCatalog.Yaml
