import Casework.Settings.Yaml.Block
import Casework.Settings.Yaml.Scalar

/-!
Settings files in YAML: one document of block and flow collections, scalars of all
styles, tags, anchors and aliases. Keys are texts or whole numbers, and the last of
several entries under one key counts.
-/

namespace Casework.Yaml

/-! ### Properties -/

/-- What may stand in front of a value. -/
structure Properties where
  anchor : Option String := none
  tag : Option Tag := none

/-- Characters of the names of anchors and tags. -/
def isNameChar (c : Char) : Bool := !isGap (some c) && !isFlowMark c

/-- The tag with this text behind its first mark. -/
def tagOf? (text : List Char) : Option Tag :=
  match text with
  | '!' :: name => some (.kind (String.ofList name))
  | _ => if text.contains '!' then none else some .other

/-- The tag that begins here and the place behind it. -/
def readTag? (p : Place) : Option (Tag × Place) :=
  match p.rest with
  | '!' :: '<' :: rest =>
    let text := rest.takeWhile fun c => c ≠ '>' && c ≠ '\n'
    match rest.drop text.length with
    | '>' :: _ => some (.other, p.move (text.length + 3))
    | _ => none
  | '!' :: rest => do
    let text := rest.takeWhile isNameChar
    return (← tagOf? text, p.move (text.length + 1))
  | _ => none

/-- The properties that begin here, on one line, with a gap behind each. -/
def readProperties? : Nat → Properties → Place → Option (Properties × Place)
  | 0, _, _ => none
  | fuel + 1, properties, p =>
    let start := p.skipBlanks
    let separated (next : Place) : Bool :=
      isGap next.rest.head? || next.rest.head?.any isFlowMark
    match start.rest with
    | '&' :: rest =>
      let name := rest.takeWhile isNameChar
      let next := start.move (name.length + 1)
      if name = [] ∨ properties.anchor.isSome ∨ !separated next then none
      else readProperties? fuel { properties with anchor := some (String.ofList name) } next
    | '!' :: _ => do
      let (tag, next) ← readTag? start
      if properties.tag.isSome ∨ !separated next then none
      readProperties? fuel { properties with tag := some tag } next
    | _ => some (properties, p)

/-- The value, for which the anchor stands from now on. -/
def Properties.mark (properties : Properties) (value : SettingValue) (p : Place) :
    SettingValue × Place :=
  match properties.anchor with
  | some name => (value, { p with anchors := (name, value) :: p.anchors })
  | none => (value, p)

def Properties.isEmpty (properties : Properties) : Bool :=
  properties.anchor.isNone && properties.tag.isNone

/-- The value of nothing: null, unless there are properties. -/
def Properties.absent? (properties : Properties) (p : Place) : Option (SettingValue × Place) :=
  if properties.isEmpty then some (.null, p)
  else (ofScalar? (properties.tag.or (some .other)) "").map fun value => properties.mark value p

/-- The value for which the anchor named here stands. -/
def readAlias? (p : Place) : Option (SettingValue × Place) := do
  let name := (p.rest.drop 1).takeWhile isNameChar
  let value ← p.anchors.lookup (String.ofList name)
  return (value, p.move (name.length + 1))

/-- The key that a value is. -/
def keyOf? : SettingValue → Option String
  | .text s => some s
  | .int n => some (toString n)
  | _ => none

/-! ### Flow collections -/

/-- The place of what comes next inside brackets, which does not begin before a column. -/
def flowAhead? (column : Nat) (p : Place) : Option Place :=
  let next := p.ahead
  if next.atEnd ∨ (!p.sameLine next ∧ next.column < column) then none else some next

/-- A colon between a key and its value. It needs no gap behind it if the key ends in a quote or a
    bracket. -/
def isFlowColon (closed : Bool) : List Char → Bool
  | ':' :: rest => closed || isGap rest.head? || rest.head?.any isFlowMark
  | _ => false

mutual

/-- A value inside brackets, and whether it ends in a quote or a bracket. -/
def readFlowNode? : Nat → Nat → Place → Option (SettingValue × Bool × Place)
  | 0, _, _ => none
  | fuel + 1, column, p => do
    let p ← flowAhead? column p
    let (properties, next) ← readProperties? 3 {} p
    let next ← flowAhead? column next
    match next.rest with
    | '*' :: _ =>
      let (value, behind) ← readAlias? next
      return (value, false, behind)
    | '[' :: _ | '\x7b' :: _ =>
      let (value, behind) ← readFlow? fuel column next
      let (value, behind) := properties.mark value behind
      return (value, true, behind)
    | '"' :: _ | '\'' :: _ =>
      let (s, behind) ← readText? next
      let (value, behind) := properties.mark (.text s) behind
      return (value, true, behind)
    | rest =>
      if startsPlain true rest then
        let (s, behind) := readPlain true 0 next
        let (value, behind) := properties.mark (← ofScalar? properties.tag s) behind
        return (value, false, behind)
      else
        let (value, behind) ← properties.absent? next
        return (value, false, behind)

/-- The list or table in brackets that begins here. -/
def readFlow? : Nat → Nat → Place → Option (SettingValue × Place)
  | 0, _, _ => none
  | fuel + 1, column, p =>
    match p.rest with
    | '[' :: _ => (readFlowItems? fuel column (p.move 1)).map fun (items, p) => (.list items, p)
    | '\x7b' :: _ =>
      (readFlowEntries? fuel column [] (p.move 1)).map fun (entries, p) => (.table entries, p)
    | _ => none

/-- A key or an item, the value behind a colon if there is one, and whether there is anything. -/
def readFlowPair? : Nat → Nat → Place → Option (SettingValue × Option SettingValue × Place)
  | 0, _, _ => none
  | fuel + 1, column, p => do
    let start ← flowAhead? column p
    let explicit := start.atIndicator '?'
    let (key, closed, next) ← readFlowNode? fuel column (if explicit then start.move 1 else start)
    let colon ← flowAhead? column next
    if isFlowColon closed colon.rest then
      let (value, _, next) ← readFlowNode? fuel column (colon.move 1)
      return (key, some value, next)
    else if explicit then return (key, some .null, next)
    -- an item is more than nothing
    else if start.rest.length = colon.rest.length then none
    else return (key, none, next)

/-- The items of a list, up to its bracket. A key with a value is a table of its own. -/
def readFlowItems? : Nat → Nat → Place → Option (List SettingValue × Place)
  | 0, _, _ => none
  | fuel + 1, column, p => do
    let next ← flowAhead? column p
    match next.rest with
    | ']' :: _ => return ([], next.move 1)
    | _ =>
      let (key, value, next) ← readFlowPair? fuel column next
      let item ←
        match value with
        | some value => do pure (.table [(← keyOf? key, value)])
        | none => pure key
      let next ← flowAhead? column next
      match next.rest with
      | ',' :: _ =>
        let (items, next) ← readFlowItems? fuel column (next.move 1)
        return (item :: items, next)
      | ']' :: _ => return ([item], next.move 1)
      | _ => none

/-- The entries of a table, up to its brace. A key without a value has null. -/
def readFlowEntries? : Nat → Nat → List (String × SettingValue) → Place →
    Option (List (String × SettingValue) × Place)
  | 0, _, _, _ => none
  | fuel + 1, column, entries, p => do
    let next ← flowAhead? column p
    match next.rest with
    | '\x7d' :: _ => return (entries, next.move 1)
    | _ =>
      let (key, value, next) ← readFlowPair? fuel column next
      let entries := SettingValue.setEntry (← keyOf? key) (value.getD .null) entries
      let next ← flowAhead? column next
      match next.rest with
      | ',' :: _ => readFlowEntries? fuel column entries (next.move 1)
      | '\x7d' :: _ => return (entries, next.move 1)
      | _ => none

end

/-! ### Block collections -/

/-- A colon with a gap behind it comes next on this line: what is behind is a key. -/
def beforeColon (p : Place) : Bool := p.skipBlanks.atIndicator ':'

/-- A scalar, an alias or a flow collection. Without quotes, it ends with the line if it is a
    key. -/
def readAtom? (fuel column : Nat) (properties : Properties) (p : Place) :
    Option (SettingValue × Place) :=
  match p.rest with
  | '*' :: _ => if properties.isEmpty then readAlias? p else none
  | '[' :: _ | '\x7b' :: _ => do
    let (value, behind) ← readFlow? fuel (column - 1) p
    return properties.mark value behind
  | '"' :: _ | '\'' :: _ => do
    let (s, behind) ← readText? p
    return properties.mark (.text s) behind
  | rest =>
    if startsPlain false rest then do
      let (text, behind) := readPlainLine false p
      let (s, behind) :=
        if beforeColon behind then (String.ofList text, behind) else readPlain false column p
      return properties.mark (← ofScalar? properties.tag s) behind
    else none

/-- The key that begins here and the place behind its colon, on the same line. -/
def readKey? (fuel : Nat) (p : Place) : Option (String × Place) := do
  let (properties, next) ← readProperties? 3 {} p
  let (key, behind) ← readAtom? fuel 0 properties next.skipBlanks
  if beforeColon behind ∧ p.sameLine behind then
    return (← keyOf? key, behind.skipBlanks.move 1)
  else none

/-- Where a value may begin. -/
structure Slot where
  /-- At this column or behind it. -/
  column : Nat
  /-- A list may begin one column before. -/
  outdented : Bool := false
  /-- A block collection may begin on the line on which the value is expected. -/
  compact : Bool := false

mutual

/-- The value that comes next in a slot, with the properties of lines before it. -/
def readNode? : Nat → Slot → Properties → Place → Option (SettingValue × Place)
  | 0, _, _, _ => none
  | fuel + 1, slot, outer, p => do
    let start := p.ahead
    let mayBlock := (slot.compact || !p.sameLine start) && !p.tabbed start
    let isItem := start.atIndicator '-'
    let inSlot :=
      slot.column ≤ start.column ||
        (slot.outdented && isItem && start.column + 1 = slot.column)
    if start.atEnd ∨ !inSlot then outer.absent? p
    else if isItem then
      if !mayBlock then none
      let (items, behind) ← readItems? fuel start.column start
      return outer.mark (.list items) behind
    else if start.atIndicator '?' ∨ (readKey? fuel start).isSome then
      if !mayBlock then none
      let (entries, behind) ← readEntries? fuel start.column [] start
      return outer.mark (.table entries) behind
    else
      let (inner, next) ← readProperties? 3 {} start
      let properties : Properties := ⟨inner.anchor.or outer.anchor, inner.tag.or outer.tag⟩
      let content := next.ahead
      if content.atEnd ∨ !start.sameLine content then
        readNode? fuel { slot with compact := true } properties next
      else if content.rest.head? = some '|' ∨ content.rest.head? = some '>' then
        let (s, behind) ← readBlock? slot.column content
        return properties.mark (.text s) behind
      else readAtom? fuel slot.column properties content

/-- The items of a list whose first mark is here, at this column. -/
def readItems? : Nat → Nat → Place → Option (List SettingValue × Place)
  | 0, _, _ => none
  | fuel + 1, column, p => do
    let (item, behind) ← readNode? fuel { column := column + 1, compact := true } {} (p.move 1)
    let next := behind.ahead
    if !next.atEnd ∧ next.column = column ∧ next.atIndicator '-' then
      let (items, behind) ← readItems? fuel column next
      return (item :: items, behind)
    else return ([item], behind)

/-- The entries of a table, the next of which begins here, at this column. -/
def readEntries? : Nat → Nat → List (String × SettingValue) → Place →
    Option (List (String × SettingValue) × Place)
  | 0, _, _, _ => none
  | fuel + 1, column, entries, p => do
    let (key, value, behind) ← readEntry? fuel column p
    let entries := SettingValue.setEntry key value entries
    let next := behind.ahead
    if next.atEnd ∨ next.column < column then return (entries, behind)
    else if next.column = column then readEntries? fuel column entries next
    else none

/-- A key and its value. The key may be a value of its own behind a question mark, and has a value
    then behind a colon at the same column. -/
def readEntry? : Nat → Nat → Place → Option (String × SettingValue × Place)
  | 0, _, _ => none
  | fuel + 1, column, p => do
    if p.atIndicator '?' then
      let (key, behind) ← readNode? fuel { column := column + 1, compact := true } {} (p.move 1)
      let key ← keyOf? key
      let next := behind.ahead
      if next.column = column ∧ next.atIndicator ':' then
        let (value, behind) ← readNode? fuel ⟨column + 1, true, true⟩ {} (next.move 1)
        return (key, value, behind)
      else return (key, .null, behind)
    else
      let (key, next) ← readKey? fuel p
      let (value, behind) ← readNode? fuel { column := column + 1, outdented := true } {} next
      return (key, value, behind)

end

/-! ### Documents -/

/-- The text with a line feed at every line end. -/
def plainBreaks : List Char → List Char
  | '\r' :: '\n' :: rest => '\n' :: plainBreaks rest
  | c :: rest => (if c = '\r' then '\n' else c) :: plainBreaks rest
  | [] => []

/-- The place behind lines that end documents. -/
def skipEnds : Nat → Place → Place
  | 0, p => p
  | fuel + 1, p => if p.ahead.atMark '.' then skipEnds fuel (p.ahead.move 3) else p.ahead

/-- The place behind directives, and whether there are any. -/
def skipDirectives : Nat → Place → Bool × Place
  | 0, p => (false, p)
  | fuel + 1, p =>
    let next := p.ahead
    if next.column = 0 ∧ next.rest.head? = some '%' then
      (true, (skipDirectives fuel (next.skipWhile (· ≠ '\n'))).2)
    else (false, next)

/-- What the one document of a file gives. A file without any is an empty table. -/
def read? (s : String) : Option SettingValue := do
  let cs := plainBreaks s.toList
  let (directed, start) := skipDirectives (cs.length + 1) (skipEnds (cs.length + 1) { rest := cs })
  if start.rest = [] then
    if directed then none else return .table []
  else
    let marked := start.atMark '-'
    if directed ∧ !marked then none
    let start := if marked then start.move 3 else start
    let (value, behind) ← readNode? (4 * cs.length + 8) { column := 0, compact := !marked } {} start
    if (skipEnds (cs.length + 1) behind).rest = [] then return value else none

end Casework.Yaml
