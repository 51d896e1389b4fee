import XcmTasks.Yaml.Token

/-!
YAML documents as trees. A part with an anchor stands again wherever an alias names it. A text of
several documents has several trees.
-/

namespace XcmTasks.Yaml

/-- The tokens that are left, and the parts with anchors, the last one first. -/
structure Rest where
  tokens : List Token
  anchors : List (String × Document)

abbrev NodeReader := StateT Rest Option

def failure {α : Type} : NodeReader α := fun _ => none

def next? : NodeReader (Option Token) := return (← get).tokens.head?

def drop : NodeReader Unit := modify fun r => { r with tokens := r.tokens.drop 1 }

def noteAnchor (name : String) (d : Document) : NodeReader Unit :=
  modify fun r => { r with anchors := (name, d) :: r.anchors }

def skips (token : Token) : NodeReader Bool := do
  if (← next?) = some token then
    drop
    return true
  else return false

def comes (tokens : List Token) : NodeReader Bool := do
  return (← next?).any fun t => tokens.contains t

def keyText : Document → NodeReader String
  | .text (some s) => pure s
  | .number cs =>
    if (cs.dropWhile (· = '-')).all Char.isDigit then pure (String.ofList cs) else failure
  | _ => failure

/-- The anchor and the tag of a part, in either order. -/
def properties : NodeReader (Option String × Option (String × String)) := do
  match ← next? with
  | some (.anchor name) =>
    drop
    noteAnchor name .null
    match ← next? with
    | some (.tag handle suffix) =>
      drop
      return (some name, some (handle, suffix))
    | _ => return (some name, none)
  | some (.tag handle suffix) =>
    drop
    match ← next? with
    | some (.anchor name) =>
      drop
      noteAnchor name .null
      return (some name, some (handle, suffix))
    | _ => return (none, some (handle, suffix))
  | _ => return (none, none)

def scalarValue (tag : Option (String × String)) (isPlain : Bool) (text : List Char) :
    NodeReader Document := fun r =>
  if !isPlain then some (.text (some (String.ofList text)), r)
  else
    let d? := match tag with
      | some (handle, suffix) => taggedValue? handle suffix text
      | none => plainValue? text
    d?.map (·, r)

mutual

/-- A part of a document. Outside of flows it may be a block, which for the value of a key may be a
sequence that stands no deeper than the key. -/
def node (inBlock besideKey : Bool) : Nat → NodeReader Document
  | 0 => failure
  | fuel + 1 => do
    if let some (.alias name) ← next? then
      drop
      match (← get).anchors.lookup name with
      | some d => return d
      | none => failure
    let (anchor, tag) ← properties
    let d ← match ← next? with
      | some (.scalar isPlain text) => do
        drop
        scalarValue tag isPlain text
      | some .blockEntry =>
        if besideKey then do pure (.list (← entries true fuel) true)
        else empty anchor tag
      | some .flowSequenceStart => do
        drop
        pure (.list (← flowItems true fuel) true)
      | some .flowMappingStart => do
        drop
        pure (Document.table (← flowMembers true fuel))
      | some .blockSequenceStart =>
        if inBlock then do
          drop
          pure (.list (← entries false fuel) true)
        else empty anchor tag
      | some .blockMappingStart =>
        if inBlock then do
          drop
          pure (Document.table (← members fuel))
        else empty anchor tag
      | _ => empty anchor tag
    if let some name := anchor then noteAnchor name d
    return d
where
  /-- A part that is left out, which only one with an anchor or a tag may be. -/
  empty (anchor : Option String) (tag : Option (String × String)) : NodeReader Document :=
    if anchor.isNone && tag.isNone then failure else scalarValue tag true []

/-- The items of a block from the next mark on. One beside a key ends where no mark follows. -/
def entries (besideKey : Bool) : Nat → NodeReader (List Document)
  | 0 => failure
  | fuel + 1 => do
    if ← skips .blockEntry then
      let ends : List Token :=
        if besideKey then [.blockEntry, .key, .value, .blockEnd] else [.blockEntry, .blockEnd]
      let d ← if ← comes ends then pure .null else node true false fuel
      return d :: (← entries besideKey fuel)
    else if besideKey then return []
    else if ← skips .blockEnd then return []
    else failure

/-- The members of a block from the next key on. -/
def members : Nat → NodeReader (List (String × Document))
  | 0 => failure
  | fuel + 1 => do
    if ← skips .blockEnd then return []
    let isKey ← skips .key
    if !isKey && !(← comes [.value]) then failure
    let ends : List Token := [.key, .value, .blockEnd]
    let key ← if !isKey || (← comes ends) then pure .null else node true true fuel
    let d ←
      if ← skips .value then
        if ← comes ends then pure .null else node true true fuel
      else pure .null
    return (← keyText key, d) :: (← members fuel)

def flowValue (ending : Token) : Nat → NodeReader Document
  | 0 => failure
  | fuel + 1 => do
    if ← skips .value then
      if ← comes [.flowEntry, ending] then return .null else node false false fuel
    else return .null

/-- The items of a flow. A pair stands for a mapping with one member. -/
def flowItems (isFirst : Bool) : Nat → NodeReader (List Document)
  | 0 => failure
  | fuel + 1 => do
    if ← skips .flowSequenceEnd then return []
    if !isFirst && !(← skips .flowEntry) then failure
    if ← skips .flowSequenceEnd then return []
    let d ←
      if ← skips .key then
        let key ←
          if ← comes [.value, .flowEntry, .flowSequenceEnd] then pure .null
          else node false false fuel
        let d ← flowValue .flowSequenceEnd fuel
        pure (.object [(some (← keyText key), d)] true)
      else node false false fuel
    return d :: (← flowItems false fuel)

def flowMembers (isFirst : Bool) : Nat → NodeReader (List (String × Document))
  | 0 => failure
  | fuel + 1 => do
    if ← skips .flowMappingEnd then return []
    if !isFirst && !(← skips .flowEntry) then failure
    if ← skips .flowMappingEnd then return []
    let isKey ← skips .key
    if isKey || (← comes [.value]) then
      let key ←
        if ← comes [.value, .flowEntry, .flowMappingEnd] then pure .null
        else node false false fuel
      let d ← flowValue .flowMappingEnd fuel
      return (← keyText key, d) :: (← flowMembers false fuel)
    else
      let key ← node false false fuel
      return (← keyText key, .null) :: (← flowMembers false fuel)

end

/-! ### Documents -/

def documents : Bool → Nat → NodeReader (List Document)
  | _, 0 => failure
  | isFirst, fuel + 1 => do
    let size := (← get).tokens.length
    if !isFirst then modify fun r => { r with tokens := r.tokens.dropWhile (· == .documentEnd) }
    if (← get).tokens.isEmpty then return []
    let isExplicit := !isFirst || (← comes [.directive, .documentStart])
    if isExplicit then
      modify fun r => { r with tokens := r.tokens.dropWhile (· == .directive) }
      if !(← skips .documentStart) then failure
    let isEmpty ← comes [.directive, .documentStart, .documentEnd]
    let d ←
      if isExplicit && (isEmpty || (← get).tokens.isEmpty) then pure .null
      else node true false (4 * size + 4)
    return d :: (← documents false fuel)

/-- The trees of a text, nothing if it is not YAML. -/
def documents? (text : String) : Option (List Document) := do
  let tokens ← tokens? text
  let (ds, _) ← documents true (tokens.length + 2) ⟨tokens, []⟩
  return ds

end XcmTasks.Yaml
