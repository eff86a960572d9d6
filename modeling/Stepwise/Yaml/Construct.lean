import Stepwise.Yaml.Node
import Stepwise.Yaml.TokenStream

/-!
# Reading nodes

The tokens of a document make up one node.  Reading it takes the tokens one by one and stops at the
first that cannot stand where it stands; a token that tells a fault stops it as well.  Tokens after
the end of the first document are not looked at.
-/

namespace Stepwise

namespace Yaml

namespace Node

/-- What a reading leaves: its result, the nodes with a name, and the tokens after it. -/
abbrev Left (α : Type) := α × Anchors × List Token

/-- Reading a part of the tokens `ts` that takes at least one. -/
abbrev Reading (α : Type) (ts : List Token) :=
  Except Fault { p : Left α // p.2.2.length < ts.length }

/-- Reading a part of the tokens `ts` that may take none. -/
abbrev OptionalReading (α : Type) (ts : List Token) :=
  Except Fault { p : Left α // p.2.2.length ≤ ts.length }

/-- The fault that the next token makes: its own if it is broken, else the given problem of a
construct that began on line `start`. -/
def faultAt (problem : Problem) (start : Nat) : List Token → Fault
  | [] => .ofConstruct problem start start
  | t :: _ =>
    match t.kind with
    | .broken fault => fault
    | _ => .ofConstruct problem start t.place.line

/-- Whether the next token is one of the given kinds. -/
def nextIs (kinds : List TokenKind) : List Token → Bool
  | [] => false
  | t :: _ => kinds.contains t.kind

/-- The line of the next token. -/
def nextLine : List Token → Nat
  | [] => 0
  | t :: _ => t.place.line

/-! ## Names and tags -/

/-- What is written before a node. -/
structure Properties where
  /-- The line on which the first of it stands. -/
  line : Option Nat
  anchor : Option (String × Nat)
  tag : Option (String × Text × Nat)

/-- Whether nothing is written before the node. -/
def Properties.isBare (p : Properties) : Bool := p.line.isNone

/-- Reading what is written before a node. -/
abbrev PropertiesReading (ts : List Token) :=
  { p : Properties × List Token //
    p.2.length ≤ ts.length ∧ (p.1.isBare = false → p.2.length < ts.length) }

/-- Reads the name and the tag before a node, in either order. -/
def properties (ts : List Token) : PropertiesReading ts :=
  match ts with
  | ⟨.anchor name, p⟩ :: ⟨.tag handle suffix, q⟩ :: rest =>
    ⟨(⟨some p.line, some (name, p.index), some (handle, suffix, q.line)⟩, rest),
      Nat.le_add_right _ 2, fun _ => Nat.lt_add_of_pos_right Nat.two_pos⟩
  | ⟨.anchor name, p⟩ :: rest =>
    ⟨(⟨some p.line, some (name, p.index), none⟩, rest), Nat.le_succ _, fun _ => Nat.lt_succ_self _⟩
  | ⟨.tag handle suffix, p⟩ :: ⟨.anchor name, q⟩ :: rest =>
    ⟨(⟨some p.line, some (name, q.index), some (handle, suffix, p.line)⟩, rest),
      Nat.le_add_right _ 2, fun _ => Nat.lt_add_of_pos_right Nat.two_pos⟩
  | ⟨.tag handle suffix, p⟩ :: rest =>
    ⟨(⟨some p.line, none, some (handle, suffix, p.line)⟩, rest),
      Nat.le_succ _, fun _ => Nat.lt_succ_self _⟩
  | ts => ⟨(⟨none, none, none⟩, ts), Nat.le_refl _, by simp [Properties.isBare]⟩

/-- What the handles of tags stand for. -/
abbrev Handles := List (String × Text)

/-- How the full names of standard tags start. -/
def standardStem : Text := Text.ofString "tag:yaml.org,2002:"

/-- The handles that every document has. -/
def standardHandles : Handles := [("!", Text.ofString "!"), ("!!", standardStem)]

/-- The tag with a full name. -/
def tagOfFullName (name : Text) : Tag :=
  if standardStem.isPrefixOf name then
    Tag.ofName (Text.ofString "!!" ++ name.drop standardStem.length)
  else Tag.ofName name

/-- The tag that a handle and a suffix give; the tag `!` alone leaves it to the node. -/
def tag? (handles : Handles) (start : Nat) :
    Option (String × Text × Nat) → Except Fault (Option Tag)
  | none => .ok none
  | some (handle, suffix, line) =>
    let full :=
      if handle = "" then some suffix else (handles.lookup handle).map (· ++ suffix)
    match full with
    | none => .error (.ofConstruct .unknownHandle start line)
    | some name => .ok (if name = Text.ofString "!" then none else some (tagOfFullName name))

/-! ## Nodes -/

mutual

/-- Reads a node.  `block` says that columns may delimit it, and `loose` that it may be a sequence
whose dashes stand below the key of which it is the value. -/
def node (handles : Handles) (block loose : Bool) (anchors : Anchors) (ts : List Token) :
    Reading Node ts :=
  match ts with
  | ⟨.reference name, place⟩ :: rest =>
    match anchors.reference? place.line name with
    | some node => .ok ⟨(node, anchors, rest), by simp⟩
    | none => .error (.ofProblem (.unknownAnchor name))
  | ts => do
    let ⟨(props, rest), h⟩ := properties ts
    let ⟨(node, anchors, rest₁), h₁⟩ ← content handles block loose props anchors rest
    return ⟨(node, anchors, rest₁), by grind⟩
termination_by 8 * ts.length + 2
decreasing_by all_goals grind

/-- Reads a node after what is written before it. -/
def content (handles : Handles) (block loose : Bool) (props : Properties) (anchors : Anchors)
    (ts : List Token) :
    Except Fault { p : Left Node // p.2.2.length ≤ ts.length ∧
      (props.isBare = true → p.2.2.length < ts.length) } :=
  match ts with
  | [] => .error (.ofConstruct .noContent 0 0)
  | t :: rest =>
    match t.kind with
    | .broken fault => .error fault
    | kind => do
      let start := props.line.getD t.place.line
      let explicit ← tag? handles start props.tag
      let opened (shape : Shape) (tag : Tag) := anchors.add props.anchor (.head shape start tag)
      let seqTag := explicit.getD .seq
      let mapTag := explicit.getD .map
      if hd : loose = true ∧ nextIs [.dash] (t :: rest) = true then
        let ⟨(items, anchors, rest₁), h₁⟩ ← looseItems handles (opened .seq seqTag) (t :: rest)
        let node := Node.seq start seqTag items
        return ⟨(node, anchors.complete props.anchor node, rest₁), by grind⟩
      else if kind = .openSeq then
        let ⟨(items, anchors, rest₁), h₁⟩ ←
          flowItems handles t.place.line (opened .seq seqTag) rest
        let node := Node.seq start seqTag items
        return ⟨(node, anchors.complete props.anchor node, rest₁), by grind⟩
      else if kind = .openMap then
        let ⟨(entries, anchors, rest₁), h₁⟩ ←
          flowEntries handles t.place.line (opened .map mapTag) rest
        let node := Node.map start mapTag entries
        return ⟨(node, anchors.complete props.anchor node, rest₁), by grind⟩
      else if block && kind = .startSeq then
        let ⟨(items, anchors, rest₁), h₁⟩ ←
          blockItems handles t.place.line (opened .seq seqTag) rest
        let node := Node.seq start seqTag items
        return ⟨(node, anchors.complete props.anchor node, rest₁), by grind⟩
      else if block && kind = .startMap then
        let ⟨(entries, anchors, rest₁), h₁⟩ ←
          blockEntries handles t.place.line (opened .map mapTag) rest
        let node := Node.map start mapTag entries
        return ⟨(node, anchors.complete props.anchor node, rest₁), by grind⟩
      else
        match kind with
        | .scalar plain text =>
          let node := Node.scalar start (explicit.getD (defaultTag plain text)) text
          return ⟨(node, anchors.add props.anchor (.whole node), rest), by grind⟩
        | _ =>
          if h : props.isBare = true then
            throw (.ofConstruct .noContent start t.place.line)
          else
            let node := Node.scalar start (explicit.getD .null) ""
            return ⟨(node, anchors.add props.anchor (.whole node), t :: rest), by grind⟩
termination_by 8 * ts.length + 1
decreasing_by all_goals grind

/-- Reads the items of a sequence between brackets, and the closing bracket. -/
def flowItems (handles : Handles) (start : Nat) (anchors : Anchors) (ts : List Token) :
    Reading (List Node) ts :=
  match ts with
  | ⟨.closeSeq, _⟩ :: rest => .ok ⟨([], anchors, rest), by simp⟩
  | ⟨.key, place⟩ :: rest => do
    let ⟨(entry, anchors, rest₁), h₁⟩ ← flowPair handles anchors rest
    let ⟨(items, anchors, rest₂), h₂⟩ ← moreFlowItems handles start anchors rest₁
    return ⟨(.map place.line .map [entry] :: items, anchors, rest₂), by grind⟩
  | ts => do
    let ⟨(item, anchors, rest₁), h₁⟩ ← node handles false false anchors ts
    let ⟨(items, anchors, rest₂), h₂⟩ ← moreFlowItems handles start anchors rest₁
    return ⟨(item :: items, anchors, rest₂), by grind⟩
termination_by 8 * ts.length + 3
decreasing_by all_goals grind

/-- Reads what follows an item of a sequence between brackets. -/
def moreFlowItems (handles : Handles) (start : Nat) (anchors : Anchors) (ts : List Token) :
    Reading (List Node) ts :=
  match ts with
  | ⟨.comma, _⟩ :: rest => do
    let ⟨(items, anchors, rest₁), h₁⟩ ← flowItems handles start anchors rest
    return ⟨(items, anchors, rest₁), by grind⟩
  | ⟨.closeSeq, _⟩ :: rest => .ok ⟨([], anchors, rest), by simp⟩
  | ts => .error (faultAt .openSeq start ts)
termination_by 8 * ts.length
decreasing_by all_goals grind

/-- Reads a map of one entry that is an item between brackets, after the mark of its key.  If the
key is missing, the token in its place is passed over. -/
def flowPair (handles : Handles) (anchors : Anchors) (ts : List Token) :
    OptionalReading (Node × Node) ts :=
  if nextIs [.colon, .comma, .closeSeq] ts then
    match ts with
    | [] => .ok ⟨((missing 0, missing 0), anchors, []), by simp⟩
    | t :: rest => do
      let ⟨(value, anchors, rest₁), h₁⟩ ← flowValue handles .closeSeq anchors rest
      return ⟨((missing t.place.line, value), anchors, rest₁), by grind⟩
  else do
    let ⟨(key, anchors, rest₁), h₁⟩ ← node handles false false anchors ts
    let ⟨(value, anchors, rest₂), h₂⟩ ← flowValue handles .closeSeq anchors rest₁
    return ⟨((key, value), anchors, rest₂), by grind⟩
termination_by 8 * ts.length + 3
decreasing_by all_goals grind

/-- Reads a colon and the value after it, if there are any, inside braces or brackets that
`closing` closes. -/
def flowValue (handles : Handles) (closing : TokenKind) (anchors : Anchors) (ts : List Token) :
    OptionalReading Node ts :=
  match ts with
  | ⟨.broken fault, _⟩ :: _ => .error fault
  | ⟨.colon, place⟩ :: rest =>
    if nextIs [.comma, closing] rest then .ok ⟨(missing place.line, anchors, rest), by simp⟩
    else do
      let ⟨(value, anchors, rest₁), h₁⟩ ← node handles false false anchors rest
      return ⟨(value, anchors, rest₁), by grind⟩
  | ts => .ok ⟨(missing 0, anchors, ts), by simp⟩
termination_by 8 * ts.length
decreasing_by all_goals grind

/-- Reads the entries of a map between braces, and the closing brace. -/
def flowEntries (handles : Handles) (start : Nat) (anchors : Anchors) (ts : List Token) :
    Reading (List (Node × Node)) ts :=
  match ts with
  | ⟨.closeMap, _⟩ :: rest => .ok ⟨([], anchors, rest), by simp⟩
  | ⟨.key, _⟩ :: rest =>
    if nextIs [.colon, .comma, .closeMap] rest then do
      let ⟨(value, anchors, rest₁), h₁⟩ ← flowValue handles .closeMap anchors rest
      let ⟨(entries, anchors, rest₂), h₂⟩ ← moreFlowEntries handles start anchors rest₁
      return ⟨((missing (nextLine rest), value) :: entries, anchors, rest₂), by grind⟩
    else do
      let ⟨(key, anchors, rest₁), h₁⟩ ← node handles false false anchors rest
      let ⟨(value, anchors, rest₂), h₂⟩ ← flowValue handles .closeMap anchors rest₁
      let ⟨(entries, anchors, rest₃), h₃⟩ ← moreFlowEntries handles start anchors rest₂
      return ⟨((key, value) :: entries, anchors, rest₃), by grind⟩
  | ts => do
    let ⟨(key, anchors, rest₁), h₁⟩ ← node handles false false anchors ts
    let ⟨(entries, anchors, rest₂), h₂⟩ ← moreFlowEntries handles start anchors rest₁
    return ⟨((key, missing 0) :: entries, anchors, rest₂), by grind⟩
termination_by 8 * ts.length + 3
decreasing_by all_goals grind

/-- Reads what follows an entry of a map between braces. -/
def moreFlowEntries (handles : Handles) (start : Nat) (anchors : Anchors) (ts : List Token) :
    Reading (List (Node × Node)) ts :=
  match ts with
  | ⟨.comma, _⟩ :: rest => do
    let ⟨(entries, anchors, rest₁), h₁⟩ ← flowEntries handles start anchors rest
    return ⟨(entries, anchors, rest₁), by grind⟩
  | ⟨.closeMap, _⟩ :: rest => .ok ⟨([], anchors, rest), by simp⟩
  | ts => .error (faultAt .openMap start ts)
termination_by 8 * ts.length
decreasing_by all_goals grind

/-- Reads the items of a sequence that columns delimit, and its end. -/
def blockItems (handles : Handles) (start : Nat) (anchors : Anchors) (ts : List Token) :
    Reading (List Node) ts :=
  match ts with
  | ⟨.dedent, _⟩ :: rest => .ok ⟨([], anchors, rest), by simp⟩
  | ⟨.dash, place⟩ :: rest => do
    let ⟨(item, anchors, rest₁), h₁⟩ ←
      blockPart handles false [.dash, .dedent] place.line anchors rest
    let ⟨(items, anchors, rest₂), h₂⟩ ← blockItems handles start anchors rest₁
    return ⟨(item :: items, anchors, rest₂), by grind⟩
  | ts => .error (faultAt .noDash start ts)
termination_by 8 * ts.length
decreasing_by all_goals grind

/-- Reads the items of a sequence whose dashes stand below the key of which it is the value. -/
def looseItems (handles : Handles) (anchors : Anchors) (ts : List Token) :
    Except Fault { p : Left (List Node) // p.2.2.length ≤ ts.length ∧
      (nextIs [.dash] ts = true → p.2.2.length < ts.length) } :=
  match ts with
  | [] => .ok ⟨([], anchors, []), by simp [nextIs]⟩
  | t :: rest =>
    match t.kind with
    | .broken fault => .error fault
    | _ =>
      if h : nextIs [.dash] (t :: rest) = true then do
        let ⟨(item, anchors, rest₁), h₁⟩ ←
          blockPart handles false [.dash, .key, .colon, .dedent] t.place.line anchors rest
        let ⟨(items, anchors, rest₂), h₂⟩ ← looseItems handles anchors rest₁
        return ⟨(item :: items, anchors, rest₂), by grind⟩
      else .ok ⟨([], anchors, t :: rest), by grind⟩
termination_by 8 * ts.length
decreasing_by all_goals grind

/-- Reads the entries of a map that columns delimit, and its end. -/
def blockEntries (handles : Handles) (start : Nat) (anchors : Anchors) (ts : List Token) :
    Reading (List (Node × Node)) ts :=
  match ts with
  | ⟨.dedent, _⟩ :: rest => .ok ⟨([], anchors, rest), by simp⟩
  | ⟨.key, place⟩ :: rest => do
    let ⟨(key, anchors, rest₁), h₁⟩ ←
      blockPart handles true [.key, .colon, .dedent] place.line anchors rest
    let ⟨(value, anchors, rest₂), h₂⟩ ← blockValue handles anchors rest₁
    let ⟨(entries, anchors, rest₃), h₃⟩ ← blockEntries handles start anchors rest₂
    return ⟨((key, value) :: entries, anchors, rest₃), by grind⟩
  | ts => .error (faultAt .noKey start ts)
termination_by 8 * ts.length
decreasing_by all_goals grind

/-- Reads a colon and the value after it, if there are any, in a map that columns delimit. -/
def blockValue (handles : Handles) (anchors : Anchors) (ts : List Token) :
    OptionalReading Node ts :=
  match ts with
  | ⟨.broken fault, _⟩ :: _ => .error fault
  | ⟨.colon, place⟩ :: rest => do
    let ⟨(value, anchors, rest₁), h₁⟩ ←
      blockPart handles true [.key, .colon, .dedent] place.line anchors rest
    return ⟨(value, anchors, rest₁), by grind⟩
  | ts => .ok ⟨(missing 0, anchors, ts), by simp⟩
termination_by 8 * ts.length
decreasing_by all_goals grind

/-- Reads a node unless one of the kinds `ends` comes next, which say that it is missing. -/
def blockPart (handles : Handles) (loose : Bool) (ends : List TokenKind) (line : Nat)
    (anchors : Anchors) (ts : List Token) : OptionalReading Node ts :=
  if nextIs ends ts then .ok ⟨(missing line, anchors, ts), by simp⟩
  else do
    let ⟨(node, anchors, rest), h⟩ ← node handles true loose anchors ts
    return ⟨(node, anchors, rest), by grind⟩
termination_by 8 * ts.length + 3
decreasing_by all_goals grind

end

/-! ## Documents -/

/-- The directives of a document: whether its version has been told, and its handles. -/
structure Directives where
  versionTold : Bool
  handles : Handles

/-- Reads the directives before a document. -/
def directives (d : Directives) : List Token → Except Fault (Handles × List Token)
  | ⟨.version major minor, place⟩ :: rest =>
    if d.versionTold then .error (.ofConstruct .repeatedVersion 0 place.line)
    else if major = 1 ∧ minor = 1 then directives { d with versionTold := true } rest
    else .error (.ofConstruct .badVersion 0 place.line)
  | ⟨.handle name stem, place⟩ :: rest =>
    if (d.handles.lookup name).isSome then .error (.ofConstruct .repeatedHandle 0 place.line)
    else directives { d with handles := (name, stem) :: d.handles } rest
  | ts => .ok (d.handles ++ standardHandles, ts)

/-- The kinds of tokens that start a document of its own. -/
def startsDocument : TokenKind → Bool
  | .version _ _ | .handle _ _ | .documentStart => true
  | _ => false

/-- Whether a document that was started holds no node. -/
def endsDocument : List Token → Bool
  | [] => true
  | t :: _ => startsDocument t.kind || t.kind = .documentEnd || t.kind = .finish

/-- Checks that the end of a document can be told. -/
def expectEnd : List Token → Except Fault Unit
  | ⟨.broken fault, _⟩ :: _ => .error fault
  | _ => .ok ()

/-- The node of the first document that the tokens hold, if they hold any. -/
def ofTokens? (ts : List Token) : Except Fault (Option Node) :=
  match ts with
  | [] => .ok none
  | t :: _ =>
    if t.kind = .finish then .ok none
    else if startsDocument t.kind then do
      let (handles, rest) ← directives ⟨false, []⟩ ts
      match rest with
      | ⟨.documentStart, _⟩ :: rest =>
        if endsDocument rest then return some (missing 0)
        let ⟨(node, _, rest), _⟩ ← node handles true false [] rest
        expectEnd rest
        return some node
      | rest => throw (faultAt .noDocumentStart 0 rest)
    else do
      let ⟨(node, _, rest), _⟩ ← node standardHandles true false [] ts
      expectEnd rest
      return some node

/-- The node of the first document that the text holds, if it holds any. -/
def ofText? (text : Text) : Except Fault (Option Node) := ofTokens? (tokens (.ofText text))

end Node

end Yaml

end Stepwise
