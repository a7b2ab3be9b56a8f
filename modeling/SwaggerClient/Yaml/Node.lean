import SwaggerClient.Entries
import SwaggerClient.Yaml.Token

namespace SwaggerClient.Yaml

/-- A node. -/
inductive Node where
  | scalar (tag : Option Tag) (text : String) (plain : Bool)
  | sequence (tag : Option Tag) (items : List Node)
  | mapping (tag : Option Tag) (entries : List (Node × Node))
  | alias (number : Nat)
deriving Inhabited

/-- A node that an anchor names. -/
structure Anchored where
  number : Nat
  /-- How many events come before the node. -/
  start : Nat
  node : Node

/-- The tokens that are left, and what is known of the document so far. -/
structure Composer where
  tokens : List Token
  /-- What handles of tags stand for. -/
  handles : List (String × List UInt8)
  /-- The numbers of anchors. -/
  numbers : List (String × Nat) := []
  anchored : List Anchored := []
  /-- Scalars, aliases, and starts and ends of collections. -/
  events : Nat := 0

namespace Composer

def peek? (s : Composer) : Option Token :=
  s.tokens.head?

def at? (s : Composer) (t : Token) : Bool :=
  s.tokens.head? == some t

def atAny (s : Composer) (ts : List Token) : Bool :=
  ts.any s.at?

def skip (s : Composer) : Composer :=
  { s with tokens := s.tokens.drop 1 }

def event (s : Composer) : Composer :=
  { s with events := s.events + 1 }

/-- Numbers an anchor. The number counts the names so far, also when the name is one of them. -/
def number (s : Composer) (name : String) : Nat × Composer :=
  let n := s.numbers.length
  (n, { s with numbers := Entries.set name n s.numbers })

/-- A scalar without text where a node is left out. -/
def emptyScalar (s : Composer) (tag : Option Tag) : Node × Composer :=
  (.scalar tag "" true, s.event)

def properties (s : Composer) : Option String × Option (String × List UInt8) × Composer :=
  match s.tokens with
  | .anchor name :: .tag handle suffix :: rest => (some name, some (handle, suffix), { s with tokens := rest })
  | .tag handle suffix :: .anchor name :: rest => (some name, some (handle, suffix), { s with tokens := rest })
  | .anchor name :: rest => (some name, none, { s with tokens := rest })
  | .tag handle suffix :: rest => (none, some (handle, suffix), { s with tokens := rest })
  | _ => (none, none, s)

def fullTag? (s : Composer) (handle : String) (suffix : List UInt8) : Option Tag :=
  if handle.isEmpty then some ⟨suffix⟩
  else (Entries.get? handle s.handles).map fun start => ⟨start ++ suffix⟩

def anchor (s : Composer) (number : Option Nat) (start : Nat) (node : Node) : Composer :=
  match number with
  | none => s
  | some n => { s with anchored := ⟨n, start, node⟩ :: s.anchored }

mutual

/-- A node. `block` tells that block collections may stand here, `indentless` that a sequence need not be
indented. -/
def node (fuel : Nat) (block indentless : Bool) (s : Composer) : Option (Node × Composer) :=
  match fuel with
  | 0 => none
  | fuel + 1 =>
    match s.tokens with
    | .alias name :: _ => do
      let n ← Entries.get? name s.numbers
      return (.alias n, s.skip.event)
    | _ => do
      let (anchorName, tagParts, s) := s.properties
      let tag ← match tagParts with
        | none => some none
        | some (handle, suffix) => (s.fullTag? handle suffix).map some
      let (number, s) := match anchorName with
        | none => (none, s)
        | some name =>
          let (n, s) := s.number name
          (some n, s)
      let start := s.events
      let (made, s) ← content fuel block indentless (anchorName.isSome || tagParts.isSome) tag s
      return (made, s.anchor number start made)
termination_by structural fuel

def content (fuel : Nat) (block indentless hasProperties : Bool) (tag : Option Tag) (s : Composer) :
    Option (Node × Composer) :=
  match fuel with
  | 0 => none
  | fuel + 1 =>
    match s.peek? with
    | some (.scalar text plain) => some (.scalar tag text plain, s.skip.event)
    | some .flowSequenceStart => flowSequence fuel tag true [] s.skip.event
    | some .flowMappingStart => flowMapping fuel tag true [] s.skip.event
    | next =>
      if indentless && next == some .blockEntry then indentlessSequence fuel tag [] s.event
      else if block && next == some .blockSequenceStart then blockSequence fuel tag [] s.skip.event
      else if block && next == some .blockMappingStart then blockMapping fuel tag [] s.skip.event
      else if hasProperties then some (s.emptyScalar tag)
      else none
termination_by structural fuel

/-- A node, or nothing where one of some tokens follows at once. -/
def nodeUnless (fuel : Nat) (block indentless : Bool) (stops : List Token) (s : Composer) :
    Option (Node × Composer) :=
  match fuel with
  | 0 => none
  | fuel + 1 => if s.atAny stops then some (s.emptyScalar none) else node fuel block indentless s
termination_by structural fuel

/-- The entries of a block sequence up to its end; `done` holds those before, last first. -/
def blockSequence (fuel : Nat) (tag : Option Tag) (done : List Node) (s : Composer) :
    Option (Node × Composer) :=
  match fuel with
  | 0 => none
  | fuel + 1 =>
    if s.at? .blockEntry then
      match nodeUnless fuel true false [.blockEntry, .blockEnd] s.skip with
      | none => none
      | some (item, s) => blockSequence fuel tag (item :: done) s
    else if s.at? .blockEnd then some (.sequence tag done.reverse, s.skip.event)
    else none
termination_by structural fuel

/-- The entries of a sequence that is not indented. -/
def indentlessSequence (fuel : Nat) (tag : Option Tag) (done : List Node) (s : Composer) :
    Option (Node × Composer) :=
  match fuel with
  | 0 => none
  | fuel + 1 =>
    if s.at? .blockEntry then
      match nodeUnless fuel true false [.blockEntry, .key, .value, .blockEnd] s.skip with
      | none => none
      | some (item, s) => indentlessSequence fuel tag (item :: done) s
    else some (.sequence tag done.reverse, s.event)
termination_by structural fuel

/-- The entries of a block mapping up to its end. Key or value may be left out. -/
def blockMapping (fuel : Nat) (tag : Option Tag) (done : List (Node × Node)) (s : Composer) :
    Option (Node × Composer) :=
  match fuel with
  | 0 => none
  | fuel + 1 =>
    if s.at? .blockEnd then some (.mapping tag done.reverse, s.skip.event)
    else if s.at? .key then
      match nodeUnless fuel true true [.key, .value, .blockEnd] s.skip with
      | none => none
      | some (key, s) =>
        let made :=
          if s.at? .value then nodeUnless fuel true true [.key, .value, .blockEnd] s.skip
          else some (s.emptyScalar none)
        match made with
        | none => none
        | some (value, s) => blockMapping fuel tag ((key, value) :: done) s
    else none
termination_by structural fuel

/-- The items of a flow sequence up to its end. A key in it makes a mapping of one entry. -/
def flowSequence (fuel : Nat) (tag : Option Tag) (first : Bool) (done : List Node) (s : Composer) :
    Option (Node × Composer) :=
  match fuel with
  | 0 => none
  | fuel + 1 =>
    if s.at? .flowSequenceEnd then some (.sequence tag done.reverse, s.skip.event)
    else if !first && !s.at? .flowEntry then none
    else
      let s := if first then s else s.skip
      if s.at? .flowSequenceEnd then some (.sequence tag done.reverse, s.skip.event)
      else
        let made := if s.at? .key then flowPair fuel s.skip.event else node fuel false false s
        match made with
        | none => none
        | some (item, s) => flowSequence fuel tag false (item :: done) s
termination_by structural fuel

/-- A mapping of one entry in a flow sequence, after the mark of its key. -/
def flowPair (fuel : Nat) (s : Composer) : Option (Node × Composer) :=
  match fuel with
  | 0 => none
  | fuel + 1 =>
    let key :=
      if s.atAny [.value, .flowEntry, .flowSequenceEnd] then
        let (empty, s) := s.emptyScalar none
        some (empty, s.skip)
      else node fuel false false s
    match key with
    | none => none
    | some (key, s) =>
      let value :=
        if s.at? .value then nodeUnless fuel false false [.flowEntry, .flowSequenceEnd] s.skip
        else some (s.emptyScalar none)
      match value with
      | none => none
      | some (value, s) => some (.mapping none [(key, value)], s.event)
termination_by structural fuel

/-- The entries of a flow mapping up to its end. A node without a mark is a key without a value. -/
def flowMapping (fuel : Nat) (tag : Option Tag) (first : Bool) (done : List (Node × Node))
    (s : Composer) : Option (Node × Composer) :=
  match fuel with
  | 0 => none
  | fuel + 1 =>
    if s.at? .flowMappingEnd then some (.mapping tag done.reverse, s.skip.event)
    else if !first && !s.at? .flowEntry then none
    else
      let s := if first then s else s.skip
      if s.at? .flowMappingEnd then some (.mapping tag done.reverse, s.skip.event)
      else if s.at? .key then
        match nodeUnless fuel false false [.value, .flowEntry, .flowMappingEnd] s.skip with
        | none => none
        | some (key, s) =>
          let value :=
            if s.at? .value then nodeUnless fuel false false [.flowEntry, .flowMappingEnd] s.skip
            else some (s.emptyScalar none)
          match value with
          | none => none
          | some (value, s) => flowMapping fuel tag false ((key, value) :: done) s
      else
        match node fuel false false s with
        | none => none
        | some (key, s) =>
          let (value, s) := s.emptyScalar none
          flowMapping fuel tag false ((key, value) :: done) s
termination_by structural fuel

end

def standardHandles : List (String × List UInt8) :=
  [("!", Tag.octetsOf ['!']), ("!!", Tag.octetsOf "tag:yaml.org,2002:".toList)]

/-- Reads the directives of a document: at most one version, which is 1.1 or 1.2, and no handle twice. -/
def directives (version : Bool) (handles : List (String × List UInt8)) :
    List Token → Option (List (String × List UInt8) × List Token)
  | .versionDirective major minor :: rest =>
    if version || major != 1 || (minor != 1 && minor != 2) then none else directives true handles rest
  | .tagDirective handle start :: rest =>
    if (Entries.get? handle handles).isSome then none
    else directives version (handles ++ [(handle, start)]) rest
  | tokens => some (handles, tokens)

/-- The tokens where the content of a document is left out. -/
def startsDocument : Option Token → Bool
  | none => true
  | some (.versionDirective _ _) => true
  | some (.tagDirective _ _) => true
  | some .documentStart => true
  | some .documentEnd => true
  | some .streamEnd => true
  | _ => false

def document? (fuel : Nat) (s : Composer) : Option (Node × Composer) :=
  if startsDocument s.peek? then some (s.emptyScalar none) else node fuel true false s

end Composer

/-- A document: its root and its anchored nodes, and the number of its events. -/
structure Composed where
  root : Node
  anchored : List Anchored
  events : Nat

def firstDocument? (tokens : List Token) : Option (Option (Node × Composer)) :=
  let fuel := 4 * tokens.length + 8
  match tokens with
  | .streamEnd :: _ => some none
  | _ =>
    match tokens with
    | .versionDirective _ _ :: _ | .tagDirective _ _ :: _ | .documentStart :: _ => do
      let (handles, rest) ← Composer.directives false [] tokens
      match rest with
      | .documentStart :: rest =>
        let known := Composer.standardHandles.filter fun (handle, _) => (Entries.get? handle handles).isNone
        (Composer.document? fuel { tokens := rest, handles := handles ++ known }).map some
      | _ => none
    | _ =>
      (Composer.node fuel true false { tokens, handles := Composer.standardHandles }).map some

/-- The only document of some tokens; `none` inside stands for no document at all. -/
def onlyDocument? (tokens : List Token) : Option (Option Composed) := do
  match ← firstDocument? tokens with
  | none => return none
  | some (root, s) =>
    if (s.tokens.dropWhile (· == .documentEnd)) == [.streamEnd] then
      return some ⟨root, s.anchored, s.events⟩
    else none

end SwaggerClient.Yaml
