import Parley.Yaml.Token

/-!
# Parley.Yaml.Node

Nodes, as the tokens of a text put them together. Nodes with anchors are numbered, and an alias
refers to a number. The number of an anchor is the count of the names in use before it, so an anchor
that takes a name for the second time can share its number with the next one.
-/

namespace Parley

namespace Yaml

/-- What a node says about itself. -/
structure Properties where
  anchor : Option Nat
  tag : Option String

inductive Node where
  | reference (number : Nat)
  | scalar (properties : Properties) (style : Style) (text : String)
  | list (properties : Properties) (items : List Node)
  | fields (properties : Properties) (fields : List (Node × Node))

namespace Node

/-- A node of which nothing stands in the text. -/
def void : Node := scalar ⟨none, none⟩ .plain ""

end Node

/-- The tokens to come, and the anchors so far with their numbers. -/
structure Stream where
  tokens : List Token
  anchors : List (String × Nat)

namespace Stream

def next (s : Stream) (tokens : List Token) : Stream := { s with tokens := tokens }

def number? (s : Stream) (anchor : String) : Option Nat :=
  (s.anchors.find? fun entry => entry.1 = anchor).map Prod.snd

/-- The stream with an anchor more. -/
def anchored (s : Stream) (anchor : String) : Stream :=
  let entry := (anchor, s.anchors.length)
  { s with anchors := entry :: s.anchors.filter fun other => other.1 ≠ anchor }

end Stream

/-- What handles of tags stand for. -/
abbrev Handles := List (String × String)

namespace Handles

def standard : Handles := [("!", "!"), ("!!", "tag:yaml.org,2002:")]

def resolve? (handles : Handles) (handle suffix : String) : Option String :=
  if handle.isEmpty then some suffix
  else (handles.find? fun entry => entry.1 = handle).map fun entry => entry.2 ++ suffix

end Handles

namespace Node

/-- An anchor, a tag, or both in any order. Whether there are any, and what they say. -/
def readProperties (handles : Handles) (s : Stream) : Option (Bool × Properties × Stream) :=
  match s.tokens with
  | .anchor name :: .tag handle suffix :: rest =>
    (handles.resolve? handle suffix).map fun tag =>
      (true, ⟨some s.anchors.length, some tag⟩, (s.anchored name).next rest)
  | .tag handle suffix :: .anchor name :: rest =>
    (handles.resolve? handle suffix).map fun tag =>
      (true, ⟨some s.anchors.length, some tag⟩, (s.anchored name).next rest)
  | .anchor name :: rest =>
    some (true, ⟨some s.anchors.length, none⟩, (s.anchored name).next rest)
  | .tag handle suffix :: rest =>
    (handles.resolve? handle suffix).map fun tag => (true, ⟨none, some tag⟩, s.next rest)
  | _ => some (false, ⟨none, none⟩, s)

/-- The token ends a node of which nothing stands in the text. -/
def endsBlockNode (inItems : Bool) : Token → Bool
  | .item => inItems
  | .key => true
  | .value => true
  | .closeBlock => true
  | _ => false

def endsFlowKey (close : Token) (t : Token) : Bool := t = .value || t = .comma || t = close

def endsFlowValue (close : Token) (t : Token) : Bool := t = .comma || t = close

mutual

/-- A node. Blocks start in blocks only, and items without a block of their own only where fields
stand around them. -/
def read (handles : Handles) (block itemsAlone : Bool) : Nat → Stream → Option (Node × Stream)
  | 0, _ => none
  | fuel + 1, s =>
    match s.tokens with
    | .reference name :: rest =>
      (s.number? name).map fun number => (reference number, s.next rest)
    | _ =>
      match readProperties handles s with
      | none => none
      | some (any, properties, s) =>
        match s.tokens with
        | .scalar style text :: rest => some (scalar properties style text, s.next rest)
        | .openList :: rest =>
          (readFlowItems handles fuel true [] (s.next rest)).map fun (items, s) =>
            (list properties items, s)
        | .openFields :: rest =>
          (readFlowFields handles fuel true [] (s.next rest)).map fun (fs, s) =>
            (fields properties fs, s)
        | t :: rest =>
          if t = .item && itemsAlone then
            (readItemsAlone handles fuel [] s).map fun (items, s) => (list properties items, s)
          else if t = .openBlockList && block then
            (readItems handles fuel [] (s.next rest)).map fun (items, s) =>
              (list properties items, s)
          else if t = .openBlockFields && block then
            (readFields handles fuel [] (s.next rest)).map fun (fs, s) =>
              (fields properties fs, s)
          else if any then some (scalar properties .plain "", s)
          else none
        | [] => if any then some (scalar properties .plain "", s) else none

/-- A node behind a mark of a block, unless one of the given tokens follows at once. -/
def readUnless (handles : Handles) (ends : Token → Bool) (block itemsAlone : Bool) :
    Nat → Stream → Option (Node × Stream)
  | 0, _ => none
  | fuel + 1, s =>
    match s.tokens with
    | t :: _ => if ends t then some (void, s) else read handles block itemsAlone fuel s
    | [] => none

/-- The items of a block. -/
def readItems (handles : Handles) : Nat → List Node → Stream → Option (List Node × Stream)
  | 0, _, _ => none
  | fuel + 1, done, s =>
    match s.tokens with
    | .item :: rest =>
      match readUnless handles (fun t => t = .item || t = .closeBlock) true false fuel
        (s.next rest) with
      | some (node, s) => readItems handles fuel (node :: done) s
      | none => none
    | .closeBlock :: rest => some (done.reverse, s.next rest)
    | _ => none

/-- Items that stand at the column of the fields around them. -/
def readItemsAlone (handles : Handles) : Nat → List Node → Stream → Option (List Node × Stream)
  | 0, _, _ => none
  | fuel + 1, done, s =>
    match s.tokens with
    | .item :: rest =>
      match readUnless handles (endsBlockNode true) true false fuel (s.next rest) with
      | some (node, s) => readItemsAlone handles fuel (node :: done) s
      | none => none
    | _ => some (done.reverse, s)

/-- The fields of a block. -/
def readFields (handles : Handles) :
    Nat → List (Node × Node) → Stream → Option (List (Node × Node) × Stream)
  | 0, _, _ => none
  | fuel + 1, done, s =>
    match s.tokens with
    | .key :: rest =>
      match readUnless handles (endsBlockNode false) true true fuel (s.next rest) with
      | none => none
      | some (name, s) =>
        match s.tokens with
        | .value :: rest =>
          match readUnless handles (endsBlockNode false) true true fuel (s.next rest) with
          | some (node, s) => readFields handles fuel ((name, node) :: done) s
          | none => none
        | _ => readFields handles fuel ((name, void) :: done) s
    | .closeBlock :: rest => some (done.reverse, s.next rest)
    | _ => none

/-- What follows a key inside brackets. -/
def readFlowValue (handles : Handles) (close : Token) : Nat → Stream → Option (Node × Stream)
  | 0, _ => none
  | fuel + 1, s =>
    match s.tokens with
    | .value :: rest =>
      readUnless handles (endsFlowValue close) false false fuel (s.next rest)
    | _ => some (void, s)

/-- The items in brackets; between two of them stands a comma, and one may stand behind the last.
A key makes a record of a single field. -/
def readFlowItems (handles : Handles) :
    Nat → Bool → List Node → Stream → Option (List Node × Stream)
  | 0, _, _, _ => none
  | fuel + 1, first, done, s =>
    match s.tokens with
    | .closeList :: rest => some (done.reverse, s.next rest)
    | _ =>
      let start := match first, s.tokens with
        | true, tokens => some tokens
        | false, .comma :: rest => some rest
        | false, _ => none
      match start with
      | none => none
      | some (.closeList :: rest) => some (done.reverse, s.next rest)
      | some (.key :: t :: rest) =>
        let name :=
          if endsFlowKey .closeList t then some (void, s.next rest)
          else read handles false false fuel (s.next (t :: rest))
        match name with
        | none => none
        | some (name, s) =>
          match readFlowValue handles .closeList fuel s with
          | none => none
          | some (node, s) =>
            readFlowItems handles fuel false (fields ⟨none, none⟩ [(name, node)] :: done) s
      | some tokens =>
        match read handles false false fuel (s.next tokens) with
        | some (node, s) => readFlowItems handles fuel false (node :: done) s
        | none => none

/-- The fields in braces; between two of them stands a comma, and one may stand behind the last. A
node that is no key is a field without a value. -/
def readFlowFields (handles : Handles) :
    Nat → Bool → List (Node × Node) → Stream → Option (List (Node × Node) × Stream)
  | 0, _, _, _ => none
  | fuel + 1, first, done, s =>
    match s.tokens with
    | .closeFields :: rest => some (done.reverse, s.next rest)
    | _ =>
      let start := match first, s.tokens with
        | true, tokens => some tokens
        | false, .comma :: rest => some rest
        | false, _ => none
      match start with
      | none => none
      | some (.closeFields :: rest) => some (done.reverse, s.next rest)
      | some (.key :: rest) =>
        match readUnless handles (endsFlowKey .closeFields) false false fuel (s.next rest) with
        | none => none
        | some (name, s) =>
          match readFlowValue handles .closeFields fuel s with
          | none => none
          | some (node, s) => readFlowFields handles fuel false ((name, node) :: done) s
      | some tokens =>
        match read handles false false fuel (s.next tokens) with
        | some (node, s) => readFlowFields handles fuel false ((node, void) :: done) s
        | none => none

end

/-- What directives say, each of them once: the handles that they name. -/
def readDirectives (versions : Nat) (handles : Handles) :
    List Token → Option (Handles × List Token)
  | .version major minor :: rest =>
    if versions = 0 && major = 1 && (minor = 1 || minor = 2) then
      readDirectives (versions + 1) handles rest
    else none
  | .handle name meaning :: rest =>
    if handles.any fun entry => entry.1 = name then none
    else readDirectives versions ((name, meaning) :: handles) rest
  | tokens => some (handles, tokens)

/-- The token stands in front of a document. -/
def leadsDocument : Token → Bool
  | .version .. => true
  | .handle .. => true
  | .documentStart => true
  | _ => false

def readContent (handles : Handles) (tokens : List Token) : Option (Node × Stream) :=
  read handles true false (3 * tokens.length + 3) ⟨tokens, []⟩

/-- The node behind the mark that starts a document, where nothing may stand at all. -/
def readMarked (handles : Handles) (tokens : List Token) : Option (Node × Stream) :=
  match tokens with
  | [] => some (void, ⟨[], []⟩)
  | t :: _ =>
    if leadsDocument t || t = .documentEnd then some (void, ⟨tokens, []⟩)
    else readContent handles tokens

/-- The one document of a stream of tokens. -/
def ofTokens? (tokens : List Token) : Option Node :=
  match tokens with
  | [] => some void
  | first :: _ =>
    let content :=
      if leadsDocument first then
        match readDirectives 0 [] tokens with
        | some (handles, .documentStart :: rest) =>
          readMarked (handles ++ Handles.standard) rest
        | _ => none
      else readContent Handles.standard tokens
    match content with
    | some (node, s) => if s.tokens.all (· = .documentEnd) then some node else none
    | none => none

end Node

end Yaml

end Parley
