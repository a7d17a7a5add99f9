import Parley.Expression.Evaluation
import Parley.Value.Attributes

/-!
# Parley.Expression.Basic

Expressions as flows use them. A bare expression is one tree; a template is text with trees in
`${…}`. A template that is a single tree has that tree's value, any other one is a text. What can
be written to is a single path.
-/

namespace Parley

/-- Things with properties that paths read and write. A failed write leaves no trace: it has no
result but the error. -/
class Properties (σ : Type) where
  property? : σ → Path → Option Value
  setProperty : σ → Path → Value → Except EvaluationError σ

instance : Properties Attributes where
  property? := Attributes.getPath?
  setProperty := Attributes.setPath

inductive Segment where
  | text (chars : List Char)
  | hole (node : Node)

inductive Form where
  | bare (node : Node)
  | template (segments : List Segment)

/-- An expression and the text it was made from. -/
structure Expression where
  source : String
  form : Form

namespace Template

/-- A piece of template text before its expressions are read. -/
inductive Piece where
  | text (chars : List Char)
  | hole (chars : List Char)
  | unclosed
deriving DecidableEq

/-- The text gathered so far, last character first, as a piece in front of others. -/
def flush (done : List Char) (pieces : List Piece) : List Piece :=
  if done.isEmpty then pieces else .text done.reverse :: pieces

mutual

/-- The pieces of a text outside a hole. -/
def outside (done : List Char) : List Char → List Piece
  | [] => flush done []
  | '$' :: '{' :: cs => flush done (inside [] cs)
  | c :: cs => outside (c :: done) cs

/-- The pieces of a text inside a hole. -/
def inside (done : List Char) : List Char → List Piece
  | [] => [.unclosed]
  | '}' :: cs => .hole done.reverse :: outside [] cs
  | c :: cs => inside (c :: done) cs

end

def pieces (cs : List Char) : List Piece := outside [] cs

/-- The pieces with their trees; the first one that fails decides. -/
def segments (source : String) : List Piece → Except ExpressionError (List Segment)
  | [] => .ok []
  | .text cs :: rest =>
    match segments source rest with
    | .error e => .error e
    | .ok segments => .ok (.text cs :: segments)
  | .hole cs :: rest =>
    match Node.ofChars cs with
    | .error e => .error e
    | .ok node =>
      match segments source rest with
      | .error e => .error e
      | .ok segments => .ok (.hole node :: segments)
  | .unclosed :: _ => .error (.unterminatedTemplate source)

/-- The text with each tree's value displayed in its place. -/
def render (property? : Path → Option Value) : List Segment → List Char
  | [] => []
  | .text cs :: rest => cs ++ render property? rest
  | .hole node :: rest => (node.eval property?).display.toList ++ render property? rest

end Template

namespace Expression

/-- The text holds the beginning of a hole. -/
def isTemplate (source : String) : Bool := Text.contains source "$\x7b"

/-- A text in `${…}` without these delimiters and the blanks inside them; any other text stays. -/
def stripDelimiters (cs : List Char) : List Char :=
  match cs with
  | '$' :: '{' :: rest => if rest.getLast? = some '}' then Text.trimChars rest.dropLast else cs
  | _ => cs

def ofBare (source : String) : Except ExpressionError Expression :=
  match Node.ofChars (stripDelimiters (Text.trimChars source.toList)) with
  | .error e => .error e
  | .ok node => .ok ⟨source, .bare node⟩

def ofTemplate (source : String) : Except ExpressionError Expression :=
  match Template.segments source (Template.pieces source.toList) with
  | .error e => .error e
  | .ok [] => .ok ⟨source, .template [.text []]⟩
  | .ok segments => .ok ⟨source, .template segments⟩

/-- The tree that the expression is, unless it is a text with trees in it. -/
def node? (e : Expression) : Option Node :=
  match e.form with
  | .bare node => some node
  | .template [.hole node] => some node
  | .template _ => none

def evalWith (e : Expression) (property? : Path → Option Value) : Value :=
  match e.form with
  | .bare node => node.eval property?
  | .template [.hole node] => node.eval property?
  | .template segments => .text (String.ofList (Template.render property? segments))

variable {σ : Type} [Properties σ]

def eval (e : Expression) (source : σ) : Value := e.evalWith (Properties.property? source)

/-- The path that the expression writes to. -/
def target? (e : Expression) : Option Path :=
  match e.node? with
  | some (.path segments) => some segments
  | _ => none

def settable (e : Expression) : Bool := e.target?.isSome

def assign (e : Expression) (value : Value) (target : σ) : Except EvaluationError σ :=
  match e.target? with
  | some path => Properties.setProperty target path value
  | none => .error (.notSettable e.source)

end Expression

end Parley
