import Mathlib.Data.List.Forall2
import Parley.Proofs.Holes

/-!
# Parley.Proofs.Templates

What a template comes to, read off from the text as it is written. Texts and holes take turns; the
scanner gives each hole its expression and each text that is not empty a segment of its own, and
the value puts the displayed expressions between the texts.

* `Template.Layout`: texts and holes in turn. `Template.exists_layout`: every text is one, or one
  with an open hole behind it.
* `Template.outside_slots`: the pieces of a layout. `Template.segments_append`: what they are read
  as.
* `templates_concatenate`: the values of templates.
-/

namespace Parley

namespace Template

/-- No hole begins in the text. -/
def Plain (cs : List Char) : Prop := ¬ ['$', '{'] <:+: cs

/-- A hole and the text behind it, up to the next one. -/
structure Slot where
  source : List Char
  behind : List Char
  unbraced : '}' ∉ source
  plain : Plain behind

/-- The hole and the text as they are written. -/
def Slot.text (slot : Slot) : List Char := '$' :: '{' :: (slot.source ++ '}' :: slot.behind)

/-- The texts and the holes that take turns in a template. -/
structure Layout where
  lead : List Char
  slots : List Slot
  plain : Plain lead

namespace Layout

def text (l : Layout) : List Char := l.lead ++ l.slots.flatMap Slot.text

/-- There is one hole, and no text. -/
def Lone (l : Layout) : Prop := l.lead = [] ∧ ∃ slot, l.slots = [slot] ∧ slot.behind = []

/-- The expressions in the holes are these. -/
def Reads (l : Layout) (nodes : List Node) : Prop :=
  List.Forall₂ (fun slot node => Node.ofChars slot.source = .ok node) l.slots nodes

/-- The texts with the values of the expressions between them. -/
def rendered (l : Layout) (property? : Path → Option Value) (nodes : List Node) : List Char :=
  l.lead ++ (l.slots.zip nodes).flatMap fun (slot, node) =>
    (node.eval property?).display.toList ++ slot.behind

end Layout

/-- How a text goes on behind a layout: not at all, or with a hole that is not closed. -/
inductive Ending : List Char → List Piece → Prop where
  | closed : Ending [] []
  | opened {rest : List Char} (unbraced : '}' ∉ rest) : Ending ('$' :: '{' :: rest) [.unclosed]

variable {cs done tail : List Char} {last ps : List Piece} {segs : List Segment}

/-! ## Cutting a text -/

theorem inside_of_unbraced (unbraced : '}' ∉ cs) : inside done cs = [.unclosed] := by
  induction cs generalizing done with
  | nil => rw [inside]
  | cons c cs ih =>
    rw [List.mem_cons, not_or] at unbraced
    rw [inside, ih unbraced.2]
    rintro rfl
    exact unbraced.1 rfl

theorem Ending.head_ne (ending : Ending tail last) (rest : List Char) : tail ≠ '{' :: rest := by
  cases ending <;> simp

/-- Text without a hole is gathered up to what ends it. -/
theorem outside_append (plain : Plain cs) (next : ∀ rest, tail ≠ '{' :: rest) :
    outside done (cs ++ tail) = outside (cs.reverse ++ done) tail := by
  induction cs generalizing done with
  | nil => rfl
  | cons c cs ih =>
    have plainTail : Plain cs := fun infixed => plain (List.infix_cons infixed)
    have step : outside done (c :: (cs ++ tail)) = outside (c :: done) (cs ++ tail) := by
      rw [outside]
      rintro rest rfl begins
      -- The brace stands in the text, which is plain, or begins what follows it.
      cases cs with
      | nil => exact next rest begins
      | cons d cs =>
        injection begins with brace
        subst brace
        exact plain ⟨[], cs, rfl⟩
    rw [List.cons_append, step, ih plainTail]
    simp

/-- The piece for a text, unless it is empty. -/
def chunk (cs : List Char) : List Piece := flush cs.reverse []

theorem flush_reverse : flush cs.reverse ps = chunk cs ++ ps := by
  unfold chunk flush
  split <;> simp

def Slot.pieces (slot : Slot) : List Piece := .hole slot.source :: chunk slot.behind

theorem outside_slots (plain : Plain cs) (slots : List Slot) (ending : Ending tail last) :
    outside [] (cs ++ (slots.flatMap Slot.text ++ tail)) =
      chunk cs ++ (slots.flatMap Slot.pieces ++ last) := by
  induction slots generalizing cs with
  | nil =>
    rw [List.flatMap_nil, List.nil_append, outside_append plain ending.head_ne, List.append_nil]
    cases ending with
    | closed => rw [outside, flush_reverse]; rfl
    | opened unbraced => rw [outside, inside_of_unbraced unbraced, flush_reverse]; rfl
  | cons slot slots ih =>
    have next (rest : List Char) :
        (slot :: slots).flatMap Slot.text ++ tail ≠ '{' :: rest := by simp [Slot.text]
    rw [outside_append plain next, List.append_nil]
    simp only [List.flatMap_cons, Slot.text, List.cons_append, List.append_assoc]
    rw [outside, inside_append slot.unbraced, ih slot.plain, flush_reverse]
    simp [Slot.pieces]

/-! ## Reading the pieces -/

/-- The segment that a piece is read as. -/
inductive ReadAs : Piece → Segment → Prop where
  | text (cs : List Char) : ReadAs (.text cs) (.text cs)
  | hole {cs : List Char} {node : Node} (read : Node.ofChars cs = .ok node) :
      ReadAs (.hole cs) (.hole node)

theorem segments_append (source : String) (reads : List.Forall₂ ReadAs ps segs) :
    segments source (ps ++ [.unclosed]) = .error (.unterminatedTemplate source) ∧
      segments source ps = .ok segs := by
  induction reads with
  | nil => exact ⟨rfl, rfl⟩
  | cons first _ ih =>
    cases first with
    | text cs => simp [segments, ih.1, ih.2]
    | hole read => simp [segments, read, ih.1, ih.2]

/-- The segment for a text, unless it is empty. -/
def chunkSegments (cs : List Char) : List Segment := if cs.isEmpty then [] else [.text cs]

theorem reads_chunk (cs : List Char) : List.Forall₂ ReadAs (chunk cs) (chunkSegments cs) := by
  cases cs with
  | nil => exact .nil
  | cons c cs => simpa [chunk, flush, chunkSegments] using ReadAs.text (c :: cs)

/-- The segments of the holes and the texts behind them. -/
def slotSegments : List Slot → List Node → List Segment
  | slot :: slots, node :: nodes =>
    .hole node :: (chunkSegments slot.behind ++ slotSegments slots nodes)
  | _, _ => []

theorem reads_slots {slots : List Slot} {nodes : List Node}
    (reads : List.Forall₂ (fun slot node => Node.ofChars slot.source = .ok node) slots nodes) :
    List.Forall₂ ReadAs (slots.flatMap Slot.pieces) (slotSegments slots nodes) := by
  induction reads with
  | nil => exact .nil
  | cons read _ ih => exact .cons (.hole read) (List.rel_append (reads_chunk _) ih)

theorem render_append (property? : Path → Option Value) (segs more : List Segment) :
    render property? (segs ++ more) = render property? segs ++ render property? more := by
  induction segs with
  | nil => rfl
  | cons segment segs ih => cases segment <;> simp [render, ih]

theorem render_chunk (property? : Path → Option Value) (cs : List Char) :
    render property? (chunkSegments cs) = cs := by
  cases cs <;> simp [chunkSegments, render]

theorem render_slots (property? : Path → Option Value) (slots : List Slot) (nodes : List Node) :
    render property? (slotSegments slots nodes) = (slots.zip nodes).flatMap fun (slot, node) =>
      (node.eval property?).display.toList ++ slot.behind := by
  induction slots, nodes using slotSegments.induct with
  | case1 slot slots node nodes ih =>
    simp [slotSegments, render, render_append, render_chunk, ih]
  | case2 slots nodes none =>
    cases slots with
    | nil => rfl
    | cons slot slots =>
      cases nodes with
      | nil => rfl
      | cons node nodes => exact (none slot slots node nodes rfl rfl).elim

namespace Layout

variable {l : Layout} {nodes : List Node}

def segments (l : Layout) (nodes : List Node) : List Segment :=
  chunkSegments l.lead ++ slotSegments l.slots nodes

theorem pieces_text (l : Layout) : pieces l.text = chunk l.lead ++ l.slots.flatMap Slot.pieces := by
  simpa [pieces, text] using outside_slots l.plain l.slots .closed

theorem pieces_opened (l : Layout) {rest : List Char} (unbraced : '}' ∉ rest) :
    pieces (l.text ++ '$' :: '{' :: rest) =
      chunk l.lead ++ l.slots.flatMap Slot.pieces ++ [.unclosed] := by
  simpa [pieces, text] using outside_slots l.plain l.slots (.opened unbraced)

theorem readAs_segments (reads : l.Reads nodes) :
    List.Forall₂ ReadAs (chunk l.lead ++ l.slots.flatMap Slot.pieces) (l.segments nodes) :=
  List.rel_append (reads_chunk l.lead) (reads_slots reads)

theorem render_segments (property? : Path → Option Value) (l : Layout) (nodes : List Node) :
    render property? (l.segments nodes) = l.rendered property? nodes := by
  rw [segments, render_append, render_chunk, render_slots, rendered]

/-- The layout comes to a single tree only if it is a lone hole. -/
theorem lone_of_segments {node : Node} (reads : l.Reads nodes)
    (single : l.segments nodes = [.hole node]) : l.Lone := by
  obtain ⟨lead, slots, plain⟩ := l
  cases lead with
  | cons c cs => simp [segments, chunkSegments] at single
  | nil =>
    cases reads with
    | nil => simp [segments, chunkSegments, slotSegments] at single
    | @cons slot other slots _ read more =>
      cases more with
      | nil =>
        have both : other = node ∧ slot.behind = [] := by
          simpa [segments, chunkSegments, slotSegments] using single
        exact ⟨rfl, slot, rfl, both.2⟩
      | cons => simp [segments, chunkSegments, slotSegments] at single

end Layout

/-! ## Texts as layouts -/

theorem plain_or_hole (cs : List Char) :
    Plain cs ∨ ∃ lead rest, cs = lead ++ '$' :: '{' :: rest ∧ Plain lead := by
  induction cs with
  | nil => exact .inl (by simp [Plain])
  | cons c cs ih =>
    by_cases begins : ['$', '{'] <+: c :: cs
    · obtain ⟨rest, whole⟩ := begins
      exact .inr ⟨[], rest, whole.symm, by simp [Plain]⟩
    · rcases ih with plain | ⟨lead, rest, rfl, plain⟩
      · exact .inl fun infixed => (List.infix_cons_iff.mp infixed).elim begins plain
      · refine .inr ⟨c :: lead, rest, rfl, fun infixed => ?_⟩
        rcases List.infix_cons_iff.mp infixed with ⟨more, whole⟩ | infixed
        · exact begins ⟨more ++ '$' :: '{' :: rest, by rw [← List.append_assoc, whole]; rfl⟩
        · exact plain infixed

/-- Every text is a layout, or one with an open hole behind it. -/
theorem exists_layout (cs : List Char) : ∃ l : Layout, cs = l.text ∨
    ∃ rest, cs = l.text ++ '$' :: '{' :: rest ∧ '}' ∉ rest := by
  -- Behind the first hole that is closed stands a shorter text.
  induction len : cs.length using Nat.strongRecOn generalizing cs with
  | _ n ih =>
    subst len
    rcases plain_or_hole cs with plain | ⟨lead, rest, rfl, plain⟩
    · exact ⟨⟨cs, [], plain⟩, .inl (by simp [Layout.text])⟩
    · by_cases braced : '}' ∈ rest
      · obtain ⟨source, after, rfl, unbraced⟩ := List.eq_append_cons_of_mem braced
        obtain ⟨l, whole⟩ := ih after.length (by simp; omega) after rfl
        refine ⟨⟨lead, ⟨source, l.lead, unbraced, l.plain⟩ :: l.slots, plain⟩, ?_⟩
        rcases whole with rfl | ⟨rest, rfl, unclosed⟩
        · exact .inl (by simp [Layout.text, Slot.text])
        · exact .inr ⟨rest, by simp [Layout.text, Slot.text], unclosed⟩
      · exact ⟨⟨lead, [], plain⟩, .inr ⟨rest, by simp [Layout.text], braced⟩⟩

theorem append_of_not_mem {c : Char} {as bs front back : List Char} (free : c ∉ back)
    (whole : as ++ c :: bs = front ++ back) : ∃ more, bs = more ++ back := by
  rcases List.append_eq_append_iff.mp whole with ⟨more, rfl, split⟩ | ⟨more, rfl, split⟩
  · cases more with
    | nil =>
      rw [List.nil_append] at split
      exact absurd (split ▸ List.mem_cons_self) free
    | cons d more => exact ⟨more, (List.cons.inj split).2⟩
  · exact absurd (by simp [split]) free

/-- Every hole of a layout is closed. -/
theorem braced_of_hole (plain : Plain cs) (slots : List Slot) {front back : List Char}
    (whole : cs ++ slots.flatMap Slot.text = front ++ '$' :: '{' :: back) : '}' ∈ back := by
  by_contra unbraced
  -- The open hole reaches to the end of the text, and so lies behind each closing brace.
  have free : '}' ∉ '$' :: '{' :: back := by simp [unbraced]
  induction slots generalizing cs front with
  | nil => exact plain ⟨front, back, by simp_all⟩
  | cons slot slots ih =>
    have behind : (cs ++ '$' :: '{' :: slot.source) ++
        '}' :: (slot.behind ++ slots.flatMap Slot.text) = front ++ '$' :: '{' :: back := by
      simpa [Slot.text] using whole
    obtain ⟨more, rest⟩ := append_of_not_mem free behind
    exact ih slot.plain rest

end Template

namespace Expression

open Template

theorem plain_of_not_isTemplate {s : String} (plain : isTemplate s = false) : Plain s.toList := by
  intro infixed
  have holed : isTemplate s = true := Text.contains_iff.mpr infixed
  rw [plain] at holed
  cases holed

variable {l : Layout} {nodes : List Node} {source : String} {segs : List Segment}

/-- The segments of a template: an empty text if there are none. -/
def filled (segs : List Segment) : List Segment := if segs.isEmpty then [.text []] else segs

theorem render_filled (property? : Path → Option Value) (segs : List Segment) :
    render property? (filled segs) = render property? segs := by
  cases segs <;> simp [filled, render]

theorem filled_ne_hole (mixed : ∀ node, segs ≠ [.hole node]) (node : Node) :
    filled segs ≠ [.hole node] := by
  cases segs with
  | nil => simp [filled]
  | cons => exact mixed node

theorem ofTemplate_of_segments (read : segments source (pieces source.toList) = .ok segs) :
    ofTemplate source = .ok ⟨source, .template (filled segs)⟩ := by
  rw [ofTemplate, read]
  cases segs <;> rfl

/-- A template that is not a single tree is a text, and nothing can be written to it. -/
theorem evalWith_of_mixed (source : String) (mixed : ∀ node, segs ≠ [.hole node]) :
    (∀ property?, evalWith ⟨source, .template segs⟩ property? =
      .text (String.ofList (render property? segs))) ∧
    settable ⟨source, .template segs⟩ = false := by
  have tree : node? ⟨source, .template segs⟩ = none := by
    unfold node?
    split
    · rename_i same; cases same
    · rename_i node same; cases same; exact absurd rfl (mixed node)
    · rfl
  refine ⟨fun property? => ?_, by rw [settable, target?, tree]; rfl⟩
  unfold evalWith
  split
  · rename_i same; cases same
  · rename_i node same; cases same; exact absurd rfl (mixed node)
  · rename_i same; cases same; rfl

theorem settable_of_node {e : Expression} {node : Node} (tree : e.node? = some node) :
    e.settable = true ↔ ∃ path, node = .path path := by
  rw [settable, target?, tree]
  cases node <;> simp

/-- A lone hole is its expression. -/
theorem ofTemplate_of_lone {node : Node} (lone : l.Lone) (reads : l.Reads [node])
    (written : source.toList = l.text) :
    ofTemplate source = .ok ⟨source, .template [.hole node]⟩ := by
  have read := (segments_append source (l.readAs_segments reads)).2
  rw [← l.pieces_text, ← written] at read
  obtain ⟨lead, slot, slots, behind⟩ := lone
  have single : l.segments [node] = [.hole node] := by
    simp [Layout.segments, lead, slots, behind, slotSegments, chunkSegments]
  rw [single] at read
  exact ofTemplate_of_segments read

/-- Any other layout is a text with the values in their places. -/
theorem ofTemplate_of_not_lone (mixed : ¬ l.Lone) (reads : l.Reads nodes)
    (written : source.toList = l.text) : ∃ e, ofTemplate source = .ok e ∧
      (∀ property?, e.evalWith property? = .text (String.ofList (l.rendered property? nodes))) ∧
      e.settable = false := by
  have read := (segments_append source (l.readAs_segments reads)).2
  rw [← l.pieces_text, ← written] at read
  have apart := filled_ne_hole fun node single => mixed (Layout.lone_of_segments reads single)
  obtain ⟨value, fixed⟩ := evalWith_of_mixed source apart
  refine ⟨_, ofTemplate_of_segments read, fun property? => ?_, fixed⟩
  rw [value property?, render_filled, l.render_segments]

theorem ofTemplate_of_open {rest : List Char} (unbraced : '}' ∉ rest)
    (written : source.toList = l.text ++ '$' :: '{' :: rest) (reads : l.Reads nodes) :
    ofTemplate source = .error (.unterminatedTemplate source) := by
  have failed := (segments_append source (l.readAs_segments reads)).1
  rw [← l.pieces_opened unbraced, ← written] at failed
  rw [ofTemplate, failed]

theorem ofTemplate_of_layout (reads : l.Reads nodes) (written : source.toList = l.text) :
    ∃ e, ofTemplate source = .ok e ∧
      (l.Lone → ∃ node, nodes = [node] ∧
        (∀ property?, e.evalWith property? = node.eval property?) ∧
        (e.settable = true ↔ ∃ path, node = .path path)) ∧
      (¬ l.Lone →
        (∀ property?, e.evalWith property? =
          .text (String.ofList (l.rendered property? nodes))) ∧
        e.settable = false) := by
  by_cases lone : l.Lone
  · obtain ⟨node, rfl⟩ : ∃ node, nodes = [node] := by
      obtain ⟨-, slot, slots, -⟩ := lone
      have same := reads.length_eq
      rw [slots] at same
      exact List.length_eq_one_iff.mp same.symm
    refine ⟨_, ofTemplate_of_lone lone reads written, fun _ => ⟨node, rfl, ?_⟩,
      fun mixed => absurd lone mixed⟩
    exact ⟨fun property? => evalWith_of_node rfl property?, settable_of_node rfl⟩
  · obtain ⟨e, made, facts⟩ := ofTemplate_of_not_lone lone reads written
    exact ⟨e, made, fun other => absurd other lone, fun _ => facts⟩

theorem ofTemplate_of_plain (plain : isTemplate source = false) :
    ∃ e, ofTemplate source = .ok e ∧ (∀ property?, e.evalWith property? = .text source) ∧
      e.settable = false := by
  let alone : Layout := ⟨source.toList, [], plain_of_not_isTemplate plain⟩
  have mixed : ¬ alone.Lone := by
    rintro ⟨-, slot, none, -⟩
    cases none
  have written : source.toList = alone.text := by simp [alone, Layout.text]
  obtain ⟨e, made, value, fixed⟩ := ofTemplate_of_not_lone mixed .nil written
  exact ⟨e, made, fun property? => by simp [value, alone, Layout.rendered], fixed⟩

/-- **A template is its texts with the values of its expressions between them.** A lone
expression is its own value, and a text without holes is itself. A hole that is not closed is an
error if all expressions before it can be read. -/
theorem templates_concatenate :
    (∀ (l : Layout) (nodes : List Node), l.Reads nodes →
      ∃ e, ofTemplate (String.ofList l.text) = .ok e ∧
        (l.Lone → ∃ node, nodes = [node] ∧
          (∀ property?, e.evalWith property? = node.eval property?) ∧
          (e.settable = true ↔ ∃ path, node = .path path)) ∧
        (¬ l.Lone →
          (∀ property?, e.evalWith property? =
            .text (String.ofList (l.rendered property? nodes))) ∧
          e.settable = false)) ∧
    (∀ source, isTemplate source = false → ∃ e, ofTemplate source = .ok e ∧
      (∀ property?, e.evalWith property? = .text source) ∧ e.settable = false) ∧
    ∀ (source : String) (front back : List Char),
      source.toList = front ++ '$' :: '{' :: back → '}' ∉ back →
      (∃ (l : Layout) (rest : List Char),
        source.toList = l.text ++ '$' :: '{' :: rest ∧ '}' ∉ rest) ∧
      ∀ (l : Layout) (rest : List Char) (nodes : List Node),
        source.toList = l.text ++ '$' :: '{' :: rest → '}' ∉ rest → l.Reads nodes →
        ofTemplate source = .error (.unterminatedTemplate source) := by
  refine ⟨fun l nodes reads => ofTemplate_of_layout reads String.toList_ofList,
    fun source => ofTemplate_of_plain, fun source front back written unclosed => ⟨?_, ?_⟩⟩
  · obtain ⟨l, whole | ⟨rest, whole, unbraced⟩⟩ := exists_layout source.toList
    · exact absurd (braced_of_hole l.plain l.slots (whole.symm.trans written)) unclosed
    · exact ⟨l, rest, whole, unbraced⟩
  · intro l rest nodes cut unbraced reads
    exact ofTemplate_of_open unbraced cut reads

theorem greeting_rendered :
    ∃ e, ofTemplate "dear ${name}!" = .ok e ∧
      e.evalWith (fun _ => some (.text "ada")) = .text "dear ada!" ∧ e.settable = false := by
  have plain (cs : List Char) (free : '$' ∉ cs) : Plain cs := fun infixed =>
    free (infixed.subset List.mem_cons_self)
  let name : Slot := ⟨"name".toList, "!".toList, by decide, plain _ (by decide)⟩
  let greeting : Layout := ⟨"dear ".toList, [name], plain _ (by decide)⟩
  have reads : greeting.Reads [.path ["name"]] := .cons rfl .nil
  obtain ⟨e, made, -, mixed⟩ := templates_concatenate.1 greeting _ reads
  obtain ⟨value, fixed⟩ := mixed fun lone => by cases lone.1
  exact ⟨e, made, value _, fixed⟩

end Expression

end Parley
