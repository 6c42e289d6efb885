import Mathlib.Data.List.Basic
import QTom.Lib.Numerals

/- Mermaid flowcharts as text. A chart is its header and its lines, each a node
   with a label or an edge between two nodes; a node is named by its kind and a
   number, `route_7`. The text of a chart is what is read, so facts about lines
   are about their text: a name determines its node (`name_injective`), and where
   the kinds are plain words a node's line determines the node whatever its label
   says (`node_text_inj`) and is no edge's line (`node_text_ne_edge_text`). -/
namespace QTom.Lib

structure FlowNode where
  kind : String
  id : Nat
  deriving DecidableEq, Repr

inductive FlowLine where
  | node (vertex : FlowNode) (label : String)
  | edge (source target : FlowNode)
  deriving DecidableEq, Repr

def FlowNode.name (node : FlowNode) : String := node.kind ++ "_" ++ toString node.id

def FlowLine.text : FlowLine → String
  | .node vertex label => "  " ++ vertex.name ++ "[\"" ++ label ++ "\"]"
  | .edge source target => "  " ++ source.name ++ " --> " ++ target.name

def flowchart (lines : List FlowLine) : String :=
  lines.foldl (fun output line => output ++ line.text ++ "\n") "flowchart TD\n"

/-- One of the lines has this line's text. -/
def Writes (lines : List FlowLine) (line : FlowLine) : Prop :=
  line.text ∈ lines.map FlowLine.text

theorem writes_of_mem {lines : List FlowLine} {line : FlowLine} (h : line ∈ lines) :
    Writes lines line :=
  List.mem_map_of_mem h

/-! The text of a chart, line by line. -/

/-- The lines below the header. -/
def flowchartBody (lines : List FlowLine) : List Char :=
  lines.flatMap fun line => line.text.toList ++ ['\n']

theorem flowchart_toList (lines : List FlowLine) :
    (flowchart lines).toList = "flowchart TD\n".toList ++ flowchartBody lines := by
  have h : ∀ output : String,
      (lines.foldl (fun output line => output ++ line.text ++ "\n") output).toList =
        output.toList ++ flowchartBody lines := by
    induction lines with
    | nil => simp [flowchartBody]
    | cons line lines ih =>
      intro output
      rw [List.foldl_cons, ih]
      simp [flowchartBody]
  exact h _

/-- Charts with the same first lines differ as their remaining lines do. -/
theorem flowchart_append_inj {lines first second : List FlowLine}
    (h : flowchart (lines ++ first) = flowchart (lines ++ second)) :
    flowchartBody first = flowchartBody second := by
  have hchars := congrArg String.toList h
  rw [flowchart_toList, flowchart_toList, List.append_cancel_left_eq] at hchars
  simpa [flowchartBody] using hchars

theorem flowchartBody_cons (line : FlowLine) (lines : List FlowLine) :
    flowchartBody (line :: lines) = line.text.toList ++ '\n' :: flowchartBody lines := by
  simp [flowchartBody]

theorem flowchartBody_append (first second : List FlowLine) :
    flowchartBody (first ++ second) = flowchartBody first ++ flowchartBody second := by
  simp [flowchartBody]

/-! Names. -/

/-- Two words, each ended by the first character that is none of a word. -/
theorem word_split_unique (word : Char → Prop) {as bs xs ys : List Char} {x y : Char}
    (ha : ∀ c ∈ as, word c) (hb : ∀ c ∈ bs, word c) (hx : ¬ word x) (hy : ¬ word y)
    (h : as ++ x :: xs = bs ++ y :: ys) : as = bs ∧ x = y ∧ xs = ys := by
  induction as generalizing bs with
  | nil =>
    cases bs with
    | nil =>
      rw [List.nil_append, List.nil_append, List.cons.injEq] at h
      exact ⟨rfl, h⟩
    | cons b bs =>
      rw [List.nil_append, List.cons_append, List.cons.injEq] at h
      exact absurd (h.1 ▸ hb b List.mem_cons_self) hx
  | cons a as ih =>
    cases bs with
    | nil =>
      rw [List.nil_append, List.cons_append, List.cons.injEq] at h
      exact absurd (h.1 ▸ ha a List.mem_cons_self) hy
    | cons b bs =>
      rw [List.cons_append, List.cons_append, List.cons.injEq] at h
      obtain ⟨hwords, hrest⟩ := ih (fun c hc => ha c (List.mem_cons_of_mem a hc))
        (fun c hc => hb c (List.mem_cons_of_mem b hc)) h.2
      exact ⟨by rw [h.1, hwords], hrest⟩

theorem mem_digits {n : Nat} : ∀ c ∈ Nat.toDigits 10 n, c ≠ '_' ∧ c ≠ '[' ∧ c ≠ ' ' := by
  have hall : ∀ d : Fin 16,
      Nat.digitChar d ≠ '_' ∧ Nat.digitChar d ≠ '[' ∧ Nat.digitChar d ≠ ' ' := by decide
  intro c hc
  obtain ⟨d, hd, rfl⟩ := mem_toDigits (by decide) (by decide) c hc
  exact hall ⟨d, hd⟩

theorem name_toList (node : FlowNode) :
    node.name.toList = node.kind.toList ++ '_' :: Nat.toDigits 10 node.id := by
  simp [FlowNode.name]

/-- A name determines its node: the number is what follows the last underscore. -/
theorem name_injective {a b : FlowNode} (h : a.name.toList = b.name.toList) : a = b := by
  rw [name_toList, name_toList] at h
  have hrev := congrArg List.reverse h
  rw [List.reverse_append, List.reverse_append, List.reverse_cons, List.reverse_cons,
    List.append_assoc, List.append_assoc, List.singleton_append, List.singleton_append] at hrev
  have hdigit : ∀ n, ∀ c ∈ (Nat.toDigits 10 n).reverse, c ≠ '_' := by
    intro n c hc
    exact (mem_digits c (List.mem_reverse.mp hc)).1
  obtain ⟨hid, _, hkind⟩ := word_split_unique (fun c => c ≠ '_') (hdigit _) (hdigit _)
    (by decide) (by decide) hrev
  cases a
  cases b
  rw [FlowNode.mk.injEq]
  refine ⟨String.toList_inj.mp (List.reverse_injective hkind), ?_⟩
  have hvalue := congrArg (fun digits => Nat.ofDigitChars 10 digits 0) (List.reverse_injective hid)
  simpa using hvalue

/-! Lines of nodes of plain kinds. -/

/-- No blank and no bracket in the kind, so none in the names of its nodes. -/
def PlainKind (kind : String) : Prop := ∀ c ∈ kind.toList, c ≠ '[' ∧ c ≠ ' '

instance (kind : String) : Decidable (PlainKind kind) :=
  List.decidableBAll (fun c => c ≠ '[' ∧ c ≠ ' ') kind.toList

theorem mem_name {node : FlowNode} (h : PlainKind node.kind) :
    ∀ c ∈ node.name.toList, c ≠ '[' ∧ c ≠ ' ' := by
  intro c hc
  rw [name_toList, List.mem_append, List.mem_cons] at hc
  rcases hc with hc | rfl | hc
  · exact h c hc
  · decide
  · exact (mem_digits c hc).2

theorem node_text_toList (node : FlowNode) (label : String) :
    (FlowLine.node node label).text.toList =
      ' ' :: ' ' :: (node.name.toList ++ '[' :: '"' :: (label.toList ++ ['"', ']'])) := by
  simp [FlowLine.text]

theorem edge_text_toList (source target : FlowNode) :
    (FlowLine.edge source target).text.toList =
      ' ' :: ' ' :: (source.name.toList ++ ' ' :: '-' :: '-' :: '>' :: ' ' :: target.name.toList) := by
  simp [FlowLine.text]

theorem node_text_ne_nil (vertex : FlowNode) (label : String) :
    (FlowLine.node vertex label).text.toList ≠ [] := by
  rw [node_text_toList]
  exact List.cons_ne_nil _ _

/-- A text that begins with a node's line determines the node. -/
theorem node_text_inj {a b : FlowNode} (ha : PlainKind a.kind) (hb : PlainKind b.kind)
    {label label' : String} {xs ys : List Char}
    (h : (FlowLine.node a label).text.toList ++ xs = (FlowLine.node b label').text.toList ++ ys) :
    a = b := by
  rw [node_text_toList, node_text_toList] at h
  simp only [List.cons_append, List.append_assoc, List.cons.injEq, true_and] at h
  exact name_injective (word_split_unique _ (mem_name ha) (mem_name hb) (by decide) (by decide) h).1

/-- An edge's line determines its ends. -/
theorem edge_text_inj {a b source target : FlowNode} (ha : PlainKind a.kind)
    (hs : PlainKind source.kind)
    (h : (FlowLine.edge a b).text = (FlowLine.edge source target).text) :
    a = source ∧ b = target := by
  have hchars := congrArg String.toList h
  rw [edge_text_toList, edge_text_toList] at hchars
  simp only [List.cons.injEq, true_and] at hchars
  obtain ⟨hname, _, hrest⟩ :=
    word_split_unique _ (mem_name ha) (mem_name hs) (by decide) (by decide) hchars
  simp only [List.cons.injEq, true_and] at hrest
  exact ⟨name_injective hname, name_injective hrest⟩

theorem node_text_ne_edge_text {a source : FlowNode} (ha : PlainKind a.kind)
    (hs : PlainKind source.kind) (label : String) (target : FlowNode) :
    (FlowLine.node a label).text ≠ (FlowLine.edge source target).text := by
  intro h
  have hchars := congrArg String.toList h
  rw [node_text_toList, edge_text_toList] at hchars
  simp only [List.cons.injEq, true_and] at hchars
  -- the name ends at a bracket in the one, at a blank in the other
  exact absurd (word_split_unique _ (mem_name ha) (mem_name hs) (by decide) (by decide) hchars).2.1
    (by decide)

/-- The kind of the node a line is about; of an edge, where it starts. -/
def FlowLine.kind : FlowLine → String
  | .node vertex _ => vertex.kind
  | .edge source _ => source.kind

/-- The node a line belongs to: its own, or the one an edge leads to. -/
def FlowLine.subject : FlowLine → FlowNode
  | .node vertex _ => vertex
  | .edge _ target => target

def FlowLine.isNode : FlowLine → Bool
  | .node _ _ => true
  | .edge _ _ => false

/-- The line is an edge to this node. -/
def FlowLine.leadsTo (vertex : FlowNode) : FlowLine → Bool
  | .node _ _ => false
  | .edge _ target => target = vertex

theorem FlowLine.subject_of_leadsTo {vertex : FlowNode} {line : FlowLine}
    (h : line.leadsTo vertex = true) : line.subject = vertex := by
  cases line with
  | node written label => cases h
  | edge source target => exact of_decide_eq_true h

/-- Lines of plain kinds with one text are lines of one node, of one sort. -/
theorem text_subject {a b : FlowLine} (ha : PlainKind a.kind) (hb : PlainKind b.kind)
    (h : a.text = b.text) : a.subject = b.subject ∧ a.isNode = b.isNode := by
  cases a with
  | node vertex label =>
    cases b with
    | node vertex' label' =>
      have hchars : (FlowLine.node vertex label).text.toList ++ [] =
          (FlowLine.node vertex' label').text.toList ++ [] := by
        rw [h]
      exact ⟨node_text_inj ha hb hchars, rfl⟩
    | edge source target => exact absurd h (node_text_ne_edge_text ha hb label target)
  | edge source target =>
    cases b with
    | node vertex label => exact absurd h.symm (node_text_ne_edge_text hb ha label target)
    | edge source' target' => exact ⟨(edge_text_inj ha hb h).2, rfl⟩

/-- Among lines of plain kinds a node's line is written for that node only. -/
theorem mem_of_writes_node {lines : List FlowLine} (hlines : ∀ line ∈ lines, PlainKind line.kind)
    {node : FlowNode} (hnode : PlainKind node.kind) {label : String}
    (h : Writes lines (.node node label)) : ∃ label', .node node label' ∈ lines := by
  obtain ⟨line, hline, htext⟩ := List.mem_map.mp h
  cases line with
  | node written label' =>
    have hchars : (FlowLine.node written label').text.toList ++ [] =
        (FlowLine.node node label).text.toList ++ [] := by
      rw [htext]
    exact ⟨label', node_text_inj (hlines _ hline) hnode hchars ▸ hline⟩
  | edge source target =>
    exact absurd htext.symm (node_text_ne_edge_text hnode (hlines _ hline) label target)

end QTom.Lib
