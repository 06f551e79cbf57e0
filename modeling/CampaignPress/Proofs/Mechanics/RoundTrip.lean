/-
This file prints trees of nodes and reads them back. A node is printed as its
header; a body follows between a brace that ends the line of the header and a
brace on a line of its own. Lines may be indented, and blank lines may stand
anywhere. The main statement says that reading a printed block gives the
printed trees, whatever their arguments and values hold.

The induction is on the printed lines. Its invariant says what the lines do to
each of the scanners: they complete the units of the printed nodes when no unit
is open, they leave an open unit as open as it was, and with the line breaks
after them they are a level text.
-/
import CampaignPress.Proofs.Mechanics.Header

namespace CampaignPress

namespace Node

open Mechanics

/-! ### Printed trees -/

/-- The nodes that have a printed form: keywords and keys are words, keys are distinct, and
arguments and values stand on one line. -/
inductive Writable : Node → Prop
  | intro {node : Node} (named : node.keyword ≠ []) (word : ∀ c ∈ node.keyword, isKeywordChar c)
      (args : ∀ arg ∈ node.args, (Item.arg arg).Writable)
      (properties : ∀ entry ∈ node.properties, (Item.property entry.1 entry.2).Writable)
      (distinct : (node.properties.map Prod.fst).Nodup)
      (children : ∀ child ∈ node.children, Writable child) : Writable node

/-- The items of a header name the arguments of a node in order, and its properties in any. -/
structure Arranged (node : Node) (items : List Item) : Prop where
  args : items.filterMap Item.arg? = node.args
  properties : (items.filterMap Item.property?).Perm node.properties

/-- The lines that print a list of nodes. A node with children has a body. -/
inductive Printed : List Node → List Text → Prop
  | nil : Printed [] []
  | blank {nodes : List Node} {lines : List Text} {line : Text} (empty : Text.Padded [] line)
      (others : Printed nodes lines) : Printed nodes (line :: lines)
  | leaf {node : Node} {nodes : List Node} {lines : List Text} {items : List Item} {line : Text}
      (childless : node.children = []) (arranged : node.Arranged items)
      (header : Text.Padded (writeHeader node.keyword items) line)
      (others : Printed nodes lines) : Printed (node :: nodes) (line :: lines)
  | branch {node : Node} {nodes : List Node} {lines inner : List Text} {items : List Item}
      {opening closing : Text} (arranged : node.Arranged items)
      (header : Text.Padded (writeHeader node.keyword items ++ [' ', '\x7b']) opening)
      (body : Printed node.children inner) (footer : Text.Padded ['\x7d'] closing)
      (others : Printed nodes lines) :
      Printed (node :: nodes) (opening :: inner ++ closing :: lines)

/-- Nodes agree when they are the same trees; sources and the order of keys do not matter. -/
inductive Same : Node → Node → Prop
  | intro {left right : Node} (keyword : left.keyword = right.keyword)
      (args : left.args = right.args) (properties : left.properties.Perm right.properties)
      (children : List.Forall₂ Same left.children right.children) : Same left right

theorem Printed.append {left right : List Node} {before after : List Text}
    (first : Printed left before) (second : Printed right after) :
    Printed (left ++ right) (before ++ after) := by
  induction first with
  | nil => exact second
  | blank empty others inductionHypothesis => exact .blank empty inductionHypothesis
  | leaf childless arranged header others inductionHypothesis =>
    exact .leaf childless arranged header inductionHypothesis
  | branch arranged header body footer others _ inductionHypothesis =>
    rw [List.append_assoc]
    exact .branch arranged header body footer inductionHypothesis

theorem exists_printed_of_forall {nodes : List Node}
    (each : ∀ node ∈ nodes, ∃ lines, Printed [node] lines) : ∃ lines, Printed nodes lines := by
  induction nodes with
  | nil => exact ⟨[], .nil⟩
  | cons node nodes inductionHypothesis =>
    rw [List.forall_mem_cons] at each
    obtain ⟨before, first⟩ := each.1
    obtain ⟨after, second⟩ := inductionHypothesis each.2
    exact ⟨before ++ after, first.append second⟩

theorem exists_arranged (node : Node) : ∃ items, node.Arranged items := by
  refine ⟨node.args.map Item.arg ++ node.properties.map fun entry => Item.property entry.1 entry.2,
    ?_, ?_⟩
  · rw [List.filterMap_append, List.filterMap_map, List.filterMap_map]
    have none : (Item.arg? ∘ fun entry : Text × Text => Item.property entry.1 entry.2) =
        fun _ => none := rfl
    have some : Item.arg? ∘ Item.arg = some := rfl
    rw [none, some]
    simp
  · rw [List.filterMap_append, List.filterMap_map, List.filterMap_map]
    have none : Item.property? ∘ Item.arg = fun _ => none := rfl
    have some : (Item.property? ∘ fun entry : Text × Text => Item.property entry.1 entry.2) =
        some := rfl
    rw [none, some]
    simp

/-- Every tree can be printed. -/
theorem Writable.exists_printed {node : Node} (writable : node.Writable) :
    ∃ lines, Printed [node] lines := by
  induction writable with
  | intro named word args properties distinct children inductionHypothesis =>
    rename_i node
    obtain ⟨items, arranged⟩ := node.exists_arranged
    obtain ⟨inner, body⟩ := exists_printed_of_forall inductionHypothesis
    exact ⟨_, .branch arranged (.refl _) body (.refl _) .nil⟩

theorem Arranged.writable {node : Node} {items : List Item} (arranged : node.Arranged items)
    (writable : node.Writable) : ∀ item ∈ items, item.Writable := by
  obtain ⟨-, -, args, properties, -, -⟩ := writable
  intro item member
  cases item with
  | arg content =>
    refine args content ?_
    rw [← arranged.args]
    exact List.mem_filterMap.2 ⟨_, member, rfl⟩
  | property key value =>
    refine properties (key, value) ?_
    rw [← arranged.properties.mem_iff]
    exact List.mem_filterMap.2 ⟨_, member, rfl⟩

/-! ### What the scanners do with printed lines -/

theorem ofUnit_eq (lines : List Text) :
    ofUnit lines =
      { ofHeader (splitBody (Text.unlines lines)).1 with
        source := Text.unlines lines
        children := (units (splitBody (Text.unlines lines)).2).map ofUnit } := by
  conv => lhs; unfold ofUnit
  simp only [List.attach_map_val]

/-- What trimmed lines have to do to be read as nodes, whether or not a unit is open. -/
structure Reads (lines : List Text) (nodes : List Node) : Prop where
  trimmed : ∀ line ∈ lines, Text.trim line = line
  single : ∀ line ∈ lines, '\n' ∉ line
  level : Level (Text.ended lines)
  carried : Carried lines
  units : ∃ units, scan none lines = (units, none) ∧ List.Forall₂ Same (units.map ofUnit) nodes

theorem Reads.nil : Reads [] [] where
  trimmed := by simp
  single := by simp
  level := Quiet.nil.level
  carried := Carried.nil
  units := ⟨[], rfl, .nil⟩

theorem Reads.append {left right : List Node} {before after : List Text}
    (first : Reads before left) (second : Reads after right) :
    Reads (before ++ after) (left ++ right) where
  trimmed := List.forall_mem_append.2 ⟨first.trimmed, second.trimmed⟩
  single := List.forall_mem_append.2 ⟨first.single, second.single⟩
  level := by
    rw [Text.ended_append]
    exact first.level.append second.level
  carried := first.carried.append second.carried
  units := by
    obtain ⟨units, scanned, same⟩ := first.units
    obtain ⟨others, scannedOthers, sameOthers⟩ := second.units
    refine ⟨units ++ others, ?_, ?_⟩
    · rw [scan_append, scanned, scannedOthers]
    · rw [List.map_append]
      exact List.rel_append same sameOthers

theorem quiet_break : Quiet ['\n'] := ⟨rfl, rfl⟩

theorem Reads.blank : Reads [[]] [] where
  trimmed := by simp
  single := by simp
  level := quiet_break.level
  carried := Carried.single rfl
  units := ⟨[], rfl, .nil⟩

/-- The text between the braces of a body is read as the nodes inside. -/
theorem Reads.units_body {inner : List Text} {nodes : List Node} (body : Reads inner nodes) :
    List.Forall₂ Same ((Mechanics.units ('\n' :: Text.ended inner)).map ofUnit) nodes := by
  obtain ⟨units, scanned, same⟩ := (Reads.blank.append (body.append Reads.blank)).units
  have joined : '\n' :: Text.ended inner = Text.unlines ([[]] ++ (inner ++ [[]])) := by
    rw [← List.append_assoc, Text.unlines_append_singleton, Text.ended_append, List.append_nil]
    rfl
  have lines : Text.trimmedLines ('\n' :: Text.ended inner) = [[]] ++ (inner ++ [[]]) := by
    have whole := Reads.blank.append (body.append Reads.blank)
    rw [joined, Text.trimmedLines, Text.lines_unlines whole.single (by simp),
      List.map_congr_left whole.trimmed, List.map_id']
  have found : Mechanics.units ('\n' :: Text.ended inner) = units := by
    refine groupFrom_of_scan ?_
    show scan none (Text.trimmedLines ('\n' :: Text.ended inner)) = _
    rw [lines, scanned]
  rw [found]
  rwa [List.append_nil] at same

section Header

variable {node : Node} {items : List Item}

theorem Writable.trim_header (writable : node.Writable) (items : List Item) :
    Text.trim (writeHeader node.keyword items) = writeHeader node.keyword items := by
  obtain ⟨named, word, -, -, -, -⟩ := writable
  exact trim_writeHeader items named word

theorem Writable.trim_opening (writable : node.Writable) (items : List Item) :
    Text.trim (writeHeader node.keyword items ++ [' ', '\x7b']) =
      writeHeader node.keyword items ++ [' ', '\x7b'] := by
  have header := writable.trim_header items
  obtain ⟨named, -, -, -, -, -⟩ := writable
  refine Text.trim_eq_self ?_ ?_
  · intro c found
    have nonempty : writeHeader node.keyword items ≠ [] :=
      List.append_ne_nil_of_left_ne_nil named _
    rw [List.head?_append_of_ne_nil _ nonempty, ← header] at found
    exact Text.isBlank_head_trim c found
  · intro c found
    rw [List.getLast?_append] at found
    obtain rfl : '\x7b' = c := Option.some.inj found
    decide

variable (writable : node.Writable) (arranged : node.Arranged items)
include writable arranged

theorem quiet_header : Quiet (writeHeader node.keyword items) := by
  have items := arranged.writable writable
  obtain ⟨-, word, -, -, -, -⟩ := writable
  exact quiet_writeHeader word items

theorem break_not_mem_header : '\n' ∉ writeHeader node.keyword items := by
  have items := arranged.writable writable
  obtain ⟨-, word, -, -, -, -⟩ := writable
  exact break_not_mem_writeHeader word items

/-- The header of a node is read as its keyword, arguments and properties. -/
theorem ofHeader_header {blanks : Text} (blank : ∀ c ∈ blanks, c = ' ') :
    ∃ source, ofHeader (writeHeader node.keyword items ++ blanks) =
      ⟨node.keyword, node.args, items.filterMap Item.property?, source, []⟩ := by
  have items := arranged.writable writable
  obtain ⟨named, word, -, -, distinct, -⟩ := writable
  have keys := (arranged.properties.map Prod.fst).nodup_iff.2 distinct
  rw [ofHeader_writeHeader named word items keys blank, arranged.args]
  exact ⟨_, rfl⟩

theorem Reads.leaf (childless : node.children = []) :
    Reads [writeHeader node.keyword items] [node] := by
  have quiet := quiet_header writable arranged
  have nonempty : writeHeader node.keyword items ≠ [] := by
    obtain ⟨named, -, -, -, -, -⟩ := writable
    exact List.append_ne_nil_of_left_ne_nil named _
  constructor
  · exact List.forall_mem_singleton.2 (writable.trim_header items)
  · exact List.forall_mem_singleton.2 (break_not_mem_header writable arranged)
  · rw [Text.ended_cons, Text.ended_nil]
    exact (quiet.append quiet_break).level
  · exact Carried.single quiet.balance_eq_zero
  · refine ⟨_, scan_none_single nonempty quiet.balance_eq_zero, ?_⟩
    have plain : ∀ c ∈ ([] : Text), c = ' ' := by simp
    obtain ⟨source, read⟩ := ofHeader_header writable arranged plain
    have text : Text.unlines [writeHeader node.keyword items] = writeHeader node.keyword items :=
      Text.unlines_append_singleton [] _
    rw [List.append_nil] at read
    rw [List.map_singleton, ofUnit_eq, text, splitBody_quiet quiet, read]
    refine .cons ⟨rfl, rfl, arranged.properties, ?_⟩ .nil
    rw [childless]
    exact .nil

/-- The line of a header with a brace, the lines of a body and a closing brace are one unit. -/
theorem Reads.branch {inner : List Text} (body : Reads inner node.children) :
    Reads ((writeHeader node.keyword items ++ [' ', '\x7b']) :: inner ++ [['\x7d']]) [node] := by
  have quiet := quiet_header writable arranged
  have opening : Quiet (writeHeader node.keyword items ++ [' ']) := quiet.append quiet_blank
  have within : Level ('\n' :: Text.ended inner) := quiet_break.level.append body.level
  constructor
  · exact List.forall_mem_append.2
      ⟨List.forall_mem_cons.2 ⟨writable.trim_opening items, body.trimmed⟩, by decide⟩
  · have header := break_not_mem_header writable arranged
    refine List.forall_mem_append.2 ⟨List.forall_mem_cons.2 ⟨?_, body.single⟩, by decide⟩
    rw [List.mem_append, not_or]
    exact ⟨header, by decide⟩
  · have whole := (opening.level.append within.braced).append quiet_break.level
    convert whole using 1
    simp
  · exact body.carried.braced quiet.balance_opening rfl
  · refine ⟨_, scan_none_braced body.carried quiet.balance_opening rfl, ?_⟩
    have plain : ∀ c ∈ [' '], c = ' ' := by simp
    obtain ⟨source, read⟩ := ofHeader_header writable arranged plain
    have text : Text.unlines
        ((writeHeader node.keyword items ++ [' ', '\x7b']) :: inner ++ [['\x7d']]) =
        writeHeader node.keyword items ++ [' '] ++ '\x7b' :: ('\n' :: Text.ended inner) ++
          ['\x7d'] := by
      rw [Text.unlines_append_singleton, Text.ended_cons]
      simp
    rw [List.map_singleton, ofUnit_eq, text, splitBody_braced opening within, read]
    exact .cons ⟨rfl, rfl, arranged.properties, body.units_body⟩ .nil

end Header

/-! ### Reading printed trees -/

theorem Writable.children {node : Node} (writable : node.Writable) :
    ∀ child ∈ node.children, child.Writable := by
  obtain ⟨-, -, -, -, -, children⟩ := writable
  exact children

/-- Printed lines are read as the nodes that they print. -/
theorem Printed.reads {nodes : List Node} {lines : List Text} (printed : Printed nodes lines)
    (writable : ∀ node ∈ nodes, node.Writable) : Reads (lines.map Text.trim) nodes := by
  induction printed with
  | nil => exact .nil
  | blank empty others inductionHypothesis =>
    rw [List.map_cons, empty.trim_eq]
    exact Reads.blank.append (inductionHypothesis writable)
  | leaf childless arranged header others inductionHypothesis =>
    rw [List.forall_mem_cons] at writable
    rw [List.map_cons, header.trim_eq, writable.1.trim_header]
    exact (Reads.leaf writable.1 arranged childless).append (inductionHypothesis writable.2)
  | branch arranged header body footer others insideHypothesis inductionHypothesis =>
    rw [List.forall_mem_cons] at writable
    have first := Reads.branch writable.1 arranged (insideHypothesis writable.1.children)
    have whole := first.append (inductionHypothesis writable.2)
    rw [List.map_append, List.map_cons, List.map_cons, header.trim_eq, footer.trim_eq,
      writable.1.trim_opening]
    rw [List.append_assoc] at whole
    exact whole

theorem Printed.break_not_mem {nodes : List Node} {lines : List Text}
    (printed : Printed nodes lines) (writable : ∀ node ∈ nodes, node.Writable) :
    ∀ line ∈ lines, '\n' ∉ line := by
  induction printed with
  | nil => simp
  | blank empty others inductionHypothesis =>
    exact List.forall_mem_cons.2 ⟨empty.break_not_mem (by simp), inductionHypothesis writable⟩
  | leaf childless arranged header others inductionHypothesis =>
    rw [List.forall_mem_cons] at writable
    exact List.forall_mem_cons.2 ⟨header.break_not_mem (break_not_mem_header writable.1 arranged),
      inductionHypothesis writable.2⟩
  | branch arranged header body footer others insideHypothesis inductionHypothesis =>
    rw [List.forall_mem_cons] at writable
    have single := break_not_mem_header writable.1 arranged
    refine List.forall_mem_append.2 ⟨List.forall_mem_cons.2 ⟨header.break_not_mem ?_,
      insideHypothesis writable.1.children⟩, List.forall_mem_cons.2 ⟨footer.break_not_mem ?_,
        inductionHypothesis writable.2⟩⟩
    · rw [List.mem_append, not_or]
      exact ⟨single, by decide⟩
    · decide

/-- Every list of trees can be printed, and a block of the printed lines is read as the same
trees. -/
theorem ofBlock_printed {nodes : List Node} (writable : ∀ node ∈ nodes, node.Writable) :
    (∃ lines, Printed nodes lines) ∧
      ∀ lines, Printed nodes lines → List.Forall₂ Same (ofBlock (Text.unlines lines)) nodes := by
  refine ⟨exists_printed_of_forall fun node member => (writable node member).exists_printed, ?_⟩
  intro lines printed
  by_cases nonempty : lines = []
  · subst nonempty
    cases printed
    exact .nil
  · obtain ⟨units, scanned, same⟩ := (printed.reads writable).units
    have trimmed : Text.trimmedLines (Text.unlines lines) = lines.map Text.trim := by
      rw [Text.trimmedLines, Text.lines_unlines (printed.break_not_mem writable) nonempty]
    rw [← trimmed] at scanned
    rw [ofBlock, units_trim_of_scan scanned]
    exact same

/-- A move whose name holds a brace, a quote and a backslash, and a roll inside it with an
argument after a property. -/
theorem ofBlock_printed_move :
    let roll : Node := ⟨"roll", ["Wits \x7b"], [("vs1", "3")], [], []⟩
    let move : Node := ⟨"move", ["\"Face\" \\ \x7d"], [], [], [roll]⟩
    let text : Text :=
      "move \"\\\"Face\\\" \\\\ \x7d\" \x7b\n  roll vs1=\"3\" \"Wits \x7b\"\n\n\x7d"
    (∀ node ∈ [move], node.Writable) ∧ List.Forall₂ Same (ofBlock text) [move] := by
  intro roll move text
  have inner : roll.Writable := .intro (by decide) (List.all_eq_true.1 (by decide))
    (by simp [roll, Item.Writable]) (by simp [roll, Item.Writable]; decide) (by decide)
    (by simp [roll])
  have writable : ∀ node ∈ [move], node.Writable :=
    List.forall_mem_singleton.2 (.intro (by decide) (List.all_eq_true.1 (by decide))
      (by simp [move, Item.Writable]) (by simp [move]) (by decide)
      (List.forall_mem_singleton.2 inner))
  have items : roll.Arranged [.property "vs1" "3", .arg "Wits \x7b"] := ⟨rfl, .refl _⟩
  have item : move.Arranged [.arg "\"Face\" \\ \x7d"] := ⟨rfl, .refl _⟩
  have body : Printed [roll] ["  roll vs1=\"3\" \"Wits \x7b\"".toList, []] :=
    .leaf rfl items ⟨[' ', ' '], [], rfl, by simp [Text.isBlank]⟩ (.blank (.refl _) .nil)
  have printed : Printed [move] (Text.lines text) := .branch item (.refl _) body (.refl _) .nil
  have read := (ofBlock_printed writable).2 _ printed
  rw [Text.unlines_lines] at read
  exact ⟨writable, read⟩

end Node

end CampaignPress
