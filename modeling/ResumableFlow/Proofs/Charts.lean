import ResumableFlow.Mermaid
import ResumableFlow.Proofs.FirstOccurrences

/-!
# What a chart shows

A chart is drawn in one pass, and numbers its nodes as it meets them. When it is done, its nodes are
the ids of the rows in the order in which they first occur, numbered without gaps, and each edge
joins the nodes of its two events (`Mermaid.render_eq`).

The invariant of the pass is `Drawing.Draws`: after any part of the rows, the drawing has a node for
each id that has occurred, and each edge so far has the numbers that its ids will keep.
-/

namespace ResumableFlow
namespace Mermaid

/-! ## Numbers -/

theorem lookup_zipIdx (ids : List String) (id : String) (first : Nat) :
    (ids.zipIdx first).lookup id = if id ∈ ids then some (first + ids.idxOf id) else none := by
  induction ids generalizing first with
  | nil => rfl
  | cons head ids ih =>
    rw [List.zipIdx_cons, List.lookup_cons, ih]
    by_cases same : id = head
    · simp [same]
    · have other : (id == head) = false := beq_eq_false_iff_ne.mpr same
      by_cases mem : id ∈ ids
      · simp [other, same, mem, List.idxOf_cons_ne _ (Ne.symm same), Nat.add_comm,
          Nat.add_left_comm]
      · simp [other, same, mem]

theorem mem_zipIdx_iff {ids : List String} (nodup : ids.Nodup) {id : String} {number : Nat} :
    (id, number) ∈ ids.zipIdx ↔ id ∈ ids ∧ number = ids.idxOf id := by
  rw [List.mk_mem_zipIdx_iff_getElem?, List.getElem?_eq_some_iff]
  constructor
  · rintro ⟨inside, rfl⟩
    exact ⟨List.getElem_mem inside, (nodup.idxOf_getElem number inside).symm⟩
  · rintro ⟨mem, rfl⟩
    exact ⟨List.idxOf_lt_length_of_mem mem, List.getElem_idxOf _⟩

/-! ## The pass -/

/-- The ids of the events in a row, its source before its destinations. -/
def rowIds (row : Row) : List String := row.source.id :: row.destinations.map (·.event.id)

/-- The ids of the events in the rows, as often as they occur. -/
def occurrences (rows : List Row) : List String := rows.flatMap rowIds

/-- An edge by the ids of the events that it joins. -/
structure Edge where
  source : String
  target : String
  exclusive : Bool
  reason : String

namespace Edge

def ofDestination (source : String) (exclusive : Bool) (destination : Destination) : Edge :=
  ⟨source, destination.event.id, exclusive, destination.reason⟩

def ofRow (row : Row) : List Edge :=
  row.destinations.map (ofDestination row.source.id row.exclusive)

/-- The line of the edge between the nodes for the ids, which are numbered in order. -/
def line (ids : List String) (edge : Edge) : String :=
  edgeLine (ids.idxOf edge.source) (ids.idxOf edge.target) edge.exclusive edge.reason

end Edge

namespace Drawing

/-- The drawing shows these occurrences of ids, and these edges. -/
structure Draws (drawing : Drawing) (occurrences : List String) (edges : List Edge) : Prop where
  numbers_eq : drawing.numbers = occurrences.eraseDups.zipIdx
  text_eq : drawing.text = "flowchart TD\n" ++
    String.join (occurrences.eraseDups.zipIdx.map fun (id, number) => nodeLine number id)
  edges_eq : drawing.edges = edges.map (Edge.line occurrences.eraseDups)
  joins : ∀ edge ∈ edges, edge.source ∈ occurrences ∧ edge.target ∈ occurrences

theorem blank_draws : blank.Draws [] [] := ⟨rfl, rfl, rfl, nofun⟩

namespace Draws

variable {drawing : Drawing} {occurrences : List String} {edges : List Edge}

/-- The lines of edges whose ends have occurred stay the same when more ids occur. -/
theorem lines_concat (h : drawing.Draws occurrences edges) (next : String) :
    edges.map (Edge.line (occurrences ++ [next]).eraseDups) =
      edges.map (Edge.line occurrences.eraseDups) := by
  apply List.map_congr_left
  intro edge mem
  obtain ⟨source, target⟩ := h.joins edge mem
  rw [Edge.line, Edge.line, idxOf_eraseDups_concat source, idxOf_eraseDups_concat target]

theorem joins_concat (h : drawing.Draws occurrences edges) (next : String) :
    ∀ edge ∈ edges, edge.source ∈ occurrences ++ [next] ∧ edge.target ∈ occurrences ++ [next] :=
  fun edge mem => (h.joins edge mem).imp (List.mem_append_left _) (List.mem_append_left _)

theorem number (h : drawing.Draws occurrences edges) (id : String) :
    (drawing.number id).1 = (occurrences ++ [id]).eraseDups.idxOf id ∧
      (drawing.number id).2.Draws (occurrences ++ [id]) edges := by
  have looked := lookup_zipIdx occurrences.eraseDups id 0
  by_cases known : id ∈ occurrences
  · have found : drawing.number id = (occurrences.eraseDups.idxOf id, drawing) := by
      rw [if_pos (List.mem_eraseDups.mpr known), Nat.zero_add] at looked
      rw [Drawing.number, h.numbers_eq, looked]
    rw [found, eraseDups_concat_of_mem known]
    refine ⟨rfl, ?_, ?_, ?_, h.joins_concat id⟩ <;> rw [eraseDups_concat_of_mem known]
    exacts [h.numbers_eq, h.text_eq, h.edges_eq]
  · have fresh : id ∉ occurrences.eraseDups := mt List.mem_eraseDups.mp known
    have new : drawing.number id = (occurrences.eraseDups.length,
        ⟨occurrences.eraseDups.zipIdx ++ [(id, occurrences.eraseDups.length)],
          drawing.text ++ nodeLine occurrences.eraseDups.length id, drawing.edges⟩) := by
      rw [if_neg fresh] at looked
      rw [Drawing.number, h.numbers_eq, looked, List.length_zipIdx]
    have numbered : (occurrences ++ [id]).eraseDups.zipIdx =
        occurrences.eraseDups.zipIdx ++ [(id, occurrences.eraseDups.length)] := by
      rw [eraseDups_concat_of_notMem known, List.zipIdx_append, List.zipIdx_singleton, Nat.zero_add]
    rw [new]
    refine ⟨?_, numbered.symm, ?_, ?_, h.joins_concat id⟩
    · rw [eraseDups_concat_of_notMem known, List.idxOf_append_of_notMem fresh, List.idxOf_cons_self,
        Nat.add_zero]
    · rw [numbered, h.text_eq, List.map_append, String.join_append, String.append_assoc,
        List.map_singleton, String.join_cons, String.join_nil, String.append_empty]
    · rw [h.edges_eq, h.lines_concat]

theorem addEdge (h : drawing.Draws occurrences edges) {source : String}
    (mem : source ∈ occurrences) (exclusive : Bool) (destination : Destination) :
    (drawing.addEdge (occurrences.eraseDups.idxOf source) exclusive destination).Draws
      (occurrences ++ [destination.event.id])
      (edges ++ [.ofDestination source exclusive destination]) := by
  obtain ⟨target, drawn⟩ := h.number destination.event.id
  refine ⟨drawn.numbers_eq, drawn.text_eq, ?_, ?_⟩
  · rw [Drawing.addEdge, List.map_append, ← drawn.edges_eq, List.map_singleton, Edge.line,
      Edge.ofDestination, ← target, idxOf_eraseDups_concat mem]
  · rw [List.forall_mem_append]
    refine ⟨drawn.joins, List.forall_mem_singleton.mpr ⟨List.mem_append_left _ mem, ?_⟩⟩
    exact List.mem_append_right _ List.mem_cons_self

/-- The number of the source was given before the edges are drawn, and
stays right while they are. -/
theorem addEdges (h : drawing.Draws occurrences edges) {source : String}
    (mem : source ∈ occurrences) {number : Nat}
    (same : number = occurrences.eraseDups.idxOf source) (exclusive : Bool)
    (destinations : List Destination) :
    (destinations.foldl (Drawing.addEdge number exclusive) drawing).Draws
      (occurrences ++ destinations.map (·.event.id))
      (edges ++ destinations.map (.ofDestination source exclusive)) := by
  induction destinations generalizing drawing occurrences edges with
  | nil => simpa using h
  | cons destination destinations ih =>
    have drawn := h.addEdge mem exclusive destination
    rw [← same] at drawn
    have rest := ih drawn (List.mem_append_left _ mem)
      (by rw [idxOf_eraseDups_concat mem, same])
    rwa [List.append_assoc, List.append_assoc] at rest

theorem addRow (h : drawing.Draws occurrences edges) (row : Row) :
    (drawing.addRow row).Draws (occurrences ++ rowIds row) (edges ++ Edge.ofRow row) := by
  obtain ⟨source, drawn⟩ := h.number row.source.id
  have rest := drawn.addEdges (List.mem_append_right _ List.mem_cons_self) source row.exclusive
    row.destinations
  rwa [List.append_assoc] at rest

theorem addRows (h : drawing.Draws occurrences edges) (rows : List Row) :
    (rows.foldl Drawing.addRow drawing).Draws (occurrences ++ rows.flatMap rowIds)
      (edges ++ rows.flatMap Edge.ofRow) := by
  induction rows generalizing drawing occurrences edges with
  | nil => simpa using h
  | cons row rows ih =>
    rw [List.flatMap_cons, List.flatMap_cons, ← List.append_assoc, ← List.append_assoc]
    exact ih (h.addRow row)

end Draws
end Drawing

theorem render_eq_lines (rows : List Row) : render rows = "flowchart TD\n" ++
    String.join ((occurrences rows).eraseDups.zipIdx.map fun (id, number) => nodeLine number id) ++
    String.join ((rows.flatMap Edge.ofRow).map (Edge.line (occurrences rows).eraseDups)) := by
  have drawn := Drawing.blank_draws.addRows rows
  rw [render, drawn.text_eq, drawn.edges_eq, List.nil_append, List.nil_append, occurrences]

/-! ## Labels -/

theorem flatMap_replace (mark : Char) (substitute text : List Char) :
    text.flatMap (fun c => if c = mark then substitute else [c]) =
      substitute.intercalate (text.splitOn mark) := by
  induction text with
  | nil => simp
  | cons c text ih =>
    obtain ⟨first, rest, parts⟩ := List.exists_cons_of_ne_nil (List.splitOn_ne_nil mark text)
    rw [List.flatMap_cons, ih, List.splitOn_cons_eq_if_modifyHead, parts]
    by_cases same : c = mark
    · simp [same]
    · cases rest <;> simp [same]

/-- A label is the text with each double quote replaced. -/
theorem label_eq_intercalate (text : String) :
    label text = "#quot;".intercalate ((text.toList.splitOn '"').map String.ofList) := by
  apply String.toList_inj.mp
  rw [label, String.toList_ofList, flatMap_replace, String.toList_intercalate, List.map_map]
  simp only [Function.comp_def, String.toList_ofList, List.map_id']

theorem notMem_label (text : String) : '"' ∉ (label text).toList := by
  rw [label, String.toList_ofList, List.mem_flatMap]
  rintro ⟨c, _, mem⟩
  by_cases quote : c = '"'
  · rw [if_pos quote] at mem
    exact absurd mem (by decide)
  · rw [if_neg quote, List.mem_singleton] at mem
    exact quote mem.symm

/-! ## The text -/

theorem nodeLine_eq (number : Nat) (id : String) :
    nodeLine number id = "    n" ++ toString number ++ "[\"" ++ label id ++ "\"]\n" := by
  rw [nodeLine, node, ← String.append_assoc]
  rfl

theorem edgeLine_eq (source target : Nat) (exclusive : Bool) (reason : String) :
    edgeLine source target exclusive reason =
      "    n" ++ toString source ++ (if exclusive then " -.->|" else " -->|") ++ reason ++ "| n" ++
        toString target ++ "\n" := by
  have bar (front : String) : front ++ "| " ++ node target = front ++ "| n" ++ toString target := by
    rw [node, ← String.append_assoc, @String.append_assoc front "| " "n"]
    rfl
  rw [edgeLine, bar, node, ← String.append_assoc]
  rfl

/-- The text of a chart: the header, then a node for each id that occurs, numbered in the order of
first occurrence, then an edge for each destination of each row. An id and its number determine each
other, an edge has the numbers that its two ids are declared with, and a label is the id with its
quotes replaced. -/
theorem render_eq (rows : List Row) : ∃ ids,
    FirstOccurrences ids (occurrences rows) ∧
    render rows = "flowchart TD\n" ++
      String.join (ids.zipIdx.map fun (id, number) =>
        "    n" ++ toString number ++ "[\"" ++ label id ++ "\"]\n") ++
      String.join (rows.flatMap fun row => row.destinations.map fun destination =>
        "    n" ++ toString (ids.idxOf row.source.id) ++
          (if row.exclusive then " -.->|" else " -->|") ++ destination.reason ++ "| n" ++
          toString (ids.idxOf destination.event.id) ++ "\n") ∧
    (∀ id number, (id, number) ∈ ids.zipIdx ↔ id ∈ occurrences rows ∧ number = ids.idxOf id) ∧
    (∀ a ∈ occurrences rows, ∀ b ∈ occurrences rows, ids.idxOf a = ids.idxOf b ↔ a = b) ∧
    ∀ id, '"' ∉ (label id).toList ∧
      label id = "#quot;".intercalate ((id.toList.splitOn '"').map String.ofList) := by
  have first := eraseDups_firstOccurrences (occurrences rows)
  refine ⟨_, first, ?_, fun id number => ?_, fun a memA b memB => ?_, fun id =>
    ⟨notMem_label id, label_eq_intercalate id⟩⟩
  · simp only [render_eq_lines, List.map_flatMap, Edge.ofRow, List.map_map, Function.comp_def,
      Edge.line, Edge.ofDestination, nodeLine_eq, edgeLine_eq]
  · rw [mem_zipIdx_iff first.nodup, first.mem_iff]
  · exact List.idxOf_inj ((first.mem_iff a).mpr memA)

/-- A scope with a quote in its name that is started again. -/
def restarted : List Row :=
  [⟨⟨.start, "a\""⟩, true, [⟨⟨.completed, "a\""⟩, "done"⟩, ⟨⟨.start, "a\""⟩, "retry"⟩]⟩,
    ⟨⟨.completed, "a\""⟩, false, [⟨⟨.start, "b"⟩, "static"⟩]⟩]

theorem render_eq_restarted :
    "start:a\"" ∈ occurrences restarted ∧ "start:b" ∈ occurrences restarted ∧
    (∃ ids, FirstOccurrences ids (occurrences restarted) ∧
      ids.idxOf "start:a\"" ≠ ids.idxOf "start:b") ∧
    render restarted =
      "flowchart TD\n    n0[\"start:a#quot;\"]\n    n1[\"completed:a#quot;\"]\n" ++
      "    n2[\"start:b\"]\n    n0 -.->|done| n1\n    n0 -.->|retry| n0\n" ++
      "    n1 -->|static| n2\n" := by
  have again : "start:a\"" ∈ occurrences restarted := by decide +kernel
  have last : "start:b" ∈ occurrences restarted := by decide +kernel
  obtain ⟨ids, first, _, _, numbers, _⟩ := render_eq restarted
  have apart : ids.idxOf "start:a\"" ≠ ids.idxOf "start:b" :=
    (numbers _ again _ last).not.mpr (by decide)
  exact ⟨again, last, ⟨ids, first, apart⟩, by decide +kernel⟩

end Mermaid
end ResumableFlow
