import ProseForms.Proofs.Markup.OpeningTag

/-!
# Snapshots are faithful

A snapshot is made of lines, and a line shows the depth of a node and the node without its
children.  Nothing else is needed to tell forests apart: the children of a node are the
nodes on the following lines, up to the first line that is not further in.

* `Entry` is what one line shows, and `forestLines_eq_map` writes the entries of a forest.
* `Entry.line_injective` reads an entry off its line: the blanks in front, then a quoted
  text or an opening tag.
* `entries_append_inj` and `entriesOf_append_inj` cancel a node, and a forest, from the
  front of a list of entries that goes on at a smaller depth.
* `render_eq_iff` is the result: equal snapshots are snapshots of equal forests.
-/

namespace ProseForms.Snapshot

/-! ## What a line shows -/

/-- A node without its children. -/
inductive Label where
  | text (content : String)
  | opening (head : Element)
deriving DecidableEq

/-- A label as it is written. -/
def Label.chars : Label → List Char
  | .text content => (quoted content).toList
  | .opening head => (elementText head).toList

/-- What one line shows. -/
structure Entry where
  depth : Nat
  label : Label
deriving DecidableEq

/-- An entry as it is written. -/
def Entry.line (entry : Entry) : List Char :=
  List.replicate (2 * entry.depth) ' ' ++ entry.label.chars

theorem Label.chars_cases (label : Label) :
    ∃ first rest, label.chars = first :: rest ∧ first ≠ ' ' := by
  cases label with
  | text content => exact ⟨'"', _, toList_quoted content, by decide⟩
  | opening head => exact ⟨'<', _, toList_elementText head, by decide⟩

theorem Label.chars_injective : Function.Injective Label.chars := by
  intro x y h
  have hkinds : ∀ {content : String} {head : Element},
      (quoted content).toList ≠ (elementText head).toList := by
    intro content head heq
    rw [toList_quoted, toList_elementText] at heq
    exact absurd (List.cons.inj heq).1 (by decide)
  cases x <;> cases y
  case text.text content content' =>
    obtain ⟨rfl, -⟩ := selfDelimiting_quoted content content' [] [] (congrArg (· ++ []) h)
    rfl
  case opening.opening head head' => rw [elementText_injective (String.toList_inj.1 h)]
  case text.opening => exact absurd h hkinds
  case opening.text => exact absurd h.symm hkinds

theorem Label.newline_not_mem_chars (label : Label) : '\n' ∉ label.chars := by
  cases label with
  | text content => exact newline_not_mem_quoted content
  | opening head => exact newline_not_mem_elementText head

/-- The depth is the number of blanks in front, since no label starts with a blank. -/
theorem Entry.line_injective : Function.Injective Entry.line := by
  intro x y h
  have hblanks : ∀ n, ∀ c ∈ List.replicate n ' ', (c == ' ') = true := by
    intro n c hc
    rw [List.eq_of_mem_replicate hc]
    rfl
  have hstop : ∀ label : Label, ∀ c ∈ label.chars.head?, (c == ' ') = false := by
    intro label c hc
    obtain ⟨first, rest, hchars, hne⟩ := label.chars_cases
    rw [hchars] at hc
    obtain rfl := Option.some.inj hc
    exact beq_false_of_ne hne
  obtain ⟨hdepth, hlabel⟩ := Text.append_inj_of_span (hblanks _) (hblanks _)
    (hstop x.label) (hstop y.label) h
  have hlength : 2 * x.depth = 2 * y.depth := by
    simpa using congrArg List.length hdepth
  cases x
  cases y
  obtain rfl := Nat.eq_of_mul_eq_mul_left (by decide) hlength
  obtain rfl := Label.chars_injective hlabel
  rfl

theorem Entry.line_ne_nil (entry : Entry) : entry.line ≠ [] := by
  obtain ⟨first, rest, hchars, -⟩ := entry.label.chars_cases
  simp [line, hchars]

theorem Entry.newline_not_mem_line (entry : Entry) : '\n' ∉ entry.line := by
  simp [line, entry.label.newline_not_mem_chars]

/-! ## The entries of a forest -/

mutual

/-- The entries of a node that stands at some depth. -/
def entries (depth : Nat) : Node → List Entry
  | .text content => [⟨depth, .text content⟩]
  | .element head children => ⟨depth, .opening head⟩ :: entriesOf (depth + 1) children
termination_by structural node => node

/-- The entries of a forest that stands at some depth. -/
def entriesOf (depth : Nat) : List Node → List Entry
  | [] => []
  | node :: rest => entries depth node ++ entriesOf depth rest
termination_by structural nodes => nodes

end

mutual

theorem nodeLines_eq_map (depth : Nat) : ∀ node : Node,
    (nodeLines depth node).map String.toList = (entries depth node).map Entry.line
  | .text content => by simp [nodeLines, entries, Entry.line, Label.chars, indentation]
  | .element head children => by
      simp [nodeLines, entries, Entry.line, Label.chars, indentation,
        forestLines_eq_map (depth + 1) children]
termination_by structural node => node

/-- The lines of a forest write its entries. -/
theorem forestLines_eq_map (depth : Nat) : ∀ nodes : List Node,
    (forestLines depth nodes).map String.toList = (entriesOf depth nodes).map Entry.line
  | [] => rfl
  | node :: rest => by
      rw [forestLines, entriesOf, List.map_append, List.map_append,
        nodeLines_eq_map depth node, forestLines_eq_map depth rest]
termination_by structural nodes => nodes

end

theorem entries_eq_cons (depth : Nat) (node : Node) :
    ∃ label rest, entries depth node = ⟨depth, label⟩ :: rest := by
  cases node <;> exact ⟨_, _, rfl⟩

/-- What follows a node among its siblings is no further in than the node. -/
theorem depth_le_of_mem_head? {depth : Nat} {nodes : List Node} {r : List Entry}
    (hr : ∀ entry ∈ r.head?, entry.depth < depth) :
    ∀ entry ∈ (entriesOf depth nodes ++ r).head?, entry.depth ≤ depth := by
  intro entry hentry
  cases nodes with
  | nil => exact Nat.le_of_lt (hr entry hentry)
  | cons node rest =>
      obtain ⟨label, below, hcons⟩ := entries_eq_cons depth node
      rw [entriesOf, hcons] at hentry
      obtain rfl := Option.some.inj hentry
      exact Nat.le_refl depth

/-- A forest does not start with an entry of smaller depth. -/
theorem entriesOf_cons_append_ne {depth : Nat} {node : Node} {rest : List Node}
    {r s : List Entry} (hr : ∀ entry ∈ r.head?, entry.depth < depth) :
    entriesOf depth (node :: rest) ++ s ≠ r := by
  rintro rfl
  obtain ⟨label, below, hcons⟩ := entries_eq_cons depth node
  rw [entriesOf, hcons] at hr
  exact Nat.lt_irrefl depth (hr _ rfl)

mutual

/-- A node can be told from what follows it, when that is no further in. -/
theorem entries_append_inj {depth : Nat} {r s : List Entry} : ∀ a b : Node,
    (∀ entry ∈ r.head?, entry.depth ≤ depth) → (∀ entry ∈ s.head?, entry.depth ≤ depth) →
    entries depth a ++ r = entries depth b ++ s → a = b ∧ r = s
  | .text content, .text content', _, _, h => by
      obtain ⟨hhead, hrest⟩ := List.cons.inj h
      cases hhead
      exact ⟨rfl, hrest⟩
  | .text _, .element .., _, _, h => by cases (List.cons.inj h).1
  | .element .., .text _, _, _, h => by cases (List.cons.inj h).1
  | .element head children, .element head' children', hr, hs, h => by
      obtain ⟨hhead, hrest⟩ := List.cons.inj h
      cases hhead
      obtain ⟨rfl, htail⟩ := entriesOf_append_inj children children'
        (fun entry hentry => Nat.lt_succ_of_le (hr entry hentry))
        (fun entry hentry => Nat.lt_succ_of_le (hs entry hentry)) hrest
      exact ⟨rfl, htail⟩
termination_by structural a => a

/-- A forest can be told from what follows it, when that is less far in. -/
theorem entriesOf_append_inj {depth : Nat} {r s : List Entry} : ∀ as bs : List Node,
    (∀ entry ∈ r.head?, entry.depth < depth) → (∀ entry ∈ s.head?, entry.depth < depth) →
    entriesOf depth as ++ r = entriesOf depth bs ++ s → as = bs ∧ r = s
  | [], [], _, _, h => ⟨rfl, h⟩
  | [], _ :: _, hr, _, h => absurd h.symm (entriesOf_cons_append_ne hr)
  | _ :: _, [], _, hs, h => absurd h (entriesOf_cons_append_ne hs)
  | a :: as, b :: bs, hr, hs, h => by
      rw [entriesOf, entriesOf, List.append_assoc, List.append_assoc] at h
      obtain ⟨rfl, hrest⟩ := entries_append_inj a b (depth_le_of_mem_head? hr)
        (depth_le_of_mem_head? hs) h
      obtain ⟨rfl, htail⟩ := entriesOf_append_inj as bs hr hs hrest
      exact ⟨rfl, htail⟩
termination_by structural as => as

end

/-! ## Lines and texts -/

/-- The lines alone determine the forest. -/
theorem lines_injective : Function.Injective lines := by
  intro a b h
  have hlines := congrArg (List.map String.toList) h
  rw [lines, lines, forestLines_eq_map, forestLines_eq_map] at hlines
  have hentries : entriesOf 0 a = entriesOf 0 b :=
    Entry.line_injective.list_map hlines
  exact (entriesOf_append_inj a b (by simp) (by simp) (congrArg (· ++ []) hentries)).1

theorem exists_entry_of_mem_lines {nodes : List Node} {line : String}
    (h : line ∈ lines nodes) : ∃ entry : Entry, entry.line = line.toList := by
  have hmem := List.mem_map_of_mem (f := String.toList) h
  rw [lines, forestLines_eq_map] at hmem
  obtain ⟨entry, -, hline⟩ := List.mem_map.1 hmem
  exact ⟨entry, hline⟩

/-- No line of a snapshot is broken. -/
theorem newline_not_mem_of_mem_lines {nodes : List Node} {line : String}
    (h : line ∈ lines nodes) : '\n' ∉ line.toList := by
  obtain ⟨entry, hline⟩ := exists_entry_of_mem_lines h
  exact hline ▸ entry.newline_not_mem_line

/-- The lines of a snapshot are the pieces between its line feeds.  The text of an empty
forest has one such piece, which is empty and no line. -/
theorem filter_splitOn_render (nodes : List Node) :
    ((render nodes).toList.splitOn '\n').filter (· ≠ []) =
      (lines nodes).map String.toList := by
  have hbroken : ∀ l ∈ (lines nodes).map String.toList, '\n' ∉ l := by
    intro l hl
    obtain ⟨line, hline, rfl⟩ := List.mem_map.1 hl
    exact newline_not_mem_of_mem_lines hline
  have hempty : ∀ l ∈ (lines nodes).map String.toList, decide (l ≠ []) = true := by
    intro l hl
    obtain ⟨line, hline, rfl⟩ := List.mem_map.1 hl
    obtain ⟨entry, hentry⟩ := exists_entry_of_mem_lines hline
    exact decide_eq_true (hentry ▸ entry.line_ne_nil)
  rw [render, String.toList_intercalate]
  by_cases hnil : (lines nodes).map String.toList = []
  · rw [hnil]
    rfl
  · change (List.splitOn '\n' (['\n'].intercalate _)).filter _ = _
    rw [List.splitOn_intercalate '\n' hbroken hnil, List.filter_eq_self.2 hempty]

theorem render_injective : Function.Injective render := by
  intro a b h
  have hlines : (lines a).map String.toList = (lines b).map String.toList := by
    rw [← filter_splitOn_render, ← filter_splitOn_render, h]
  have hstrings : Function.Injective String.toList := fun _ _ => String.toList_inj.1
  exact lines_injective (hstrings.list_map hlines)

/-- A snapshot tells every forest from every other, by its text and by its lines, and no
text or value in the forest breaks a line. -/
theorem render_eq_iff (a b : List Node) :
    (render a = render b ↔ a = b) ∧ (lines a = lines b ↔ a = b) ∧
      ∀ line ∈ lines a, '\n' ∉ line.toList :=
  ⟨render_injective.eq_iff, lines_injective.eq_iff, fun _ => newline_not_mem_of_mem_lines⟩

/-- A text that is written like markup is not taken for it. -/
theorem render_eq_iff_markupInText :
    render [.element ⟨.p, {}, none⟩ [.text "a\"\n  <br checked>"]] ≠
      render [.element ⟨.p, {}, none⟩ [.text "a",
        .element ⟨.br, { checked := true }, none⟩ []]] ∧
    ∀ line ∈ lines [.element ⟨.p, {}, none⟩ [.text "a\"\n  <br checked>"]],
      '\n' ∉ line.toList := by
  have h := render_eq_iff [.element ⟨.p, {}, none⟩ [.text "a\"\n  <br checked>"]]
    [.element ⟨.p, {}, none⟩ [.text "a", .element ⟨.br, { checked := true }, none⟩ []]]
  exact ⟨fun heq => absurd (h.1.1 heq) (by decide), h.2.2⟩

end ProseForms.Snapshot
