import ProseForms.Proofs.Golden.Accepted
import ProseForms.Proofs.Markup.Faithful

/-!
# Snapshots are read as they were written

A file with an expected snapshot is made of a snapshot by putting a header in front.
Reading such a file drops blank lines, white space at the ends of lines and everything
behind a number sign, so the lines of a snapshot must offer nothing of the kind.

* `Text.IsSettled` collects what a line needs for that, and `writtenLines_intercalate` says
  that settled lines are the lines of the file that holds them.
* `Snapshot.Entry.isSettled_line` says that a line of a snapshot is settled, whatever texts,
  values and bindings stand in it.
* `readExpected_fileOf` is the result.
-/

namespace ProseForms

/-! ## Lines that reading leaves alone -/

/-- A line that stays as it is in a file: it is not empty, does not break, and ends with a
character that is not blank. -/
structure Text.IsSettled (line : List Char) : Prop where
  newline : '\n' ∉ line
  last : ∃ front c, line = front ++ [c] ∧ Text.isBlank c = false

namespace Text.IsSettled

variable {line : List Char}

theorem ne_nil (h : IsSettled line) : line ≠ [] := by
  obtain ⟨front, c, rfl, -⟩ := h.last
  simp

theorem dropReturn_eq (h : IsSettled line) : dropReturn line = line := by
  obtain ⟨front, c, rfl, hc⟩ := h.last
  refine if_neg fun hreturn => ?_
  rw [List.getLast?_concat] at hreturn
  obtain rfl := Option.some.inj hreturn
  exact absurd hc (by decide)

theorem trimEndChars_eq (h : IsSettled line) : trimEndChars line = line := by
  obtain ⟨front, c, rfl, hc⟩ := h.last
  exact trimEndChars_append_cons hc front []

end Text.IsSettled

/-- The lines of a file that consists of settled lines. -/
theorem Golden.writtenLines_intercalate {content : String} {lines : List (List Char)}
    (hcontent : content.toList = ['\n'].intercalate lines) (hne : lines ≠ [])
    (h : ∀ line ∈ lines, Text.IsSettled line) : writtenLines content = lines := by
  have hkept : ∀ {f : List Char → List Char}, (∀ line ∈ lines, f line = line) →
      lines.map f = lines := fun hf => (List.map_congr_left hf).trans (List.map_id lines)
  have hbroken : ∀ line ∈ lines, '\n' ∉ line := fun line hline => (h line hline).newline
  have hwritten : ∀ line ∈ lines, decide (line ≠ []) = true := fun line hline =>
    decide_eq_true (h line hline).ne_nil
  rw [writtenLines, Text.lines, hcontent, List.splitOn_intercalate '\n' hbroken hne,
    hkept fun line hline => (h line hline).dropReturn_eq,
    hkept fun line hline => (h line hline).trimEndChars_eq, List.filter_eq_self.2 hwritten]

/-! ## The lines of a snapshot -/

namespace Snapshot

theorem Label.isSettled_chars (label : Label) : Text.IsSettled label.chars := by
  refine ⟨label.newline_not_mem_chars, ?_⟩
  cases label with
  | text content =>
      exact ⟨'"' :: content.toList.flatMap escapedChar, '"', toList_quoted content, by decide⟩
  | opening head =>
      refine ⟨'<' :: (head.tag.name.toList ++ head.marks.flatMap Mark.chars), '>', ?_,
        by decide⟩
      simp [chars, toList_elementText]

theorem Entry.isSettled_line (entry : Entry) : Text.IsSettled entry.line := by
  obtain ⟨front, c, hchars, hc⟩ := entry.label.isSettled_chars.last
  refine ⟨entry.newline_not_mem_line, List.replicate (2 * entry.depth) ' ' ++ front, c, ?_, hc⟩
  rw [line, hchars, List.append_assoc]

/-- A line of a snapshot starts with a blank, a double quote or an angle bracket. -/
theorem Entry.isNote_line (entry : Entry) : Golden.isNote entry.line = false := by
  obtain ⟨depth, label⟩ := entry
  cases depth with
  | succ depth => rfl
  | zero =>
      show Golden.isNote label.chars = false
      cases label with
      | text content =>
          rw [Label.chars, toList_quoted]
          rfl
      | opening head =>
          rw [Label.chars, toList_elementText]
          rfl

theorem lines_ne_nil {nodes : List Node} (h : nodes ≠ []) : lines nodes ≠ [] := by
  obtain ⟨node, rest, rfl⟩ := List.exists_cons_of_ne_nil h
  cases node <;> exact List.cons_ne_nil _ _

theorem isSettled_and_isNote_of_mem_lines {nodes : List Node} :
    ∀ line ∈ (lines nodes).map String.toList,
      Text.IsSettled line ∧ Golden.isNote line = false := by
  intro line hline
  obtain ⟨text, htext, rfl⟩ := List.mem_map.1 hline
  obtain ⟨entry, hentry⟩ := exists_entry_of_mem_lines htext
  exact hentry ▸ ⟨entry.isSettled_line, entry.isNote_line⟩

end Snapshot

/-! ## Files -/

namespace Golden

/-- A file with a snapshot, behind a header for the format. -/
def fileOf (nodes : List Node) : String :=
  "# format: markup-snapshot-v1\n" ++ Snapshot.render nodes

theorem toList_fileOf (nodes : List Node) :
    (fileOf nodes).toList =
      "# format: markup-snapshot-v1\n".toList ++ (Snapshot.render nodes).toList :=
  String.toList_append

theorem writtenLines_fileOf {nodes : List Node} (h : nodes ≠ []) :
    writtenLines (fileOf nodes) =
      "# format: markup-snapshot-v1".toList :: (Snapshot.lines nodes).map String.toList := by
  refine writtenLines_intercalate ?_ (List.cons_ne_nil _ _) ?_
  · obtain ⟨first, rest, hlines⟩ := List.exists_cons_of_ne_nil (Snapshot.lines_ne_nil h)
    have hheader : "# format: markup-snapshot-v1\n".toList =
        "# format: markup-snapshot-v1".toList ++ ['\n'] := by decide
    rw [toList_fileOf, Snapshot.render, String.toList_intercalate, hlines, List.map_cons,
      List.intercalate_cons_cons, hheader, List.append_assoc]
    rfl
  · intro line hline
    rcases List.mem_cons.1 hline with rfl | hline
    · exact ⟨by decide, "# format: markup-snapshot-v".toList, '1', by decide, by decide⟩
    · exact (Snapshot.isSettled_and_isNote_of_mem_lines line hline).1

theorem headerOf?_eq_none {line : List Char} (h : isNote line = false) :
    headerOf? line = none := by
  unfold headerOf?
  split
  · cases h
  · rfl

theorem headersOf_fileOf {nodes : List Node} (h : nodes ≠ []) :
    headersOf (fileOf nodes) = [("format", "markup-snapshot-v1")] := by
  have hheader : headerOf? "# format: markup-snapshot-v1".toList =
      some ("format", "markup-snapshot-v1") := by decide
  have hrest : ((Snapshot.lines nodes).map String.toList).filterMap headerOf? = [] :=
    List.filterMap_eq_nil_iff.2 fun line hline =>
      headerOf?_eq_none (Snapshot.isSettled_and_isNote_of_mem_lines line hline).2
  rw [headersOf, writtenLines_fileOf h, List.filterMap_cons_some hheader, hrest]

theorem snapshotLinesOf_fileOf {nodes : List Node} (h : nodes ≠ []) :
    snapshotLinesOf (fileOf nodes) = Snapshot.lines nodes := by
  have hkept : ∀ line ∈ (Snapshot.lines nodes).map String.toList, (!isNote line) = true :=
    fun line hline => by rw [(Snapshot.isSettled_and_isNote_of_mem_lines line hline).2]; rfl
  rw [snapshotLinesOf, writtenLines_fileOf h, List.filter_cons_of_neg (by decide),
    List.filter_eq_self.2 hkept, List.map_map]
  exact (List.map_congr_left fun line _ => String.ofList_toList).trans (List.map_id _)

theorem isExpectedFile_fileOf {nodes : List Node} (h : nodes ≠ []) :
    IsExpectedFile (fileOf nodes) where
  keys := Or.inl (by rw [headersOf_fileOf h]; rfl)
  format := by rw [headersOf_fileOf h]; exact List.mem_cons_self
  lines := by rw [snapshotLinesOf_fileOf h]; exact Snapshot.lines_ne_nil h

/-- A snapshot is read as it was written, whatever texts, values and bindings are in it. -/
theorem readExpected_fileOf (nodes : List Node) (h : nodes ≠ []) :
    readExpected (some (fileOf nodes).toUTF8) = .ok (Snapshot.lines nodes) := by
  rw [readExpected_toUTF8]
  exact (parseExpected_eq_ok_iff _ _).2
    ⟨isExpectedFile_fileOf h, (snapshotLinesOf_fileOf h).symm⟩

/-- Texts that are written like a header, like a blank line or with white space at their
ends, and a binding whose key breaks the line. -/
theorem readExpected_fileOf_headerInText :
    let nodes : List Node := [
      .text "# format: other",
      .element ⟨.p, {}, none⟩ [.text "\n\n# description: x\r\n ", .text ""],
      .element ⟨.input, { value := some " \t" }, some (.input .date "a\n#b: \u2028")⟩ []]
    nodes ≠ [] ∧ readExpected (some (fileOf nodes).toUTF8) = .ok (Snapshot.lines nodes) := by
  intro nodes
  have hne : nodes ≠ [] := List.cons_ne_nil _ _
  exact ⟨hne, readExpected_fileOf nodes hne⟩

end Golden

end ProseForms
