import Mathlib.Data.List.Infix
import Mathlib.Data.List.Nodup
import Mathlib.Data.List.TakeWhile
import Mathlib.Tactic.SplitIfs
import ProseForms.Golden.Expected
import ProseForms.Proofs.Text.Trimming

/-!
# Which files hold an expected snapshot

A file is read line by line, and every header is checked against those before it.  Taken
together the checks leave two rows of header keys, wherever in the file the headers stand.

* `IsExpectedFile` says what a file has to look like, without reading it.
* `concat_isPrefix_headerKeys_iff` is the reason: the checks on one header let the keys
  grow along the list of the supported keys and in no other way.
* `foldlM_step_eq_ok_iff` carries this through the lines, with the headers and the lines
  of the snapshot that have been read.
* `readExpected_eq_ok_iff` says that a file is read exactly if it is of this form, and
  what is read then.
-/

namespace ProseForms.Golden

/-! ## Files -/

/-- The lines of a file that are not blank, without the white space at their ends. -/
def writtenLines (content : String) : List (List Char) :=
  ((Text.lines content).map Text.trimEndChars).filter (· ≠ [])

/-- Whether a line starts with a number sign. -/
def isNote (line : List Char) : Bool :=
  line.head? = some '#'

/-- The key and the value of a line, if it is a header: it starts with a number sign, and
a colon follows somewhere.  The first colon ends the key. -/
def headerOf? : List Char → Option (String × String)
  | '#' :: note =>
      if ':' ∈ note then
        some (String.ofList ((Text.trimChars (note.takeWhile (· ≠ ':'))).map Char.toLower),
          String.ofList (Text.trimChars (note.dropWhile (· ≠ ':')).tail))
      else none
  | _ => none

/-- The headers of a file with their values, in order. -/
def headersOf (content : String) : List (String × String) :=
  (writtenLines content).filterMap headerOf?

/-- The lines of a file that do not start with a number sign, in order. -/
def snapshotLinesOf (content : String) : List String :=
  ((writtenLines content).filter fun line => !isNote line).map String.ofList

/-- The form of a file with an expected snapshot: a header for the format, then at most one
for a description, and at least one line of the snapshot. -/
structure IsExpectedFile (content : String) : Prop where
  keys : (headersOf content).map Prod.fst = ["format"] ∨
    (headersOf content).map Prod.fst = ["format", "description"]
  format : ("format", "markup-snapshot-v1") ∈ headersOf content
  lines : snapshotLinesOf content ≠ []

/-! ## Lines -/

/-- The key and the value of a header. -/
def ExpectedLine.header? : ExpectedLine → Option (String × String)
  | .header key value => some (key, value)
  | .blank | .comment | .content _ => none

/-- The text of a line of the snapshot. -/
def ExpectedLine.content? : ExpectedLine → Option String
  | .content text => some text
  | .blank | .comment | .header .. => none

/-- White space around a note changes neither the key nor the value that is in it. -/
theorem ExpectedLine.header?_ofNote (note : List Char) :
    (ofNote note).header? = headerOf? ('#' :: note) := by
  have hcolon : Text.isBlank ':' = false := by decide
  rw [headerOf?]
  -- A colon is not blank: trimming the note leaves it where it is, and what is trimmed at the
  -- two ends of the note is trimmed from the key and from the value in any case.
  split
  · rename_i hmem
    obtain ⟨a, b, rfl, hfirst⟩ := List.eq_append_cons_of_mem hmem
    have hkey : ∀ c ∈ a, decide (c ≠ ':') = true := fun c hc =>
      decide_eq_true fun heq => hfirst (heq ▸ hc)
    have htrimmed : ∀ c ∈ a.dropWhile Text.isBlank, decide (c ≠ ':') = true := fun c hc =>
      hkey c ((List.dropWhile_suffix _).subset hc)
    have hstop : ∀ rest : List Char, (':' :: rest).takeWhile (· ≠ ':') = [] ∧
        (':' :: rest).dropWhile (· ≠ ':') = ':' :: rest := fun _ => ⟨rfl, rfl⟩
    simp only [ofNote, Text.trimChars_append_cons hcolon, List.takeWhile_append_of_pos hkey,
      List.dropWhile_append_of_pos hkey, List.takeWhile_append_of_pos htrimmed,
      List.dropWhile_append_of_pos htrimmed, hstop, List.append_nil, List.tail_cons, header?,
      Text.trimChars_dropWhile, Text.trimChars_trimEndChars]
  · rename_i hmem
    have hnone : (Text.trimChars note).dropWhile (· ≠ ':') = [] := by
      refine List.dropWhile_eq_nil_iff.2 fun c hc => decide_eq_true fun heq => hmem ?_
      have hsub : c ∈ note.dropWhile Text.isBlank := (List.rdropWhile_prefix _ _).subset hc
      exact heq ▸ (List.dropWhile_suffix _).subset hsub
    simp only [ofNote, hnone, header?]

theorem ExpectedLine.content?_ofNote (note : List Char) : (ofNote note).content? = none := by
  unfold ofNote
  simp only
  split <;> rfl

theorem ExpectedLine.header?_ofChars (line : List Char) :
    (ofChars line).header? = headerOf? (Text.trimEndChars line) := by
  unfold ofChars
  split
  · rename_i hline
    rw [hline]
    rfl
  · rename_i note hline
    rw [hline, header?_ofNote]
  · rename_i hnil hnote
    unfold headerOf?
    split
    · rename_i note hline
      exact absurd hline (hnote note)
    · rfl

theorem ExpectedLine.content?_ofChars (line : List Char) :
    (ofChars line).content? =
      if Text.trimEndChars line = [] ∨ isNote (Text.trimEndChars line) = true then none
      else some (String.ofList (Text.trimEndChars line)) := by
  unfold ofChars
  split
  · rename_i hline
    simp [hline, content?]
  · rename_i note hline
    simp [hline, isNote, content?_ofNote]
  · rename_i hnil hnote
    have hhead : isNote (Text.trimEndChars line) = false := by
      refine decide_eq_false fun hhead => ?_
      obtain ⟨note, hline⟩ := List.head?_eq_some_iff.1 hhead
      exact hnote note hline
    have hwritten : Text.trimEndChars line ≠ [] := hnil
    simp [hwritten, hhead, content?]

/-- What the lines of a file are, as headers and as lines of the snapshot. -/
theorem filterMap_ofChars (content : String) :
    let lines := (Text.lines content).map ExpectedLine.ofChars
    lines.filterMap ExpectedLine.header? = headersOf content ∧
      lines.filterMap ExpectedLine.content? = snapshotLinesOf content := by
  constructor
  · rw [headersOf, writtenLines, List.filterMap_map, List.filterMap_filter, List.filterMap_map]
    refine List.filterMap_congr fun line _ => ?_
    rw [Function.comp_apply, Function.comp_apply, ExpectedLine.header?_ofChars]
    split
    · rfl
    · rename_i hblank
      rw [not_not.1 (mt decide_eq_true hblank)]
      rfl
  · rw [snapshotLinesOf, writtenLines, List.filter_filter, List.filterMap_map,
      ← congrFun List.filterMap_eq_map, List.filterMap_filter, List.filterMap_map]
    refine List.filterMap_congr fun line _ => ?_
    rw [Function.comp_apply, Function.comp_apply, ExpectedLine.content?_ofChars]
    by_cases hblank : Text.trimEndChars line = [] <;>
      by_cases hnote : isNote (Text.trimEndChars line) = true <;> simp [hblank, hnote]

/-! ## Headers -/

/-- An equation between results, where the condition of the result holds. -/
theorem ok_eq_ok_iff_and {ε α : Type} {a b : α} {p : Prop} (h : p) :
    (Except.ok a : Except ε α) = .ok b ↔ p ∧ b = a :=
  ⟨fun heq => ⟨h, (Except.ok.inj heq).symm⟩, fun heq => congrArg Except.ok heq.2.symm⟩

namespace ExpectedReading

/-- The keys of the headers that have been read, in order. -/
def keys (reading : ExpectedReading) : List String :=
  (reading.headers.map Prod.fst).reverse

theorem isPrefix_headerKeys_iff {keys : List String} :
    keys <+: headerKeys ↔
      keys = [] ∨ keys = ["format"] ∨ keys = ["format", "description"] := by
  rw [← List.mem_inits]
  simp [headerKeys, formatKey]

/-- The next header is let through exactly if its key is the next one that is supported. -/
theorem concat_isPrefix_headerKeys_iff {keys : List String} (h : keys <+: headerKeys)
    (key : String) :
    keys ++ [key] <+: headerKeys ↔
      key ∈ headerKeys ∧ (keys = [] → key = formatKey) ∧ key ∉ keys := by
  rw [isPrefix_headerKeys_iff]
  rcases isPrefix_headerKeys_iff.1 h with rfl | rfl | rfl <;>
    simp only [headerKeys, formatKey, List.nil_append, List.cons_append, List.cons.injEq,
      List.mem_cons, List.not_mem_nil] <;> grind

theorem header_eq_ok_iff {reading done : ExpectedReading} (h : reading.keys <+: headerKeys)
    (key value : String) :
    reading.header key value = .ok done ↔
      reading.keys ++ [key] <+: headerKeys ∧
        done = { reading with headers := (key, value) :: reading.headers } := by
  have hempty : reading.keys = [] ↔ reading.headers.isEmpty = true := by simp [keys]
  have hmem : key ∈ reading.keys ↔ key ∈ reading.headers.map Prod.fst := List.mem_reverse
  rw [concat_isPrefix_headerKeys_iff h, header, hmem]
  split_ifs with hkey hfirst hdup
  · exact ⟨nofun, fun h => absurd (h.1.2.1 (hempty.2 hfirst.1)) hfirst.2⟩
  · exact ⟨nofun, fun h => absurd hdup h.1.2.2⟩
  · have hformat : reading.keys = [] → key = formatKey := fun hnil =>
      not_not.1 fun hne => hfirst ⟨hempty.1 hnil, hne⟩
    exact ok_eq_ok_iff_and ⟨hkey, hformat, hdup⟩
  · exact ⟨nofun, fun h => absurd h.1.1 hkey⟩

/-! ## Runs -/

/-- What has been read after some lines: headers and lines of the snapshot, the last ones
first. -/
def after (reading : ExpectedReading) (lines : List ExpectedLine) : ExpectedReading where
  headers := (lines.filterMap ExpectedLine.header?).reverse ++ reading.headers
  lines := (lines.filterMap ExpectedLine.content?).reverse ++ reading.lines

theorem keys_after (reading : ExpectedReading) (lines : List ExpectedLine) :
    (reading.after lines).keys =
      reading.keys ++ (lines.filterMap ExpectedLine.header?).map Prod.fst := by
  simp [keys, after]

theorem after_append (reading : ExpectedReading) (first rest : List ExpectedLine) :
    reading.after (first ++ rest) = (reading.after first).after rest := by
  simp [after]

/-- A line is read exactly if the keys with it are a row of supported ones. -/
theorem step_eq_ok_iff {reading done : ExpectedReading} (h : reading.keys <+: headerKeys)
    (line : ExpectedLine) :
    reading.step line = .ok done ↔
      (reading.after [line]).keys <+: headerKeys ∧ done = reading.after [line] := by
  rw [keys_after]
  cases line with
  | header key value => exact header_eq_ok_iff h key value
  | blank | comment | content _ =>
      exact ok_eq_ok_iff_and ((List.append_nil reading.keys).symm ▸ h)

/-- Lines are read exactly if the keys of all their headers are a row of supported ones.
A row that is none does not become one by what is added to it, so it makes no difference
that every header is checked as soon as it is read. -/
theorem foldlM_step_eq_ok_iff {reading done : ExpectedReading}
    (h : reading.keys <+: headerKeys) (lines : List ExpectedLine) :
    lines.foldlM step reading = .ok done ↔
      (reading.after lines).keys <+: headerKeys ∧ done = reading.after lines := by
  induction lines generalizing reading with
  | nil => exact ok_eq_ok_iff_and h
  | cons line rest ih =>
      have hsplit : reading.after (line :: rest) = (reading.after [line]).after rest :=
        reading.after_append [line] rest
      have hgrows : (reading.after (line :: rest)).keys <+: headerKeys →
          (reading.after [line]).keys <+: headerKeys := by
        rw [hsplit, keys_after _ rest]
        exact (List.prefix_append _ _).trans
      rw [List.foldlM_cons]
      cases hstep : reading.step line with
      | error cause =>
          -- Were the whole row supported, so would be its keys up to this line.
          refine ⟨nofun, fun hrow => ?_⟩
          rw [(step_eq_ok_iff h line).2 ⟨hgrows hrow.1, rfl⟩] at hstep
          cases hstep
      | ok next =>
          obtain ⟨hkeys, rfl⟩ := (step_eq_ok_iff h line).1 hstep
          rw [hsplit]
          exact ih hkeys

theorem finish_eq_ok_iff {reading : ExpectedReading} {lines : List String} :
    reading.finish = .ok lines ↔
      (reading.headers.lookup formatKey = some Snapshot.formatName ∧ reading.lines ≠ []) ∧
        lines = reading.lines.reverse := by
  unfold finish
  cases reading.headers.lookup formatKey with
  | none => exact ⟨nofun, fun h => nomatch h.1.1⟩
  | some format =>
      simp only [List.isEmpty_iff]
      split_ifs with hformat hnil
      · exact ⟨nofun, fun h => absurd (Option.some.inj h.1.1) hformat⟩
      · exact ⟨nofun, fun h => absurd hnil h.1.2⟩
      · exact ok_eq_ok_iff_and ⟨congrArg some (not_not.1 hformat), hnil⟩

end ExpectedReading

/-! ## Whole files -/

/-- Where no key is repeated, what is found under a key is what stands there. -/
theorem lookup_eq_some_iff_mem {α β : Type} [DecidableEq α] {entries : List (α × β)}
    (h : (entries.map Prod.fst).Nodup) {key : α} {value : β} :
    entries.lookup key = some value ↔ (key, value) ∈ entries := by
  rw [List.lookup_eq_some_iff]
  constructor
  · rintro ⟨before, rest, rfl, -⟩
    exact List.mem_append_right _ List.mem_cons_self
  · intro hmem
    obtain ⟨before, rest, rfl⟩ := List.append_of_mem hmem
    refine ⟨before, rest, rfl, fun entry hentry => bne_iff_ne.2 fun heq => ?_⟩
    rw [List.map_append, List.map_cons, List.nodup_append] at h
    exact h.2.2 entry.1 (List.mem_map_of_mem hentry) key List.mem_cons_self heq.symm

/-- The form of a file, as the reader checks it: headers and lines are kept with the last
ones first, and a row of keys that holds the format is one of the two. -/
theorem isExpectedFile_iff (content : String) :
    IsExpectedFile content ↔
      (headersOf content).map Prod.fst <+: headerKeys ∧
        (headersOf content).reverse.lookup formatKey = some Snapshot.formatName ∧
          (snapshotLinesOf content).reverse ≠ [] := by
  have hlookup : (headersOf content).map Prod.fst <+: headerKeys →
      ((headersOf content).reverse.lookup formatKey = some Snapshot.formatName ↔
        ("format", "markup-snapshot-v1") ∈ headersOf content) := by
    intro hrow
    have hdistinct : ((headersOf content).reverse.map Prod.fst).Nodup := by
      rw [List.map_reverse, List.nodup_reverse]
      exact hrow.sublist.nodup (by decide)
    rw [lookup_eq_some_iff_mem hdistinct, List.mem_reverse]
    rfl
  rw [List.reverse_ne_nil_iff]
  constructor
  · rintro ⟨hkeys, hformat, hlines⟩
    have hrow := ExpectedReading.isPrefix_headerKeys_iff.2 (Or.inr hkeys)
    exact ⟨hrow, (hlookup hrow).2 hformat, hlines⟩
  · rintro ⟨hrow, hformat, hlines⟩
    have hmem := (hlookup hrow).1 hformat
    refine ⟨?_, hmem, hlines⟩
    refine (ExpectedReading.isPrefix_headerKeys_iff.1 hrow).resolve_left fun hnil => ?_
    rw [List.map_eq_nil_iff.1 hnil] at hmem
    cases hmem

/-- A text is read exactly if it has the form of a file with an expected snapshot. -/
theorem parseExpected_eq_ok_iff (content : String) (lines : List String) :
    parseExpected content = .ok lines ↔
      IsExpectedFile content ∧ lines = snapshotLinesOf content := by
  have hstart : ExpectedReading.keys {} <+: headerKeys := List.nil_prefix
  have hrun : ∀ done : ExpectedReading,
      ((Text.lines content).map ExpectedLine.ofChars).foldlM ExpectedReading.step {} = .ok done ↔
        (headersOf content).map Prod.fst <+: headerKeys ∧
          done = ⟨(headersOf content).reverse, (snapshotLinesOf content).reverse⟩ := by
    intro done
    rw [ExpectedReading.foldlM_step_eq_ok_iff hstart, ExpectedReading.keys_after,
      ExpectedReading.after, (filterMap_ofChars content).1, (filterMap_ofChars content).2,
      List.append_nil, List.append_nil]
    rfl
  rw [isExpectedFile_iff, parseExpected]
  cases hfold : ((Text.lines content).map ExpectedLine.ofChars).foldlM ExpectedReading.step {} with
  | error cause =>
      refine ⟨nofun, fun h => ?_⟩
      rw [(hrun _).2 ⟨h.1.1, rfl⟩] at hfold
      cases hfold
  | ok done =>
      obtain ⟨hrow, rfl⟩ := (hrun done).1 hfold
      change ExpectedReading.finish _ = .ok lines ↔ _
      rw [ExpectedReading.finish_eq_ok_iff, List.reverse_reverse]
      exact and_congr_left' (and_iff_right hrow).symm

theorem fromUTF8?_toUTF8 (content : String) :
    String.fromUTF8? content.toUTF8 = some content :=
  dif_pos content.isValidUTF8

theorem readExpected_toUTF8 (content : String) :
    readExpected (some content.toUTF8) = parseExpected content := by
  rw [readExpected, Option.bind_some, fromUTF8?_toUTF8]

/-- A file is read exactly if it has the form that `IsExpectedFile` states, and then as its
lines that do not start with a number sign.  Every other file is refused. -/
theorem readExpected_eq_ok_iff (content : String) :
    (∀ lines, readExpected (some content.toUTF8) = .ok lines ↔
      IsExpectedFile content ∧ lines = snapshotLinesOf content) ∧
    ((∃ cause, readExpected (some content.toUTF8) = .error cause) ↔
      ¬ IsExpectedFile content) := by
  have hread := parseExpected_eq_ok_iff content
  rw [readExpected_toUTF8]
  refine ⟨hread, ?_⟩
  cases hparse : parseExpected content with
  | ok lines => exact ⟨nofun, fun h => absurd ((hread lines).1 hparse).1 h⟩
  | error cause =>
      refine ⟨fun _ h => ?_, fun _ => ⟨cause, rfl⟩⟩
      rw [(hread _).2 ⟨h, rfl⟩] at hparse
      cases hparse

/-- Headers may stand between the lines of the snapshot; a number sign further in starts
none, and one without a colon starts a comment. -/
example : parseExpected
    "# FORMAT : markup-snapshot-v1 \r\n<p> \n # a: b\n#Description: a: b\n# note\n\n<hr>" =
      .ok ["<p>", " # a: b", "<hr>"] := by
  decide +kernel

end ProseForms.Golden
