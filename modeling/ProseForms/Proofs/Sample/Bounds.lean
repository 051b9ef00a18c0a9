import ProseForms.Proofs.Sample.Draws
import ProseForms.Sample.Document

/-!
# What sample documents look like

The bounds that samples keep, read off a document without drawing one.  A depth is room for
nesting: quotes and lists each take one of it, and so do emphasis, links and images among
the inlines.

* `Document.IsSample` says what is promised of a sample.
* `yields_field`, `yields_inline` and `yields_block` follow the generators, each with the
  depth that it is given, and `yields_document` is the result.
-/

namespace ProseForms

/-! ## The bounds -/

/-- A list that is written out has at most three entries. -/
def Source.IsShort {α : Type} (source : Source (List α)) : Prop :=
  ∀ items, source.literal? = some items → items.length ≤ 3

/-- The flags and the options that a field writes out are few. -/
def FieldSpec.HasShortLists : FieldSpec → Prop
  | .textBox .. => True
  | .checkBoxes flags options => flags.IsShort ∧ options.IsShort
  | .radioButtons _ options | .dropDown options _ => options.IsShort

/-- A field of a sample. -/
structure FormField.IsSample (field : FormField) : Prop where
  label : field.label ∈ Sample.labels
  lists : field.spec.HasShortLists

/-- An inline of a sample that nests at most to a depth. -/
def Inline.IsSample : Nat → Inline → Prop
  | depth + 1, .emph body | depth + 1, .strong body | depth + 1, .link body _
  | depth + 1, .image body _ => body ≠ [] ∧ ∀ inline ∈ body, inline.IsSample depth
  | 0, .emph _ | 0, .strong _ | 0, .link .. | 0, .image .. => False
  | _, .formField field => field.IsSample
  | _, .str _ | _, .entity _ | _, .space | _, .softBreak | _, .lineBreak | _, .code _ => True

/-- A block of a sample that nests at most to a depth. -/
def Block.IsSample : Nat → Block → Prop
  | depth + 1, .blockquote body => body ≠ [] ∧ ∀ block ∈ body, block.IsSample depth
  | depth + 1, .list _ items =>
      items ≠ [] ∧ ∀ item ∈ items, item ≠ [] ∧ ∀ block ∈ item, block.IsSample depth
  | 0, .blockquote _ | 0, .list .. => False
  | _, .paragraph body => body ≠ [] ∧ ∀ inline ∈ body, inline.IsSample 1
  | _, .header level body =>
      (1 ≤ level.toNat ∧ level.toNat ≤ 6) ∧ body ≠ [] ∧ ∀ inline ∈ body, inline.IsSample 1
  | _, .codeBlock _ | _, .linkReference .. | _, .rule => True

/-- A document that is drawn with a bound on its blocks. -/
structure Document.IsSample (maxBlocks : Nat) (doc : Document) : Prop where
  one_le : 1 ≤ doc.blocks.length
  le_max : doc.blocks.length ≤ max 1 maxBlocks
  blocks : ∀ block ∈ doc.blocks, block.IsSample 2

namespace Sample

/-! ## Fields -/

theorem yields_label : Yields label (· ∈ labels) := by
  refine (Lcg.yields_pick labels).bind fun picked? hpicked => .pure ?_
  cases picked? with
  | none => exact List.mem_cons_self
  | some item => exact hpicked item rfl

/-- A list of draws that is as long as a number below four. -/
theorem yields_short {α : Type} (gen : Gen α) :
    Yields (do return .literal (← Lcg.times (← Lcg.below 4).toNat gen)) Source.IsShort := by
  refine (Lcg.yields_below (by decide)).bind fun count hcount => ?_
  refine ((Yields.any gen).times count.toNat).bind fun items hitems => .pure ?_
  rintro _ ⟨⟩
  have hlt : count.toNat < 4 := hcount
  omega

theorem yields_options : Yields options Source.IsShort :=
  (Yields.any _).bind fun _ _ => .ite (fun _ => .pure nofun) fun _ => yields_short word

theorem yields_flags : Yields flags Source.IsShort :=
  (Yields.any _).bind fun _ _ => .ite (fun _ => .pure nofun) fun _ => yields_short Lcg.flip

theorem yields_fieldSpec : Yields fieldSpec FieldSpec.HasShortLists := by
  refine (Yields.any _).bind fun choice _ => ?_
  refine .ite (fun _ => ?textBox) fun _ => .ite (fun _ => ?radioButtons) fun _ =>
    .ite (fun _ => ?checkBoxes) fun _ => ?dropDown
  case textBox =>
    exact (Yields.any _).bind fun _ _ => (Yields.any _).bind fun _ _ => .pure trivial
  case radioButtons =>
    exact (Yields.any _).bind fun _ _ => yields_options.bind fun _ hoptions => .pure hoptions
  case checkBoxes =>
    exact yields_flags.bind fun _ hflags => yields_options.bind fun _ hoptions =>
      .pure ⟨hflags, hoptions⟩
  case dropDown =>
    exact yields_options.bind fun _ hoptions => (Yields.any _).bind fun _ _ => .pure hoptions

theorem yields_field : Yields field FormField.IsSample :=
  yields_label.bind fun _ hlabel => yields_fieldSpec.bind fun _ hlists =>
    (Yields.any _).bind fun _ _ => .pure ⟨hlabel, hlists⟩

/-! ## Inlines -/

/-- What is drawn one time more often than a number says is drawn at all. -/
theorem yields_oneMore {α : Type} {gen : Gen α} {p : α → Prop} (h : Yields gen p)
    (count : Nat) :
    Yields (Lcg.times (1 + count) gen) fun items =>
      items.length = 1 + count ∧ items ≠ [] ∧ ∀ item ∈ items, p item :=
  (h.times (1 + count)).imp fun items hitems =>
    ⟨hitems.1, List.ne_nil_of_length_pos (by omega), hitems.2⟩

theorem yields_someInlines {depth : Nat} {inline : Gen Inline}
    (h : Yields inline (Inline.IsSample depth)) :
    Yields (someInlines inline) fun body =>
      body ≠ [] ∧ ∀ inline ∈ body, inline.IsSample depth :=
  (Yields.any _).bind fun count _ => (yields_oneMore h count.toNat).imp fun _ hbody => hbody.2

theorem yields_leafInline (depth : Nat) (choice : UInt64) :
    Yields (leafInline choice) (Inline.IsSample depth) := by
  refine .ite (fun _ => ?str) fun _ => .ite (fun _ => ?space) fun _ =>
    .ite (fun _ => ?softBreak) fun _ => .ite (fun _ => ?lineBreak) fun _ =>
      .ite (fun _ => ?code) fun _ => ?formField
  case str | code => exact (Yields.any word).bind fun _ _ => .pure (by simp [Inline.IsSample])
  case space | softBreak | lineBreak => exact .pure (by simp [Inline.IsSample])
  case formField =>
    exact yields_field.bind fun _ hfield => .pure (by simpa [Inline.IsSample] using hfield)

theorem yields_inline : ∀ depth : Nat, Yields (inline depth) (Inline.IsSample depth)
  | 0 => (Yields.any _).bind fun choice _ => yields_leafInline 0 choice
  | depth + 1 => by
      have hbody := yields_someInlines (yields_inline depth)
      refine (Yields.any _).bind fun choice _ => ?_
      refine .ite (fun _ => ?emph) fun _ => .ite (fun _ => ?strong) fun _ =>
        .ite (fun _ => ?link) fun _ => .ite (fun _ => ?image) fun _ => ?leaf
      case emph => exact hbody.bind fun _ h => .pure h
      case strong => exact hbody.bind fun _ h => .pure h
      case link => exact hbody.bind fun _ h => (Yields.any _).bind fun _ _ => .pure h
      case image => exact hbody.bind fun _ h => .pure h
      case leaf => exact yields_leafInline (depth + 1) choice

theorem yields_inlines (depth : Nat) :
    Yields (inlines depth) fun body => body ≠ [] ∧ ∀ inline ∈ body, inline.IsSample depth :=
  yields_someInlines (yields_inline depth)

/-! ## Blocks -/

theorem yields_leafBlock (depth : Nat) (choice : UInt64) :
    Yields (leafBlock choice) (Block.IsSample depth) := by
  refine .ite (fun _ => ?paragraph) fun _ => .ite (fun _ => ?codeBlock) fun _ => ?rule
  case paragraph =>
    exact (yields_inlines 1).bind fun _ h => .pure (by simpa [Block.IsSample] using h)
  case codeBlock =>
    exact (Yields.any word).bind fun _ _ => (Yields.any word).bind fun _ _ =>
      .pure (by simp [Block.IsSample])
  case rule => exact .pure (by simp [Block.IsSample])

/-- A number below six is the same as an octet. -/
theorem toNat_toUInt8_of_lt {level : UInt64} (h : level < 6) :
    level.toUInt8.toNat = level.toNat := by
  have hlt : level.toNat < 6 := h
  rw [UInt64.toNat_toUInt8]
  exact Nat.mod_eq_of_lt (by omega)

/-- The level of a header is one more than a number below six. -/
theorem yields_header (depth : Nat) : Yields header (Block.IsSample depth) := by
  refine (Lcg.yields_below (by decide)).bind fun level hlevel => ?_
  refine (yields_inlines 1).bind fun body hbody => .pure ?_
  have hlt : level.toNat < 6 := hlevel
  have hnat : (1 + level.toUInt8).toNat = 1 + level.toNat := by
    rw [UInt8.toNat_add, toNat_toUInt8_of_lt hlevel]
    exact Nat.mod_eq_of_lt (by
      show 1 + level.toNat < 256
      omega)
  simp only [Block.IsSample, hnat]
  exact ⟨by omega, hbody⟩

theorem yields_block : ∀ depth : Nat, Yields (block depth) (Block.IsSample depth)
  | 0 => (Yields.any _).bind fun choice _ => yields_leafBlock 0 choice
  | depth + 1 => by
      have hbody := yields_oneMore (yields_block depth)
      refine (Yields.any _).bind fun choice _ => ?_
      refine .ite (fun _ => ?header) fun _ => .ite (fun _ => ?blockquote) fun _ =>
        .ite (fun _ => ?list) fun _ => .ite (fun _ => ?linkReference) fun _ => ?leaf
      case header => exact yields_header (depth + 1)
      case blockquote =>
        exact (Yields.any _).bind fun count _ => (hbody count.toNat).bind fun _ h => .pure h.2
      case list =>
        refine (Yields.any _).bind fun _ _ => (Yields.any _).bind fun count _ => ?_
        refine (hbody count.toNat).bind fun bodies h => .pure ⟨by simpa using h.2.1, ?_⟩
        intro item hitem
        obtain ⟨body, hmem, rfl⟩ := List.mem_map.1 hitem
        exact ⟨List.cons_ne_nil _ _, List.forall_mem_singleton.2 (h.2.2 body hmem)⟩
      case linkReference =>
        exact (Yields.any word).bind fun _ _ => (Yields.any _).bind fun _ _ =>
          .pure (by simp [Block.IsSample])
      case leaf => exact yields_leafBlock (depth + 1) choice

/-! ## Documents -/

theorem toNat_max (a b : UInt64) : (max a b).toNat = max a.toNat b.toNat := by
  show (if a ≤ b then b else a).toNat = max a.toNat b.toNat
  by_cases h : a ≤ b
  · have hle : a.toNat ≤ b.toNat := UInt64.le_iff_toNat_le.1 h
    rw [if_pos h]
    omega
  · have hle : ¬a.toNat ≤ b.toNat := fun hle => h (UInt64.le_iff_toNat_le.2 hle)
    rw [if_neg h]
    omega

/-- A drawn document has a block at least, and keeps every bound of a sample. -/
theorem yields_document (maxBlocks : UInt64) :
    Yields (document maxBlocks) (Document.IsSample maxBlocks.toNat) := by
  have hmax : (max maxBlocks 1).toNat = max maxBlocks.toNat 1 := toNat_max maxBlocks 1
  have hbound : max maxBlocks 1 ≠ 0 := by
    intro h
    rw [h] at hmax
    have : (0 : UInt64).toNat = 0 := rfl
    omega
  refine (Lcg.yields_below hbound).bind fun count hcount => ?_
  refine (yields_oneMore (yields_block 2) count.toNat).bind fun blocks h => .pure ?_
  have hlt : count.toNat < (max maxBlocks 1).toNat := hcount
  exact {
    one_le := by
      show 1 ≤ blocks.length
      omega
    le_max := by
      show blocks.length ≤ max 1 maxBlocks.toNat
      omega
    blocks := h.2.2 }

end Sample

end ProseForms
