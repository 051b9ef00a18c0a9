import ProseForms.Document.Basic

/-!
# Equality of documents

Whether two documents are equal is decided by walking both at once.
-/

namespace ProseForms

mutual

/-- Decides whether two inlines are equal. -/
def Inline.decEq (a b : Inline) : Decidable (a = b) :=
  match a with
  | .str s => match b with
    | .str t => decidable_of_iff (s = t) (by simp)
    | .entity _ | .space | .softBreak | .lineBreak | .emph _ | .strong _ | .code _
    | .link .. | .image .. | .formField _ => isFalse nofun
  | .entity s => match b with
    | .entity t => decidable_of_iff (s = t) (by simp)
    | .str _ | .space | .softBreak | .lineBreak | .emph _ | .strong _ | .code _
    | .link .. | .image .. | .formField _ => isFalse nofun
  | .space => match b with
    | .space => isTrue rfl
    | .str _ | .entity _ | .softBreak | .lineBreak | .emph _ | .strong _ | .code _
    | .link .. | .image .. | .formField _ => isFalse nofun
  | .softBreak => match b with
    | .softBreak => isTrue rfl
    | .str _ | .entity _ | .space | .lineBreak | .emph _ | .strong _ | .code _
    | .link .. | .image .. | .formField _ => isFalse nofun
  | .lineBreak => match b with
    | .lineBreak => isTrue rfl
    | .str _ | .entity _ | .space | .softBreak | .emph _ | .strong _ | .code _
    | .link .. | .image .. | .formField _ => isFalse nofun
  | .emph xs => match b with
    | .emph ys => have := Inline.decEqAll xs ys; decidable_of_iff (xs = ys) (by simp)
    | .str _ | .entity _ | .space | .softBreak | .lineBreak | .strong _ | .code _
    | .link .. | .image .. | .formField _ => isFalse nofun
  | .strong xs => match b with
    | .strong ys => have := Inline.decEqAll xs ys; decidable_of_iff (xs = ys) (by simp)
    | .str _ | .entity _ | .space | .softBreak | .lineBreak | .emph _ | .code _
    | .link .. | .image .. | .formField _ => isFalse nofun
  | .code s => match b with
    | .code t => decidable_of_iff (s = t) (by simp)
    | .str _ | .entity _ | .space | .softBreak | .lineBreak | .emph _ | .strong _
    | .link .. | .image .. | .formField _ => isFalse nofun
  | .link xs s => match b with
    | .link ys t =>
      have := Inline.decEqAll xs ys
      decidable_of_iff (xs = ys ∧ s = t) (by simp)
    | .str _ | .entity _ | .space | .softBreak | .lineBreak | .emph _ | .strong _
    | .code _ | .image .. | .formField _ => isFalse nofun
  | .image xs s => match b with
    | .image ys t =>
      have := Inline.decEqAll xs ys
      decidable_of_iff (xs = ys ∧ s = t) (by simp)
    | .str _ | .entity _ | .space | .softBreak | .lineBreak | .emph _ | .strong _
    | .code _ | .link .. | .formField _ => isFalse nofun
  | .formField f => match b with
    | .formField g => decidable_of_iff (f = g) (by simp)
    | .str _ | .entity _ | .space | .softBreak | .lineBreak | .emph _ | .strong _
    | .code _ | .link .. | .image .. => isFalse nofun
termination_by structural a

/-- Decides whether two runs of inlines are equal. -/
def Inline.decEqAll (as bs : List Inline) : Decidable (as = bs) :=
  match as, bs with
  | [], [] => isTrue rfl
  | [], _ :: _ | _ :: _, [] => isFalse nofun
  | a :: as, b :: bs =>
    have := Inline.decEq a b
    have := Inline.decEqAll as bs
    decidable_of_iff (a = b ∧ as = bs) (by simp)
termination_by structural as

end

instance : DecidableEq Inline := Inline.decEq

mutual

/-- Decides whether two blocks are equal. -/
def Block.decEq (a b : Block) : Decidable (a = b) :=
  match a with
  | .paragraph xs => match b with
    | .paragraph ys => decidable_of_iff (xs = ys) (by simp)
    | .header .. | .blockquote _ | .list .. | .codeBlock _ | .linkReference ..
    | .rule => isFalse nofun
  | .header l xs => match b with
    | .header m ys => decidable_of_iff (l = m ∧ xs = ys) (by simp)
    | .paragraph _ | .blockquote _ | .list .. | .codeBlock _ | .linkReference ..
    | .rule => isFalse nofun
  | .blockquote xs => match b with
    | .blockquote ys => have := Block.decEqAll xs ys; decidable_of_iff (xs = ys) (by simp)
    | .paragraph _ | .header .. | .list .. | .codeBlock _ | .linkReference ..
    | .rule => isFalse nofun
  | .list k xs => match b with
    | .list l ys =>
      have := Block.decEqItems xs ys
      decidable_of_iff (k = l ∧ xs = ys) (by simp)
    | .paragraph _ | .header .. | .blockquote _ | .codeBlock _ | .linkReference ..
    | .rule => isFalse nofun
  | .codeBlock xs => match b with
    | .codeBlock ys => decidable_of_iff (xs = ys) (by simp)
    | .paragraph _ | .header .. | .blockquote _ | .list .. | .linkReference ..
    | .rule => isFalse nofun
  | .linkReference l u => match b with
    | .linkReference m v => decidable_of_iff (l = m ∧ u = v) (by simp)
    | .paragraph _ | .header .. | .blockquote _ | .list .. | .codeBlock _
    | .rule => isFalse nofun
  | .rule => match b with
    | .rule => isTrue rfl
    | .paragraph _ | .header .. | .blockquote _ | .list .. | .codeBlock _
    | .linkReference .. => isFalse nofun
termination_by structural a

/-- Decides whether two runs of blocks are equal. -/
def Block.decEqAll (as bs : List Block) : Decidable (as = bs) :=
  match as, bs with
  | [], [] => isTrue rfl
  | [], _ :: _ | _ :: _, [] => isFalse nofun
  | a :: as, b :: bs =>
    have := Block.decEq a b
    have := Block.decEqAll as bs
    decidable_of_iff (a = b ∧ as = bs) (by simp)
termination_by structural as

/-- Decides whether the items of two lists are equal. -/
def Block.decEqItems (as bs : List (List Block)) : Decidable (as = bs) :=
  match as, bs with
  | [], [] => isTrue rfl
  | [], _ :: _ | _ :: _, [] => isFalse nofun
  | a :: as, b :: bs =>
    have := Block.decEqAll a b
    have := Block.decEqItems as bs
    decidable_of_iff (a = b ∧ as = bs) (by simp)
termination_by structural as

end

instance : DecidableEq Block := Block.decEq

instance : DecidableEq Document := fun a b =>
  decidable_of_iff (a.blocks = b.blocks) (by cases a; cases b; simp)

end ProseForms
