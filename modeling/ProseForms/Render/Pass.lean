import ProseForms.Log
import ProseForms.Render.IdSupply

/-!
# Rendering passes

Rendering takes numbers from a supply of ids and reports what it does with each
field.  A pass is a computation with these two effects; passes compose in
document order.
-/

namespace ProseForms

/-- What rendering reports. -/
inductive RenderNotice where
  /-- A field cannot be shown. -/
  | unsupported (typeName label : String)
  /-- A field is shown by the control with this id. -/
  | placed (label id : String)
  /-- The flags and options of a group of check boxes do not pair up. -/
  | unpaired (label : String) (flags options : Nat)
deriving DecidableEq

/-- A notice as a log line. -/
def RenderNotice.line : RenderNotice → Log.Line
  | .unsupported typeName label =>
      ⟨.debug, "slamdown.render", "unsupported " ++ typeName ++ " " ++ Text.quoted label⟩
  | .placed label id =>
      ⟨.trace, "slamdown.render", "field " ++ Text.quoted label ++ " -> " ++ id⟩
  | .unpaired label flags options =>
      ⟨.debug, "slamdown.render", Log.unpairedMessage label flags options⟩

/-- What a pass yields: its value, the supply that it leaves, and its notices. -/
structure Pass.Result (α : Type) where
  value : α
  supply : IdSupply
  notices : List RenderNotice

/-- A part of a rendering. -/
def Pass (α : Type) : Type :=
  IdSupply → Pass.Result α

namespace Pass

/-- Runs a pass on a supply of ids. -/
def run {α : Type} (pass : Pass α) (supply : IdSupply) : Result α :=
  pass supply

instance : Monad Pass where
  pure value := fun supply => ⟨value, supply, []⟩
  bind first next := fun supply =>
    let done := first supply
    let rest := next done.value done.supply
    ⟨rest.value, rest.supply, done.notices ++ rest.notices⟩

/-- Takes the next id. -/
def freshId (idPrefix : String) : Pass String := fun supply =>
  let (id, rest) := supply.fresh idPrefix
  ⟨id, rest, []⟩

/-- Reports some notices. -/
def report (notices : List RenderNotice) : Pass Unit := fun supply =>
  ⟨(), supply, notices⟩

/-- Runs a pass for every item of a list, in order. -/
def each {α β : Type} (f : α → Pass β) : List α → Pass (List β)
  | [] => pure []
  | item :: rest => do
      let first ← f item
      let others ← each f rest
      return first :: others

/-! ## Running a composed pass -/

@[ext] theorem ext {α : Type} {p q : Pass α} (h : ∀ supply, p.run supply = q.run supply) :
    p = q :=
  funext h

@[simp] theorem run_pure {α : Type} (value : α) (supply : IdSupply) :
    (pure value : Pass α).run supply = ⟨value, supply, []⟩ := rfl

@[simp] theorem run_bind {α β : Type} (first : Pass α) (next : α → Pass β)
    (supply : IdSupply) :
    (first >>= next).run supply =
      let done := first.run supply
      let rest := (next done.value).run done.supply
      ⟨rest.value, rest.supply, done.notices ++ rest.notices⟩ := rfl

@[simp] theorem run_freshId (idPrefix : String) (supply : IdSupply) :
    (freshId idPrefix).run supply =
      ⟨IdSupply.idOf idPrefix supply.next, supply.advance, []⟩ := rfl

@[simp] theorem run_report (notices : List RenderNotice) (supply : IdSupply) :
    (report notices).run supply = ⟨(), supply, notices⟩ := rfl

@[simp] theorem run_map {α β : Type} (f : α → β) (pass : Pass α) (supply : IdSupply) :
    (f <$> pass).run supply =
      ⟨f (pass.run supply).value, (pass.run supply).supply, (pass.run supply).notices⟩ := by
  change (pass >>= fun value => pure (f value)).run supply = _
  simp

instance : LawfulMonad Pass :=
  LawfulMonad.mk' Pass (fun _ => by ext1; simp) (fun _ _ => by ext1; simp)
    (fun _ _ _ => by ext1; simp)

end Pass

end ProseForms
