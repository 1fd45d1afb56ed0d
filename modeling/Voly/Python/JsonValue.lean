/-
The documents that `json.dumps` writes, as documents that are read: one text is
the text of one document.
-/
import Voly.Python.JsonLines

namespace Python

theorem dumps_atom_shape {v : Value} (h : isAtom v = true) :
    (!(dumps v).isEmpty && (dumps v).all atomic) = true := by
  have hletters := List.all_eq_true.mpr (atomic_of_atom h)
  have hkind := atomKind_dumps h
  rw [hletters, Bool.and_true]
  cases htext : dumps v with
  | nil =>
      rw [htext] at hkind
      cases v with
      | int n => exact absurd htext (intText_ne_nil n)
      | bool b => cases b <;> cases htext
      | _ => cases hkind
  | cons c text => rfl

mutual

/-- The document as it is read. -/
def Value.toDoc : Value → Doc
  | .none => .atom ⟨dumps .none, dumps_atom_shape rfl⟩
  | .bool b => .atom ⟨dumps (.bool b), dumps_atom_shape rfl⟩
  | .int n => .atom ⟨dumps (.int n), dumps_atom_shape rfl⟩
  | .float x => .atom ⟨dumps (.float x), dumps_atom_shape rfl⟩
  | .str s => .str s
  | .list items => .list (Value.toDocs items)
  | .dict items => .dict (Value.toFields items)

def Value.toDocs : List Value → List Doc
  | [] => []
  | item :: rest => item.toDoc :: Value.toDocs rest

def Value.toFields : List (String × Value) → List (String × Doc)
  | [] => []
  | (key, item) :: rest => (key, item.toDoc) :: Value.toFields rest

end

mutual

theorem render_toDoc : (depth : Nat) → (v : Value) →
    onOneLine.render depth v.toDoc = dumps v
  | depth, .none => rfl
  | depth, .bool b => rfl
  | depth, .int n => rfl
  | depth, .float x => rfl
  | depth, .str s => rfl
  | depth, .list items => by
      rw [Value.toDoc, Layout.render, renderItems_toDocs]
      rfl
  | depth, .dict items => by
      rw [Value.toDoc, Layout.render, renderFields_toFields]
      rfl

theorem renderItems_toDocs : (depth : Nat) → (first : Bool) →
    (items : List Value) →
    onOneLine.renderItems depth first (Value.toDocs items) =
      dumpsItems first items
  | depth, first, [] => by cases first <;> rfl
  | depth, first, item :: rest => by
      rw [Value.toDocs, Layout.renderItems, dumpsItems, render_toDoc,
        renderItems_toDocs]
      cases first <;> rfl

theorem renderFields_toFields : (depth : Nat) → (first : Bool) →
    (items : List (String × Value)) →
    onOneLine.renderFields depth first (Value.toFields items) =
      dumpsFields first items
  | depth, first, [] => by cases first <;> rfl
  | depth, first, (key, item) :: rest => by
      rw [Value.toFields, Layout.renderFields, dumpsFields, render_toDoc,
        renderFields_toFields]
      cases first <;> rfl

end

theorem atom_toDoc_inj {v w : Value} (hv : isAtom v = true)
    (h : v.toDoc = w.toDoc) : v = w := by
  have hw : isAtom w = true := by
    cases v with
    | str s => cases hv
    | list items => cases hv
    | dict items => cases hv
    | _ => cases w <;> first | rfl | cases h
  apply dumps_atom_inj hv hw
  rw [← render_toDoc 0 v, h, render_toDoc]

mutual

theorem toDoc_inj : (v w : Value) → v.toDoc = w.toDoc → v = w
  | .str s, w, h => by
      cases w with
      | str t => rw [Doc.str.inj h]
      | _ => cases h
  | .list items, w, h => by
      cases w with
      | list others => rw [toDocs_inj items others (Doc.list.inj h)]
      | _ => cases h
  | .dict items, w, h => by
      cases w with
      | dict others => rw [toFields_inj items others (Doc.dict.inj h)]
      | _ => cases h
  | .none, w, h => atom_toDoc_inj rfl h
  | .bool b, w, h => atom_toDoc_inj rfl h
  | .int n, w, h => atom_toDoc_inj rfl h
  | .float x, w, h => atom_toDoc_inj rfl h

theorem toDocs_inj : (xs ys : List Value) →
    Value.toDocs xs = Value.toDocs ys → xs = ys
  | [], [], _ => rfl
  | [], _ :: _, h => by cases h
  | _ :: _, [], h => by cases h
  | x :: xs, y :: ys, h => by
      obtain ⟨hhead, htail⟩ := List.cons.inj h
      rw [toDoc_inj x y hhead, toDocs_inj xs ys htail]

theorem toFields_inj : (xs ys : List (String × Value)) →
    Value.toFields xs = Value.toFields ys → xs = ys
  | [], [], _ => rfl
  | [], _ :: _, h => by cases h
  | _ :: _, [], h => by cases h
  | (key, x) :: xs, (other, y) :: ys, h => by
      obtain ⟨hhead, htail⟩ := List.cons.inj h
      obtain ⟨rfl, hvalue⟩ := Prod.mk.inj hhead
      rw [toDoc_inj x y hvalue, toFields_inj xs ys htail]

end

theorem dumps_injective : Function.Injective dumps := by
  intro v w h
  apply toDoc_inj
  have hread := loads_dumpsLine v.toDoc
  rw [dumpsLine, render_toDoc, h, ← render_toDoc 0 w, ← dumpsLine,
    loads_dumpsLine] at hread
  exact (Option.some.inj hread).symm

theorem stringText_injective : Function.Injective stringText := by
  intro s t h
  exact Value.str.inj (@dumps_injective (.str s) (.str t) h)

end Python
