import FabricGauges.Document.Basic

/-!
# Pages of a listing

A listing is answered in pages. A page that is not the last carries a cursor for the next one; an
empty cursor means the same as none.
-/

namespace FabricGauges

open Document (ofVal toVal)

/-- One page of a listing. -/
structure Page (α : Type) where
  results : List α
  cursor : Option String
  count : Option Int64

namespace Page

/-- The blank page. -/
def empty {α : Type} : Page α := ⟨[], none, none⟩

/-- The cursor of the next page, if there is one. -/
def next? {α : Type} (p : Page α) : Option String := p.cursor.filter (!·.isEmpty)

instance {α : Type} [Document α] : Document (Page α) where
  shape := .record "ListResult" <|
    Document.member (List α) (.optional "results") <|
    Document.member (Option String) ⟨"cursor", [], .blank, true⟩ <|
    Document.member (Option Int64) ⟨"result_count", [], .blank, true⟩ .nil
  ofVal := fun (a, b, c, ()) => ⟨ofVal a, ofVal b, ofVal c⟩
  toVal x := (toVal x.results, toVal x.cursor, toVal x.count, ())
  toVal_ofVal := fun (a, b, c, ()) => by simp; rfl
  ofVal_toVal x := by simp

end Page

end FabricGauges
