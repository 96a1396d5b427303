import DocQuery.Proofs.Json.Written
import DocQuery.Query.Shape
/-!
# The shape of a result in JSON

A projection, an order and a page are read back as they were written, whichever way there is to say
that a choice carries nothing.
-/

namespace DocQuery

open Json

variable (nothing : Nothing)

/-! ### Choices -/

lemma Projection.ofJson?_name (p : Projection) : ofJson? nothing (.string p.name) = some p := by
  cases p <;> rfl

lemma Direction.ofJson?_name (d : Direction) : ofJson? nothing (.string d.name) = some d := by
  cases d <;> rfl

/-! ### Orders and pages -/

lemma Order.ofJson?_toJson (o : Order) : ofJson? nothing o.toJson = some o := by
  have hdirection := Direction.ofJson?_name nothing o.direction
  simp [toJson, ofJson?, record?, field?, required, withDefault, string?, bool?, hdirection]

lemma Order.hasText_toJson (o : Order) : o.toJson.HasText := by
  refine .object ?_
  simp only [List.forall_mem_cons]
  exact ⟨.string _, .string _, .bool _, by simp⟩

/-- A page is read field by field. -/
lemma Page.ofJson?_object {number size sort : Json} {p : Page}
    (hnumber : uint64? number = some p.number) (hsize : uint64? size = some p.size)
    (hsort : list? (Order.ofJson? nothing) sort = some p.sort) :
    ofJson? nothing (.object [("number", number), ("size", size), ("sort", sort)]) = some p := by
  simp [ofJson?, record?, field?, required, withDefault, hnumber, hsize, hsort]

lemma Page.ofJson?_toJson (p : Page) : ofJson? nothing p.toJson = some p :=
  ofJson?_object nothing (uint64?_toNat _) (uint64?_toNat _)
    (list?_map (Order.ofJson?_toJson nothing) _)

lemma Page.hasText_toJson (p : Page) : p.toJson.HasText := by
  refine .object ?_
  simp only [List.forall_mem_cons]
  exact ⟨hasText_toNat _, hasText_toNat _, hasText_array_map Order.hasText_toJson _, by simp⟩

end DocQuery
