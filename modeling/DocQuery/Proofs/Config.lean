import DocQuery.Config
import DocQuery.Proofs.Json.Written
/-!
# Configurations are read back

A configuration is read back from its JSON if that does not nest deeper than is read, and refused
otherwise (`Config.parse?_compact`): none is taken for another one.
-/

namespace DocQuery

open Json

/-! ### Reading to a depth -/

/-- What is read of something that nests `depth` levels when `d` of them are read: all or nothing. -/
def whole? {α : Type} (a : α) (depth d : Nat) : Option α := if depth ≤ d then some a else none

section

variable {α β : Type} (a : α) (depth d : Nat)

lemma whole?_zero : whole? a 0 d = some a := if_pos (Nat.zero_le d)

lemma whole?_succ_zero : whole? a (depth + 1) 0 = none := if_neg (by omega)

lemma whole?_succ_succ : whole? a (depth + 1) (d + 1) = whole? a depth d := by
  simp [whole?]

lemma map_whole? (f : α → β) : (whole? a depth d).map f = whole? (f a) depth d := by
  rw [whole?, whole?]
  split <;> rfl

/-- A list is read if its head and its tail are. -/
lemma whole?_cons (as : List α) (depths : Nat) :
    (do return (← whole? a depth d) :: (← whole? as depths d)) =
      whole? (a :: as) (max depth depths) d := by
  simp only [whole?, Nat.max_le]
  by_cases ha : depth ≤ d
  · by_cases has : depths ≤ d
    · simp [ha, has]
    · simp [ha, has]
  · simp [ha]

end

lemma fieldDepths_append (fields next : List (String × Json)) :
    fieldDepths (fields ++ next) = max (fieldDepths fields) (fieldDepths next) := by
  induction fields with
  | nil => simp [fieldDepths]
  | cons field fields ih => rw [List.cons_append, fieldDepths, fieldDepths, ih, Nat.max_assoc]

lemma cutFields_append (d : Nat) (fields next : List (String × Json)) :
    cutFields d (fields ++ next) = cutFields d fields ++ cutFields d next := by
  induction fields with
  | nil => rfl
  | cons field fields ih => rw [List.cons_append, cutFields, cutFields, ih, List.cons_append]

section

variable {α β : Type} {a : α} {as : List α}

/-- Of the JSON of `a`, as deep as it is read, `a` is read or nothing. -/
def ReadsWhole (read : Json → Option α) (j : Json) (a : α) : Prop :=
  ∀ d, read (j.cut d) = whole? a j.depth d

lemma ReadsWhole.array {read : Json → Option (List α)} {readItems : List Json → Option (List α)}
    (hread : ∀ items, read (.array items) = readItems items) (hflawed : read .flawed = none)
    {items : List Json} (h : ∀ d, readItems (cuts d items) = whole? as (depths items) d) :
    ReadsWhole read (.array items) as
  | 0 => by rw [cut, if_pos rfl, hflawed, depth, whole?_succ_zero]
  | d + 1 => by
    rw [cut, if_neg (by omega), hread, depth, whole?_succ_succ]
    exact h d

lemma ReadsWhole.list {read : Json → Option α} {toJson : α → Json}
    (h : ∀ a, ReadsWhole read (toJson a) a) (as : List α) :
    ReadsWhole (list? read) (.array (as.map toJson)) as := by
  have hitems : ∀ d, (cuts d (as.map toJson)).mapM read = whole? as (depths (as.map toJson)) d := by
    intro d
    induction as with
    | nil => exact (whole?_zero ..).symm
    | cons a as ih =>
      rw [List.map_cons, cuts, depths, List.mapM_cons, h a d, ih]
      exact whole?_cons ..
  exact .array (fun _ => rfl) rfl hitems

/-- A record nests as deep as its last field if the others do not nest at all. -/
lemma ReadsWhole.object {read : Json → Option α} {readLast : Json → Option β} {b : β} {f : β → α}
    {own : List (String × Json)} {name : String} {j : Json} (hown : fieldDepths own = 0)
    (hread : ∀ j, read (.object (own ++ [(name, j)])) = (readLast j).map f)
    (hflawed : read .flawed = none) (h : ReadsWhole readLast j b) :
    ReadsWhole read (.object (own ++ [(name, j)])) (f b) := by
  have hdepths : fieldDepths (own ++ [(name, j)]) = j.depth := by
    simp [fieldDepths_append, hown, fieldDepths]
  have hcut : ∀ d, cutFields d (own ++ [(name, j)]) = own ++ [(name, j.cut d)] := by
    intro d
    rw [cutFields_append, cutFields_eq_self own (by omega)]
    rfl
  intro d
  cases d with
  | zero => rw [cut, if_pos rfl, hflawed, depth, whole?_succ_zero]
  | succ d =>
    rw [cut, if_neg (by omega), depth, whole?_succ_succ, hdepths, Nat.add_sub_cancel, hcut, hread,
      h d, map_whole?]

end

/-! ### Choices -/

lemma Kind.ofJson?_name (kind : Kind) : ofJson? (.string kind.name) = some kind := by
  cases kind <;> rfl

lemma PlaceholderStyle.ofJson?_name (style : PlaceholderStyle) :
    ofJson? (.string style.name) = some style := by
  cases style <;> rfl

/-! ### Properties -/

namespace Property

/-- The fields of a property in front of its nested properties. -/
def ownFields (name : String) (storedAs : Option String) (kind : Kind) : List (String × Json) :=
  [("name", .string name)] ++ (storedAs.map fun s => ("field", Json.string s)).toList ++
    [("kind", .string kind.name)]

variable (name : String) (storedAs : Option String) (kind : Kind)

lemma fieldDepths_ownFields : fieldDepths (ownFields name storedAs kind) = 0 := by
  cases storedAs <;> rfl

lemma ofJson?_ownFields :
    ofJson? (.object (ownFields name storedAs kind)) = some ⟨name, storedAs, kind, []⟩ := by
  have hkind := kind.ofJson?_name
  cases storedAs <;>
    simp [ownFields, ofJson?, field?, required, hkind, Json.optional, string?, nested?]

lemma ofJson?_ownFields_append (properties : Json) :
    ofJson? (.object (ownFields name storedAs kind ++ [("properties", properties)])) =
      (list? properties).map fun ps => ⟨name, storedAs, kind, ps⟩ := by
  have hkind := kind.ofJson?_name
  cases storedAs <;> cases h : list? properties <;>
    simp [ownFields, ofJson?, field?, required, hkind, Json.optional, string?, nested?, h]

mutual

theorem readsWhole : ∀ p : Property, ReadsWhole ofJson? p.toJson p
  | ⟨name, storedAs, kind, []⟩ => by
    have hown := fieldDepths_ownFields name storedAs kind
    have hjson : toJson ⟨name, storedAs, kind, []⟩ = .object (ownFields name storedAs kind) := by
      simp [toJson, ownFields]
    intro d
    rw [hjson]
    cases d with
    | zero => rw [cut, if_pos rfl, Json.depth, whole?_succ_zero]; rfl
    | succ d =>
      rw [cut, if_neg (by omega), Json.depth, whole?_succ_succ, hown, whole?_zero,
        cutFields_eq_self _ (by omega), ofJson?_ownFields]
  | ⟨name, storedAs, kind, p :: ps⟩ =>
    .object (fieldDepths_ownFields name storedAs kind)
      (ofJson?_ownFields_append name storedAs kind) rfl
      (.array (fun _ => rfl) rfl (items?_cuts (p :: ps)))

theorem items?_cuts : ∀ (ps : List Property) (d : Nat),
    items? (cuts d (toJsons ps)) = whole? ps (depths (toJsons ps)) d
  | [], d => (whole?_zero ..).symm
  | p :: ps, d => by
    rw [toJsons, cuts, items?, readsWhole p d, items?_cuts ps d, depths]
    exact whole?_cons ..

end

mutual

lemma readsBack : ∀ p : Property, p.toJson.ReadsBack
  | ⟨_, storedAs, _, []⟩ => by cases storedAs <;> simp [toJson, ReadsBack, FieldsReadBack]
  | ⟨_, storedAs, _, p :: ps⟩ => by
    have hitems := allReadBack_toJsons (p :: ps)
    cases storedAs <;> simp [toJson, ReadsBack, FieldsReadBack, hitems]

lemma allReadBack_toJsons : ∀ ps : List Property, AllReadBack (toJsons ps)
  | [] => trivial
  | p :: ps => ⟨readsBack p, allReadBack_toJsons ps⟩

end

end Property

/-! ### Entities -/

namespace Entity

/-- The fields of an entity in front of its properties. -/
def ownFields (name : String) (aliasName : Option String) : List (String × Json) :=
  [("name", .string name)] ++ (aliasName.map fun s => ("type_alias", Json.string s)).toList

lemma ofJson?_ownFields_append (name : String) (aliasName : Option String) (properties : Json) :
    ofJson? (.object (ownFields name aliasName ++ [("properties", properties)])) =
      (Property.list? properties).map fun ps => ⟨name, aliasName, ps⟩ := by
  cases aliasName <;> cases h : Property.list? properties <;>
    simp [ownFields, ofJson?, record?, field?, required, Json.optional, withDefault, string?, h]

lemma readsWhole (e : Entity) : ReadsWhole ofJson? e.toJson e := by
  obtain ⟨name, aliasName, properties⟩ := e
  refine .object ?_ (ofJson?_ownFields_append name aliasName) rfl
    (.array (fun _ => rfl) rfl (Property.items?_cuts properties))
  cases aliasName <;> rfl

lemma readsBack (e : Entity) : e.toJson.ReadsBack := by
  have hitems := Property.allReadBack_toJsons e.properties
  cases h : e.aliasName <;> simp [toJson, ReadsBack, FieldsReadBack, h, hitems]

end Entity

/-! ### Configurations -/

namespace Config

/-- The fields of a configuration in front of its entities. -/
def ownFields (bucket : String) (style : PlaceholderStyle) (typeKey : String) :
    List (String × Json) :=
  [("bucket", .string bucket), ("placeholders", .string style.name), ("type_key", .string typeKey)]

lemma ofJson?_ownFields_append (bucket : String) (style : PlaceholderStyle) (typeKey : String)
    (entities : Json) :
    ofJson? (.object (ownFields bucket style typeKey ++ [("entities", entities)])) =
      (list? Entity.ofJson? entities).map fun es => ⟨bucket, style, typeKey, es⟩ := by
  have hstyle := style.ofJson?_name
  cases h : list? Entity.ofJson? entities <;>
    simp [ownFields, ofJson?, record?, field?, required, withDefault, string?, hstyle, h]

lemma readsWhole (c : Config) : ReadsWhole ofJson? c.toJson c :=
  .object rfl (ofJson?_ownFields_append c.bucket c.style c.typeKey) rfl
    (.list Entity.readsWhole c.entities)

lemma readsBack (c : Config) : c.toJson.ReadsBack := by
  have hitems : AllReadBack (c.entities.map Entity.toJson) := by
    induction c.entities with
    | nil => trivial
    | cons e es ih => exact ⟨e.readsBack, ih⟩
  simp [toJson, ReadsBack, FieldsReadBack, hitems]

/-- The text of a configuration is read as the configuration, or refused if it nests too deep. -/
theorem parse?_compact (c : Config) :
    parse? c.toJson.compact = if c.toJson.depth ≤ maxDepth then some c else none := by
  rw [parse?, Json.parse?_compact c.readsBack]
  exact c.readsWhole maxDepth

end Config

end DocQuery
