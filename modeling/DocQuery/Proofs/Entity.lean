import DocQuery.Proofs.FieldPath
import DocQuery.Proofs.Outcome
/-!
# Kinds of resolved fields

Positions tell the properties of an entity apart, also those that agree in all they say. In the
order of positions a property comes before its own properties, and these before the properties
behind it. The search for the kind of a storage path ends at the first position with the path, so
that a resolved path has a kind, which is that of the property it leads to if no property before it
is stored in the same fields (`typeOf_agrees_with_resolve`).
-/

namespace DocQuery

/-- Properties are reached from the first of them through its own properties and through those
behind it. -/
lemma Property.forest_induction {motive : List Property → Prop} (nil : motive [])
    (cons : ∀ p ps, motive p.properties → motive ps → motive (p :: ps)) :
    ∀ properties, motive properties
  | [] => nil
  | ⟨_, _, _, properties⟩ :: ps =>
    cons _ _ (forest_induction nil cons properties) (forest_induction nil cons ps)

namespace Entity

/-! ### Positions -/

/-- The properties on the way to a position, which says of every level which property it is. -/
def through? : List Property → List Nat → Option (List Property)
  | _, [] => some []
  | properties, i :: is => do
    let p ← properties[i]?
    return p :: (← through? p.properties is)

/-- The property at a position. -/
def propertyAt? (properties : List Property) (position : List Nat) : Option Property :=
  (through? properties position).bind List.getLast?

/-- The fields, from the root, that lead to the property at a position. -/
def fieldsAt? (properties : List Property) (position : List Nat) : Option (List String) :=
  (through? properties position).map (·.map (·.fieldName))

/-- The fields lead to the property at the position, and to none at a position before it. -/
structure IsFirst (properties : List Property) (fields : List String) (position : List Nat) :
    Prop where
  leads : fieldsAt? properties position = some fields
  first : ∀ earlier < position, fieldsAt? properties earlier ≠ some fields

/-- The position that names lead to: on every level that of the first property of the name. -/
def positionOf? : List Property → List String → Option (List Nat)
  | _, [] => some []
  | properties, name :: names => do
    let i ← properties.findIdx? (·.name == name)
    let p ← properties[i]?
    return i :: (← positionOf? p.properties names)

variable {properties ps : List Property} {p q : Property} {position is : List Nat} {i : Nat}
  {target : FieldPath} {above : List String} {kind : Kind}

lemma through?_zero_cons :
    through? (p :: ps) (0 :: is) = (through? p.properties is).map (p :: ·) := by
  rw [through?, List.getElem?_cons_zero, Option.bind_eq_bind, Option.bind_some]
  cases through? p.properties is <;> rfl

lemma through?_succ_cons : through? (p :: ps) ((i + 1) :: is) = through? ps (i :: is) := by
  rw [through?, through?, List.getElem?_cons_succ]

lemma fieldsAt?_zero_cons :
    fieldsAt? (p :: ps) (0 :: is) = (fieldsAt? p.properties is).map (p.fieldName :: ·) := by
  rw [fieldsAt?, fieldsAt?, through?_zero_cons, Option.map_map, Option.map_map]
  rfl

lemma propertyAt?_zero_cons (h : propertyAt? p.properties is = some q) :
    propertyAt? (p :: ps) (0 :: is) = some q := by
  obtain ⟨qs, hthrough, hlast⟩ := Option.bind_eq_some_iff.mp h
  rw [propertyAt?, through?_zero_cons, hthrough, Option.map_some, Option.bind_some,
    List.getLast?_cons, hlast, Option.getD_some]

/-- A walk along names goes to the position that they lead to. -/
lemma exists_position_of_walk? {names : List String} (h : walk? properties names = some ps) :
    ∃ position, positionOf? properties names = some position ∧
      through? properties position = some ps := by
  induction names generalizing properties ps with
  | nil => exact ⟨[], rfl, h⟩
  | cons name names ih =>
    simp only [walk?, Option.bind_eq_bind, Option.bind_eq_some_iff] at h
    obtain ⟨p, hp, rest, hrest, heq⟩ := h
    obtain rfl : p :: rest = ps := by simpa using heq
    obtain ⟨position, hposition, hthrough⟩ := ih hrest
    rw [List.find?_eq_getElem?_findIdx] at hp
    obtain ⟨hlt, -⟩ := List.getElem?_eq_some_iff.mp hp
    have hindex := List.findIdx?_eq_some_iff_findIdx_eq.mpr ⟨hlt, rfl⟩
    refine ⟨properties.findIdx (·.name == name) :: position, ?_, ?_⟩
    · rw [positionOf?, hindex, Option.bind_eq_bind, Option.bind_some, hp, Option.bind_eq_bind,
        Option.bind_some, hposition]
      rfl
    · rw [through?, hp, Option.bind_eq_bind, Option.bind_some, hthrough]
      rfl

/-! ### What is stored at a path -/

/-- The property at the position, below the fields `above`, is stored at the path. -/
def StoredAt (target : FieldPath) (above : List String) (properties : List Property)
    (position : List Nat) : Prop :=
  position ≠ [] ∧
    (fieldsAt? properties position).map (fun fields => .ofSegments (above ++ fields)) = some target

lemma not_storedAt_root : ¬ StoredAt target above properties [] := fun h => h.1 rfl

lemma not_storedAt_nil : ¬ StoredAt target above [] position := by
  rintro ⟨hne, hstored⟩
  cases position with
  | nil => exact hne rfl
  | cons i is => simp [fieldsAt?, through?] at hstored

lemma storedAt_zero_cons :
    StoredAt target above (p :: ps) (0 :: is) ↔
      (is = [] ∧ FieldPath.ofSegments (above ++ [p.fieldName]) = target) ∨
        StoredAt target (above ++ [p.fieldName]) p.properties is := by
  cases is with
  | nil => simp [StoredAt, fieldsAt?, through?]
  | cons i is => simp [StoredAt, fieldsAt?_zero_cons, Function.comp_def]

/-- Nothing of a property is stored at a path that is neither its own nor one of its properties'. -/
lemma not_storedAt_zero_cons (hself : FieldPath.ofSegments (above ++ [p.fieldName]) ≠ target)
    (hinside : ¬ StoredAt target (above ++ [p.fieldName]) p.properties is) :
    ¬ StoredAt target above (p :: ps) (0 :: is) := by
  rw [storedAt_zero_cons, not_or]
  exact ⟨fun hhere => hself hhere.2, hinside⟩

lemma storedAt_succ_cons :
    StoredAt target above (p :: ps) ((i + 1) :: is) ↔ StoredAt target above ps (i :: is) := by
  simp [StoredAt, fieldsAt?, through?_succ_cons]

/-! ### The search -/

/-- The search looks at a property, then at its own properties, then at those behind it. -/
lemma kindAmong?_cons (p : Property) (ps : List Property) :
    kindAmong? target above (p :: ps) =
      if FieldPath.ofSegments (above ++ [p.fieldName]) = target then some p.kind
      else (kindAmong? target (above ++ [p.fieldName]) p.properties).or
        (kindAmong? target above ps) := by
  obtain ⟨name, storedAs, kind, properties⟩ := p
  rw [kindAmong?, kindIn?, Property.fieldName]
  by_cases hself : FieldPath.ofSegments (above ++ [storedAs.getD name]) = target
  · rw [if_pos hself, if_pos hself]
  · rw [if_neg hself, if_neg hself]
    cases kindAmong? target (above ++ [storedAs.getD name]) properties <;> rfl

/-- A search that finds nothing has passed every position. -/
lemma not_storedAt_of_kindAmong?_eq_none (h : kindAmong? target above properties = none)
    (position : List Nat) : ¬ StoredAt target above properties position := by
  induction properties using Property.forest_induction generalizing above position with
  | nil => exact not_storedAt_nil
  | cons p ps ihp ihps =>
    rw [kindAmong?_cons] at h
    split at h
    · simp at h
    · next hself =>
      obtain ⟨hinside, hbehind⟩ := Option.or_eq_none_iff.mp h
      rcases position with _ | ⟨_ | i, is⟩
      · exact not_storedAt_root
      · exact not_storedAt_zero_cons hself (ihp hinside is)
      · rw [storedAt_succ_cons]
        exact ihps hbehind (i :: is)

/-- The search ends at the first position that is stored at the path. -/
lemma exists_first_of_kindAmong?_eq_some (h : kindAmong? target above properties = some kind) :
    ∃ first q, StoredAt target above properties first ∧ propertyAt? properties first = some q ∧
      q.kind = kind ∧ ∀ earlier < first, ¬ StoredAt target above properties earlier := by
  induction properties using Property.forest_induction generalizing above with
  | nil => simp [kindAmong?] at h
  | cons p ps ihp ihps =>
    rw [kindAmong?_cons] at h
    split at h
    · next hself =>
      refine ⟨[0], p, storedAt_zero_cons.mpr (.inl ⟨rfl, hself⟩), rfl, Option.some.inj h, ?_⟩
      rintro (_ | ⟨j, js⟩) hlt
      · exact not_storedAt_root
      · simp [List.cons_lt_cons_iff] at hlt
    · next hself =>
      cases hinside : kindAmong? target (above ++ [p.fieldName]) p.properties with
      | some found =>
        rw [hinside, Option.some_or, ← hinside] at h
        obtain ⟨first, q, hstored, hq, hkind, hfirst⟩ := ihp h
        refine ⟨0 :: first, q, storedAt_zero_cons.mpr (.inr hstored), propertyAt?_zero_cons hq,
          hkind, ?_⟩
        rintro (_ | ⟨j, js⟩) hlt
        · exact not_storedAt_root
        · obtain ⟨rfl, hjs⟩ : j = 0 ∧ js < first := by simpa [List.cons_lt_cons_iff] using hlt
          exact not_storedAt_zero_cons hself (hfirst js hjs)
      | none =>
        rw [hinside, Option.none_or] at h
        obtain ⟨_ | ⟨i, is⟩, q, hstored, hq, hkind, hfirst⟩ := ihps h
        · exact absurd hstored not_storedAt_root
        refine ⟨(i + 1) :: is, q, storedAt_succ_cons.mpr hstored, ?_, hkind, ?_⟩
        · rwa [propertyAt?, through?_succ_cons]
        · rintro (_ | ⟨_ | j, js⟩) hlt
          · exact not_storedAt_root
          · exact not_storedAt_zero_cons hself (not_storedAt_of_kindAmong?_eq_none hinside js)
          · rw [storedAt_succ_cons]
            exact hfirst (j :: js) (by simpa [List.cons_lt_cons_iff] using hlt)

/-! ### Resolved fields -/

lemma fieldsAt?_ne_nil {fields : List String} (hposition : position ≠ [])
    (h : fieldsAt? properties position = some fields) : fields ≠ [] := by
  rintro rfl
  cases position with
  | nil => exact hposition rfl
  | cons i is =>
    obtain ⟨qs, hthrough, hnil⟩ := Option.map_eq_some_iff.mp h
    simp only [through?, Option.bind_eq_bind, Option.bind_eq_some_iff] at hthrough
    obtain ⟨q, -, rest, -, hcons⟩ := hthrough
    obtain rfl : q :: rest = qs := by simpa using hcons
    simp at hnil

/-- From the root, what is stored at the path of some fields is what these fields lead to. -/
lemma storedAt_ofSegments_iff {field : String} {fields : List String} :
    StoredAt (.ofSegments (field :: fields)) [] properties position ↔
      fieldsAt? properties position = some (field :: fields) := by
  constructor
  · rintro ⟨hne, hstored⟩
    obtain ⟨fields', hfields, hpath⟩ := Option.map_eq_some_iff.mp hstored
    obtain ⟨field', fields', rfl⟩ := List.exists_cons_of_ne_nil (fieldsAt?_ne_nil hne hfields)
    rw [hfields, FieldPath.eq_of_ofSegments_eq hpath]
  · intro h
    refine ⟨?_, by rw [h]; rfl⟩
    rintro rfl
    simp [fieldsAt?, through?] at h

/-- A path that resolves leads to a position, and its field is stored there. -/
lemma exists_position_of_resolve {e : Entity} {path : String} {field : FieldPath}
    (h : e.resolve path = .ok field) :
    ∃ position p first rest, positionOf? e.properties (dottedSegments path) = some position ∧
      propertyAt? e.properties position = some p ∧
      fieldsAt? e.properties position = some (first :: rest) ∧
      field = .ofSegments (first :: rest) := by
  obtain ⟨p, ps, hwalk, rfl⟩ := resolve_eq_ok h
  obtain ⟨position, hposition, hthrough⟩ := exists_position_of_walk? hwalk
  refine ⟨position, (p :: ps).getLast (List.cons_ne_nil p ps), p.fieldName, ps.map (·.fieldName),
    hposition, ?_, ?_, rfl⟩
  · rw [propertyAt?, hthrough, Option.bind_some, List.getLast?_eq_some_getLast]
  · rw [fieldsAt?, hthrough, Option.map_some, List.map_cons]

/-- The kind of what fields lead to is that of the first property that they lead to. -/
lemma exists_first_of_fieldsAt? {e : Entity} {field : String} {fields : List String}
    (h : fieldsAt? e.properties position = some (field :: fields)) :
    ∃ first q, IsFirst e.properties (field :: fields) first ∧
      propertyAt? e.properties first = some q ∧
      e.typeOf (.ofSegments (field :: fields)) = .ok q.kind := by
  have hstored := storedAt_ofSegments_iff.mpr h
  cases hkind : kindAmong? (.ofSegments (field :: fields)) [] e.properties with
  | none => exact absurd hstored (not_storedAt_of_kindAmong?_eq_none hkind position)
  | some kind =>
    obtain ⟨first, q, hleads, hq, rfl, hfirst⟩ := exists_first_of_kindAmong?_eq_some hkind
    simp only [storedAt_ofSegments_iff] at hleads hfirst
    exact ⟨first, q, ⟨hleads, hfirst⟩, hq, by rw [typeOf, hkind]⟩

/-- A position is not the first one beside another that is. -/
lemma IsFirst.eq {fields : List String} {first : List Nat} (h : IsFirst properties fields first)
    (h' : IsFirst properties fields position) : first = position := by
  have hle : ¬ first < position := fun hlt => h'.first first hlt h.leads
  have hge : ¬ position < first := fun hlt => h.first position hlt h'.leads
  exact List.le_antisymm hge hle

/-- The field of a logical path has a kind. -/
theorem exists_typeOf_of_resolve {e : Entity} {path : String} {field : FieldPath}
    (h : e.resolve path = .ok field) : ∃ kind, e.typeOf field = .ok kind := by
  obtain ⟨position, _, _, _, -, -, hfields, rfl⟩ := exists_position_of_resolve h
  obtain ⟨_, q, -, -, hkind⟩ := exists_first_of_fieldsAt? hfields
  exact ⟨q.kind, hkind⟩

/-- The field of a logical path has a kind, which is that of the first property stored in the same
fields as the property that the path leads to. Unless another one comes before it, that is the
property itself. -/
theorem typeOf_agrees_with_resolve {e : Entity} {path : String} {field : FieldPath}
    (h : e.resolve path = .ok field) :
    ∃ position p first q fields,
      positionOf? e.properties (dottedSegments path) = some position ∧
      propertyAt? e.properties position = some p ∧
      fieldsAt? e.properties position = some fields ∧ field = .ofSegments fields ∧
      IsFirst e.properties fields first ∧ propertyAt? e.properties first = some q ∧
      e.typeOf field = .ok q.kind ∧
      (IsFirst e.properties fields position → e.typeOf field = .ok p.kind) := by
  obtain ⟨position, p, head, rest, hposition, hp, hfields, rfl⟩ := exists_position_of_resolve h
  obtain ⟨first, q, hfirst, hq, hkind⟩ := exists_first_of_fieldsAt? hfields
  refine ⟨position, p, first, q, head :: rest, hposition, hp, hfields, rfl, hfirst, hq, hkind, ?_⟩
  intro hself
  obtain rfl : first = position := hfirst.eq hself
  obtain rfl : q = p := Option.some.inj (hq.symm.trans hp)
  exact hkind

/-- Two addresses in one field, in front of which another property has a dot in its field. -/
def twoAddresses : Entity :=
  ⟨"Person", none,
    [⟨"name", some "addr`.city", .string, []⟩,
      ⟨"home", some "addr`", .object, [⟨"zip", some "city", .number, []⟩]⟩,
      ⟨"work", some "addr`", .object, [⟨"city", none, .string, []⟩, ⟨"city", none, .array, []⟩]⟩]⟩

theorem typeOf_of_workCity :
    ∃ field, twoAddresses.resolve "work.city" = .ok field ∧
      ∃ position p first q fields,
        positionOf? twoAddresses.properties (dottedSegments "work.city") = some position ∧
        propertyAt? twoAddresses.properties position = some p ∧
        fieldsAt? twoAddresses.properties position = some fields ∧ field = .ofSegments fields ∧
        IsFirst twoAddresses.properties fields first ∧
        propertyAt? twoAddresses.properties first = some q ∧
        twoAddresses.typeOf field = .ok q.kind ∧
        (IsFirst twoAddresses.properties fields position →
          twoAddresses.typeOf field = .ok p.kind) := by
  obtain ⟨field, h⟩ := exists_of_isOk (x := twoAddresses.resolve "work.city") (by decide)
  exact ⟨field, h, typeOf_agrees_with_resolve h⟩

/-- The kind is that of the zip code of the home. -/
example : (twoAddresses.resolve "work.city").bind twoAddresses.typeOf = .ok .number := by rfl

end Entity

end DocQuery
