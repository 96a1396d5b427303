import DocQuery.Proofs.Argument.Normal
import DocQuery.Proofs.Predicate.Forms
/-!
# Predicates in normal form

A predicate is read back from its JSON with its constants in normal form (`ofJson?_toJson`), and has
the same criteria as before or is refused for a reason of the same kind (`toCriteria_normal`).
-/

namespace DocQuery.Predicate

mutual

/-- The predicate with its constants in normal form. -/
def normal : Predicate → Predicate
  | .path logical => .path logical
  | .constant a => .constant a.normal
  | .operation op args => .operation op (normals args)

/-- Several predicates with their constants in normal form. -/
def normals : List Predicate → List Predicate
  | [] => []
  | p :: ps => p.normal :: normals ps

end

lemma shape_normal (p : Predicate) : p.normal.shape = p.shape := by cases p <;> rfl

lemma length_normals (args : List Predicate) : (normals args).length = args.length := by
  induction args with
  | nil => rfl
  | cons p ps ih => rw [normals, List.length_cons, ih, List.length_cons]

lemma map_shape_normals (args : List Predicate) : (normals args).map shape = args.map shape := by
  induction args with
  | nil => rfl
  | cons p ps ih => rw [normals, List.map_cons, shape_normal, ih, List.map_cons]

/-! ### JSON -/

mutual

lemma hasText_toJson : ∀ p : Predicate, p.toJson.HasText
  | .path logical => .object (by simpa using Json.HasText.string logical)
  | .constant a => .object (by simpa using a.hasText_toJson)
  | .operation op args => by
    have hargs : (Json.array (toJsons args)).HasText := .array (hasText_toJsons args)
    have hfields : (Json.object [("op", .string op.key), ("args", .array (toJsons args))]).HasText :=
      .object (by simpa using ⟨Json.HasText.string op.key, hargs⟩)
    exact .object (by simpa using hfields)

lemma hasText_toJsons : ∀ ps : List Predicate, ∀ j ∈ toJsons ps, j.HasText
  | [] => by simp [toJsons]
  | p :: ps => List.forall_mem_cons.mpr ⟨hasText_toJson p, hasText_toJsons ps⟩

end

variable (nothing : Json.Nothing)

lemma Op.ofJson?_key (op : Op) : ofJson? nothing (.string op.key) = some op := by cases op <;> rfl

mutual

/-- A predicate is read back in normal form. -/
theorem ofJson?_toJson : ∀ p : Predicate, ofJson? nothing p.toJson = some p.normal
  | .path _ => rfl
  | .constant a => by simp [toJson, ofJson?, a.ofJson?_toJson, normal]
  | .operation op args => by
    have hop := Op.ofJson?_key nothing op
    have hargs := items?_toJsons args
    simp [toJson, ofJson?, operation?, Json.field?, Json.required, hop, operands?, list?, hargs,
      normal]

theorem items?_toJsons : ∀ ps : List Predicate, items? nothing (toJsons ps) = some (normals ps)
  | [] => rfl
  | p :: ps => by
    rw [toJsons, items?, ofJson?_toJson p, items?_toJsons ps, normals]
    rfl

end

variable {nothing}

mutual

/-- What is read is in normal form. -/
theorem normal_of_ofJson? : ∀ {j : Json} {p : Predicate}, ofJson? nothing j = some p → p.normal = p
  | .object [(form, j)], p, h => by
    rw [ofJson?] at h
    split at h
    · obtain ⟨logical, -, rfl⟩ := Option.map_eq_some_iff.mp h
      rfl
    · split at h
      · obtain ⟨a, ha, rfl⟩ := Option.map_eq_some_iff.mp h
        rw [normal, Argument.normal_of_ofJson? ha]
      · split at h
        · exact normal_of_operation? h
        · exact absurd h (by simp)
  | .object [], _, h | .object (_ :: _ :: _), _, h | .null, _, h | .bool _, _, h | .int _, _, h
  | .float _, _, h | .string _, _, h | .array _, _, h | .flawed, _, h => by simp [ofJson?] at h

theorem normal_of_operation? :
    ∀ {j : Json} {p : Predicate}, operation? nothing j = some p → p.normal = p
  | .object fields, p, h => by
    rw [operation?] at h
    obtain ⟨_, -, h⟩ := Option.bind_eq_some_iff.mp h
    obtain ⟨op, -, h⟩ := Option.bind_eq_some_iff.mp h
    obtain ⟨_, -, h⟩ := Option.bind_eq_some_iff.mp h
    obtain ⟨_, -, h⟩ := Option.bind_eq_some_iff.mp h
    obtain ⟨args, hargs, h⟩ := Option.bind_eq_some_iff.mp h
    obtain rfl := Option.some.inj h
    rw [normal, normals_of_operands? hargs]
  | .array [op, args], p, h => by
    rw [operation?] at h
    obtain ⟨op, -, h⟩ := Option.bind_eq_some_iff.mp h
    obtain ⟨args, hargs, h⟩ := Option.bind_eq_some_iff.mp h
    obtain rfl := Option.some.inj h
    rw [normal, normals_of_list? hargs]
  | .array [], _, h | .array [_], _, h | .array (_ :: _ :: _ :: _), _, h | .null, _, h
  | .bool _, _, h | .int _, _, h | .float _, _, h | .string _, _, h | .flawed, _, h => by
    simp [operation?] at h

theorem normals_of_operands? : ∀ {fields : List (String × Json)} {ps : List Predicate},
    operands? nothing fields = some ps → normals ps = ps
  | [], _, h => by simp [operands?] at h
  | (name, j) :: fields, ps, h => by
    rw [operands?] at h
    split at h
    · exact normals_of_list? h
    · exact normals_of_operands? h

theorem normals_of_list? :
    ∀ {j : Json} {ps : List Predicate}, list? nothing j = some ps → normals ps = ps
  | .array items, _, h => normals_of_items? h
  | .object _, _, h | .null, _, h | .bool _, _, h | .int _, _, h | .float _, _, h | .string _, _, h
  | .flawed, _, h => by simp [list?] at h

theorem normals_of_items? :
    ∀ {js : List Json} {ps : List Predicate}, items? nothing js = some ps → normals ps = ps
  | [], _, h => by obtain rfl := Option.some.inj h; rfl
  | j :: js, ps, h => by
    rw [items?] at h
    obtain ⟨p, hp, h⟩ := Option.bind_eq_some_iff.mp h
    obtain ⟨ps, hps, h⟩ := Option.bind_eq_some_iff.mp h
    obtain rfl := Option.some.inj h
    rw [normals, normal_of_ofJson? hp, normals_of_items? hps]

end

/-! ### Leaves -/

variable (entity : Entity) (op : Op) (args : List Predicate)

lemma unsupported_normals : unsupported op (normals args) = unsupported op args := by
  rw [unsupported, shapes, map_shape_normals, unsupported, shapes]

/-- The sides of a comparison with the constant in normal form. -/
def Sides.normal (s : Sides) : Sides := { s with constant := s.constant.normal }

lemma sides_normals : sides entity op (normals args) = Sides.normal <$> sides entity op args := by
  rcases args with _ | ⟨p, _ | ⟨q, _ | ⟨r, rest⟩⟩⟩
  · rfl
  · cases p <;> rfl
  · cases p <;> cases q
    -- a path and a constant, in whichever order
    case path.constant logical a =>
      cases h : entity.resolve logical with
      | error e => simp [sides, h, normals, normal]
      | ok field => simp [sides, h, normals, normal]; rfl
    case constant.path a logical =>
      cases h : entity.resolve logical with
      | error e => simp [sides, h, normals, normal]
      | ok field => simp [sides, h, normals, normal]; rfl
    all_goals rfl
  · have hfault := congrArg (@Except.error Fault Sides) (unsupported_normals op (p :: q :: r :: rest))
    cases p <;> cases q <;> exact hfault

lemma onlyField_normals : onlyField entity op (normals args) = onlyField entity op args := by
  rcases args with _ | ⟨p, _ | ⟨q, rest⟩⟩
  · rfl
  · cases p <;> rfl
  · have hfault := congrArg (@Except.error Fault Criterion) (unsupported_normals op (p :: q :: rest))
    cases p <;> exact hfault

lemma between_normals : between entity (normals args) = between entity args := by
  rcases args with _ | ⟨p, _ | ⟨q, _ | ⟨r, _ | ⟨t, rest⟩⟩⟩⟩
  · rfl
  · cases p <;> rfl
  · cases p <;> cases q <;> rfl
  · cases p <;> cases q <;> cases r
    case path.constant.constant logical low high => simp [between, normals, normal]
    all_goals rfl
  · have hfault := congrArg (@Except.error Fault Criteria)
      (unsupported_normals .between (p :: q :: r :: t :: rest))
    cases p <;> cases q <;> cases r <;> exact hfault

/-- What is made of the sides of a comparison, with the constant in normal form. -/
lemma sameOutcome_sides {f : Sides → Except Fault Criteria} 
    (hf : ∀ s : Sides, SameOutcome (f s.normal) (f s)) :
    SameOutcome (sides entity op (normals args) >>= f) (sides entity op args >>= f) := by
  rw [sides_normals, bind_map_left]
  exact (SameOutcome.refl _).bind hf

lemma sameOutcome_comparison (relation converse : Relation) :
    SameOutcome (comparison entity op relation converse (normals args))
      (comparison entity op relation converse args) := by
  refine sameOutcome_sides entity op args fun s => ?_
  simp only [Sides.normal, Argument.toValue_normal]
  rfl

lemma sameOutcome_stringMatch (relation : Relation) :
    SameOutcome (stringMatch entity op relation (normals args))
      (stringMatch entity op relation args) := by
  rw [stringMatch, unsupported_normals]
  refine sameOutcome_sides entity op args fun s => ?_
  simp only [Sides.normal, Argument.toValue_normal]
  rfl

lemma sameOutcome_foldedMatch (relation : Relation) :
    SameOutcome (foldedMatch entity op relation (normals args))
      (foldedMatch entity op relation args) := by
  rw [foldedMatch, unsupported_normals]
  refine sameOutcome_sides entity op args fun s => ?_
  obtain ⟨field, a, swapped⟩ := s
  cases swapped with
  | true => exact .refl _
  | false => exact a.toPattern_normal.bind fun v => .refl _

lemma sameOutcome_membership (relation scalar : Relation) :
    SameOutcome (membership entity op relation scalar (normals args))
      (membership entity op relation scalar args) := by
  refine sameOutcome_sides entity op args fun s => ?_
  obtain ⟨field, a, swapped⟩ := s
  simp only [Sides.normal]
  cases a with
  | enum name => rfl
  | collection items =>
    simp only [Argument.normal, Argument.toValues_normals]
    rfl
  | value v =>
    cases v with
    | array items =>
      simp only [Argument.normal, Argument.ofValue, Argument.toValues_ofValues]
      rfl
    | _ => rfl

lemma sameOutcome_leaf : SameOutcome (leaf entity op (normals args)) (leaf entity op args) := by
  cases op
  case eq | ne | lt | lte | gt | gte => exact sameOutcome_comparison ..
  case like | startsWith | endsWith | contains | regex => exact sameOutcome_stringMatch ..
  case likeIgnoreCase | startsWithIgnoreCase | endsWithIgnoreCase | containsIgnoreCase | eqIgnoreCase =>
    exact sameOutcome_foldedMatch ..
  case isIn | isNotIn => exact sameOutcome_membership ..
  case between => exact .of_eq (between_normals entity args)
  case isNull | isNotNull | isEmptyCollection | isEmptyString =>
    rw [leaf, leaf, onlyField_normals]
    exact .refl _
  case regexIgnoreCase | stringLength | collectionSize | containsKey | and | or | not =>
    rw [leaf, leaf, unsupported_normals]
    exact .refl _

/-! ### Criteria -/

lemma normal_ne_isIn {p : Predicate} (h : ∀ inner, p ≠ .operation .isIn inner)
    (inner : List Predicate) : p.normal ≠ .operation .isIn inner := by
  cases p with
  | path logical => exact fun heq => Predicate.noConfusion heq
  | constant a => exact fun heq => Predicate.noConfusion heq
  | operation op args =>
    rintro ⟨rfl⟩
    exact h args rfl

lemma toCriteria_not_of_length_ne {args : List Predicate} (h : args.length ≠ 1) :
    toCriteria entity (.operation .not args) = .error (unsupported .not args) := by
  rw [toCriteria.eq_def]
  simp only [Op.junction?, if_true]
  split
  · exact absurd rfl h
  · exact absurd rfl h
  · rfl

/-- The outcome of a negation depends on that of its operand, unless that is membership of a set. -/
lemma sameOutcome_not {child : Predicate}
    (h : SameOutcome (toCriteria entity child.normal) (toCriteria entity child)) :
    SameOutcome (toCriteria entity (.operation .not [child.normal]))
      (toCriteria entity (.operation .not [child])) := by
  by_cases hin : ∃ inner, child = .operation .isIn inner
  · obtain ⟨inner, rfl⟩ := hin
    rw [normal, toCriteria_not_isIn, toCriteria_not_isIn]
    exact sameOutcome_leaf ..
  · have hchild : ∀ inner, child ≠ .operation .isIn inner := fun inner heq => hin ⟨inner, heq⟩
    rw [toCriteria_not entity (normal_ne_isIn hchild), toCriteria_not entity hchild]
    exact h.bind fun c => .refl _

mutual

/-- A predicate in normal form has the same criteria. -/
theorem toCriteria_normal :
    ∀ p : Predicate, SameOutcome (toCriteria entity p.normal) (toCriteria entity p)
  | .path _ => .refl _
  | .constant _ => .refl _
  | .operation op args => by
    rw [normal]
    cases hj : op.junction? with
    | some j =>
      match args with
      | [] => exact .refl _
      | [first] =>
        rw [toCriteria_junction_of_length_lt entity hj (by simp [length_normals]),
          toCriteria_junction_of_length_lt entity hj (by simp), length_normals]
        exact .refl _
      | first :: second :: rest =>
        rw [normals, normals, toCriteria_junction entity hj, toCriteria_junction entity hj]
        refine (toCriteria_normal first).bind fun c => (toCriteria_normal second).bind fun d => ?_
        exact (toCriteriaList_normals rest).bind fun cs => .refl _
    | none =>
      by_cases hnot : op = .not
      · subst hnot
        match args with
        | [child] => exact sameOutcome_not entity (toCriteria_normal child)
        | [] => exact .refl _
        | first :: second :: rest =>
          rw [toCriteria_not_of_length_ne entity (by simp [length_normals]),
            toCriteria_not_of_length_ne entity (by simp), unsupported_normals]
          exact .refl _
      · rw [toCriteria_leaf entity hj hnot, toCriteria_leaf entity hj hnot]
        exact sameOutcome_leaf entity op args

theorem toCriteriaList_normals : ∀ ps : List Predicate,
    SameOutcome (toCriteriaList entity (normals ps)) (toCriteriaList entity ps)
  | [] => .refl _
  | p :: ps => by
    rw [normals, toCriteriaList, toCriteriaList]
    exact (toCriteria_normal p).bind fun c => (toCriteriaList_normals ps).bind fun cs => .refl _

end

end DocQuery.Predicate
