import DocQuery.Proofs.Criteria.Negation
/-!
# Resolving criteria

A criteria can be resolved exactly if there is an argument for every operand that waits, which can
be converted as that one needs. The arguments go where their operands stand in the text, and nothing
else of the criteria is changed (`resolve_is_exact`). Negation and resolution can change places.
-/

namespace DocQuery

open Taking

/-! ### What is left of a criteria without its operands -/

namespace Test

/-- The test with one and the same operand wherever it has one. -/
def outline : Test → Test
  | .check k => .check k
  | .relation r _ => .relation r (.deferred .scalar)
  | .between _ _ => .between (.deferred .scalar) (.deferred .scalar)

lemma outline_eq_of_operator {t u : Test} (h : t.operator = u.operator) :
    t.outline = u.outline := by
  cases t <;> cases u <;> cases h <;> rfl

end Test

namespace Criteria

variable {c c' : Criteria} {args rest : List Argument}

/-- The criteria with one and the same operand wherever it has one: its shape, operators, fields,
folds and marks. -/
def outline : Criteria → Criteria
  | .comparison k negated grouped =>
    .comparison { k with test := k.test.outline } negated grouped
  | .junction j left right negated grouped => .junction j left.outline right.outline negated grouped
  | .not child grouped => .not child.outline grouped

lemma outline_of_takes (h : Takes c.resolve args c' rest) : c'.outline = c.outline := by
  induction c generalizing c' args rest with
  | comparison k negated grouped =>
    obtain ⟨k', rfl, hfield, hfieldFold, hvalueFold, hoperator, -⟩ := takes_comparison h
    rw [outline, outline, hfield, hfieldFold, hvalueFold, Test.outline_eq_of_operator hoperator]
  | junction j left right negated grouped ihl ihr =>
    obtain ⟨left', right', mid, rfl, hl, hr⟩ := takes_junction h
    rw [outline, outline, ihl hl, ihr hr]
  | not child grouped ih =>
    obtain ⟨child', mid, hchild, h⟩ := exists_of_takes_bind h
    obtain ⟨rfl, -⟩ := takes_pure.mp h
    exact congrArg (Criteria.not · grouped) (ih hchild)

/-! ### Arguments that do -/

/-- How the arguments for the operands that wait are converted, in the order of the text. -/
def conversions (c : Criteria) : List Argument.Conversion :=
  c.allOperands.filterMap Operand.conversion?

/-- The fragment is open where operands wait. -/
lemma map_isDeferred_places (c : Criteria) :
    (Fragment.places c.fragment).map Piece.isDeferred = c.allOperands.map Operand.isDeferred := by
  rw [places_fragment, places, allOperands, List.map_flatMap, List.map_flatMap]
  refine congrArg (List.flatMap · _) (funext fun k => ?_)
  rw [List.map_map]
  exact congrArg (List.map · _) (funext k.isDeferred_place)

/-- A criteria takes one argument for every operand that waits. -/
lemma take_of_filled {taken : List Argument} {os' : List Operand}
    (h : Filled c.allOperands taken os') (rest : List Argument) :
    taken.length = c.deferredCount ∧ (taken ++ rest).take c.deferredCount = taken ∧
      (taken ++ rest).drop c.deferredCount = rest := by
  have hlength : taken.length = c.deferredCount := by
    rw [h.length_eq, deferredCount_eq_countP_allOperands]
  rw [← hlength]
  exact ⟨rfl, List.take_left, List.drop_left⟩

lemma exists_takes_iff : (∃ c' rest, Takes c.resolve args c' rest) ↔
    c.deferredCount ≤ args.length ∧
      List.Forall₂ Argument.Conversion.Accepts c.conversions (args.take c.deferredCount) := by
  constructor
  · rintro ⟨c', rest, h⟩
    obtain ⟨taken, rfl, hfilled⟩ := exists_filled_of_takes h
    obtain ⟨hlength, htake, -⟩ := take_of_filled hfilled rest
    rw [htake]
    refine ⟨?_, Filled.exists_iff.mp ⟨_, hfilled⟩⟩
    rw [List.length_append, hlength]
    omega
  · rintro ⟨-, haccepts⟩
    obtain ⟨os', hfilled⟩ := Filled.exists_iff.mpr haccepts
    obtain ⟨c', h⟩ := exists_takes_of_filled hfilled (args.drop c.deferredCount)
    rw [List.take_append_drop] at h
    exact ⟨c', _, h⟩

/-! ### Negation -/

/-- A criteria is a chain before it is resolved if it is one afterwards. -/
lemma resolve_groupChain (c : Criteria) : c.groupChain.resolve = groupChain <$> c.resolve := by
  cases c with
  | comparison k negated grouped =>
    have hbare : ∀ k, groupChain (comparison k negated grouped) = comparison k negated grouped :=
      fun k => if_neg (by simp [isChain_comparison])
    rw [hbare, resolve, map_bind]
    simp only [map_pure, hbare]
  | junction j left right negated grouped =>
    have hgroup : ∀ left right, groupChain (junction j left right negated grouped) =
        junction j left right negated true := fun _ _ => rfl
    rw [hgroup, resolve, resolve, map_bind]
    simp only [map_bind, map_pure, hgroup]
  | not child grouped =>
    have hbare : ∀ child, groupChain (not child grouped) = not child grouped := fun _ => rfl
    rw [hbare, resolve, map_bind]
    simp only [map_pure, hbare]

/-- Whether a test has an opposite does not depend on its operands. -/
lemma resolve_negate_comparison (k : Comparison) (grouped : Bool) :
    (comparison k false grouped).negate.resolve =
      negate <$> (comparison k false grouped).resolve := by
  obtain ⟨field, fieldFold, valueFold, test⟩ := k
  cases test with
  | check check => rfl
  | relation r operand =>
    cases hr : r.opposite? with
    | none =>
      simp only [negate, Test.opposite?, hr, Option.map_none, resolve, Test.resolve, bind_assoc,
        pure_bind, map_bind, map_pure]
    | some opposite =>
      simp only [negate, Test.opposite?, hr, Option.map_some, resolve, Test.resolve, bind_assoc,
        pure_bind, map_bind, map_pure]
  | between low high =>
    simp only [negate, Test.opposite?, resolve, Test.resolve, bind_assoc, pure_bind, map_bind,
      map_pure]

/-- Negating before resolving is negating what is resolved. -/
lemma resolve_negate (c : Criteria) : c.negate.resolve = negate <$> c.resolve := by
  cases c with
  | comparison k negated grouped =>
    cases negated with
    | false => exact resolve_negate_comparison k grouped
    | true => simp only [negate, resolve, map_bind, map_pure]
  | junction j left right negated grouped =>
    cases negated with
    | false => simp only [negate, resolve, map_bind, map_pure]
    | true => simp only [negate, resolve, map_bind, map_pure]
  | not child grouped =>
    rw [negate, resolve_groupChain, resolve, map_bind]
    simp only [map_pure, negate]
    rw [bind_pure_comp]

/-- A criteria, whose text is open where its operands wait, can be resolved exactly if there are as
many arguments as operands that wait, and each can be converted as its operand needs: null is no set
and a set is no pattern. The first arguments are then used up and converted, one for each of these
operands in the order of the text, and the criteria is the same but for them. It makes no difference
whether a criteria is negated before it is resolved or afterwards. -/
theorem resolve_is_exact (c : Criteria) (args : List Argument) :
    (Fragment.places c.fragment).map Piece.isDeferred = c.allOperands.map Operand.isDeferred ∧
    ((∃ c' rest, Takes c.resolve args c' rest) ↔
      c.deferredCount ≤ args.length ∧
        List.Forall₂ Argument.Conversion.Accepts c.conversions (args.take c.deferredCount)) ∧
    (∀ c' rest, Takes c.resolve args c' rest →
      rest = args.drop c.deferredCount ∧ c'.deferredCount = 0 ∧
        Filled c.allOperands (args.take c.deferredCount) c'.allOperands ∧
        c'.outline = c.outline) ∧
    c.negate.resolve = negate <$> c.resolve := by
  refine ⟨c.map_isDeferred_places, exists_takes_iff, ?_, c.resolve_negate⟩
  intro c' rest h
  obtain ⟨taken, rfl, hfilled⟩ := exists_filled_of_takes h
  obtain ⟨-, htake, hdrop⟩ := take_of_filled hfilled rest
  have hknown : c'.deferredCount = 0 := by
    rw [deferredCount_eq_countP_allOperands, hfilled.known]
  refine ⟨hdrop.symm, hknown, ?_, outline_of_takes h⟩
  rwa [htake]

/-- A name in any case, or not an age between two bounds and among some. -/
def boundsInAnyCase : Criteria :=
  ((Criterion.on (.ofKey "name")).ignoreCase.test (.relation .like (.deferred .scalar))).or
    (((Criterion.on (.ofKey "age")).test (.between (.deferred .scalar) (.value (.int 9)))).and
      ((Criterion.on (.ofKey "age")).test (.relation .isIn (.deferred .set)))).negate

theorem resolve_boundsInAnyCase :
    (∃ c', Takes boundsInAnyCase.resolve
        [.enum "a", .value (.int 3), .value (.int 5), .value .null] c' [.value .null] ∧
      c'.outline = boundsInAnyCase.outline ∧ c'.allOperands =
        [.value (.string "a"), .value (.int 3), .value (.int 9), .value (.array [.int 5])]) ∧
    ¬∃ c' rest, Takes boundsInAnyCase.resolve
        [.enum "a", .value (.int 3), .value .null, .value (.int 5)] c' rest := by
  constructor
  · have htakes : Takes boundsInAnyCase.resolve
        [.enum "a", .value (.int 3), .value (.int 5), .value .null] _ [.value .null] := rfl
    obtain ⟨-, -, hresolved, -⟩ := resolve_is_exact boundsInAnyCase
      [.enum "a", .value (.int 3), .value (.int 5), .value .null]
    obtain ⟨-, -, -, houtline⟩ := hresolved _ _ htakes
    exact ⟨_, htakes, houtline, rfl⟩
  · obtain ⟨-, hexact, -⟩ := resolve_is_exact boundsInAnyCase
      [.enum "a", .value (.int 3), .value .null, .value (.int 5)]
    rw [hexact]
    rintro ⟨-, _ | ⟨-, _ | ⟨-, _ | ⟨hset, -⟩⟩⟩⟩
    simp [Argument.Conversion.Accepts, Argument.isNull] at hset

end Criteria

end DocQuery
