import DocQuery.Proofs.Predicate.Truth
/-!
# Predicates keep their meaning

The criteria of a predicate is readable and has the truth of the predicate: chains get parentheses
where the connective changes, and negation reaches what it negates.
-/

namespace DocQuery.Predicate

variable {entity : Entity} {truth : Comparison → Bool}

/-! ### Chains -/

/-- A criteria as an operand of a chain: a chain of the other junction is grouped. -/
def chainOperand (j : Junction) (c : Criteria) : Criteria :=
  if c.operator.isChain ∧ c.operator ≠ .junction j then c.group else c

lemma chain_eq_foldl (j : Junction) (first : Criteria) (rest : List Criteria) :
    chain j first rest = (rest.map (chainOperand j)).foldl
      (fun left right => .junction j left right false false) (chainOperand j first) := by
  rw [List.foldl_map]
  rfl

lemma says_chainOperand (j : Junction) {c : Criteria} {b : Bool} (h : c.Says truth b) :
    (chainOperand j c).Says truth b := by
  rw [chainOperand]
  split
  · exact h.group
  · exact h

lemma isAll_chainOperand {c : Criteria} (h : c.IsTight) :
    ((chainOperand .and c).operandChain (chainOperand .and c).chain).IsAll .and := by
  rw [chainOperand]
  split
  · exact Criteria.isAll_operandChain_group c
  · next hchain =>
    have hor : c.operator ≠ .junction .or := fun hor => hchain (by simp [hor, Operator.isChain])
    exact h.isAll_operandChain hor

lemma says_chain (j : Junction) {first : Criteria} {b : Bool} (hfirst : first.Says truth b)
    {rest : List Criteria} {bs : List Bool} (hrest : List.Forall₂ (Criteria.Says truth) rest bs) :
    (chain j first rest).Says truth (j.holdsAll (b :: bs)) := by
  have htight : ∀ c ∈ rest, c.IsTight :=
    ((List.forall₂_and_left _ _).mp
      (hrest.imp fun _ _ h => ⟨h.1.tight, h⟩)).1
  rw [chain_eq_foldl]
  refine (says_chainOperand j hfirst).foldl (fun hj => ?_) ?_ fun hj c hc => ?_
  · subst hj
    exact isAll_chainOperand hfirst.1.tight
  · exact List.forall₂_map_left_iff.mpr (hrest.imp fun _ _ => says_chainOperand j)
  · subst hj
    obtain ⟨d, hd, rfl⟩ := List.mem_map.mp hc
    exact isAll_chainOperand (htight d hd)

/-! ### Negation -/

/-- Membership and its negation are opposite, also where the set is a lone value. -/
lemma leafValue?_isNotIn (htruth : Consistent truth) (args : List Predicate) :
    leafValue? entity truth .isNotIn args = (leafValue? entity truth .isIn args).map (!·) := by
  have hopposite : ∀ field k, (do return truth (← Op.isNotIn.comparison? field k)) =
      (do return truth (← Op.isIn.comparison? field k)).map (!·) := by
    intro field k
    cases hk : k.members? with
    | some items =>
      have hin : truth (.plain field .isNotIn (.array items)) =
          !truth (.plain field .isIn (.array items)) :=
        htruth (.plain field .isIn (.array items)) _ rfl
      simp [Op.comparison?, hk, hin]
    | none =>
      have heq : truth (.plain field .ne k.toValue) = !truth (.plain field .eq k.toValue) :=
        htruth (.plain field .eq k.toValue) _ rfl
      simp [Op.comparison?, hk, heq]
  unfold leafValue?
  split
  · next logical => cases (entity.resolve logical).toOption <;> rfl
  · next logical k =>
    cases (entity.resolve logical).toOption with
    | none => rfl
    | some field => exact hopposite field k
  · next k logical =>
    cases (entity.resolve logical).toOption with
    | none => rfl
    | some field => exact hopposite field k
  · rfl
  · rfl

/-- A negated criteria comes of membership, which has an operation of its own, or of a negated
predicate. -/
lemma toCriteria_not_eq_ok {args : List Predicate} {c : Criteria}
    (h : toCriteria entity (.operation .not args) = .ok c) :
    (∃ inner, args = [.operation .isIn inner] ∧ leaf entity .isNotIn inner = .ok c) ∨
      ∃ child c', args = [child] ∧ child.toCriteria entity = .ok c' ∧ c = c'.negate := by
  unfold toCriteria at h
  simp only [Op.junction?, if_true] at h
  split at h
  · exact .inl ⟨_, rfl, h⟩
  · obtain ⟨c', hc', h⟩ := exists_of_bind_eq_ok h
    exact .inr ⟨_, c', rfl, hc', (Except.ok.inj h).symm⟩
  · exact absurd h (by simp)

/-! ### The truth of every form -/

lemma value?_leaf {op : Op} (hj : op.junction? = none) (hnot : op ≠ .not) (args : List Predicate) :
    value? entity truth (.operation op args) = leafValue? entity truth op args := by
  unfold value?
  simp only [hj, if_neg hnot]

lemma value?_not (child : Predicate) :
    value? entity truth (.operation .not [child]) = (child.value? entity truth).map (!·) := by
  rw [value?]
  rfl

lemma value?_junction {op : Op} {j : Junction} (hj : op.junction? = some j) {args : List Predicate}
    (h : 2 ≤ args.length) :
    value? entity truth (.operation op args) = (values? entity truth args).map j.holdsAll := by
  unfold value?
  simp only [hj, if_pos h]

/-! ### All predicates -/

mutual

/-- The criteria of a predicate says what the predicate says. -/
lemma says_toCriteria (htruth : Consistent truth) :
    ∀ (p : Predicate) {c : Criteria}, p.toCriteria entity = .ok c →
      ∃ b, p.value? entity truth = some b ∧ c.Says truth b
  | .path logical, c, h => by simp [toCriteria] at h
  | .constant k, c, h => by simp [toCriteria] at h
  | .operation op args, c, h => by
    by_cases hnot : op = .not
    · subst hnot
      match args, h with
      | [child], h =>
        -- the criteria of a negated membership is no negation: the opposite operation is translated
        obtain ⟨inner, heq, hleaf⟩ | ⟨child', c', heq, hc', rfl⟩ := toCriteria_not_eq_ok h
        · obtain rfl := List.head_eq_of_cons_eq heq
          obtain ⟨b, hb, hsays⟩ : ∃ b, leafValue? entity truth .isNotIn inner = some b ∧
              c.Says truth b := says_leaf hleaf
          rw [leafValue?_isNotIn htruth, Option.map_eq_some_iff] at hb
          obtain ⟨b', hb', rfl⟩ := hb
          exact ⟨!b', by rw [value?_not, value?_leaf rfl (by simp), hb']; rfl, hsays⟩
        · obtain rfl := List.head_eq_of_cons_eq heq
          obtain ⟨b, hb, hsays⟩ := says_toCriteria htruth child hc'
          exact ⟨!b, by rw [value?_not, hb]; rfl, hsays.negate htruth⟩
      | [], h => exact absurd h (by simp [toCriteria, Op.junction?])
      | _ :: _ :: _, h => exact absurd h (by simp [toCriteria, Op.junction?])
    · unfold toCriteria at h
      cases hj : op.junction? with
      | none =>
        simp only [hj, if_neg hnot] at h
        obtain ⟨b, hb, hsays⟩ : ∃ b, leafValue? entity truth op args = some b ∧ c.Says truth b :=
          says_leaf h
        exact ⟨b, by rw [value?_leaf hj hnot, hb], hsays⟩
      | some j =>
        simp only [hj] at h
        match args, h with
        | first :: second :: rest, h =>
          obtain ⟨c₁, h₁, h⟩ := exists_of_bind_eq_ok h
          obtain ⟨c₂, h₂, h⟩ := exists_of_bind_eq_ok h
          obtain ⟨cs, hcs, h⟩ := exists_of_bind_eq_ok h
          obtain rfl := Except.ok.inj h
          obtain ⟨b₁, hb₁, hsays₁⟩ := says_toCriteria htruth first h₁
          obtain ⟨b₂, hb₂, hsays₂⟩ := says_toCriteria htruth second h₂
          obtain ⟨bs, hbs, hsays⟩ := says_toCriteriaList htruth rest hcs
          refine ⟨_, ?_, says_chain j hsays₁ (.cons hsays₂ hsays)⟩
          rw [value?_junction hj (by simp)]
          simp [values?, hb₁, hb₂, hbs]

lemma says_toCriteriaList (htruth : Consistent truth) :
    ∀ (ps : List Predicate) {cs : List Criteria}, toCriteriaList entity ps = .ok cs →
      ∃ bs, values? entity truth ps = some bs ∧ List.Forall₂ (Criteria.Says truth) cs bs
  | [], cs, h => by
    obtain rfl : [] = cs := Except.ok.inj h
    exact ⟨[], rfl, .nil⟩
  | p :: ps, cs, h => by
    obtain ⟨c, hc, h⟩ := exists_of_bind_eq_ok h
    obtain ⟨cs', hcs, h⟩ := exists_of_bind_eq_ok h
    obtain rfl := Except.ok.inj h
    obtain ⟨b, hb, hsays⟩ := says_toCriteria htruth p hc
    obtain ⟨bs, hbs, hsaysAll⟩ := says_toCriteriaList htruth ps hcs
    exact ⟨b :: bs, by simp [values?, hb, hbs], .cons hsays hsaysAll⟩

end

lemma isReadable_of_toCriteria {p : Predicate} {c : Criteria} (h : p.toCriteria entity = .ok c) :
    c.IsReadable := by
  obtain ⟨b, -, hreadable, -⟩ := says_toCriteria consistent_isAffirmative p h
  exact hreadable

/-- However its values are written, the text of the criteria of a predicate has the comparisons of
the criteria and the truth of the predicate, wherever opposite comparisons have opposite truths.
-/
theorem text_keeps_meaning {p : Predicate} {c : Criteria} (htruth : Consistent truth)
    (h : p.toCriteria entity = .ok c) :
    ∃ (b : Bool) (f : Formula Comparison), p.value? entity truth = some b ∧ f.eval truth = b ∧
      f.leaves = c.comparisons ∧ ∀ how : Rendering, how.Reads c f := by
  obtain ⟨b, hb, hreadable, rfl⟩ := says_toCriteria htruth p h
  obtain ⟨f, hleaves, heval, hreads⟩ := hreadable.reads
  exact ⟨_, f, hb, heval truth, hleaves, hreads⟩

/-! ### A negated chain -/

/-- Not both: the name is `q` or the age is above three, and the age is not three. -/
def negatedChain : Predicate :=
  .operation .not [.operation .and
    [.operation .or
      [.operation .eq [.path "name", .constant (.value (.string "q"))],
        .operation .lt [.constant (.value (.int 3)), .path "age"]],
      .operation .not [.operation .isIn [.path "age", .constant (.value (.int 3))]]]]

theorem text_of_negatedChain :
    Consistent isAffirmative ∧ ∃ c, negatedChain.toCriteria .person = .ok c ∧
      ∃ (b : Bool) (f : Formula Comparison), negatedChain.value? .person isAffirmative = some b ∧
        f.eval isAffirmative = b ∧ f.leaves = c.comparisons ∧ ∀ how : Rendering, how.Reads c f :=
  ⟨consistent_isAffirmative, _, rfl, text_keeps_meaning consistent_isAffirmative rfl⟩

end DocQuery.Predicate
