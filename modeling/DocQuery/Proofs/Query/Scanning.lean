import DocQuery.Proofs.Criteria.Scanning
import DocQuery.Proofs.Outcome
import DocQuery.Query.Statement
/-!
# Placeholders in the text of queries

Whatever names the entity, the bucket and the type filter bring into a statement, its clauses have
no `$` of their own outside quotes and keep their values apart from what follows.
-/

namespace DocQuery

open Fragment

/-! ### Columns -/

lemma scannable_identifier (s : String) : (identifier s).Scannable := .raw (.of_wrap rfl s)

lemma Fragment.Scannable.path {segments : List Fragment} (h : ∀ a ∈ segments, a.Scannable) :
    (Fragment.path segments).Scannable :=
  .joined ⟨.of_all rfl, rfl⟩ h

lemma Fragment.Scannable.named {a : Fragment} (ha : a.Scannable) {name : String}
    (hname : PlainText name.toList) : (a.named name).Scannable :=
  ha.binary (.of_all rfl) (.raw hname)

lemma scannable_metadata (bucket : String) {field : String} (hfield : PlainText field.toList) :
    (path [metadata bucket, raw field]).Scannable := by
  have hmetadata : (metadata bucket).Scannable :=
    .call (.of_all rfl) (by simpa using scannable_identifier bucket)
  exact .path (by simpa using ⟨hmetadata, .raw hfield⟩)

/-- A selection of columns from a bucket. -/
lemma scannable_selection (bucket : String) {keyword : String} (hkeyword : PlainText keyword.toList)
    {columns : List Fragment} (h : ∀ column ∈ columns, column.Scannable) :
    ((raw keyword ++ joined ", " columns).source bucket).Scannable :=
  .binary (.text hkeyword (.joined .comma h)) (.of_all rfl) (scannable_identifier bucket)

namespace Query

lemma scannable_head (q : Query) (bucket : String) : (q.head bucket).Scannable := by
  have hid : ((path [metadata bucket, raw "id"]).named "__id").Scannable :=
    (scannable_metadata bucket (.of_all rfl)).named (.of_all rfl)
  have hcas : ((path [metadata bucket, raw "cas"]).named "__cas").Scannable :=
    (scannable_metadata bucket (.of_all rfl)).named (.of_all rfl)
  have hall : (path [identifier bucket, raw "*"]).Scannable :=
    .path (by simpa using ⟨scannable_identifier bucket, .raw (.of_all rfl)⟩)
  have hcount : ((count (raw "*")).named "count").Scannable :=
    .named (.call (.of_all rfl) (by simpa using .raw (.of_all rfl))) (.of_all rfl)
  rw [head]
  cases q.projection with
  | entity =>
    cases q.distinct with
    | false => exact scannable_selection bucket (.of_all rfl) (by simpa using ⟨hid, hcas, hall⟩)
    | true => exact scannable_selection bucket (.of_all rfl) (by simpa using ⟨hid, hcas, hall⟩)
  | count => exact scannable_selection bucket (.of_all rfl) (by simpa using hcount)
  | «exists» => exact scannable_selection bucket (.of_all rfl) (by simpa using hid)
  | delete => exact .text (.of_all rfl) (scannable_identifier bucket)

end Query

/-! ### Clauses -/

lemma Fragment.Scannable.limited {a : Fragment} (ha : a.Scannable) (n : UInt64) :
    (a.limited n).Scannable :=
  ha.append_raw (Separator.append ⟨.of_all rfl, rfl⟩ (.of_nat n.toNat))

lemma Fragment.Scannable.skipping {a : Fragment} (ha : a.Scannable) (n : UInt64) :
    (a.skipping n).Scannable :=
  ha.append_raw (Separator.append ⟨.of_all rfl, rfl⟩ (.of_nat n.toNat))

lemma Fragment.Scannable.ordered {a : Fragment} (ha : a.Scannable) {orderings : List Fragment}
    (h : ∀ b ∈ orderings, b.Scannable) : (a.ordered orderings).Scannable := by
  rw [Fragment.ordered, List.append_assoc]
  exact ha.append_text ⟨.of_all rfl, rfl⟩ (.joined .comma h)

namespace Query

/-- The fields of the criteria are resolved. -/
def IsResolved (q : Query) : Prop :=
  ∀ c ∈ q.criteria, ∀ k ∈ c.comparisons, k.field.IsQuoted

lemma scannable_filter {q : Query} (hq : q.IsResolved) {ctx : Context} {a : Fragment}
    (h : q.filter? ctx = some a) : a.Scannable := by
  have htype : ∀ filter : TypeFilter, filter.fragment.Scannable := fun filter =>
    (scannable_identifier filter.key).binary (.of_all rfl) (scannable_string filter.value)
  rw [filter?] at h
  split at h
  · exact absurd h (by simp)
  · next c hc _ =>
    obtain rfl := Option.some.inj h
    exact Criteria.scannable_fragment (hq c hc)
  · next filter _ _ =>
    obtain rfl := Option.some.inj h
    exact htype filter
  · next c filter hc _ =>
    obtain rfl := Option.some.inj h
    exact (Criteria.scannable_fragment (hq c hc)).paren.binary (.of_all rfl) (htype filter)

lemma scannable_ordering {entity : Entity} {order : Order} {a : Fragment}
    (h : ordering entity order = .ok a) : a.Scannable := by
  obtain ⟨field, hfield, h⟩ := exists_of_bind_eq_ok h
  obtain rfl := Except.ok.inj h
  have hkey : Scannable (raw field.text) := .raw (.of_isQuoted (Entity.isQuoted_of_resolve hfield))
  have hfolded :
      Scannable (if order.ignoreCase then (raw field.text).asText.lower else raw field.text) := by
    split
    · exact .call (.of_all rfl)
        (by simpa using .call (.of_all rfl) (by simpa using hkey))
    · exact hkey
  cases order.direction with
  | asc => exact hfolded.suffixed (.of_all rfl)
  | desc => exact hfolded.suffixed (.of_all rfl)

lemma scannable_withOrder {entity : Entity} {sort : List Order} {a b : Fragment} (ha : a.Scannable)
    (h : withOrder entity sort a = .ok b) : b.Scannable := by
  rw [withOrder] at h
  split at h
  · obtain rfl := Except.ok.inj h
    exact ha
  · obtain ⟨orderings, horderings, h⟩ := exists_of_bind_eq_ok h
    obtain rfl := Except.ok.inj h
    have hscan : ∀ b ∈ orderings, Scannable b :=
      forall_mem_of_forall₂ (forall₂_of_mapM_eq_ok horderings) fun _ _ h => scannable_ordering h
    exact ha.ordered hscan

lemma scannable_withLimit {a : Fragment} (ha : a.Scannable) (limit : Option UInt64) :
    (withLimit limit a).Scannable := by
  cases limit with
  | none => exact ha
  | some n => exact ha.limited n

lemma scannable_withOffset {a : Fragment} (ha : a.Scannable) (offset : Option UInt64) :
    (withOffset offset a).Scannable := by
  cases offset with
  | none => exact ha
  | some n => exact ha.skipping n

lemma scannable_withClauses {q : Query} {entity : Entity} {a b : Fragment} (ha : a.Scannable)
    (h : q.withClauses entity a = .ok b) : b.Scannable := by
  rw [withClauses] at h
  split at h
  · obtain ⟨c, hc, h⟩ := exists_of_bind_eq_ok h
    obtain rfl := Except.ok.inj h
    exact scannable_withOffset (scannable_withLimit (scannable_withOrder ha hc) q.limit) q.offset
  · obtain rfl := Except.ok.inj h
    exact ha
  · obtain rfl := Except.ok.inj h
    exact ha.limited 1
  · obtain rfl := Except.ok.inj h
    exact scannable_withLimit ha q.limit

/-- The values of a query on resolved fields are found by a scan of its statement. -/
lemma scannable_fragment {q : Query} (hq : q.IsResolved) {ctx : Context} {a : Fragment}
    (h : q.fragment ctx = .ok a) : a.Scannable := by
  refine scannable_withClauses ?_ h
  split
  · next filter hfilter =>
    exact (q.scannable_head ctx.bucket).binary (.of_all rfl) (scannable_filter hq hfilter)
  · exact q.scannable_head ctx.bucket

end Query

end DocQuery
