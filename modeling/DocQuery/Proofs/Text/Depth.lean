import DocQuery.Proofs.Text.Reading
/-!
# The depth of parentheses

A counter goes up at every opening parenthesis outside quotes and down at every closing one. A text
that spells something leaves it where it was, and never takes it below (`Spells.depthAfter_eq`).
-/

namespace DocQuery

/-- The number of parentheses that are open behind a text, given that in front of it; `none` if one
is closed that was not opened. Quoted runs are passed over. -/
def depthAfter : Nat → List Symbol → Option Nat
  | depth, [] => some depth
  | depth, s :: ss =>
    match s.kind, depth with
    | .opening, depth => depthAfter (depth + 1) ss
    | .closing, 0 => none
    | .closing, depth + 1 => depthAfter depth ss
    | _, depth => depthAfter depth ss

/-- The number of parentheses that are open behind tokens. -/
def depthAfterTokens : Nat → List Token → Option Nat
  | depth, [] => some depth
  | depth, .word _ :: ts => depthAfterTokens depth ts
  | depth, .opening :: ts => depthAfterTokens (depth + 1) ts
  | 0, .closing :: _ => none
  | depth + 1, .closing :: ts => depthAfterTokens depth ts

lemma depthAfterTokens_extendWord (s : Symbol) (depth : Nat) (ts : List Token) :
    depthAfterTokens depth (extendWord s ts) = depthAfterTokens depth ts := by
  cases ts with
  | nil => rfl
  | cons t ts => cases t <;> rfl

/-- Only parentheses count. -/
lemma depthAfterTokens_tokens (depth : Nat) (ss : List Symbol) :
    depthAfterTokens depth (tokens ss) = depthAfter depth ss := by
  induction ss generalizing depth with
  | nil => rfl
  | cons s ss ih =>
    cases hs : s.kind with
    | blank =>
      rw [tokens_cons_blank hs, ih]
      simp only [depthAfter, hs]
    | opening =>
      rw [tokens_cons_opening hs, depthAfterTokens, ih]
      simp only [depthAfter, hs]
    | closing =>
      rw [tokens_cons_closing hs]
      cases depth with
      | zero => simp only [depthAfter, hs, depthAfterTokens]
      | succ depth =>
        rw [depthAfterTokens, ih]
        simp only [depthAfter, hs]
    | letter =>
      have hword : depthAfterTokens depth (tokens (s :: ss)) =
          depthAfterTokens depth (tokens ss) := by
        simp only [tokens, hs]
        split
        · exact depthAfterTokens_extendWord s depth (tokens ss)
        · rfl
      rw [hword, ih]
      simp only [depthAfter, hs]

/-- The parentheses that are open are those whose items are still collected. -/
lemma depthAfterTokens_of_pushAll {ts : List Token} {top top' : List Item}
    {outer outer' : List (List Item)} (h : pushAll ts (top :: outer) = some (top' :: outer')) :
    depthAfterTokens outer.length ts = some outer'.length := by
  induction ts generalizing top outer with
  | nil =>
    obtain ⟨-, rfl⟩ := List.cons.inj (Option.some.inj h)
    rfl
  | cons t ts ih =>
    cases t with
    | word w => exact ih h
    | opening =>
      have hinside := ih (show pushAll ts ([] :: top :: outer) = some (top' :: outer') from h)
      exact hinside
    | closing =>
      cases outer with
      | nil => exact absurd h (by simp [pushAll, push])
      | cons next outer => exact ih h

/-- The parentheses of a text that spells something are balanced. -/
theorem Spells.depthAfter_eq {cs : List Char} {items : List Item} (h : Spells cs items) :
    depthAfter 0 (symbols cs) = some 0 := by
  rw [← depthAfterTokens_tokens]
  exact depthAfterTokens_of_pushAll (h.pushAll_eq [] [])

end DocQuery
