import DexTrade.Proofs.Node.Calls
/-!
# Kept tokens cannot be seen

A node that always responds the same to a request tells a session nothing new about a token that the
session keeps. Each call therefore has the result that it would have on a session that keeps nothing,
whatever was called for before and however that ended (`results_as_if_fresh`).
-/
namespace DexTrade.Node

variable {α : Type} {node : Request → Response}

/-- Each token that is kept is the one that the node tells a session that keeps none. -/
def Truthful (node : Request → Response) (s : State) : Prop :=
  ∀ a t, s.tokens.lookup a = some t → ((token a).conclude (.constant node) .fresh).1 = .ok t

theorem truthful_fresh : Truthful node .fresh :=
  nofun

/-- Only what is kept matters. -/
theorem Truthful.of_tokens {s s' : State} (h : Truthful node s) (htokens : s'.tokens = s.tokens) :
    Truthful node s' := by
  intro a t ht
  rw [htokens] at ht
  exact h a t ht

theorem Truthful.keep {s : State} (h : Truthful node s) {t : Token}
    (ht : ((token t.address).conclude (.constant node) .fresh).1 = .ok t) :
    Truthful node (s.keep t) := by
  intro a t' ht'
  by_cases ha : a = t.address
  · subst ha
    rw [State.lookup_keep_self] at ht'
    rwa [← Option.some.inj ht']
  · rw [State.lookup_keep_of_ne s t ha] at ht'
    exact h a t' ht'

/-- A lookup tells the same as on a fresh session, and keeps the truth. -/
theorem Truthful.token {s : State} (h : Truthful node s) (a : Address) :
    ((token a).conclude (.constant node) s).1 = ((token a).conclude (.constant node) .fresh).1 ∧
      Truthful node ((token a).conclude (.constant node) s).2 := by
  cases hknown : s.tokens.lookup a with
  | some t =>
    rw [conclude_token_of_known hknown, h a t hknown]
    exact ⟨rfl, h⟩
  | none =>
    have hfresh : State.fresh.tokens.lookup a = none := rfl
    cases hdecimals : Getter.decimals.ofResponse (node (.getter a .decimals)) with
    | error p =>
      rw [conclude_token_of_unknown hknown, conclude_token_of_unknown hfresh,
        conclude_fetchToken_of_error (b := .constant node) hdecimals,
        conclude_fetchToken_of_error (b := .constant node) hdecimals]
      exact ⟨rfl, h.of_tokens rfl⟩
    | ok d =>
      have htold : ((Node.token a).conclude (.constant node) .fresh).1 =
          .ok ⟨a, d.toNat, symbolIn (node (.getter a .symbol))⟩ := by
        rw [conclude_token_of_unknown hfresh,
          conclude_fetchToken_of_ok (b := .constant node) hdecimals]
        rfl
      rw [htold, conclude_token_of_unknown hknown,
        conclude_fetchToken_of_ok (b := .constant node) hdecimals]
      exact ⟨rfl, (h.of_tokens rfl).keep htold⟩

theorem Truthful.conclude {w : Work α} (hw : Composed w) {s : State} (h : Truthful node s) :
    (w.conclude (.constant node) s).1 = (w.conclude (.constant node) .fresh).1 ∧
      Truthful node (w.conclude (.constant node) s).2 := by
  induction hw generalizing s with
  | pure a => exact ⟨rfl, h⟩
  | throw failure => exact ⟨rfl, h⟩
  | ask _ => exact ⟨rfl, h.of_tokens rfl⟩
  | write _ => exact ⟨rfl, h⟩
  | token a => exact h.token a
  | @bind _ _ w f _ _ ihw ihf =>
    obtain ⟨hsame, htruthful⟩ := ihw h
    obtain ⟨-, htruthful'⟩ := ihw truthful_fresh
    obtain ⟨result, s₁, hs₁⟩ : ∃ result s₁, w.conclude (.constant node) s = (result, s₁) :=
      ⟨_, _, rfl⟩
    obtain ⟨result', s₂, hs₂⟩ : ∃ result s₂, w.conclude (.constant node) .fresh = (result, s₂) :=
      ⟨_, _, rfl⟩
    rw [hs₁, hs₂] at hsame
    rw [hs₁] at htruthful
    rw [hs₂] at htruthful'
    obtain rfl : result = result' := hsame
    cases result with
    | ok a =>
      rw [Work.conclude_bind_of_ok hs₁, Work.conclude_bind_of_ok hs₂]
      exact ⟨(ihf a htruthful).1.trans (ihf a htruthful').1.symm, (ihf a htruthful).2⟩
    | error failure =>
      rw [Work.conclude_bind_of_error hs₁, Work.conclude_bind_of_error hs₂]
      exact ⟨rfl, htruthful⟩

/-- A call gives what it gives on a fresh session, and keeps the truth. -/
theorem Truthful.perform {s : State} (h : Truthful node s) (limit : Option Level) (k : Call) :
    (k.perform (.constant node) limit s).1 =
        (Inquiry.runFixed node limit (k.work [])).result.map Prod.fst ∧
      Truthful node (k.perform (.constant node) limit s).2 := by
  have hserve (r : Chain.Reading) (s : State) (hs : Truthful node s) :
      (serve (.constant node) r s).1 = (serve (.constant node) r .fresh).1 ∧
        Truthful node (serve (.constant node) r s).2 :=
    hs.conclude (composed_reading r)
  obtain ⟨hresult, htruthful⟩ := Inquiry.result_eq_runFixed hserve limit k.inquiry h
  obtain ⟨hfresh, -⟩ := Inquiry.result_eq_runFixed hserve limit k.inquiry truthful_fresh
  have hwork : (Inquiry.outcome (Behaviour.constant node).answer limit (k.work []) []).result =
      (k.perform (.constant node) limit .fresh).1.map (·, _) :=
    (k.outcome_work (.constant node) limit .fresh).1
  refine ⟨?_, htruthful⟩
  calc (k.perform (.constant node) limit s).1
      = (k.perform (.constant node) limit .fresh).1 := hresult.trans hfresh.symm
    _ = (Inquiry.outcome (Behaviour.constant node).answer limit (k.work []) []).result.map
          Prod.fst := by
        simp only [hwork, Option.map_map, Function.comp_def, Option.map_id_fun', id_eq]
    _ = (Inquiry.runFixed node limit (k.work [])).result.map Prod.fst := by
        rw [result_constant]

/-- On a node that always responds the same, each call of a sequence has the result that it has when
its work is done alone and no token is known. -/
theorem results_as_if_fresh (node : Request → Response) (limit : Option Level)
    (calls : List Call) :
    results (.constant node) limit calls .fresh =
      calls.map fun k => ⟨k, (Inquiry.runFixed node limit (k.work [])).result.map Prod.fst⟩ := by
  have hall (s : State) (hs : Truthful node s) : results (.constant node) limit calls s =
      calls.map fun k => ⟨k, (Inquiry.runFixed node limit (k.work [])).result.map Prod.fst⟩ := by
    induction calls generalizing s with
    | nil => rfl
    | cons k rest ih =>
      obtain ⟨hresult, htruthful⟩ := hs.perform limit k
      rw [results, ih _ htruthful, hresult, List.map_cons]
  exact hall .fresh truthful_fresh

end DexTrade.Node
