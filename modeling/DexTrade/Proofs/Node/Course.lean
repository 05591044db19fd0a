import DexTrade.Proofs.Node.Calls
import Mathlib.Logic.Relation
/-!
# How a session goes on

A node may change its mind or fail at any time. A session goes on in only two ways, by a request that
is not about a token and by getting to know a token that was unknown (`Gains`), except that the
decimals of an unknown token may be refused, which ends the call (`Course`). Whatever these steps
preserve, every sequence of calls preserves (`after_induction`); so a token stays once it is kept.
-/
namespace DexTrade.Node

open Relation

variable {α : Type} {b : Behaviour} {limit : Option Level} {s s' : State}

/-! ## Steps -/

/-- A step that leaves no token half known. -/
inductive Gains : State → State → Prop
  | told (s : State) {q : Request} (r : Response) (h : q.isAboutToken = false) : Gains s (s.told q r)
  | fetched {s : State} {a : Address} (r r' : Response) {d : BitVec 8}
      (hunknown : s.tokens.lookup a = none) (hdecimals : Getter.decimals.ofResponse r = .ok d) :
      Gains s (((s.told (.getter a .decimals) r).told (.getter a .symbol) r').keep
        ⟨a, d.toNat, symbolIn r'⟩)

/-- The decimals of a token were asked for in vain. -/
inductive Refused : State → State → Prop
  | decimals {s : State} {a : Address} {r : Response} {p : Problem}
      (hunknown : s.tokens.lookup a = none) (hrefused : Getter.decimals.ofResponse r = .error p) :
      Refused s (s.told (.getter a .decimals) r)

/-- What a call makes of a session: decimals can only be refused at its end. -/
inductive Course (s s' : State) : Prop
  | completed (h : ReflTransGen Gains s s')
  | refused (s₁ : State) (h : ReflTransGen Gains s s₁) (hrefused : Refused s₁ s')

theorem Course.of_gains {s₁ : State} (h : ReflTransGen Gains s s₁) (hcourse : Course s₁ s') :
    Course s s' := by
  cases hcourse with
  | completed hrest => exact .completed (h.trans hrest)
  | refused s₂ hrest hrefused => exact .refused s₂ (h.trans hrest) hrefused

/-- Some work goes on by gains if it succeeds, and by a course in any case. -/
structure Proceeds {α : Type} (s : State) (o : Except ReadFailure α × State) : Prop where
  course : Course s o.2
  gains : ∀ a, o.1 = .ok a → ReflTransGen Gains s o.2

theorem Proceeds.of_gains {o : Except ReadFailure α × State} (h : ReflTransGen Gains s o.2) :
    Proceeds s o :=
  ⟨.completed h, fun _ _ => h⟩

theorem proceeds_token (b : Behaviour) (s : State) (a : Address) :
    Proceeds s ((token a).conclude b s) := by
  cases hknown : s.tokens.lookup a with
  | some t =>
    rw [conclude_token_of_known hknown]
    exact .of_gains .refl
  | none =>
    rw [conclude_token_of_unknown hknown]
    cases hdecimals : Getter.decimals.ofResponse (b s.history (.getter a .decimals)) with
    | error p =>
      rw [conclude_fetchToken_of_error hdecimals]
      exact ⟨.refused s .refl (.decimals hknown hdecimals), nofun⟩
    | ok d =>
      rw [conclude_fetchToken_of_ok hdecimals]
      exact .of_gains (.single (.fetched _ _ hknown hdecimals))

theorem Composed.proceeds {w : Work α} (h : Composed w) (b : Behaviour) (s : State) :
    Proceeds s (w.conclude b s) := by
  induction h generalizing s with
  | pure a => exact .of_gains .refl
  | throw failure => exact .of_gains .refl
  | ask hq => exact .of_gains (.single (.told s _ hq))
  | write _ => exact .of_gains .refl
  | token a => exact proceeds_token b s a
  | @bind _ _ w f _ _ ihw ihf =>
    obtain ⟨result, s₁, hs₁⟩ : ∃ result s₁, w.conclude b s = (result, s₁) := ⟨_, _, rfl⟩
    have hfirst := ihw s
    rw [hs₁] at hfirst
    cases result with
    | ok a =>
      rw [Work.conclude_bind_of_ok hs₁]
      have hgains : ReflTransGen Gains s s₁ := hfirst.gains a rfl
      exact ⟨.of_gains hgains (ihf a s₁).course, fun a' ha' => hgains.trans ((ihf a s₁).gains a' ha')⟩
    | error failure =>
      rw [Work.conclude_bind_of_error hs₁]
      exact ⟨hfirst.course, nofun⟩

theorem proceeds_serve (b : Behaviour) (s : State) (r : Chain.Reading) : Proceeds s (serve b r s) :=
  (composed_reading r).proceeds b s

/-! ## Calls -/

theorem state_of_settled {i : Inquiry Chain.source (Except TradeError α)} (h : Analysis.Settled i)
    (b : Behaviour) (limit : Option Level) (s : State) :
    (Inquiry.outcome (serve b) limit i s).state = s := by
  induction i with
  | done result => rfl
  | ask q next ih => exact h.elim
  | note e next ih =>
    rw [Inquiry.outcome_note]
    split
    · rfl
    · exact ih h

/-- A reading that fails ends an analysis, so nothing comes after refused decimals. -/
theorem course_of_disciplined {n : Nat} {i : Inquiry Chain.source (Except TradeError α)}
    (h : Analysis.Disciplined n i) (b : Behaviour) (limit : Option Level) (s : State) :
    Course s (Inquiry.outcome (serve b) limit i s).state := by
  induction h generalizing s with
  | value n a => exact .completed .refl
  | error n _ => exact .completed .refl
  | note e _ ih =>
    rw [Inquiry.outcome_note]
    split
    · exact .completed .refl
    · exact ih s
  | @read n r next _ hfailed _ ih =>
    have hread := proceeds_serve b s r
    rw [Inquiry.outcome_ask]
    generalize serve b r s = o at hread
    obtain ⟨result, s₁⟩ := o
    cases result with
    | ok value => exact .of_gains (hread.gains value rfl) (ih value s₁)
    | error failure =>
      -- the analysis is over, so the course of the reading is that of the analysis
      rw [hfailed failure]
      exact hread.course
  | @attempt n hash next hnext =>
    rw [Inquiry.outcome_ask, state_of_settled (hnext _)]
    exact (proceeds_serve b s (.revertReason hash)).course

theorem Call.course (b : Behaviour) (limit : Option Level) (k : Call) (s : State) :
    Course s (k.perform b limit s).2 := by
  cases k with
  | reading r => exact (proceeds_serve b s r).course
  | events hash =>
    have hevents : Analysis.Disciplined 1 (Analysis.events hash >>= pure).run :=
      .events_bind fun found => .value 0 found
    rw [bind_pure] at hevents
    exact course_of_disciplined hevents b limit s
  | analysis x => exact course_of_disciplined x.disciplined b limit s

/-- What every course preserves, calls preserve. -/
theorem after_induction {P : State → Prop} (hcourse : ∀ s s', Course s s' → P s → P s')
    (calls : List Call) (h : P s) : P (after b limit calls s) := by
  induction calls generalizing s with
  | nil => exact h
  | cons k rest ih => exact ih (hcourse s _ (k.course b limit s) h)

/-! ## What is kept stays -/

/-- Tokens stay as they are, and nothing that was told is forgotten. -/
structure Extends (s s' : State) : Prop where
  kept : ∀ a t, s.tokens.lookup a = some t → s'.tokens.lookup a = some t
  told : s.history <+: s'.history

theorem Extends.refl (s : State) : Extends s s :=
  ⟨fun _ _ h => h, List.prefix_rfl⟩

theorem Extends.trans {s₁ : State} (h : Extends s s₁) (h' : Extends s₁ s') : Extends s s' :=
  ⟨fun a t ht => h'.kept a t (h.kept a t ht), h.told.trans h'.told⟩

theorem extends_told (s : State) (q : Request) (r : Response) : Extends s (s.told q r) :=
  ⟨fun _ _ h => h, List.prefix_append _ _⟩

theorem extends_keep {t : Token} (hunknown : s.tokens.lookup t.address = none) :
    Extends s (s.keep t) := by
  refine ⟨fun a t' ht' => ?_, List.prefix_rfl⟩
  have hne : a ≠ t.address := by
    rintro rfl
    exact nomatch hunknown.symm.trans ht'
  rwa [State.lookup_keep_of_ne s t hne]

theorem Gains.extends (h : Gains s s') : Extends s s' := by
  cases h with
  | told r hq => exact extends_told _ _ _
  | fetched r r' hunknown hdecimals =>
    exact (extends_told _ _ _).trans ((extends_told _ _ _).trans (extends_keep hunknown))

theorem extends_of_gains (h : ReflTransGen Gains s s') : Extends s s' := by
  induction h with
  | refl => exact .refl s
  | tail _ hstep ih => exact ih.trans hstep.extends

theorem Course.extends (h : Course s s') : Extends s s' := by
  cases h with
  | completed h => exact extends_of_gains h
  | refused s₁ h hrefused =>
    cases hrefused with
    | decimals _ _ => exact (extends_of_gains h).trans (extends_told _ _ _)

theorem extends_after (calls : List Call) (s : State) : Extends s (after b limit calls s) :=
  after_induction (fun _ _ hcourse h => h.trans hcourse.extends) calls (.refl s)

end DexTrade.Node
