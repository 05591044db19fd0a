import DexTrade.Proofs.Node.Course
/-!
# Tokens that a session keeps

The tokens and the history of a session belong together, whatever the node responds (`Sound`): a token
is known exactly if its symbol was asked for, and as soon as its decimals were told. With what a call
can do to a session this gives all that holds of the tokens it keeps (`token_cache_invariant`).
-/
namespace DexTrade.Node

open Relation

variable {α : Type} {b : Behaviour} {limit : Option Level} {s s' : State}

/-! ## What is kept is what was told -/

/-- How often the symbol of a token was asked for. -/
def symbolRequests (a : Address) (h : History) : Nat :=
  h.countP fun exchange => exchange.1 = .getter a .symbol

/-- The tokens and the history belong together. -/
structure Sound (s : State) : Prop where
  own : ∀ entry ∈ s.tokens, entry.2.address = entry.1
  /-- The symbol of a token is asked for when the token becomes known. -/
  asked : ∀ a, symbolRequests a s.history = if (s.tokens.lookup a).isSome then 1 else 0
  /-- With its decimals a token is known, by them and by the answer about its symbol. -/
  learned : ∀ a r d, (.getter a .decimals, r) ∈ s.history → Getter.decimals.ofResponse r = .ok d →
    ∃ r', (.getter a .symbol, r') ∈ s.history ∧
      s.tokens.lookup a = some ⟨a, d.toNat, symbolIn r'⟩

theorem sound_fresh : Sound .fresh :=
  ⟨nofun, fun _ => rfl, nofun⟩

theorem symbolRequests_told (a : Address) (q : Request) (s : State) (r : Response) :
    symbolRequests a (s.told q r).history =
      symbolRequests a s.history + if q = .getter a .symbol then 1 else 0 := by
  simp [symbolRequests, List.countP_cons]

theorem mem_told {e : Request × Response} {q : Request} {r : Response} :
    e ∈ (s.told q r).history ↔ e ∈ s.history ∨ e = (q, r) := by
  rw [State.told_history, List.mem_append, List.mem_singleton]

/-- A response that tells no decimals makes no token known. -/
theorem Sound.told (h : Sound s) {q : Request} {r : Response} (hsymbol : ∀ a, q ≠ .getter a .symbol)
    (hdecimals : ∀ a d, q = .getter a .decimals → Getter.decimals.ofResponse r ≠ .ok d) :
    Sound (s.told q r) := by
  refine ⟨h.own, fun a => ?_, fun a r' d hmem hd => ?_⟩
  · rw [symbolRequests_told, if_neg (hsymbol a)]
    exact h.asked a
  · obtain hmem | heq := mem_told.1 hmem
    · obtain ⟨r₁, hr₁, hlookup⟩ := h.learned a r' d hmem hd
      exact ⟨r₁, mem_told.2 (.inl hr₁), hlookup⟩
    · obtain ⟨rfl, rfl⟩ := Prod.mk.inj heq
      exact absurd hd (hdecimals a d rfl)

theorem Sound.fetched (h : Sound s) {a : Address} (r r' : Response) {d : BitVec 8}
    (hunknown : s.tokens.lookup a = none) (hdecimals : Getter.decimals.ofResponse r = .ok d) :
    Sound (((s.told (.getter a .decimals) r).told (.getter a .symbol) r').keep
      ⟨a, d.toNat, symbolIn r'⟩) := by
  generalize ht : (⟨a, d.toNat, symbolIn r'⟩ : Token) = t
  obtain rfl : t.address = a := by rw [← ht]
  refine ⟨List.forall_mem_cons.2 ⟨rfl, h.own⟩, fun a => ?_, fun a r₁ d₁ hmem hd₁ => ?_⟩
  -- the symbol was never asked for before, since the token was unknown
  · rw [State.keep_history, symbolRequests_told, symbolRequests_told, if_neg nofun, h.asked]
    by_cases ha : a = t.address
    · subst ha
      rw [State.lookup_keep_self, hunknown]
      simp
    · have hother : Request.getter t.address .symbol ≠ .getter a .symbol := by
        intro heq
        exact ha (Request.getter.inj heq).1.symm
      rw [State.lookup_keep_of_ne _ t ha, if_neg hother]
      rfl
  · rw [State.keep_history, mem_told, mem_told] at hmem
    obtain (hmem | heq) | heq := hmem
    · -- decimals told before are those of another token
      obtain ⟨r₂, hr₂, hlookup⟩ := h.learned a r₁ d₁ hmem hd₁
      have hne : a ≠ t.address := by
        rintro rfl
        exact nomatch hunknown.symm.trans hlookup
      rw [State.lookup_keep_of_ne _ t hne]
      exact ⟨r₂, mem_told.2 (.inl (mem_told.2 (.inl hr₂))), hlookup⟩
    · obtain ⟨hq, rfl⟩ := Prod.mk.inj heq
      obtain ⟨rfl, -⟩ := Request.getter.inj hq
      obtain rfl : d₁ = d := Except.ok.inj (hd₁.symm.trans hdecimals)
      rw [State.lookup_keep_self]
      exact ⟨r', mem_told.2 (.inr rfl), congrArg some ht.symm⟩
    · exact nomatch heq

theorem Gains.sound (h : Gains s s') (hs : Sound s) : Sound s' := by
  cases h with
  | told r hq =>
    refine hs.told (fun a ha => ?_) fun a d ha => ?_
    · rw [ha] at hq
      exact nomatch hq
    · rw [ha] at hq
      exact nomatch hq
  | fetched r r' hunknown hdecimals => exact hs.fetched r r' hunknown hdecimals

theorem sound_of_gains (h : ReflTransGen Gains s s') (hs : Sound s) : Sound s' := by
  induction h with
  | refl => exact hs
  | tail _ hstep ih => exact hstep.sound ih

theorem Refused.sound (h : Refused s s') (hs : Sound s) : Sound s' := by
  cases h with
  | decimals hunknown hrefused =>
    refine hs.told nofun fun a d _ hd => ?_
    exact nomatch hrefused.symm.trans hd

theorem Course.sound (h : Course s s') (hs : Sound s) : Sound s' := by
  cases h with
  | completed h => exact sound_of_gains h hs
  | refused s₁ h hrefused => exact hrefused.sound (sound_of_gains h hs)

theorem sound_after (calls : List Call) : Sound (after b limit calls .fresh) :=
  after_induction (fun _ _ => Course.sound) calls sound_fresh

/-! ## Decimals that are refused -/

/-- What is asked and answered within a call. -/
def Call.exchanges (b : Behaviour) (limit : Option Level) (k : Call) (s : State) : History :=
  (k.perform b limit s).2.history.drop s.history.length

/-- Decimals were told whenever they were asked for. -/
def DecimalsTold (h : History) : Prop :=
  ∀ a r, (.getter a .decimals, r) ∈ h → ∃ d, Getter.decimals.ofResponse r = .ok d

theorem DecimalsTold.append {h h' : History} (hh : DecimalsTold h) (hh' : DecimalsTold h') :
    DecimalsTold (h ++ h') := by
  intro a r hmem
  obtain hmem | hmem := List.mem_append.1 hmem
  · exact hh a r hmem
  · exact hh' a r hmem

theorem DecimalsTold.not_mem_of_refused {h : History} (hh : DecimalsTold h) {a : Address}
    {r : Response} {p : Problem} (hr : Getter.decimals.ofResponse r = .error p) :
    (.getter a .decimals, r) ∉ h := by
  intro hmem
  obtain ⟨d, hd⟩ := hh a r hmem
  exact nomatch hr.symm.trans hd

theorem Gains.decimalsTold (h : Gains s s') :
    ∃ told, s'.history = s.history ++ told ∧ DecimalsTold told := by
  cases h with
  | @told q r hq =>
    refine ⟨[(q, r)], rfl, fun a r' hmem => ?_⟩
    obtain ⟨rfl, rfl⟩ := Prod.mk.inj (List.mem_singleton.1 hmem)
    exact nomatch hq
  | @fetched a r r' d _ hd =>
    refine ⟨[(.getter a .decimals, r), (.getter a .symbol, r')], by simp, fun a' r₁ hmem => ?_⟩
    obtain heq | hmem := List.mem_cons.1 hmem
    · obtain ⟨-, rfl⟩ := Prod.mk.inj heq
      exact ⟨d, hd⟩
    · exact nomatch List.mem_singleton.1 hmem

theorem decimalsTold_of_gains (h : ReflTransGen Gains s s') :
    ∃ told, s'.history = s.history ++ told ∧ DecimalsTold told := by
  induction h with
  | refl => exact ⟨[], (List.append_nil _).symm, nofun⟩
  | tail _ hstep ih =>
    obtain ⟨told, htold, hdecimals⟩ := ih
    obtain ⟨told', htold', hdecimals'⟩ := hstep.decimalsTold
    refine ⟨told ++ told', ?_, hdecimals.append hdecimals'⟩
    rw [htold', htold, List.append_assoc]

/-- A token whose decimals are refused within a call is unknown after it. -/
theorem Course.unknown_of_refused (h : Course s s') {a : Address} {r : Response} {p : Problem}
    (hmem : (.getter a .decimals, r) ∈ s'.history.drop s.history.length)
    (hr : Getter.decimals.ofResponse r = .error p) : s'.tokens.lookup a = none := by
  cases h with
  | completed h =>
    obtain ⟨told, htold, hdecimals⟩ := decimalsTold_of_gains h
    rw [htold, List.drop_left] at hmem
    exact absurd hmem (hdecimals.not_mem_of_refused hr)
  | refused s₁ h hrefused =>
    obtain ⟨told, htold, hdecimals⟩ := decimalsTold_of_gains h
    cases hrefused with
    | decimals hunknown _ =>
      rw [State.told_history, htold, List.append_assoc, List.drop_left] at hmem
      obtain hmem | hlast := List.mem_append.1 hmem
      · exact absurd hmem (hdecimals.not_mem_of_refused hr)
      · obtain ⟨hq, -⟩ := Prod.mk.inj (List.mem_singleton.1 hlast)
        obtain ⟨rfl, -⟩ := Request.getter.inj hq
        exact hunknown

/-- The symbol of an unknown token was never asked for. -/
theorem Sound.symbol_not_asked (h : Sound s) {a : Address} (hunknown : s.tokens.lookup a = none)
    (r : Response) : (.getter a .symbol, r) ∉ s.history := by
  have hnever : symbolRequests a s.history = 0 := by rw [h.asked, hunknown]; rfl
  intro hmem
  exact absurd (List.countP_eq_zero.1 hnever _ hmem) (by simp)

/-! ## Lookups that succeed -/

/-- The lookup of a token, if it succeeds. -/
def lookedUp (b : Behaviour) (a : Address) (s : State) : List (Address × Token) :=
  match ((token a).conclude b s).1 with
  | .ok t => [(a, t)]
  | .error _ => []

/-- The lookups of tokens that succeed within a reading, whatever becomes of the reading. -/
def tokensRead (b : Behaviour) : Chain.Reading → State → List (Address × Token)
  | .token a, s => lookedUp b a s
  | .pool address, s =>
    match (poolData address).conclude b s with
    | (.error _, _) => []
    | (.ok (a₀, a₁, _), s₁) =>
      match (token a₀).conclude b s₁ with
      | (.error _, _) => []
      | (.ok t, s₂) => (a₀, t) :: lookedUp b a₁ s₂
  | _, _ => []

theorem known_of_conclude_token {a : Address} {t : Token}
    (h : (token a).conclude b s = (.ok t, s')) : s'.tokens.lookup a = some t := by
  cases hknown : s.tokens.lookup a with
  | some t' =>
    obtain ⟨ht, rfl⟩ := Prod.mk.inj ((conclude_token_of_known hknown).symm.trans h)
    rw [hknown, Except.ok.inj ht]
  | none =>
    rw [conclude_token_of_unknown hknown] at h
    cases hdecimals : Getter.decimals.ofResponse (b s.history (.getter a .decimals)) with
    | error p =>
      rw [conclude_fetchToken_of_error hdecimals] at h
      exact nomatch h
    | ok d =>
      rw [conclude_fetchToken_of_ok hdecimals] at h
      obtain ⟨ht, rfl⟩ := Prod.mk.inj h
      rw [← Except.ok.inj ht]
      exact State.lookup_keep_self _ ⟨a, _, _⟩

theorem known_of_lookedUp {a a' : Address} {t : Token} (h : (a', t) ∈ lookedUp b a s) :
    ((token a).conclude b s).2.tokens.lookup a' = some t := by
  obtain ⟨result, s', hs'⟩ : ∃ result s', (token a).conclude b s = (result, s') := ⟨_, _, rfl⟩
  rw [lookedUp, hs'] at h
  rw [hs']
  cases result with
  | ok t' =>
    obtain ⟨rfl, rfl⟩ := Prod.mk.inj (List.mem_singleton.1 h)
    exact known_of_conclude_token hs'
  | error failure => exact nomatch h

/-- What work follows a lookup does not matter to what the lookup found. -/
theorem known_of_conclude_bind {w : Work Token} {f : Token → Work α} (hf : ∀ t, Composed (f t))
    {a : Address} {t : Token} (h : (w.conclude b s).2.tokens.lookup a = some t) :
    ((w >>= f).conclude b s).2.tokens.lookup a = some t := by
  obtain ⟨result, s', hs'⟩ : ∃ result s', w.conclude b s = (result, s') := ⟨_, _, rfl⟩
  rw [hs'] at h
  cases result with
  | ok t' =>
    rw [Work.conclude_bind_of_ok hs']
    exact ((hf t').proceeds b s').course.extends.kept a t h
  | error failure =>
    rw [Work.conclude_bind_of_error hs']
    exact h

/-- A token that was looked up is kept, also by a reading that fails. -/
theorem known_of_tokensRead {r : Chain.Reading} {a : Address} {t : Token}
    (h : (a, t) ∈ tokensRead b r s) : (serve b r s).2.tokens.lookup a = some t := by
  cases r with
  | token a' => exact known_of_lookedUp h
  | pool address =>
    change ((pool address).conclude b s).2.tokens.lookup a = some t
    rw [pool_eq]
    rw [tokensRead] at h
    obtain ⟨result, s₁, hs₁⟩ : ∃ result s₁, (poolData address).conclude b s = (result, s₁) :=
      ⟨_, _, rfl⟩
    rw [hs₁] at h
    obtain failure | ⟨a₀, a₁, fee⟩ := result
    · exact nomatch h
    · rw [Work.conclude_bind_of_ok hs₁]
      obtain ⟨result, s₂, hs₂⟩ : ∃ result s₂, (token a₀).conclude b s₁ = (result, s₂) :=
        ⟨_, _, rfl⟩
      simp only [hs₂] at h
      cases result with
      | error failure => exact nomatch h
      | ok t₀ =>
        -- the second lookup may fail, but it forgets nothing of the first
        obtain heq | hmem := List.mem_cons.1 h
        · obtain ⟨rfl, rfl⟩ := Prod.mk.inj heq
          refine known_of_conclude_bind (fun _ => .bind (.token _) fun _ => .pure _) ?_
          rw [hs₂]
          exact known_of_conclude_token hs₂
        · change (((token a₀) >>= _).conclude b s₁).2.tokens.lookup a = some t
          rw [Work.conclude_bind_of_ok hs₂]
          exact known_of_conclude_bind (fun _ => .pure _) (known_of_lookedUp hmem)
  | transaction | receipt | revertReason | pair => exact nomatch h

theorem perform_token_of_known {a : Address} {t : Token} (h : s.tokens.lookup a = some t) :
    (Call.reading (.token a)).perform b limit s = (some (.ok t), s) := by
  have hserve : serve b (.token a) s = (.ok t, s) := conclude_token_of_known h
  have hperform : (Call.reading (.token a)).perform b limit s =
      (some (serve b (.token a) s).1, (serve b (.token a) s).2) :=
    rfl
  rw [hperform, hserve]
  rfl

/-- Whatever a node answers: each token is kept under its own address and stays as it is. A token that
was looked up, by itself or for a pool that then failed, or whose decimals were told within any call,
is given from then on without a request. Within a call in which the decimals of a token are refused,
its symbol is not asked for and it is unknown afterwards. The symbol of a token is asked for at most
once. -/
theorem token_cache_invariant (b : Behaviour) (limit : Option Level) (calls : List Call) :
    let s := after b limit calls .fresh
    (∀ entry ∈ s.tokens, entry.2.address = entry.1) ∧
    (∀ later a t, s.tokens.lookup a = some t → (after b limit later s).tokens.lookup a = some t) ∧
    (∀ r a t, (a, t) ∈ tokensRead b r s → ∀ later,
      let s' := after b limit (.reading r :: later) s
      (Call.reading (.token a)).perform b limit s' = (some (.ok t), s')) ∧
    (∀ a r d, (.getter a .decimals, r) ∈ s.history → Getter.decimals.ofResponse r = .ok d →
      ∃ r', (.getter a .symbol, r') ∈ s.history ∧ ∀ later,
        let s' := after b limit later s
        (Call.reading (.token a)).perform b limit s' =
          (some (.ok ⟨a, d.toNat, symbolIn r'⟩), s')) ∧
    (∀ k a r p, (.getter a .decimals, r) ∈ Call.exchanges b limit k s →
      Getter.decimals.ofResponse r = .error p →
        (k.perform b limit s).2.tokens.lookup a = none ∧
          ∀ r', (.getter a .symbol, r') ∉ Call.exchanges b limit k s) ∧
    (∀ a, symbolRequests a s.history ≤ 1) := by
  intro s
  have hsound : Sound s := sound_after calls
  refine ⟨hsound.own, fun later => (extends_after later s).kept, ?_, ?_, ?_, ?_⟩
  · intro r a t hread later s'
    have hknown : (serve b r s).2.tokens.lookup a = some t := known_of_tokensRead hread
    exact perform_token_of_known ((extends_after later _).kept a t hknown)
  · intro a r d hmem hd
    obtain ⟨r', hr', hknown⟩ := hsound.learned a r d hmem hd
    exact ⟨r', hr', fun later => perform_token_of_known ((extends_after later s).kept a _ hknown)⟩
  · intro k a r p hmem hr
    have hcourse : Course s (k.perform b limit s).2 := k.course b limit s
    have hunknown := hcourse.unknown_of_refused hmem hr
    refine ⟨hunknown, fun r' hsymbol => ?_⟩
    exact (hcourse.sound hsound).symbol_not_asked hunknown r' (List.mem_of_mem_drop hsymbol)
  · intro a
    rw [hsound.asked]
    split
    · exact Nat.le_refl 1
    · exact Nat.zero_le 1

/-- The decimals of the second token of a pool are refused. Its first token stays known, and is given
although the node is silent by now. -/
theorem token_known_from_failed_pool :
    let a : Address := ⟨0x4200⟩
    let told (n : Nat) : Response := .result (bytesValue (Word.toBytes (BitVec.ofNat 256 n)))
    let responses : List Response :=
      [told 0x4200, told 0x8335, told 500, told 18, .silence "timeout"]
    let b : Behaviour := fun h _ => responses[h.length]?.getD (.silence "gone")
    let s := after b none [.reading (.pool ⟨0xbb⟩)] .fresh
    s.history.length = 6 ∧ (a, ⟨a, 18, none⟩) ∈ tokensRead b (.pool ⟨0xbb⟩) .fresh ∧
      (Call.reading (.token a)).perform b none s = (some (.ok ⟨a, 18, none⟩), s) := by
  intro a told responses b s
  have hread : (a, ⟨a, 18, none⟩) ∈ tokensRead b (.pool ⟨0xbb⟩) .fresh := by
    decide +kernel
  obtain ⟨-, -, hlater, -⟩ := token_cache_invariant b none []
  exact ⟨by decide +kernel, hread, hlater (.pool ⟨0xbb⟩) a _ hread []⟩

end DexTrade.Node
