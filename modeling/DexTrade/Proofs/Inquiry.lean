import DexTrade.Inquiry
/-!
# Runs of inquiries

What a run comes to, put together from the runs of the parts of an inquiry, and what all results of
an inquiry have in common whatever is answered. The journal has no part in either: an entry that can
be written changes nothing but the lines of a run.
-/
namespace DexTrade

/-- A run without its journal: the result, the questions in order and the state after them. -/
structure Outcome (S : Source) (α σ : Type) where
  result : Option α
  asked : List S.Question
  state : σ

/-- Goes on with the result, if there is one. -/
def Outcome.andThen {S : Source} {α β σ : Type} (o : Outcome S α σ)
    (next : α → σ → Outcome S β σ) : Outcome S β σ :=
  match o.result with
  | none => ⟨none, o.asked, o.state⟩
  | some a => ⟨(next a o.state).result, o.asked ++ (next a o.state).asked, (next a o.state).state⟩

theorem Outcome.andThen_some {S : Source} {α β σ : Type} (a : α) (asked : List S.Question) (s : σ)
    (next : α → σ → Outcome S β σ) :
    (⟨some a, asked, s⟩ : Outcome S α σ).andThen next =
      ⟨(next a s).result, asked ++ (next a s).asked, (next a s).state⟩ :=
  rfl

/-- An entry has a text, so a run never breaks off at it. -/
def Entry.Writable (e : Entry) : Prop := e.text.isSome

theorem Entry.writable_singleton {e : Entry} (h : e.Writable) : ∀ e' ∈ [e], e'.Writable := by
  intro e' he'
  rwa [List.mem_singleton.1 he']

namespace Inquiry

variable {S : Source} {α β σ : Type}

def outcome (answer : (q : S.Question) → σ → S.Answer q × σ) (limit : Option Level)
    (i : Inquiry S α) (s : σ) : Outcome S α σ :=
  ⟨(run answer limit i s).1.result, (run answer limit i s).1.asked, (run answer limit i s).2⟩

section Outcome

variable (answer : (q : S.Question) → σ → S.Answer q × σ) (limit : Option Level)

theorem outcome_ask (q : S.Question) (next : S.Answer q → Inquiry S α) (s : σ) :
    outcome answer limit (.ask q next) s =
      ⟨(outcome answer limit (next (answer q s).1) (answer q s).2).result,
        q :: (outcome answer limit (next (answer q s).1) (answer q s).2).asked,
        (outcome answer limit (next (answer q s).1) (answer q s).2).state⟩ :=
  rfl

theorem outcome_note {e : Entry} (next : Inquiry S α) (s : σ) :
    outcome answer limit (.note e next) s =
      if e.level.isShown limit ∧ e.text = none then ⟨none, [], s⟩
      else outcome answer limit next s := by
  unfold outcome
  rw [run]
  by_cases hshown : e.level.isShown limit = true
  · cases htext : e.text with
    | none => simp [hshown, Entry.line, htext]
    | some text => simp [hshown, Entry.line, htext]
  · simp [hshown]

theorem outcome_bind (i : Inquiry S α) (f : α → Inquiry S β) (s : σ) :
    outcome answer limit (i >>= f) s =
      (outcome answer limit i s).andThen fun a s => outcome answer limit (f a) s := by
  change outcome answer limit (i.bind f) s = _
  induction i generalizing s with
  | done a => rfl
  | ask q next ih =>
    rw [Inquiry.bind, outcome_ask, ih, outcome_ask]
    unfold Outcome.andThen
    cases (outcome answer limit (next (answer q s).1) (answer q s).2).result with
    | none => rfl
    | some a => rfl
  | note e next ih =>
    rw [Inquiry.bind, outcome_note, outcome_note, ih]
    by_cases hbroken : e.level.isShown limit = true ∧ e.text = none
    · rw [if_pos hbroken, if_pos hbroken]
      rfl
    · rw [if_neg hbroken, if_neg hbroken]

theorem outcome_write {entries : List Entry} (h : ∀ e ∈ entries, e.Writable) (s : σ) :
    outcome answer limit (write entries : Inquiry S Unit) s = ⟨some (), [], s⟩ := by
  induction entries with
  | nil => rfl
  | cons e rest ih =>
    have htext : e.text ≠ none := Option.isSome_iff_ne_none.1 (h e List.mem_cons_self)
    rw [write, outcome_note, if_neg fun hbroken => htext hbroken.2]
    exact ih fun e he => h e (List.mem_cons_of_mem _ he)

end Outcome

/-! ## All results -/

/-- Every result of an inquiry has a property, whatever the answers are. -/
def Always (P : α → Prop) : Inquiry S α → Prop
  | .done a => P a
  | .ask _ next => ∀ answer, Always P (next answer)
  | .note _ next => Always P next

theorem Always.bind {P : α → Prop} {Q : β → Prop} {i : Inquiry S α} {f : α → Inquiry S β}
    (hi : i.Always P) (hf : ∀ a, P a → (f a).Always Q) : (i >>= f).Always Q := by
  change (i.bind f).Always Q
  induction i with
  | done a => exact hf a hi
  | ask q next ih => exact fun answer => ih answer (hi answer)
  | note e next ih => exact ih hi

theorem Always.and {P Q : α → Prop} {i : Inquiry S α} (hP : i.Always P) (hQ : i.Always Q) :
    i.Always fun a => P a ∧ Q a := by
  induction i with
  | done a => exact ⟨hP, hQ⟩
  | ask q next ih => exact fun answer => ih answer (hP answer) (hQ answer)
  | note e next ih => exact ih hP hQ

theorem always_true (i : Inquiry S α) : i.Always fun _ => True := by
  induction i with
  | done a => trivial
  | ask q next ih => exact ih
  | note e next ih => exact ih

/-- What all results have in common, the result of any one run has. -/
theorem Always.result {P : α → Prop} {i : Inquiry S α} (h : i.Always P)
    {answer : (q : S.Question) → σ → S.Answer q × σ} {limit : Option Level} {s : σ} {a : α}
    (hresult : (outcome answer limit i s).result = some a) : P a := by
  induction i generalizing s with
  | done b =>
    obtain rfl : b = a := Option.some.inj hresult
    exact h
  | ask q next ih => exact ih _ (h _) hresult
  | note e next ih =>
    rw [outcome_note] at hresult
    by_cases hbroken : e.level.isShown limit = true ∧ e.text = none
    · rw [if_pos hbroken] at hresult
      exact nomatch hresult
    · rw [if_neg hbroken] at hresult
      exact ih h hresult

/-! ## Inquiries without a journal -/

/-- The value of an inquiry and the state after it, where nobody reads the journal. -/
def conclude (answer : (q : S.Question) → σ → S.Answer q × σ) : Inquiry S α → σ → α × σ
  | .done a, s => (a, s)
  | .ask q next, s => conclude answer (next (answer q s).1) (answer q s).2
  | .note _ next, s => conclude answer next s

theorem conclude_bind (answer : (q : S.Question) → σ → S.Answer q × σ) (i : Inquiry S α)
    (f : α → Inquiry S β) (s : σ) :
    conclude answer (i >>= f) s =
      conclude answer (f (conclude answer i s).1) (conclude answer i s).2 := by
  change conclude answer (i.bind f) s = _
  induction i generalizing s with
  | done a => rfl
  | ask q next ih => exact ih _ _
  | note e next ih => exact ih s

/-- Every entry can be written, whatever is answered. -/
def IsWritable : Inquiry S α → Prop
  | .done _ => True
  | .ask _ next => ∀ answer, IsWritable (next answer)
  | .note e next => e.Writable ∧ IsWritable next

theorem IsWritable.bind {i : Inquiry S α} {f : α → Inquiry S β} (hi : i.IsWritable)
    (hf : ∀ a, (f a).IsWritable) : (i >>= f).IsWritable := by
  change (i.bind f).IsWritable
  induction i with
  | done a => exact hf a
  | ask q next ih => exact fun answer => ih answer (hi answer)
  | note e next ih => exact ⟨hi.1, ih hi.2⟩

/-- A run that never breaks off has the value that the inquiry has without its journal. -/
theorem IsWritable.outcome {i : Inquiry S α} (h : i.IsWritable)
    (answer : (q : S.Question) → σ → S.Answer q × σ) (limit : Option Level) (s : σ) :
    (outcome answer limit i s).result = some (conclude answer i s).1 ∧
      (outcome answer limit i s).state = (conclude answer i s).2 := by
  induction i generalizing s with
  | done a => exact ⟨rfl, rfl⟩
  | ask q next ih => exact ih _ (h _) _
  | note e next ih =>
    have htext : e.text ≠ none := Option.isSome_iff_ne_none.1 h.1
    rw [outcome_note, if_neg fun hbroken => htext hbroken.2]
    exact ih h.2 s

/-- A run breaks off only for a reader. -/
theorem result_ne_none_of_unread (answer : (q : S.Question) → σ → S.Answer q × σ)
    (i : Inquiry S α) (s : σ) : (outcome answer none i s).result ≠ none := by
  induction i generalizing s with
  | done a => exact Option.some_ne_none a
  | ask q next ih => exact ih _ _
  | note e next ih =>
    rw [outcome_note, if_neg fun hbroken => Bool.false_ne_true hbroken.1]
    exact ih s

/-- A run that never breaks off puts the same questions whoever reads the journal. -/
theorem IsWritable.outcome_congr {i : Inquiry S α} (h : i.IsWritable)
    (answer : (q : S.Question) → σ → S.Answer q × σ) (limit limit' : Option Level) (s : σ) :
    Inquiry.outcome answer limit i s = Inquiry.outcome answer limit' i s := by
  induction i generalizing s with
  | done a => rfl
  | ask q next ih => rw [outcome_ask, outcome_ask, ih _ (h _)]
  | note e next ih =>
    have htext : e.text ≠ none := Option.isSome_iff_ne_none.1 h.1
    rw [outcome_note, outcome_note, if_neg fun hbroken => htext hbroken.2,
      if_neg fun hbroken => htext hbroken.2]
    exact ih h.2 s

/-- Where an invariant of the state fixes the answers, the result is that of the fixed answers. -/
theorem result_eq_runFixed {answer : (q : S.Question) → σ → S.Answer q × σ}
    {fixed : (q : S.Question) → S.Answer q} {P : σ → Prop}
    (h : ∀ q s, P s → (answer q s).1 = fixed q ∧ P (answer q s).2) (limit : Option Level)
    (i : Inquiry S α) {s : σ} (hs : P s) :
    (outcome answer limit i s).result = (runFixed fixed limit i).result ∧
      P (outcome answer limit i s).state := by
  change _ = (outcome (fun q (_ : Unit) => (fixed q, ())) limit i ()).result ∧ _
  induction i generalizing s with
  | done a => exact ⟨rfl, hs⟩
  | ask q next ih =>
    obtain ⟨hanswer, hs'⟩ := h q s hs
    rw [outcome_ask, outcome_ask, hanswer]
    exact ih _ hs'
  | note e next ih =>
    rw [outcome_note, outcome_note]
    split
    · exact ⟨rfl, hs⟩
    · exact ih hs

end Inquiry

end DexTrade
