import DexTrade.Text.Lowercase
/-!
# Lowercase text stays as it is

Lowercasing a text looks at the neighbours of a sigma and writes two characters for one capital, so it is
no map over the characters. What it writes is nevertheless never replaced again, wherever it stands
(`isLowercase_of_mem_lowercaseAfter`), so lowercasing twice is lowercasing once
(`lowercase_lowercase`).

The case data is gone through once, each run against each (`leadsOut_of_mem`). Two runs may share a
stretch in which capitals and small letters take turns and still have no character in common.
-/
namespace DexTrade.Text

/-- First, last, step and shift. -/
abbrev Run := Nat × Nat × Nat × Int

/-- The characters that lowercasing replaces: those with a lowercase form of one character, and the
capital I with a dot. -/
def replacedRuns : List Run :=
  (0x130, 0x130, 1, 0) :: lowercaseRuns

def InRun (n : Nat) (run : Run) : Prop :=
  run.1 ≤ n ∧ n ≤ run.2.1 ∧ (n - run.1) % run.2.2.1 = 0

instance (n : Nat) (run : Run) : Decidable (InRun n run) :=
  inferInstanceAs (Decidable (_ ∧ _ ∧ _))

/-- No run has the character, so lowercasing keeps it wherever it stands. -/
def IsLowercase (c : Char) : Prop :=
  ∀ run ∈ replacedRuns, ¬InRun c.toNat run

instance (c : Char) : Decidable (IsLowercase c) :=
  inferInstanceAs (Decidable (∀ run ∈ replacedRuns, ¬InRun c.toNat run))

/-! ## What a run leads to -/

/-- The numbers of the lowercase forms of the first and the last character of a run. -/
def ends (run : Run) : Nat × Nat :=
  ((run.1 + run.2.2.2).toNat, (run.2.1 + run.2.2.2).toNat)

/-- All that lies between the ends is a character. -/
def AreChars (e : Nat × Nat) : Prop :=
  e.2 < 0xD800 ∨ 0xDFFF < e.1 ∧ e.2 < 0x110000

instance (e : Nat × Nat) : Decidable (AreChars e) :=
  inferInstanceAs (Decidable (_ ∨ _ ∧ _))

/-- Whether what lies between two ends misses a run: it lies before it, or behind it, or falls between
its steps. The last is only asked of numbers at even distances from the lower end. -/
def misses (e : Nat × Nat) (alike : Bool) (run : Run) : Bool :=
  e.2.blt run.1 || (run.2.1.blt e.1 ||
    (alike && (run.2.2.1 % 2 == 0 && (e.1 + run.1) % 2 == 1)))

/-- Whether the lowercase forms of a run are characters that no run has. -/
def leadsOut (run : Run) : Bool :=
  decide (0 ≤ run.1 + run.2.2.2) && (decide (AreChars (ends run)) &&
    replacedRuns.all (misses (ends run) (run.1 == run.2.1 || run.2.2.1 % 2 == 0)))

theorem not_inRun_of_misses {e : Nat × Nat} {alike : Bool} {run : Run} {n : Nat}
    (h : misses e alike run = true) (hlow : e.1 ≤ n) (hhigh : n ≤ e.2)
    (halike : alike = true → (n - e.1) % 2 = 0) : ¬InRun n run := by
  rintro ⟨hfirst, hlast, hstep⟩
  simp only [misses, Bool.or_eq_true, Bool.and_eq_true, Nat.blt_eq, beq_iff_eq] at h
  rcases h with hbefore | hbehind | ⟨ha, heven, hodd⟩
  · omega
  · omega
  · have hdistance := halike ha
    have hsteps : 2 ∣ n - run.1 :=
      Nat.dvd_trans (Nat.dvd_of_mod_eq_zero heven) (Nat.dvd_of_mod_eq_zero hstep)
    omega

theorem leadsOut_of_mem : lowercaseRuns.all leadsOut = true := by
  decide +kernel

theorem toNat_ofNat_of_isValidChar {n : Nat} (h : n.isValidChar) : (Char.ofNat n).toNat = n := by
  rw [Char.ofNat, dif_pos h]
  rfl

/-- The lowercase form of a character in a run is in none. -/
theorem isLowercase_of_inRun {run : Run} (hrun : run ∈ lowercaseRuns) {n : Nat} (hn : InRun n run) :
    IsLowercase (Char.ofNat (n + run.2.2.2).toNat) := by
  have hout := List.all_eq_true.1 leadsOut_of_mem run hrun
  simp only [leadsOut, Bool.and_eq_true, decide_eq_true_eq, List.all_eq_true] at hout
  obtain ⟨hpositive, hchars, hmisses⟩ := hout
  obtain ⟨hfirst, hlast, hstep⟩ := hn
  have hvalid : (n + run.2.2.2).toNat.isValidChar := by
    simp only [AreChars, ends] at hchars
    unfold Nat.isValidChar
    omega
  intro other hother
  rw [toNat_ofNat_of_isValidChar hvalid]
  refine not_inRun_of_misses (hmisses other hother) ?_ ?_ fun halike => ?_
  · simp only [ends]
    omega
  · simp only [ends]
    omega
  · have hsteps : 2 ∣ n - run.1 := by
      simp only [Bool.or_eq_true, beq_iff_eq] at halike
      rcases halike with hsingle | heven
      · exact ⟨0, by omega⟩
      · exact Nat.dvd_trans (Nat.dvd_of_mod_eq_zero heven) (Nat.dvd_of_mod_eq_zero hstep)
    simp only [ends]
    omega

/-! ## Characters -/

/-- A character in a run has the lowercase form of that run; one that is in none stays. -/
theorem lowercaseChar_cases (c : Char) :
    (∃ run ∈ lowercaseRuns, InRun c.toNat run ∧
      lowercaseChar c = Char.ofNat (c.toNat + run.2.2.2).toNat) ∨
    (∀ run ∈ lowercaseRuns, ¬InRun c.toNat run) ∧ lowercaseChar c = c := by
  unfold lowercaseChar
  dsimp only
  split
  · rename_i first last step shift hfind
    have hholds := List.find?_some hfind
    simp only [Bool.and_eq_true, decide_eq_true_eq, beq_iff_eq] at hholds
    obtain ⟨⟨hfirst, hlast⟩, hstep⟩ := hholds
    exact .inl ⟨_, List.mem_of_find?_eq_some hfind, ⟨hfirst, hlast, hstep⟩, rfl⟩
  · rename_i hnone
    refine .inr ⟨fun run hrun hn => ?_, rfl⟩
    have hmissing := List.find?_eq_none.1 hnone run hrun
    simp only [Bool.and_eq_true, decide_eq_true_eq, beq_iff_eq] at hmissing
    exact hmissing ⟨⟨hn.1, hn.2.1⟩, hn.2.2⟩

theorem isLowercase_lowercaseChar {c : Char} (h : c ≠ capitalDottedI) :
    IsLowercase (lowercaseChar c) := by
  rcases lowercaseChar_cases c with ⟨run, hrun, hn, hform⟩ | ⟨hnone, hform⟩
  · rw [hform]
    exact isLowercase_of_inRun hrun hn
  · rw [hform]
    intro run hrun hn
    rcases List.mem_cons.1 hrun with rfl | hrun
    · apply h
      have hnumber : c.toNat = capitalDottedI.toNat := Nat.le_antisymm hn.2.1 hn.1
      rw [← Char.ofNat_toNat c, hnumber]
      rfl
    · exact hnone run hrun hn

theorem lowercaseChar_of_isLowercase {c : Char} (h : IsLowercase c) : lowercaseChar c = c := by
  rcases lowercaseChar_cases c with ⟨run, hrun, hn, -⟩ | ⟨-, hform⟩
  · exact absurd hn (h run (List.mem_cons_of_mem _ hrun))
  · exact hform

theorem lowercaseAt_of_isLowercase {c : Char} (h : IsLowercase c) (before after : List Char) :
    lowercaseAt before c after = [c] := by
  have hsigma : c ≠ capitalSigma := by
    rintro rfl
    exact absurd h (by decide +kernel)
  have hdotted : c ≠ capitalDottedI := by
    rintro rfl
    exact absurd h (by decide +kernel)
  rw [lowercaseAt, if_neg hsigma, if_neg hdotted, lowercaseChar_of_isLowercase h]

theorem isLowercase_of_mem_lowercaseAt {before after : List Char} {c d : Char}
    (h : d ∈ lowercaseAt before c after) : IsLowercase d := by
  unfold lowercaseAt at h
  split at h
  · rw [List.mem_singleton] at h
    subst h
    split
    · decide +kernel
    · decide +kernel
  · rename_i hsigma
    split at h
    · simp only [List.mem_cons, List.not_mem_nil, or_false] at h
      rcases h with rfl | rfl
      · decide +kernel
      · decide +kernel
    · rename_i hdotted
      rw [List.mem_singleton] at h
      subst h
      exact isLowercase_lowercaseChar hdotted

/-! ## Texts -/

theorem isLowercase_of_mem_lowercaseAfter {before cs : List Char} {d : Char}
    (h : d ∈ lowercaseAfter before cs) : IsLowercase d := by
  induction cs generalizing before with
  | nil => exact nomatch h
  | cons c after ih =>
    rcases List.mem_append.1 h with hhere | hlater
    · exact isLowercase_of_mem_lowercaseAt hhere
    · exact ih hlater

theorem lowercaseAfter_of_isLowercase {before cs : List Char} (h : ∀ c ∈ cs, IsLowercase c) :
    lowercaseAfter before cs = cs := by
  induction cs generalizing before with
  | nil => rfl
  | cons c after ih =>
    have hc := lowercaseAt_of_isLowercase (h c List.mem_cons_self) before after
    rw [lowercaseAfter, hc, ih fun d hd => h d (List.mem_cons_of_mem c hd)]
    rfl

theorem lowercase_lowercase (s : String) : lowercase (lowercase s) = lowercase s := by
  unfold lowercase
  rw [String.toList_ofList,
    lowercaseAfter_of_isLowercase fun _ => isLowercase_of_mem_lowercaseAfter]

end DexTrade.Text
