import DexTrade.TxHash
/-!
# Texts that name a transaction

A text names a transaction exactly if it is a mark or none and 64 hexadecimal digits, with blanks around
that; the hash is the 32 bytes that the digits spell (`text_names_hash`). The length is asked for in bytes
and a second mark is looked for, but neither lets anything else in: a character of several bytes is no
digit, and behind a second mark there is room for 62 digits only (`ofDigits?_eq_some_iff`).
-/
namespace DexTrade

namespace Hex

/-! ## Digits of either case -/

/-- A hexadecimal digit of either case. -/
def IsDigit (c : Char) : Prop :=
  '0' ≤ c ∧ c ≤ '9' ∨ 'a' ≤ c ∧ c ≤ 'f' ∨ 'A' ≤ c ∧ c ≤ 'F'

/-- The digits spell the bytes, two digits a byte, each in lower or upper case. -/
def Spells (digits : List Char) (b : Bytes) : Prop :=
  digits.map Char.toLower = encode b

variable {c hi lo : Char} {n : Nat} {digits rest : List Char} {x : UInt8} {b tail : Bytes}

theorem isDigit_iff :
    IsDigit c ↔ 48 ≤ c.toNat ∧ c.toNat ≤ 57 ∨ 97 ≤ c.toNat ∧ c.toNat ≤ 102 ∨
      65 ≤ c.toNat ∧ c.toNat ≤ 70 :=
  Iff.rfl

theorem toNat_toLower (c : Char) :
    c.toLower.toNat = if 65 ≤ c.toNat ∧ c.toNat ≤ 90 then c.toNat + 32 else c.toNat := by
  unfold Char.toLower
  split
  · rename_i hupper
    have hrange : 65 ≤ c.toNat ∧ c.toNat ≤ 90 := hupper
    rw [if_pos hrange]
    change (c.val + 32).toNat = c.toNat + 32
    rw [UInt32.toNat_add]
    change (c.toNat + 32) % 4294967296 = c.toNat + 32
    omega
  · rename_i hother
    exact (if_neg hother).symm

theorem toNat_digit (h : n < 16) : (digit n).toNat = if n < 10 then 48 + n else 87 + n := by
  have hall : ∀ k : Fin 16,
      (digit k.val).toNat = if k.val < 10 then 48 + k.val else 87 + k.val := by decide
  exact hall ⟨n, h⟩

/-- A digit is read as the number whose digit it is in lower case. -/
theorem digitValue?_eq_some_iff : digitValue? c = some n ↔ n < 16 ∧ c.toLower = digit n := by
  have hdigit : n < 16 ∧ c.toLower = digit n ↔ n < 16 ∧
      (if 65 ≤ c.toNat ∧ c.toNat ≤ 90 then c.toNat + 32 else c.toNat) =
        if n < 10 then 48 + n else 87 + n := by
    refine and_congr_right fun hn => ?_
    rw [← Char.toNat_inj, toNat_toLower, toNat_digit hn]
  rw [hdigit, digitValue?]
  grind

theorem exists_digitValue?_iff : (∃ n, digitValue? c = some n) ↔ IsDigit c := by
  rw [← Option.isSome_iff_exists, isDigit_iff, digitValue?]
  grind

/-! ## Texts of digits -/

theorem encode_cons (x : UInt8) (b : Bytes) :
    encode (x :: b) = digit (x.toNat / 16) :: digit (x.toNat % 16) :: encode b :=
  rfl

theorem length_encode (b : Bytes) : (encode b).length = 2 * b.length := by
  induction b with
  | nil => rfl
  | cons x b ih =>
    rw [encode_cons, List.length_cons, List.length_cons, ih, List.length_cons]
    omega

theorem exists_digit_of_mem_encode (h : c ∈ encode b) : ∃ n < 16, c = digit n := by
  obtain ⟨x, -, hc⟩ := List.mem_flatMap.1 h
  have hx := x.toNat_lt
  simp only [encodeByte, List.mem_cons, List.not_mem_nil, or_false] at hc
  rcases hc with hhigh | hlow
  · exact ⟨_, by omega, hhigh⟩
  · exact ⟨_, by omega, hlow⟩

/-- The first byte takes two digits, what is behind them the other bytes. -/
theorem decode?_cons_eq_some_iff :
    decode? (hi :: lo :: rest) = some (x :: tail) ↔
      digitValue? hi = some (x.toNat / 16) ∧ digitValue? lo = some (x.toNat % 16) ∧
        decode? rest = some tail := by
  simp only [decode?, Option.bind_eq_bind, Option.bind_eq_some_iff, pure, Option.some.injEq,
    List.cons.injEq]
  constructor
  · rintro ⟨h, hhi, l, hlo, tail', htail, hx, rfl⟩
    obtain ⟨hh, -⟩ := digitValue?_eq_some_iff.1 hhi
    obtain ⟨hl, -⟩ := digitValue?_eq_some_iff.1 hlo
    have hvalue : x.toNat = 16 * h + l := by
      rw [← hx, UInt8.toNat_ofNat']
      omega
    rw [hhi, hlo, hvalue]
    exact ⟨congrArg some (by omega), congrArg some (by omega), htail⟩
  · rintro ⟨hhi, hlo, htail⟩
    have hsum : 16 * (x.toNat / 16) + x.toNat % 16 = x.toNat := by omega
    exact ⟨_, hhi, _, hlo, _, htail, by rw [hsum, UInt8.ofNat_toNat], rfl⟩

/-- Reading finds the bytes that are spelled, and no others. -/
theorem decode?_eq_some_iff : decode? digits = some b ↔ Spells digits b := by
  unfold Spells
  induction digits using decode?.induct generalizing b with
  | case1 =>
    cases b with
    | nil => simp [decode?, encode]
    | cons x tail => simp [decode?, encode_cons]
  | case2 c =>
    cases b with
    | nil => simp [decode?, encode]
    | cons x tail => simp [decode?, encode_cons]
  | case3 hi lo rest ih =>
    cases b with
    | nil => simp [decode?, encode, Option.bind_eq_some_iff]
    | cons x tail =>
      have hx := x.toNat_lt
      have hhigh : x.toNat / 16 < 16 := by omega
      have hlow : x.toNat % 16 < 16 := by omega
      rw [decode?_cons_eq_some_iff, ih, digitValue?_eq_some_iff, digitValue?_eq_some_iff,
        encode_cons]
      simp only [hhigh, hlow, true_and, List.map_cons, List.cons.injEq]

theorem Spells.length (h : Spells digits b) : digits.length = 2 * b.length := by
  rw [← length_encode, ← h, List.length_map]

theorem Spells.isDigit (h : Spells digits b) (hc : c ∈ digits) : IsDigit c := by
  have hmem : c.toLower ∈ encode b := h ▸ List.mem_map_of_mem hc
  obtain ⟨n, hn, hdigit⟩ := exists_digit_of_mem_encode hmem
  exact exists_digitValue?_iff.1 ⟨n, digitValue?_eq_some_iff.2 ⟨hn, hdigit⟩⟩

/-- An even number of digits always spells something. -/
theorem exists_spelled (hdigits : ∀ c ∈ digits, IsDigit c) (heven : digits.length % 2 = 0) :
    ∃ b, Spells digits b := by
  simp only [← decode?_eq_some_iff]
  induction digits using decode?.induct with
  | case1 => exact ⟨[], rfl⟩
  | case2 c => cases heven
  | case3 hi lo rest ih =>
    obtain ⟨h, hh⟩ := exists_digitValue?_iff.2 (hdigits hi (by simp))
    obtain ⟨l, hl⟩ := exists_digitValue?_iff.2 (hdigits lo (by simp))
    have heven' : rest.length % 2 = 0 := by
      rw [List.length_cons, List.length_cons] at heven
      omega
    obtain ⟨tail, htail⟩ := ih (fun c hc => hdigits c (by simp [hc])) heven'
    simp [decode?, hh, hl, htail]

/-- A byte string is spelled by its own digits, in lower case and in upper case. -/
theorem spells_encode (b : Bytes) :
    ∀ digits ∈ [encode b, (encode b).map Char.toUpper], Spells digits b := by
  have hcase : ∀ k : Fin 16, (digit k.val).toLower = digit k.val ∧
      (digit k.val).toUpper.toLower = digit k.val := by decide
  rw [List.forall_mem_cons, List.forall_mem_singleton, Spells, Spells, List.map_map]
  constructor
  · refine (List.map_congr_left fun c hc => ?_).trans (List.map_id _)
    obtain ⟨n, hn, rfl⟩ := exists_digit_of_mem_encode hc
    exact (hcase ⟨n, hn⟩).1
  · refine (List.map_congr_left fun c hc => ?_).trans (List.map_id _)
    obtain ⟨n, hn, rfl⟩ := exists_digit_of_mem_encode hc
    exact (hcase ⟨n, hn⟩).2

/-! ## Marks -/

/-- What may stand in front of the digits. -/
def marks : List (List Char) := [[], ['0', 'x'], ['0', 'X']]

theorem exists_mark (cs : List Char) : ∃ mark ∈ marks, cs = mark ++ dropMark cs := by
  unfold dropMark
  split
  · exact ⟨['0', 'x'], by simp [marks], rfl⟩
  · exact ⟨['0', 'X'], by simp [marks], rfl⟩
  · exact ⟨[], by simp [marks], rfl⟩

/-- The letter of a mark is no digit, so nothing is taken off digits. -/
theorem dropMark_append {mark : List Char} (hmark : mark ∈ marks)
    (hdigits : ∀ c ∈ digits, IsDigit c) : dropMark (mark ++ digits) = digits := by
  simp only [marks, List.mem_cons, List.not_mem_nil, or_false] at hmark
  rcases hmark with rfl | rfl | rfl
  · rw [List.nil_append]
    unfold dropMark
    split
    · exact absurd (isDigit_iff.1 (hdigits 'x' (by simp))) (by decide)
    · exact absurd (isDigit_iff.1 (hdigits 'X' (by simp))) (by decide)
    · rfl
  · rfl
  · rfl

theorem parseFixed?_eq_some_iff {width : Nat} :
    parseFixed? width digits = some b ↔ Spells (dropMark digits) b ∧ b.length = width := by
  rw [parseFixed?, parse?, Option.filter_eq_some_iff, decode?_eq_some_iff, decide_eq_true_eq]

end Hex

namespace Text

/-! ## Blanks around a text -/

variable {before core after : List Char}

theorem dropWhile_blanks (hbefore : ∀ c ∈ before, isBlank c) (hcore : ∀ c ∈ core, ¬isBlank c)
    (hne : core ≠ []) : (before ++ (core ++ after)).dropWhile isBlank = core ++ after := by
  rw [List.dropWhile_append_of_pos hbefore]
  cases core with
  | nil => exact absurd rfl hne
  | cons c rest => exact List.dropWhile_cons_of_neg (hcore c List.mem_cons_self)

/-- Blanks around a text without blanks are taken off. -/
theorem trimmed_of_blanks (hbefore : ∀ c ∈ before, isBlank c) (hafter : ∀ c ∈ after, isBlank c)
    (hcore : ∀ c ∈ core, ¬isBlank c) (hne : core ≠ []) :
    trimmed (before ++ (core ++ after)) = core := by
  have hreverse : (after.reverse ++ (core.reverse ++ [])).dropWhile isBlank = core.reverse ++ [] :=
    dropWhile_blanks (by simpa using hafter) (by simpa using hcore) (by simpa using hne)
  rw [List.append_nil] at hreverse
  rw [trimmed, trimStart, dropWhile_blanks hbefore hcore hne, trimEnd, List.reverse_append, hreverse,
    List.reverse_reverse]

/-- Only blanks are taken off. -/
theorem exists_blanks (cs : List Char) :
    ∃ before after, cs = before ++ (trimmed cs ++ after) ∧ (∀ c ∈ before, isBlank c) ∧
      ∀ c ∈ after, isBlank c := by
  refine ⟨cs.takeWhile isBlank, ((trimStart cs).reverse.takeWhile isBlank).reverse, ?_,
    List.all_eq_true.1 List.all_takeWhile,
    fun c hc => List.all_eq_true.1 List.all_takeWhile c (List.mem_reverse.1 hc)⟩
  rw [trimmed, trimEnd, ← List.reverse_append, List.takeWhile_append_dropWhile, List.reverse_reverse,
    trimStart, List.takeWhile_append_dropWhile]

theorem not_isBlank_of_isDigit {c : Char} (h : Hex.IsDigit c) : ¬isBlank c := by
  rw [Hex.isDigit_iff] at h
  unfold isBlank
  simp only [Bool.or_eq_true, Bool.and_eq_true, decide_eq_true_eq, beq_iff_eq]
  omega

end Text

theorem Word.toBytes_ofBytes {b : Bytes} (h : b.length = 32) : (ofBytes b).toBytes = b := by
  have hfits : b.value < 2 ^ 256 := Bytes.value_lt h
  rw [ofBytes, toBytes, BitVec.toNat_ofNat, Nat.mod_eq_of_lt hfits, Bytes.ofNat_value h]

namespace TxHash

/-! ## Hashes -/

/-- The text is a mark or none and 64 digits, with blanks before and behind. -/
structure Written (given digits : List Char) : Prop where
  around : ∃ before mark after, given = before ++ (mark ++ digits ++ after) ∧ mark ∈ Hex.marks ∧
    (∀ c ∈ before, Text.isBlank c) ∧ ∀ c ∈ after, Text.isBlank c
  length : digits.length = 64
  digit : ∀ c ∈ digits, Hex.IsDigit c

variable {given : String} {digits : List Char} {h : TxHash} {b : Bytes}

theorem Written.trimmed (hwritten : Written given.toList digits) :
    Hex.dropMark (Text.trimmed given.toList) = digits := by
  obtain ⟨⟨before, mark, after, hgiven, hmark, hbefore, hafter⟩, hlength, hdigits⟩ := hwritten
  have hmarks : ∀ mark ∈ Hex.marks, ∀ c ∈ mark, ¬Text.isBlank c := by
    simp [Hex.marks, Text.isBlank]
  have hcore : ∀ c ∈ mark ++ digits, ¬Text.isBlank c := by
    intro c hc
    rcases List.mem_append.1 hc with hc | hc
    · exact hmarks mark hmark c hc
    · exact Text.not_isBlank_of_isDigit (hdigits c hc)
  have hne : mark ++ digits ≠ [] := by
    intro hnil
    rw [(List.append_eq_nil_iff.1 hnil).2] at hlength
    cases hlength
  rw [hgiven, Text.trimmed_of_blanks hbefore hafter hcore hne, Hex.dropMark_append hmark hdigits]

theorem length_le_byteLength (cs : List Char) : cs.length ≤ byteLength cs := by
  induction cs with
  | nil => exact Nat.zero_le _
  | cons c cs ih =>
    have hc := c.utf8Size_pos
    rw [List.length_cons, byteLength]
    omega

/-- Digits are bytes. -/
theorem byteLength_of_isDigit (hdigits : ∀ c ∈ digits, Hex.IsDigit c) :
    byteLength digits = digits.length := by
  induction digits with
  | nil => rfl
  | cons c rest ih =>
    have hdigit := Hex.isDigit_iff.1 (hdigits c List.mem_cons_self)
    have hone : c.utf8Size = 1 := by
      rw [Char.utf8Size_eq_one_iff]
      change c.toNat ≤ 127
      omega
    rw [byteLength, hone, ih fun d hd => hdigits d (List.mem_cons_of_mem _ hd), List.length_cons,
      Nat.add_comm]

theorem length_of_spells (hspells : Hex.Spells digits h.toBytes) : digits.length = 64 := by
  rw [hspells.length, toBytes, Word.length_toBytes]

/-- Of 64 bytes, the digits are those that spell the hash themselves: behind a mark they are too few. -/
theorem ofDigits?_eq_some_iff (hbytes : byteLength digits = 64) :
    ofDigits? digits = some h ↔ Hex.Spells digits h.toBytes := by
  have hread : ofDigits? digits = some h ↔ Hex.Spells (Hex.dropMark digits) h.toBytes := by
    simp only [ofDigits?, Option.map_eq_some_iff, Hex.parseFixed?_eq_some_iff]
    constructor
    · rintro ⟨b, ⟨hspells, hlength⟩, rfl⟩
      rwa [toBytes, Word.toBytes_ofBytes hlength]
    · intro hspells
      refine ⟨h.toBytes, ⟨hspells, Word.length_toBytes h.word⟩, ?_⟩
      rw [toBytes, Word.ofBytes_toBytes]
  rw [hread]
  constructor
  · intro hspells
    obtain ⟨mark, -, hmarked⟩ := Hex.exists_mark digits
    have hlength := length_of_spells hspells
    have hmost := length_le_byteLength digits
    have hsum := congrArg List.length hmarked
    rw [List.length_append] at hsum
    obtain rfl : mark = [] := List.eq_nil_of_length_eq_zero (by omega)
    rw [List.nil_append] at hmarked
    rwa [← hmarked] at hspells
  · intro hspells
    have hbare : Hex.dropMark ([] ++ digits) = digits :=
      Hex.dropMark_append (by simp [Hex.marks]) fun c => hspells.isDigit
    rw [List.nil_append] at hbare
    rwa [hbare]

/-- What is read has 64 digits between blanks and a mark. -/
theorem written_of_trimmed
    (hspells : Hex.Spells (Hex.dropMark (Text.trimmed given.toList)) h.toBytes) :
    Written given.toList (Hex.dropMark (Text.trimmed given.toList)) := by
  obtain ⟨before, after, hgiven, hbefore, hafter⟩ := Text.exists_blanks given.toList
  obtain ⟨mark, hmark, hcore⟩ := Hex.exists_mark (Text.trimmed given.toList)
  refine ⟨⟨before, mark, after, ?_, hmark, hbefore, hafter⟩, length_of_spells hspells,
    fun c => hspells.isDigit⟩
  rw [← hcore]
  exact hgiven

theorem ofText_eq_ok_iff :
    ofText given = .ok h ↔ ∃ digits, Written given.toList digits ∧ Hex.Spells digits h.toBytes := by
  unfold ofText
  dsimp only
  constructor
  · intro hok
    split at hok
    · rename_i hbytes
      split at hok
      · rename_i found hfound
        obtain rfl := Except.ok.inj hok
        have hspells := (ofDigits?_eq_some_iff hbytes).1 hfound
        exact ⟨_, written_of_trimmed hspells, hspells⟩
      · cases hok
    · cases hok
  · rintro ⟨digits, hwritten, hspells⟩
    have hbytes : byteLength digits = 64 := by
      rw [byteLength_of_isDigit hwritten.digit, hwritten.length]
    rw [hwritten.trimmed, if_pos hbytes, (ofDigits?_eq_some_iff hbytes).2 hspells]

/-- A text that names no transaction is given back as it was. -/
theorem ofText_cases (given : String) :
    (∃ h, ofText given = .ok h) ∨ ofText given = .error (.text given) := by
  unfold ofText
  dsimp only
  split
  · split
    · exact .inl ⟨_, rfl⟩
    · exact .inr rfl
  · exact .inr rfl

/-- Any 64 digits spell a hash. -/
theorem exists_ofText (hwritten : Written given.toList digits) : ∃ h, ofText given = .ok h := by
  have hlength := hwritten.length
  obtain ⟨b, hspells⟩ := Hex.exists_spelled hwritten.digit (by omega)
  have hbytes : b.length = 32 := by
    have := hspells.length
    omega
  refine ⟨⟨Word.ofBytes b⟩, ofText_eq_ok_iff.2 ⟨digits, hwritten, ?_⟩⟩
  rwa [toBytes, Word.toBytes_ofBytes hbytes]

theorem ofText_eq_error_iff {e : Problem} :
    ofText given = .error e ↔ (¬∃ digits, Written given.toList digits) ∧ e = .text given := by
  constructor
  · intro herror
    rcases ofText_cases given with ⟨h, hok⟩ | hgiven
    · rw [hok] at herror
      cases herror
    · refine ⟨fun ⟨digits, hwritten⟩ => ?_, Except.error.inj (herror.symm.trans hgiven)⟩
      obtain ⟨h, hok⟩ := exists_ofText hwritten
      rw [hok] at herror
      cases herror
  · rintro ⟨hnone, rfl⟩
    rcases ofText_cases given with ⟨h, hok⟩ | hgiven
    · obtain ⟨digits, hwritten, -⟩ := ofText_eq_ok_iff.1 hok
      exact absurd ⟨digits, hwritten⟩ hnone
    · exact hgiven

theorem ofBytes_eq_ok_iff : ofBytes b = .ok h ↔ b.length = 32 ∧ h.toBytes = b := by
  unfold ofBytes
  split
  · rename_i hlength
    rw [Except.ok.injEq]
    constructor
    · rintro rfl
      exact ⟨hlength, Word.toBytes_ofBytes hlength⟩
    · rintro ⟨-, rfl⟩
      rw [toBytes, Word.ofBytes_toBytes]
  · rename_i hlength
    simp [hlength]

/-- What names a transaction. A text is read if it is a mark or none and 64 digits, blanks around it not
counted, as the bytes that the digits spell; any other text is refused and given back as it was, and whose
text it is makes no difference. A byte string is read if it is 32 bytes, as these. Every hash is read from
its digits in lower or upper case, with a mark or without one, whatever blanks stand around it. -/
theorem text_names_hash :
    (∀ (given : String) (h : TxHash), (Name.text given).read = .ok h ↔
      ∃ digits, Written given.toList digits ∧ Hex.Spells digits h.toBytes) ∧
    (∀ (given : String) (e : Problem), (Name.text given).read = .error e ↔
      (¬∃ digits, Written given.toList digits) ∧ e = .text given) ∧
    (∀ given : String, (Name.ownedText given).read = (Name.text given).read ∧
      (Name.lentText given).read = (Name.text given).read) ∧
    (∀ b : Bytes, (∀ h, (Name.bytes b).read = .ok h ↔ b.length = 32 ∧ h.toBytes = b) ∧
      (b.length = 32 → ∃ h, (Name.bytes b).read = .ok h) ∧
      (b.length ≠ 32 → (Name.bytes b).read = .error (.byteCount b.length))) ∧
    ∀ (h : TxHash) (before mark after : List Char), mark ∈ Hex.marks →
      (∀ c ∈ before, Text.isBlank c) → (∀ c ∈ after, Text.isBlank c) →
      ∀ digits ∈ [Hex.encode h.toBytes, (Hex.encode h.toBytes).map Char.toUpper],
        (Name.text (String.ofList (before ++ (mark ++ digits ++ after)))).read = .ok h := by
  refine ⟨fun _ _ => ofText_eq_ok_iff, fun _ _ => ofText_eq_error_iff, fun _ => ⟨rfl, rfl⟩,
    fun b => ⟨fun h => ofBytes_eq_ok_iff, fun hlength => ?_, fun hlength => if_neg hlength⟩, ?_⟩
  · exact ⟨_, if_pos hlength⟩
  · intro h before mark after hmark hbefore hafter digits hdigits
    have hspells := Hex.spells_encode h.toBytes digits hdigits
    refine ofText_eq_ok_iff.2
      ⟨digits, ⟨?_, length_of_spells hspells, fun c => hspells.isDigit⟩, hspells⟩
    exact ⟨before, mark, after, String.toList_ofList, hmark, hbefore, hafter⟩

/-- A hash in upper case behind a mark, with blanks of three kinds around it. A second mark in the place of
two digits is refused. -/
theorem hash_in_upper_case_between_blanks :
    let h : TxHash := ⟨0xe3e1a99274369608be9453084435f9d67464088c4cb10537ea952b0016a26245⟩
    (Name.text "\u3000 0XE3E1A99274369608BE9453084435F9D67464088C4CB10537EA952B0016A26245\n").read =
        .ok h ∧
      ¬∃ digits, Written
        "0x0xe3e1a99274369608be9453084435f9d67464088c4cb10537ea952b0016a262".toList digits := by
  intro h
  obtain ⟨-, hrefused, -, -, hread⟩ := text_names_hash
  constructor
  · have hupper := hread h ['\u3000', ' '] ['0', 'X'] ['\n'] (by decide)
      (by simp [Text.isBlank]) (by simp [Text.isBlank]) ((Hex.encode h.toBytes).map Char.toUpper)
      (by simp)
    have htext : String.ofList
        (['\u3000', ' '] ++ (['0', 'X'] ++ (Hex.encode h.toBytes).map Char.toUpper ++ ['\n'])) =
        "\u3000 0XE3E1A99274369608BE9453084435F9D67464088C4CB10537EA952B0016A26245\n" := by
      decide +kernel
    rwa [htext] at hupper
  · exact ((hrefused _ _).1 (by rfl)).1

end TxHash

end DexTrade
