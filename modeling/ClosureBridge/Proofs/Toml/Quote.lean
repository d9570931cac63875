import ClosureBridge.Toml.Quote
import Mathlib.Tactic.ByContra

/-!
# What stands between quotes is read back

A text ends where as many quotes as opened it stand in a row. An escaped text never has that many:
the third of three, and in a short text every one, is written as an escape. A text that stands as it
is was looked through for its longest run before the quotes around it were chosen. So in both cases
the reader, which goes by the run that starts at each character, stops at the closing quotes only.

## Main statements

* `Quote.close?_replicate`, `Quote.close?_eq_none`: which runs of quotes end a text.
* `Quote.readEscaped_escapeText`: an escaped text is read back.
* `Quote.readVerbatim_append`: a text that stands as it is is read back.
* `Quote.read?_write`: what is written between quotes is read back, whatever its characters are.
* `Quote.isCountable_eq_false_iff`: the runs of quotes that are too long to be counted.
-/

namespace ClosureBridge.Toml.Quote

variable {q : Quote} {c : Char} {text rest more : List Char} {long : Bool} {r quotes : Nat}

/-! ### Closing quotes -/

theorem takeWhile_of_head (h : more.head? ≠ some c) : more.takeWhile (· == c) = [] := by
  cases more with
  | nil => rfl
  | cons d more => exact List.takeWhile_cons_of_neg (by simpa using h)

/-- The closing quotes end a text, in a long one together with up to two quotes before them. -/
theorem close?_replicate (hr : r ≤ if q.long then 2 else 0) (hrest : rest.head? ≠ some q.mark) :
    close? q (List.replicate r q.mark ++ (List.replicate q.width q.mark ++ rest)) =
      some (List.replicate r q.mark, rest) := by
  have hrun : ((List.replicate r q.mark ++ (List.replicate q.width q.mark ++ rest)).takeWhile
      (· == q.mark)).length = r + q.width := by
    simp [takeWhile_of_head hrest]
  have hextra : (if q.long then min (r + q.width - q.width) 2 else 0) = r := by
    split at hr <;> split <;> simp_all
  rw [close?]
  dsimp only
  rw [hrun, if_neg (by omega), hextra, List.take_left' (by simp), ← List.append_assoc,
    List.drop_left' (by simp)]

/-- Fewer quotes do not. -/
theorem close?_eq_none (hr : r < q.width) (hc : c ≠ q.mark) :
    close? q (List.replicate r q.mark ++ c :: more) = none := by
  have hmore : (c :: more).takeWhile (· == q.mark) = [] := takeWhile_of_head (by simpa using hc)
  have hrun : ((List.replicate r q.mark ++ c :: more).takeWhile (· == q.mark)).length = r := by
    simp [hmore]
  rw [close?]
  dsimp only
  rw [hrun, if_pos hr]

/-- Another character than a quote is no closing quote. -/
theorem close?_cons (hc : c ≠ q.mark) : close? q (c :: more) = none := by
  have hwidth : 0 < q.width := by
    rw [width]
    split <;> decide
  have h := @close?_eq_none q c more 0 hwidth hc
  rwa [List.replicate_zero, List.nil_append] at h

/-! ### Escapes -/

theorem scalar?_toNat (c : Char) : scalar? c.toNat = some c := by
  rw [scalar?, Char.ofNat_toNat]
  exact if_pos c.valid

theorem readEscaped_code {owed value d : Nat} (hd : d < 16) (howed : ¬owed ≤ 1) :
    readEscaped long (.code owed value) (Radix.hexDigit d :: more) =
      readEscaped long (.code (owed - 1) (16 * value + d)) more := by
  rw [readEscaped, Radix.digit?_hexDigit d hd]
  exact if_neg howed

theorem readEscaped_code_last {value d : Nat} (hd : d < 16) (hc : 16 * value + d = c.toNat) :
    readEscaped long (.code 1 value) (Radix.hexDigit d :: more) =
      push c (readEscaped long .plain more) := by
  rw [readEscaped, Radix.digit?_hexDigit d hd]
  change (do
    let c ← scalar? (16 * value + d)
    push c (readEscaped long .plain more) : Option _) = _
  rw [hc, scalar?_toNat]
  rfl

/-- The four digits of a code point are read as its character. -/
theorem readEscaped_fourDigits (hc : c.toNat < 65536) :
    readEscaped long (.code 4 0) (fourDigits c.toNat ++ more) =
      push c (readEscaped long .plain more) := by
  have hvalue : 16 * (16 * (16 * (16 * 0 + c.toNat / 4096 % 16) + c.toNat / 256 % 16) +
      c.toNat / 16 % 16) + c.toNat % 16 = c.toNat := by omega
  change readEscaped long (.code 4 0) (Radix.hexDigit (c.toNat / 4096 % 16) ::
    Radix.hexDigit (c.toNat / 256 % 16) :: Radix.hexDigit (c.toNat / 16 % 16) ::
      Radix.hexDigit (c.toNat % 16) :: more) = _
  rw [readEscaped_code (Nat.mod_lt _ (by decide)) (by decide),
    readEscaped_code (Nat.mod_lt _ (by decide)) (by decide),
    readEscaped_code (Nat.mod_lt _ (by decide)) (by decide)]
  exact readEscaped_code_last (Nat.mod_lt _ (by decide)) hvalue

/-- An escape is read as the character that it stands for. -/
theorem readEscaped_escape (hc : c.toNat < 65536) :
    readEscaped long .plain (escape c ++ more) = push c (readEscaped long .plain more) := by
  have hclose (more : List Char) : close? ⟨false, long⟩ ('\\' :: more) = none :=
    close?_cons (by simp [mark])
  rw [escape]
  cases hletter : escapeLetter? c with
  | some letter =>
    have hunescape := unescape?_of_escapeLetter? hletter
    have hu : letter ≠ 'u' := by
      rintro rfl
      cases hunescape
    have hU : letter ≠ 'U' := by
      rintro rfl
      cases hunescape
    change readEscaped long .plain ('\\' :: letter :: more) = _
    rw [readEscaped, hclose, hunescape]
    · rfl
    · exact nofun
    · exact hu
    · exact hU
  | none =>
    change readEscaped long .plain ('\\' :: 'u' :: (fourDigits c.toNat ++ more)) = _
    simp [readEscaped, hclose, readEscaped_fourDigits hc]

/-- Another character than a backslash or a quote is read as it is. -/
theorem readEscaped_cons (hc : c ≠ '\\') (hreturn : c ≠ '\r')
    (hclose : close? ⟨false, long⟩ (c :: more) = none)
    (hshown : Blank.isShown c = true ∨ long = true ∧ c = '\n') :
    readEscaped long .plain (c :: more) = push c (readEscaped long .plain more) := by
  simp [readEscaped, hc, hreturn, hclose, hshown]

/-- What ends a text is its end. -/
theorem readEscaped_of_close? {done : List Char × List Char}
    (h : close? ⟨false, long⟩ text = some done) : readEscaped long .plain text = some done := by
  cases text with
  | nil =>
    cases long <;> cases h
  | cons c more =>
    have hc : c = '"' := by
      by_contra hc
      rw [close?_cons (q := ⟨false, long⟩) hc] at h
      cases h
    subst hc
    simp [readEscaped, h]

/-- What is written without an escape is read as it is. -/
theorem of_needsEscape_eq_false (h : needsEscape long quotes c = false) :
    c ≠ '\\' ∧ c ≠ '\r' ∧ (Blank.isShown c = true ∨ long = true ∧ c = '\n') ∧
      (c = '"' → long = true ∧ quotes < 2) := by
  rw [needsEscape] at h
  split at h
  · next hc =>
    subst hc
    simp only [Bool.or_eq_false_iff, Bool.not_eq_false', decide_eq_false_iff_not,
      Nat.not_le] at h
    exact ⟨by decide, by decide, .inl (by decide), fun _ => h⟩
  · next hquote =>
    split at h
    · next hc =>
      subst hc
      exact ⟨by decide, by decide, .inr ⟨by simpa using h, rfl⟩, fun hc => absurd hc hquote⟩
    · simp only [Bool.or_eq_false_iff, beq_eq_false_iff_ne, Bool.not_eq_false'] at h
      obtain ⟨⟨hbackslash, -⟩, hshown⟩ := h
      refine ⟨hbackslash, ?_, .inl hshown, fun hc => absurd hc hquote⟩
      rintro rfl
      exact absurd hshown (by decide)

/-- What needs an escape has a code point of at most four digits. -/
theorem toNat_lt_of_needsEscape (h : needsEscape long quotes c = true) : c.toNat < 65536 := by
  rw [needsEscape] at h
  split at h
  · next hc => exact hc ▸ by decide
  · split at h
    · next hc => exact hc ▸ by decide
    · simp only [Bool.or_eq_true, beq_iff_eq, Bool.not_eq_true', Blank.isShown,
        Bool.or_eq_false_iff, Bool.and_eq_false_iff, decide_eq_false_iff_not] at h
      rcases h with (rfl | rfl) | ⟨-, hblank | hdelete⟩
      · decide
      · decide
      · have hlt : c.toNat < ' '.toNat := Nat.lt_of_not_le hblank
        exact Nat.lt_trans hlt (by decide)
      · have hc : c = '\x7f' := by simpa using hdelete
        exact hc ▸ by decide

theorem exists_escape (c : Char) : ∃ more, escape c = '\\' :: more := by
  rw [escape]
  cases escapeLetter? c with
  | some letter => exact ⟨_, rfl⟩
  | none => exact ⟨_, rfl⟩

/-- The quotes that an escaped text starts with are at most two, and in a short text none: it
consists of them, or something else follows. -/
theorem exists_of_escapeText (long : Bool) (hquotes : quotes ≤ 2) (text : List Char) :
    ∃ r ≤ if long then 2 - quotes else 0,
      (text = List.replicate r '"' ∧ escapeText long quotes text = text) ∨
      ∃ c more, c ≠ '"' ∧ escapeText long quotes text = List.replicate r '"' ++ c :: more := by
  induction text generalizing quotes with
  | nil => exact ⟨0, Nat.zero_le _, .inl ⟨rfl, rfl⟩⟩
  | cons c text ih =>
    rw [escapeText]
    cases hneeds : needsEscape long quotes c with
    | true =>
      obtain ⟨more, hmore⟩ := exists_escape c
      rw [if_pos rfl, hmore]
      exact ⟨0, Nat.zero_le _, .inr ⟨'\\', _, by decide, rfl⟩⟩
    | false =>
      rw [if_neg Bool.false_ne_true]
      by_cases hc : c = '"'
      · subst hc
        obtain ⟨rfl, hlt⟩ := (of_needsEscape_eq_false hneeds).2.2.2 rfl
        have hnext : quotes + 1 ≤ 2 := hlt
        obtain ⟨r, hr, h⟩ := ih hnext
        simp only [if_true]
        refine ⟨r + 1, by simp only [if_true] at hr ⊢; omega, ?_⟩
        rcases h with ⟨htext, hself⟩ | ⟨c, more, hc, hself⟩
        · exact .inl ⟨by rw [htext, List.replicate_succ], by rw [hself]⟩
        · exact .inr ⟨c, more, hc, by rw [hself, List.replicate_succ, List.cons_append]⟩
      · exact ⟨0, Nat.zero_le _, .inr ⟨c, _, hc, rfl⟩⟩

/-- So many quotes do not close the text, and before closing quotes they are a part of it. -/
theorem le_and_lt_width (hr : r ≤ if long then 2 - quotes else 0) :
    (r ≤ if long then 2 else 0) ∧ r < width ⟨false, long⟩ := by
  cases long with
  | false => exact ⟨hr, Nat.lt_succ_of_le hr⟩
  | true =>
    have hle : r ≤ 2 := Nat.le_trans hr (Nat.sub_le 2 quotes)
    exact ⟨hle, Nat.lt_succ_of_le hle⟩

/-- **An escaped text is read back.** Two quotes at most stand in a row, so that the closing ones
are told apart. -/
theorem readEscaped_escapeText (hquotes : quotes ≤ 2) (hrest : rest.head? ≠ some '"') :
    readEscaped long .plain (escapeText long quotes text ++
      (List.replicate (width ⟨false, long⟩) '"' ++ rest)) = some (text, rest) := by
  induction text generalizing quotes with
  | nil =>
    have hclose := close?_replicate (q := ⟨false, long⟩) (r := 0) (Nat.zero_le _) hrest
    exact readEscaped_of_close? hclose
  | cons c text ih =>
    obtain ⟨r, hr, ⟨htext, hself⟩ | ⟨d, more, hd, hself⟩⟩ :=
      exists_of_escapeText long hquotes (c :: text)
    · rw [hself, htext]
      exact readEscaped_of_close?
        (close?_replicate (q := ⟨false, long⟩) (le_and_lt_width hr).1 hrest)
    · have hclose : close? ⟨false, long⟩ (escapeText long quotes (c :: text) ++
          (List.replicate (width ⟨false, long⟩) '"' ++ rest)) = none := by
        rw [hself, List.append_assoc, List.cons_append]
        exact close?_eq_none (q := ⟨false, long⟩) (le_and_lt_width hr).2 hd
      rw [escapeText] at hclose ⊢
      cases hneeds : needsEscape long quotes c with
      | true =>
        rw [if_pos rfl, List.append_assoc,
          readEscaped_escape (toNat_lt_of_needsEscape hneeds), ih (Nat.zero_le 2)]
        rfl
      | false =>
        rw [hneeds, if_neg Bool.false_ne_true, List.cons_append] at hclose
        obtain ⟨hbackslash, hreturn, hshown, hquote⟩ := of_needsEscape_eq_false hneeds
        have hnext : (if c = '"' then quotes + 1 else 0) ≤ 2 := by
          split
          · next hc => exact (hquote hc).2
          · exact Nat.zero_le 2
        rw [if_neg Bool.false_ne_true, List.cons_append,
          readEscaped_cons hbackslash hreturn hclose hshown, ih hnext]
        rfl

/-! ### Texts as they are -/

/-- The run that a text starts with: the text consists of it, or something else follows. -/
theorem exists_run (mark : Char) (text : List Char) :
    (text = List.replicate (runs mark text).2 mark ∨
      ∃ c more, c ≠ mark ∧ text = List.replicate (runs mark text).2 mark ++ c :: more) ∧
    (runs mark text).2 ≤ longestRun mark text := by
  induction text with
  | nil => exact ⟨.inl rfl, Nat.le_refl 0⟩
  | cons c text ih =>
    rw [longestRun, runs]
    by_cases hc : c = mark
    · subst hc
      simp only [if_true]
      refine ⟨?_, Nat.le_max_right _ _⟩
      rcases ih.1 with htext | ⟨d, more, hd, htext⟩
      · exact .inl (congrArg (c :: ·) htext)
      · exact .inr ⟨d, more, hd, congrArg (c :: ·) htext⟩
    · simp only [if_neg hc]
      exact ⟨.inr ⟨c, text, hc, rfl⟩, Nat.zero_le _⟩

theorem longestRun_le_cons (mark c : Char) (text : List Char) :
    longestRun mark text ≤ longestRun mark (c :: text) := by
  rw [longestRun, longestRun, runs]
  dsimp only
  split
  · exact Nat.le_max_left _ _
  · exact Nat.le_refl _

/-- What ends a text is its end. -/
theorem readVerbatim_of_close? {done : List Char × List Char}
    (h : close? ⟨true, long⟩ text = some done) : readVerbatim long text = some done := by
  cases text with
  | nil =>
    cases long <;> cases h
  | cons c more =>
    have hc : c = '\'' := by
      by_contra hc
      rw [close?_cons (q := ⟨true, long⟩) hc] at h
      cases h
    subst hc
    simp [readVerbatim, h]

/-- Another character than a quote is read as it is. -/
theorem readVerbatim_cons (hreturn : c ≠ '\r') (hclose : close? ⟨true, long⟩ (c :: more) = none)
    (hshown : Blank.isShown c = true ∨ long = true ∧ c = '\n') :
    readVerbatim long (c :: more) = push c (readVerbatim long more) := by
  simp [readVerbatim, hreturn, hclose, hshown]

/-- **A text that stands as it is is read back**, when it has no control that would be read as
something else and fewer quotes in a row than close it. -/
theorem readVerbatim_append
    (hshown : ∀ c ∈ text, c ≠ '\r' ∧ (Blank.isShown c = true ∨ long = true ∧ c = '\n'))
    (hruns : longestRun '\'' text < width ⟨true, long⟩) (hrest : rest.head? ≠ some '\'') :
    readVerbatim long (text ++ (List.replicate (width ⟨true, long⟩) '\'' ++ rest)) =
      some (text, rest) := by
  induction text with
  | nil =>
    exact readVerbatim_of_close?
      (close?_replicate (q := ⟨true, long⟩) (r := 0) (Nat.zero_le _) hrest)
  | cons c text ih =>
    obtain ⟨hrun, hle⟩ := exists_run '\'' (c :: text)
    have hlt := Nat.lt_of_le_of_lt hle hruns
    generalize (runs '\'' (c :: text)).2 = r at hrun hlt
    rcases hrun with htext | ⟨d, more, hd, htext⟩
    · have hr : r ≤ if long then 2 else 0 := by
        cases long <;> exact Nat.le_of_lt_succ hlt
      rw [htext]
      exact readVerbatim_of_close? (close?_replicate (q := ⟨true, long⟩) hr hrest)
    · have hclose : close? ⟨true, long⟩ (c :: text ++
          (List.replicate (width ⟨true, long⟩) '\'' ++ rest)) = none := by
        rw [htext, List.append_assoc, List.cons_append]
        exact close?_eq_none (q := ⟨true, long⟩) hlt hd
      have hhead := hshown c List.mem_cons_self
      rw [List.cons_append] at hclose ⊢
      rw [readVerbatim_cons hhead.1 hclose hhead.2,
        ih (fun d hd => hshown d (List.mem_cons_of_mem c hd))
          (Nat.lt_of_le_of_lt (longestRun_le_cons _ c text) hruns)]
      rfl

/-! ### Opening quotes -/

theorem skipNewline_of_head (hfeed : text.head? ≠ some '\n') (hreturn : text.head? ≠ some '\r') :
    Blank.skipNewline text = text := by
  cases text with
  | nil => rfl
  | cons c text =>
    rw [List.head?_cons, ne_eq, Option.some.injEq] at hfeed hreturn
    simp [Blank.skipNewline, Blank.newline?, hfeed, hreturn]

/-- The line end before a text with a line end is no part of it, and there is none to pass before
another one. -/
theorem skipNewline_lead {body : List Char} (hfeed : '\n' ∉ text → body.head? ≠ some '\n')
    (hreturn : '\n' ∉ text → body.head? ≠ some '\r') :
    Blank.skipNewline ((if text.contains '\n' then ['\n'] else []) ++ body) = body := by
  by_cases hmem : '\n' ∈ text
  · rw [if_pos (by simpa using hmem)]
    rfl
  · rw [if_neg (by simpa using hmem)]
    exact skipNewline_of_head (hfeed hmem) (hreturn hmem)

theorem read?_double {body : List Char} (h : ∀ more, body ≠ '"' :: '"' :: more) :
    read? ('"' :: body) = readEscaped false .plain body := by
  rw [read?]
  · rfl
  · intro more heq
    exact h more (List.cons.inj heq).2
  · rintro more ⟨⟩

theorem read?_single {body : List Char} (h : ∀ more, body ≠ '\'' :: '\'' :: more) :
    read? ('\'' :: body) = readVerbatim false body := by
  rw [read?]
  · rfl
  · rintro more ⟨⟩
  · intro more heq
    exact h more (List.cons.inj heq).2

/-- Two quotes in a row would be read as a text of nothing, or with a third one as opening
quotes. -/
theorem ne_cons_cons (h : rest.head? ≠ some c) (more : List Char) : c :: rest ≠ c :: c :: more := by
  rintro ⟨⟩
  exact h rfl

/-! ### Whole texts -/

/-- An escaped text that has no line end does not start with one. -/
theorem head?_escapeText (h : '\n' ∉ text) :
    (escapeText long quotes text ++ '"' :: more).head? ≠ some '\n' ∧
      (escapeText long quotes text ++ '"' :: more).head? ≠ some '\r' := by
  cases text with
  | nil => exact ⟨nofun, nofun⟩
  | cons c text =>
    rw [escapeText]
    cases hneeds : needsEscape long quotes c with
    | true =>
      obtain ⟨more, hmore⟩ := exists_escape c
      rw [if_pos rfl, hmore]
      exact ⟨nofun, nofun⟩
    | false =>
      rw [if_neg Bool.false_ne_true, List.cons_append, List.head?_cons, ne_eq, ne_eq,
        Option.some.injEq, Option.some.injEq]
      refine ⟨?_, (of_needsEscape_eq_false hneeds).2.1⟩
      rintro rfl
      exact h List.mem_cons_self

theorem read?_write_escaped (long : Bool) (text : List Char) (hrest : rest.head? ≠ some '"') :
    read? (write ⟨false, long⟩ text ++ rest) = some (text, rest) := by
  have hread := @readEscaped_escapeText text rest long 0 (Nat.zero_le 2) hrest
  obtain ⟨r, hr, hlead⟩ := exists_of_escapeText long (Nat.zero_le 2) text
  cases long with
  | false =>
    have hwrite : write ⟨false, false⟩ text ++ rest =
        '"' :: (escapeText false 0 text ++ ('"' :: rest)) := by
      simp [write, mark, width]
    rw [hwrite, read?_double]
    · exact hread
    · obtain rfl : r = 0 := Nat.le_zero.mp hr
      rcases hlead with ⟨rfl, -⟩ | ⟨d, more, hd, hself⟩
      · exact ne_cons_cons hrest
      · intro more' heq
        rw [hself] at heq
        exact hd (List.cons.inj heq).1
  | true =>
    have hwrite : write ⟨false, true⟩ text ++ rest = '"' :: '"' :: '"' ::
        ((if text.contains '\n' then ['\n'] else []) ++
          (escapeText true 0 text ++ ('"' :: '"' :: '"' :: rest))) := by
      simp [write, mark, width]
    rw [hwrite, read?, skipNewline_lead]
    · exact hread
    · exact fun hmem => (head?_escapeText hmem).1
    · exact fun hmem => (head?_escapeText hmem).2

theorem mem_of_head?_append {c d : Char} (h : (text ++ c :: more).head? = some d) :
    d ∈ text ∨ d = c := by
  cases text with
  | nil => exact .inr (Option.some.inj h).symm
  | cons e text =>
    obtain rfl : e = d := Option.some.inj h
    exact .inl List.mem_cons_self

/-- A text that suits a verbatim quote has no control that would be read as something else. -/
theorem of_suits {long : Bool} (h : suits ⟨true, long⟩ text = true) :
    (∀ c ∈ text, c ≠ '\r' ∧ (Blank.isShown c = true ∨ long = true ∧ c = '\n')) ∧
      longestRun '\'' text < width ⟨true, long⟩ := by
  simp only [suits, Bool.and_eq_true, Bool.not_eq_true', List.any_eq_false, Bool.or_eq_true,
    decide_eq_true_eq] at h
  obtain ⟨⟨⟨hhidden, -⟩, hfeed⟩, hruns⟩ := h
  refine ⟨fun c hc => ?_, hruns⟩
  have hshown : c = '\n' ∨ Blank.isShown c = true := by
    have hc' := hhidden c hc
    rw [isHidden, Bool.and_eq_true, bne_iff_ne, Bool.not_eq_true'] at hc'
    rcases Decidable.em (c = '\n') with heq | hne
    · exact .inl heq
    · exact .inr (by simpa using fun hshown => hc' ⟨hne, hshown⟩)
  constructor
  · rintro rfl
    exact hhidden _ hc (by decide)
  · rcases hshown with rfl | hshown
    · refine .inr ⟨hfeed.resolve_right ?_, rfl⟩
      simpa using hc
    · exact .inl hshown

theorem read?_write_verbatim {long : Bool} (hsuits : suits ⟨true, long⟩ text = true)
    (hrest : rest.head? ≠ some '\'') :
    read? (write ⟨true, long⟩ text ++ rest) = some (text, rest) := by
  obtain ⟨hshown, hruns⟩ := of_suits hsuits
  have hread := readVerbatim_append hshown hruns hrest
  cases long with
  | false =>
    have hwrite : write ⟨true, false⟩ text ++ rest = '\'' :: (text ++ ('\'' :: rest)) := by
      simp [write, mark, width]
    rw [hwrite, read?_single]
    · exact hread
    · cases text with
      | nil => exact ne_cons_cons hrest
      | cons c text =>
        intro more heq
        obtain rfl : c = '\'' := (List.cons.inj heq).1
        have hone : 0 < longestRun '\'' ('\'' :: text) := by
          rw [longestRun, runs]
          exact Nat.lt_of_lt_of_le (Nat.succ_pos _) (Nat.le_max_right _ _)
        exact absurd hruns (Nat.not_lt.mpr hone)
  | true =>
    have hwrite : write ⟨true, true⟩ text ++ rest = '\'' :: '\'' :: '\'' ::
        ((if text.contains '\n' then ['\n'] else []) ++
          (text ++ ('\'' :: '\'' :: '\'' :: rest))) := by
      simp [write, mark, width]
    rw [hwrite, read?, skipNewline_lead]
    · exact hread
    · intro hmem hhead
      rcases mem_of_head?_append hhead with h | h
      · exact hmem h
      · cases h
    · intro hmem hhead
      rcases mem_of_head?_append hhead with h | h
      · exact (hshown _ h).1 rfl
      · cases h

/-- The way in which a text is written suits it, or has escapes. -/
theorem suits_ofText {text : List Char} (h : (ofText text).verbatim = true) :
    suits (ofText text) text = true := by
  rw [ofText] at h ⊢
  cases hfind : all.find? fun q => q.suits text with
  | none =>
    rw [hfind] at h
    cases h
  | some q =>
    have h := List.find?_some hfind
    exact h

/-- **What is written between quotes is read back**, whatever its characters are. -/
theorem read?_write (text : List Char) (hdouble : rest.head? ≠ some '"')
    (hsingle : rest.head? ≠ some '\'') :
    read? ((ofText text).write text ++ rest) = some (text, rest) := by
  have hsuits := @suits_ofText text
  generalize ofText text = q at hsuits ⊢
  obtain ⟨_ | _, long⟩ := q
  · exact read?_write_escaped long text hdouble
  · exact read?_write_verbatim (hsuits rfl) hsingle

/-! ### Runs that are counted -/

/-- As many quotes as are counted stand at the beginning of a text, and anywhere in it. -/
theorem replicate_iff_le_runs (mark : Char) (text : List Char) (n : Nat) :
    (List.replicate n mark <+: text ↔ n ≤ (runs mark text).2) ∧
      (List.replicate n mark <:+: text ↔ n ≤ (runs mark text).1) := by
  induction text generalizing n with
  | nil => simp [runs]
  | cons c text ih =>
    have hstart : List.replicate n mark <+: c :: text ↔ n ≤ (runs mark (c :: text)).2 := by
      cases n with
      | zero => simp
      | succ n =>
        rw [List.replicate_succ, List.cons_prefix_cons, (ih n).1, runs]
        by_cases hc : c = mark
        · simp [hc]
        · simp [hc, Ne.symm hc]
    refine ⟨hstart, ?_⟩
    rw [List.infix_cons_iff, hstart, (ih n).2, runs]
    by_cases hc : c = mark
    · simp only [if_pos hc]
      omega
    · simp only [if_neg hc]
      omega

/-- The runs of quotes in a text are counted unless one is too long. -/
theorem isCountable_eq_false_iff (text : List Char) :
    isCountable text = false ↔
      ∃ mark ∈ ['"', '\''], List.replicate (maxRun + 1) mark <:+: text := by
  have hle (mark : Char) : List.replicate (maxRun + 1) mark <:+: text ↔
      ¬longestRun mark text ≤ maxRun :=
    (replicate_iff_le_runs mark text _).2.trans Nat.not_le.symm
  simp [isCountable, hle, imp_iff_not_or, or_comm]

end ClosureBridge.Toml.Quote
