import ClosureBridge.Proofs.Toml.Quote
import ClosureBridge.Toml.Document
import ClosureBridge.Toml.Section

/-!
# Written sections are read back

The reader follows the writer piece by piece: a name, a value, the line of a setting or a header,
the lines of a section, all sections. The lines are read as one statement each, and these make a
table for each section, since no two sections have one name and no two settings of a section do.

## Main definitions

* `Reader.isPlain`: a name that is written without quotes.
* `Section.Plain`: what a section must be to be read back.
* `Section.statements`, `Section.table`: what a section is read as.
* `Reader.Says`: a text is read as statements on every budget that suffices.

## Main statements

* `Reader.key?_of_isPlain`, `Setting.value?_write`: names and values are read back.
* `Section.says_write`: a section is read as its statements, then what follows it.
* `Draft.foldlM_statements`: these make its table and change no other.
* `Document.read?_writeAll`: written sections are read back.
-/

namespace ClosureBridge.Toml

variable {name : String} {rest : List Char}

/-! ### Names -/

namespace Reader

/-- A name that is written without quotes. -/
def isPlain (name : String) : Bool :=
  !name.toList.isEmpty && name.toList.all isBare

/-- A character of a plain name ends nothing and begins nothing else. -/
theorem ne_of_isBare {c d : Char} (hc : isBare c = true) (hd : isBare d = false) : c ≠ d := by
  rintro rfl
  rw [hc] at hd
  cases hd

theorem exists_of_isPlain (h : isPlain name = true) :
    ∃ c more, name.toList = c :: more ∧ isBare c = true ∧ ∀ d ∈ more, isBare d = true := by
  rw [isPlain, Bool.and_eq_true] at h
  cases hl : name.toList with
  | nil =>
    rw [hl] at h
    cases h.1
  | cons c more =>
    rw [hl, List.all_cons, Bool.and_eq_true, List.all_eq_true] at h
    exact ⟨c, more, rfl, h.2⟩

/-- A plain name is no blank at the beginning of a line. -/
theorem skip_of_isPlain (h : isPlain name = true) (rest : List Char) :
    Blank.skip (name.toList ++ rest) = name.toList ++ rest := by
  obtain ⟨c, more, hl, hc, -⟩ := exists_of_isPlain h
  have hblank : Blank.isBlank c = false := by
    rw [Blank.isBlank, Bool.or_eq_false_iff, beq_eq_false_iff_ne, beq_eq_false_iff_ne]
    exact ⟨ne_of_isBare hc rfl, ne_of_isBare hc rfl⟩
  rw [hl]
  exact List.dropWhile_cons_of_neg (by simp [hblank])

/-- A plain name is no bracket. -/
theorem ne_bracket_of_isPlain (h : isPlain name = true) (rest more : List Char) :
    name.toList ++ rest ≠ '[' :: more := by
  obtain ⟨c, _, hl, hc, -⟩ := exists_of_isPlain h
  rw [hl]
  intro heq
  exact ne_of_isBare hc rfl (List.cons.inj heq).1

/-- A plain name says something. -/
theorem lineEnd?_of_isPlain (h : isPlain name = true) (rest : List Char) :
    Blank.lineEnd? (name.toList ++ rest) = none := by
  have hskip := skip_of_isPlain h rest
  obtain ⟨c, more, hl, hc, -⟩ := exists_of_isPlain h
  have hcomment : c ≠ '#' := ne_of_isBare hc rfl
  have hfeed : c ≠ '\n' := ne_of_isBare hc rfl
  have hreturn : c ≠ '\r' := ne_of_isBare hc rfl
  rw [Blank.lineEnd?, hskip, hl, List.cons_append]
  simp [Blank.skipComment, Blank.newline?, hcomment, hfeed, hreturn]

/-- A plain name ends where something else follows. -/
theorem name?_of_isPlain (h : isPlain name = true) (hrest : rest.head?.any isBare = false) :
    name? (name.toList ++ rest) = some (name, rest) := by
  obtain ⟨c, more, hl, hc, hmore⟩ := exists_of_isPlain h
  have hall : ∀ d ∈ name.toList, isBare d = true := by
    rw [hl]
    exact fun d hd => (List.mem_cons.mp hd).elim (fun hd => hd ▸ hc) (hmore d)
  have hshort : Quote.readShort? (name.toList ++ rest) = none := by
    have hdouble : c ≠ '"' := ne_of_isBare hc rfl
    have hsingle : c ≠ '\'' := ne_of_isBare hc rfl
    rw [hl, List.cons_append]
    unfold Quote.readShort?
    split
    · next heq => exact absurd (List.cons.inj heq).1 hdouble
    · next heq => exact absurd (List.cons.inj heq).1 hsingle
    · rfl
  have hempty : rest.takeWhile isBare = [] ∧ rest.dropWhile isBare = rest := by
    cases rest with
    | nil => exact ⟨rfl, rfl⟩
    | cons d rest =>
      have hd : ¬isBare d = true := by simpa using hrest
      exact ⟨List.takeWhile_cons_of_neg hd, List.dropWhile_cons_of_neg hd⟩
  have htake : (name.toList ++ rest).takeWhile isBare = name.toList := by
    rw [List.takeWhile_append_of_pos hall, hempty.1, List.append_nil]
  have hdrop : (name.toList ++ rest).dropWhile isBare = rest := by
    rw [List.dropWhile_append_of_pos hall, hempty.2]
  have hne : name.toList.isEmpty = false := by
    rw [hl]
    rfl
  rw [name?, hshort]
  dsimp only
  rw [htake, hdrop, hne, if_neg Bool.false_ne_true, String.ofList_toList]

/-- A plain name that no point follows is a key. -/
theorem key?_of_isPlain (h : isPlain name = true) (hrest : rest.head?.any isBare = false)
    (hpoint : (Blank.skip rest).head? ≠ some '.') :
    key? (name.toList ++ rest) = some (⟨[], name⟩, Blank.skip rest) := by
  have hnames : names? maxDepth (name.toList ++ rest) = some ([name], Blank.skip rest) := by
    rw [maxDepth, names?, skip_of_isPlain h, name?_of_isPlain h hrest, Option.bind_eq_bind,
      Option.bind_some]
    dsimp only
    split
    · next heq =>
      rw [heq] at hpoint
      exact absurd rfl hpoint
    · rfl
  rw [key?, hnames]
  rfl

end Reader

/-! ### Values -/

namespace Setting

/-- What a setting is read as. -/
def value : Setting → Value
  | .text s => .text s
  | .boolean b => .boolean b

/-- A text starts with a quote. -/
theorem exists_write_text (s : String) :
    ∃ more, (Setting.text s).write = '"' :: more ∨ (Setting.text s).write = '\'' :: more := by
  rw [write, Quote.write, Quote.width, Quote.mark]
  split <;> split
  · exact ⟨_, .inr rfl⟩
  · exact ⟨_, .inl rfl⟩
  · exact ⟨_, .inr rfl⟩
  · exact ⟨_, .inl rfl⟩

/-- A value is read back where a line ends after it. -/
theorem scalar?_write (v : Setting) (rest : List Char) :
    Reader.scalar? (v.write ++ '\n' :: rest) = some (v.value, '\n' :: rest) := by
  cases v with
  | text s =>
    have hread : Quote.read? ((Setting.text s).write ++ '\n' :: rest) =
        some (s.toList, '\n' :: rest) := Quote.read?_write s.toList nofun nofun
    obtain ⟨more, hwrite⟩ := exists_write_text s
    unfold Reader.scalar?
    split
    · next heq => rcases hwrite with hwrite | hwrite <;> rw [hwrite] at heq <;> cases heq
    · next heq => rcases hwrite with hwrite | hwrite <;> rw [hwrite] at heq <;> cases heq
    · rw [hread]
      change some (Value.text (String.ofList s.toList), '\n' :: rest) = _
      rw [String.ofList_toList]
      rfl
  | boolean b => cases b <;> rfl

/-- No value that is written starts with a bracket, a brace or a blank. -/
theorem exists_write (v : Setting) : ∃ c more, v.write = c :: more ∧
    c ≠ '[' ∧ c ≠ '\x7b' ∧ Blank.isBlank c = false := by
  cases v with
  | text s =>
    obtain ⟨more, hwrite | hwrite⟩ := exists_write_text s
    · exact ⟨_, more, hwrite, by decide, by decide, by decide⟩
    · exact ⟨_, more, hwrite, by decide, by decide, by decide⟩
  | boolean b => cases b <;> exact ⟨_, _, rfl, by decide, by decide, by decide⟩

theorem value?_write (v : Setting) (rest : List Char) (n : Nat) :
    Reader.value? n (v.write ++ '\n' :: rest) = some (v.value, '\n' :: rest) := by
  cases n with
  | zero => exact scalar?_write v rest
  | succ n =>
    obtain ⟨c, more, hwrite, hbracket, hbrace, -⟩ := exists_write v
    have hscalar := scalar?_write v rest
    rw [hwrite, List.cons_append] at hscalar ⊢
    rw [Reader.value?]
    unfold Reader.valueOf?
    split
    · next heq => exact absurd (List.cons.inj heq).1 hbracket
    · next heq => exact absurd (List.cons.inj heq).1 hbrace
    · exact hscalar

theorem skip_write (v : Setting) (rest : List Char) :
    Blank.skip (' ' :: (v.write ++ '\n' :: rest)) = v.write ++ '\n' :: rest := by
  obtain ⟨c, more, hwrite, -, -, hblank⟩ := exists_write v
  rw [hwrite, Blank.skip, List.dropWhile_cons_of_pos rfl, List.cons_append]
  exact List.dropWhile_cons_of_neg (by simp [hblank])

end Setting

/-! ### Lines -/

namespace Section

/-- The statements of a section. -/
def statements (s : Section) : List Statement :=
  .table ⟨[], s.name⟩ :: s.settings.map fun e => .assign ⟨[], e.1⟩ e.2.value

/-- The names of a section and of its settings are written without quotes, and no two settings share
one. -/
structure Plain (s : Section) : Prop where
  name : Reader.isPlain s.name = true
  names : ∀ e ∈ s.settings, Reader.isPlain e.1 = true
  nodup : (s.settings.map Prod.fst).Nodup

/-- The line of a setting is read as its statement. -/
theorem line?_line (h : Reader.isPlain name = true) (v : Setting) (rest : List Char) :
    Reader.line? (line name v ++ rest) = some (some (.assign ⟨[], name⟩ v.value), rest) := by
  have hline : line name v ++ rest =
      name.toList ++ ' ' :: '=' :: ' ' :: (v.write ++ '\n' :: rest) := by
    simp [line]
  have hkey : Reader.key? (line name v ++ rest) =
      some (⟨[], name⟩, '=' :: ' ' :: (v.write ++ '\n' :: rest)) := by
    rw [hline]
    exact Reader.key?_of_isPlain h rfl nofun
  have hpair : Reader.pair? (Reader.value? Reader.maxDepth) (line name v ++ rest) =
      some ((⟨[], name⟩, v.value), '\n' :: rest) := by
    rw [Reader.pair?, hkey]
    change (Reader.value? Reader.maxDepth (Blank.skip (' ' :: (v.write ++ '\n' :: rest))) >>=
      fun r => some (((⟨[], name⟩ : Key), r.1), r.2)) = _
    rw [Setting.skip_write, Setting.value?_write]
    rfl
  unfold Reader.line?
  split
  · next heq => exact absurd (hline.symm.trans heq) (Reader.ne_bracket_of_isPlain h _ _)
  · next heq => exact absurd (hline.symm.trans heq) (Reader.ne_bracket_of_isPlain h _ _)
  · rw [hpair, hline, Reader.lineEnd?_of_isPlain h]
    rfl

/-- The header of a section is read as its statement. -/
theorem line?_header (h : Reader.isPlain name = true) (rest : List Char) :
    Reader.line? ('[' :: (name.toList ++ ']' :: '\n' :: rest)) =
      some (some (.table ⟨[], name⟩), rest) := by
  have hkey : Reader.key? (name.toList ++ ']' :: '\n' :: rest) =
      some (⟨[], name⟩, ']' :: '\n' :: rest) := Reader.key?_of_isPlain h rfl nofun
  unfold Reader.line?
  split
  · next heq => exact absurd (List.cons.inj heq).2 (Reader.ne_bracket_of_isPlain h _ _)
  · next heq =>
    cases heq
    rw [hkey]
    rfl
  · next hne => exact absurd rfl (hne _)

end Section

namespace Reader

/-- A text is read as statements, once the budget is greater than its length. -/
def Says (text : List Char) (statements : List Statement) : Prop :=
  ∀ n > text.length, lines? n text = some statements

theorem says_nil : Says [] [] := by
  intro n hn
  cases n with
  | zero => cases hn
  | succ n => rfl

/-- A line that takes at least one character comes before what the rest says. -/
theorem Says.line {text : List Char} {said : Option Statement} {statements : List Statement}
    (h : Says rest statements) (hskip : Blank.skip text = text)
    (hline : line? text = some (said, rest)) (hlt : rest.length < text.length) :
    Says text (said.toList ++ statements) := by
  intro n hn
  cases n with
  | zero => cases hn
  | succ n =>
    rw [lines?, hskip]
    split
    · cases hlt
    · rw [hline]
      change (do
        let more ← lines? n rest
        return said.toList ++ more : Option (List Statement)) = _
      rw [h n (Nat.lt_of_lt_of_le hlt (Nat.le_of_lt_succ hn))]
      rfl

end Reader

namespace Section

variable {statements : List Statement}

theorem says_settings {settings : List (String × Setting)}
    (hnames : ∀ e ∈ settings, Reader.isPlain e.1 = true) (h : Reader.Says rest statements) :
    Reader.Says ((settings.flatMap fun (name, v) => line name v) ++ rest)
      ((settings.map fun e => .assign ⟨[], e.1⟩ e.2.value) ++ statements) := by
  induction settings with
  | nil => exact h
  | cons e settings ih =>
    have hplain := hnames e List.mem_cons_self
    have hmore := ih fun e he => hnames e (List.mem_cons_of_mem _ he)
    rw [List.flatMap_cons, List.append_assoc, List.map_cons]
    refine hmore.line ?_ (line?_line hplain e.2 _) ?_
    · dsimp only
      rw [line, List.append_assoc, List.append_assoc]
      exact Reader.skip_of_isPlain hplain _
    · simp [line]
      omega

theorem says_write {s : Section} (hs : s.Plain) (h : Reader.Says rest statements) :
    Reader.Says (s.write ++ rest) (s.statements ++ statements) := by
  have htext : s.write ++ rest = '[' :: (s.name.toList ++ ']' :: '\n' ::
      ((s.settings.flatMap fun (name, v) => line name v) ++ rest)) := by
    simp [write]
  rw [htext]
  refine (says_settings hs.names h).line rfl (line?_header hs.name _) ?_
  simp
  omega

theorem says_writeAll {sections : List Section} (h : ∀ s ∈ sections, s.Plain) :
    Reader.Says (writeAll sections) (sections.flatMap Section.statements) := by
  induction sections with
  | nil => exact Reader.says_nil
  | cons s sections ih =>
    have hs := h s List.mem_cons_self
    have hmore := ih fun s hs => h s (List.mem_cons_of_mem _ hs)
    cases sections with
    | nil =>
      have hwrite := says_write hs Reader.says_nil
      rw [List.append_nil] at hwrite
      exact hwrite
    | cons t sections =>
      rw [writeAll, List.flatMap_cons]
      · have hblank : Reader.Says ('\n' :: writeAll (t :: sections))
            ((none : Option Statement).toList ++ (t :: sections).flatMap Section.statements) :=
          hmore.line rfl rfl (Nat.lt_succ_self _)
        exact says_write hs hblank
      · rintro ⟨⟩

/-- No byte order mark comes before the first header. -/
theorem head?_writeAll (sections : List Section) :
    (writeAll sections).head? ≠ some '\ufeff' := by
  cases sections with
  | nil => exact nofun
  | cons s sections =>
    cases sections with
    | nil =>
      rw [writeAll, write]
      exact nofun
    | cons t sections =>
      rw [writeAll, write]
      · exact nofun
      · rintro ⟨⟩

/-- The text of sections is read as their statements. -/
theorem statements?_writeAll {sections : List Section} (h : ∀ s ∈ sections, s.Plain) :
    Reader.statements? (writeAll sections) = some (sections.flatMap Section.statements) := by
  have hsays := says_writeAll h _ (Nat.lt_succ_self _)
  unfold Reader.statements?
  split
  · next heq => exact absurd (congrArg List.head? heq) (head?_writeAll sections)
  · exact hsays

end Section

/-! ### The document -/

section

variable {entries : List (String × Value)} {root : Table Value}

/-- The table of a section. -/
def Section.table (s : Section) : Table Value :=
  { entries := ⟨s.settings.map fun e => (e.1, e.2.value)⟩ }

/-- A setting is put into the table of the last header. -/
theorem Draft.step_assign (hroot : root.get? name = some (.table { entries := ⟨entries⟩ }))
    {key : String} (hkey : key ∉ entries.map Prod.fst) (v : Value) :
    Draft.step ⟨root, [name]⟩ (.assign ⟨[], key⟩ v) =
      some ⟨root.set name (.table { entries := ⟨entries ++ [(key, v)]⟩ }), [name]⟩ := by
  have hfree : ({ entries := ⟨entries⟩ } : Table Value).get? key = none :=
    Bindings.find?_of_not_mem hkey
  have hassign : Table.assign ⟨[], key⟩ v { entries := ⟨entries⟩ } =
      some { entries := ⟨entries ++ [(key, v)]⟩ } := by
    have hput : Table.put key v { entries := ⟨entries⟩ } =
        some { entries := ⟨entries ++ [(key, v)]⟩ } := by
      rw [Table.put, hfree, if_neg (by simp), Table.set, Bindings.insert,
        Bindings.put_of_not_mem hkey]
    exact hput
  rw [Draft.step]
  change (Table.alter .header (Table.assign ⟨[], key⟩ v) [name] root).map _ = _
  rw [Table.alter, hroot]
  change ((Table.assign ⟨[], key⟩ v { entries := ⟨entries⟩ }).map _).map _ = _
  rw [hassign]
  rfl

/-- The settings of a section are put into its table, and no other table changes. -/
theorem Draft.foldlM_assign {settings : List (String × Setting)}
    (hroot : root.get? name = some (.table { entries := ⟨entries⟩ }))
    (hnodup : (entries.map Prod.fst ++ settings.map Prod.fst).Nodup) :
    ∃ root', (settings.map fun e => Statement.assign ⟨[], e.1⟩ e.2.value).foldlM Draft.step
        ⟨root, [name]⟩ = some ⟨root', [name]⟩ ∧
      root'.get? name =
        some (.table { entries := ⟨entries ++ settings.map fun e => (e.1, e.2.value)⟩ }) ∧
      ∀ other ≠ name, root'.get? other = root.get? other := by
  induction settings generalizing entries root with
  | nil => exact ⟨root, rfl, by rw [hroot, List.map_nil, List.append_nil], fun _ _ => rfl⟩
  | cons e settings ih =>
    have hkey : e.1 ∉ entries.map Prod.fst := by
      rw [List.nodup_append] at hnodup
      exact fun hmem => hnodup.2.2 e.1 hmem e.1 (by simp) rfl
    have hstep := Draft.step_assign hroot hkey e.2.value
    obtain ⟨root', hfold, hget, hother⟩ :=
      ih (root.get?_set_self name (.table { entries := ⟨entries ++ [(e.1, e.2.value)]⟩ })) (by
        simpa using hnodup)
    refine ⟨root', ?_, ?_, fun other hne => ?_⟩
    · rw [List.map_cons, List.foldlM_cons, hstep]
      exact hfold
    · rw [hget, List.map_cons, List.append_assoc]
      rfl
    · rw [hother other hne, root.get?_set_of_ne hne]

/-- A section gets a table of its own, and no other table changes. -/
theorem Draft.foldlM_statements {s : Section} (hs : s.Plain) (hroot : root.get? s.name = none)
    (current : List String) :
    ∃ root', s.statements.foldlM Draft.step ⟨root, current⟩ = some ⟨root', [s.name]⟩ ∧
      root'.get? s.name = some (.table s.table) ∧
      ∀ other ≠ s.name, root'.get? other = root.get? other := by
  have hstep : Draft.step ⟨root, current⟩ (.table ⟨[], s.name⟩) =
      some ⟨root.set s.name (.table {}), [s.name]⟩ := by
    rw [Draft.step, Table.begin, Table.alter, hroot]
    rfl
  have hempty : (root.set s.name (.table {})).get? s.name = some (.table { entries := ⟨[]⟩ }) :=
    root.get?_set_self s.name (.table {})
  obtain ⟨root', hfold, hget, hother⟩ := Draft.foldlM_assign hempty (by simpa using hs.nodup)
  refine ⟨root', ?_, hget, fun other hne => ?_⟩
  · rw [Section.statements, List.foldlM_cons, hstep]
    exact hfold
  · rw [hother other hne, root.get?_set_of_ne hne]

theorem Draft.foldlM_sections {sections : List Section} (hplain : ∀ s ∈ sections, s.Plain)
    (hnodup : (sections.map Section.name).Nodup)
    (hroot : ∀ s ∈ sections, root.get? s.name = none) (current : List String) :
    ∃ d, (sections.flatMap Section.statements).foldlM Draft.step ⟨root, current⟩ = some d ∧
      (∀ s ∈ sections, d.root.get? s.name = some (.table s.table)) ∧
      ∀ other ∉ sections.map Section.name, d.root.get? other = root.get? other := by
  induction sections generalizing root current with
  | nil => exact ⟨_, rfl, nofun, fun _ _ => rfl⟩
  | cons s sections ih =>
    rw [List.map_cons, List.nodup_cons] at hnodup
    obtain ⟨root', hfirst, hget, hother⟩ := Draft.foldlM_statements (hplain s List.mem_cons_self)
      (hroot s List.mem_cons_self) current
    have hfree : ∀ t ∈ sections, root'.get? t.name = none := by
      intro t ht
      rw [hother t.name, hroot t (List.mem_cons_of_mem s ht)]
      intro heq
      exact hnodup.1 (heq ▸ List.mem_map_of_mem ht)
    obtain ⟨d, hmore, htables, hrest⟩ :=
      ih (fun t ht => hplain t (List.mem_cons_of_mem s ht)) hnodup.2 hfree [s.name]
    refine ⟨d, ?_, ?_, fun other hne => ?_⟩
    · rw [List.flatMap_cons, List.foldlM_append, hfirst]
      exact hmore
    · intro t ht
      rcases List.mem_cons.mp ht with rfl | ht
      · rw [hrest t.name hnodup.1, hget]
      · exact htables t ht
    · rw [List.map_cons, List.mem_cons, not_or] at hne
      rw [hrest other hne.2, hother other hne.1]

end

/-- **Written sections are read back.** -/
theorem Document.read?_writeAll {sections : List Section} (hplain : ∀ s ∈ sections, s.Plain)
    (hnodup : (sections.map Section.name).Nodup) :
    ∃ entries, Document.read? (String.ofList (Section.writeAll sections)) = some entries ∧
      ∀ s ∈ sections, entries.get? s.name = some (.table s.table) := by
  have hfree : ∀ s ∈ sections, ({} : Table Value).get? s.name = none := fun _ _ => rfl
  obtain ⟨d, hfold, htables, -⟩ := Draft.foldlM_sections hplain hnodup hfree []
  refine ⟨d.root.entries, ?_, htables⟩
  rw [Document.read?, String.toList_ofList, Section.statements?_writeAll hplain]
  change (List.foldlM Draft.step {} _).map _ = _
  rw [hfold]
  rfl

end ClosureBridge.Toml
