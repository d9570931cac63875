import ClosureBridge.Proofs.Interpreter.Literal
import ClosureBridge.Proofs.Lambda.Mapping
import ClosureBridge.Proofs.Interpreter.Definition

/-!
# Raising errors

A line `raise K('m')` ends a script with an error of the kind `K`. Its message is cut out of the
line as what follows the first occurrence of the kind's text, without the brackets and quotes around
it. The keyword stands before the kind, so a kind whose text occurs in the keyword is found there,
and the rest of the keyword, the kind and a bracket become part of the message.

## Main definitions

* `Script.Scan.State.Spells`: the machine has read only what a name may be made of, where it reads
  a name.
* `Script.Statement.unwrapped`: a text without what stands around a message.
* `Script.raising`: the source that raises an error of a kind with a message.

## Main statements

* `Script.Scan.spellsName_of_scan`: a name token is spelled by a text of name characters.
* `Split.afterText?_of_infix`, `Split.afterText?_of_not_infix`: where a word without
  blanks occurs first.
* `Script.runString_raise`: the error that raising leaves pending.
-/

namespace ClosureBridge

/-! ### Where a word occurs first -/

namespace Split

theorem eq_append_of_dropPrefix? {word text rest : List Char}
    (h : dropPrefix? word text = some rest) : text = word ++ rest := by
  induction word generalizing text with
  | nil => exact Option.some.inj h
  | cons c word ih =>
    cases text with
    | nil => cases h
    | cons d text =>
      unfold dropPrefix? at h
      split at h
      · next hc =>
        rw [hc, List.cons_append, ← ih h]
      · cases h

variable {word text more : List Char}

/-- A word without blanks that starts a text with a blank in it stands before the blank. -/
theorem isPrefix_of_dropPrefix? (hblank : ' ' ∉ word) {rest : List Char}
    (h : dropPrefix? word (text ++ ' ' :: more) = some rest) : word <+: text := by
  have heq := eq_append_of_dropPrefix? h
  rcases List.append_eq_append_iff.mp heq with ⟨between, hword, hrest⟩ | ⟨between, htext, -⟩
  · cases between with
    | nil => exact ⟨[], by rw [hword, List.append_nil, List.append_nil]⟩
    | cons c between =>
      obtain ⟨rfl, -⟩ := List.cons.inj hrest
      exact absurd (hword ▸ List.mem_append_right _ List.mem_cons_self) hblank
  · exact ⟨between, htext.symm⟩

theorem dropPrefix?_eq_none (hblank : ' ' ∉ word) (h : ¬word <+: text) :
    dropPrefix? word (text ++ ' ' :: more) = none := by
  cases hdrop : dropPrefix? word (text ++ ' ' :: more) with
  | none => rfl
  | some rest => exact absurd (isPrefix_of_dropPrefix? hblank hdrop) h

/-- A word without blanks that occurs before a blank is found there. -/
theorem afterText?_of_infix (hne : word ≠ []) (hblank : ' ' ∉ word) (h : word <:+: text) :
    ∃ post, post <:+ text ∧ afterText? word (text ++ ' ' :: more) = some (post ++ ' ' :: more) := by
  induction text with
  | nil => exact absurd (List.infix_nil.mp h) hne
  | cons c text ih =>
    by_cases hstarts : word <+: c :: text
    · obtain ⟨post, hpost⟩ := hstarts
      refine ⟨post, ⟨word, hpost⟩, ?_⟩
      have hdrop : dropPrefix? word (c :: text ++ ' ' :: more) = some (post ++ ' ' :: more) := by
        rw [← hpost, List.append_assoc, dropPrefix?_append]
      rw [List.cons_append] at hdrop ⊢
      rw [afterText?, hdrop]
      rfl
    · have hdrop : dropPrefix? word (c :: (text ++ ' ' :: more)) = none :=
        dropPrefix?_eq_none hblank hstarts
      obtain ⟨post, hpost, hafter⟩ := ih ((List.infix_cons_iff.mp h).resolve_left hstarts)
      refine ⟨post, hpost.trans (List.suffix_cons c text), ?_⟩
      rw [List.cons_append, afterText?, hdrop, hafter]
      rfl

/-- A word without blanks that does not occur before a blank is found after it. -/
theorem afterText?_of_not_infix (hne : word ≠ []) (hblank : ' ' ∉ word) (h : ¬word <:+: text) :
    afterText? word (text ++ ' ' :: more) = afterText? word more := by
  induction text with
  | nil =>
    have hdrop : dropPrefix? word (' ' :: more) = none :=
      @dropPrefix?_eq_none word [] more hblank fun hstarts => hne (List.prefix_nil.mp hstarts)
    rw [List.nil_append, afterText?, hdrop]
    rfl
  | cons c text ih =>
    obtain ⟨hstarts, hinfix⟩ := not_or.mp (mt List.infix_cons_iff.mpr h)
    have hdrop : dropPrefix? word (c :: (text ++ ' ' :: more)) = none :=
      dropPrefix?_eq_none hblank hstarts
    rw [List.cons_append, afterText?, hdrop, ih hinfix]
    rfl

theorem afterText?_append (hne : word ≠ []) (rest : List Char) :
    afterText? word (word ++ rest) = some rest := by
  have hdrop := dropPrefix?_append word rest
  cases word with
  | nil => exact absurd rfl hne
  | cons c word =>
    rw [List.cons_append] at hdrop ⊢
    rw [afterText?, hdrop]
    rfl

end Split

namespace Script

/-! ### Name tokens -/

theorem Token.ofNumber_ne_name {digits : List Char} {s : String} :
    Token.ofNumber digits ≠ .ok (.name s) := by
  intro h
  unfold Token.ofNumber at h
  split at h <;> split at h <;> cases h

namespace Scan

/-- Where the machine reads a name, it has read only what a name may be made of. -/
def State.Spells : State → Prop
  | .name read => spellsName read.reverse = true
  | _ => True

/-- Every name among some tokens is spelled by what a name may be made of. -/
def SpellsNames (ts : List Token) : Prop :=
  ∀ s, Token.name s ∈ ts → spellsName s.toList = true

variable {st next : State} {c : Char} {done : List Token}

theorem spellsNames_nil : SpellsNames [] :=
  nofun

theorem SpellsNames.append {ts ts' : List Token} (h : SpellsNames ts) (h' : SpellsNames ts') :
    SpellsNames (ts ++ ts') :=
  fun s hs => (List.mem_append.mp hs).elim (h s) (h' s)

/-- A token that is no name. -/
theorem spellsNames_singleton {t : Token} (h : ∀ s, t ≠ .name s) : SpellsNames [t] :=
  fun s hs => absurd (List.mem_singleton.mp hs).symm (h s)

theorem spellsName_singleton (hblank : Category.isBlank c = false) (hdigit : c.isDigit = false)
    (hstart : isNameStart c = true) : spellsName [c] = true := by
  simp [spellsName, hblank, hdigit, hstart]

theorem spellsName_concat {read : List Char} (h : spellsName read = true)
    (hc : isNamePart c = true) : spellsName (read ++ [c]) = true := by
  cases read with
  | nil => cases h
  | cons d read =>
    simp only [spellsName, Bool.and_eq_true] at h
    simp only [List.cons_append, spellsName, List.all_append, Bool.and_eq_true]
    exact ⟨h.1, h.2, by simpa using hc⟩

theorem spells_start (h : start c = .ok (done, next)) : SpellsNames done ∧ next.Spells := by
  unfold start at h
  split at h
  · cases h
    exact ⟨spellsNames_nil, trivial⟩
  next hblank =>
  split at h
  · cases h
    exact ⟨spellsNames_nil, trivial⟩
  next hdigit =>
  split at h
  · next hstart =>
    cases h
    exact ⟨spellsNames_nil, spellsName_singleton (Bool.eq_false_iff.mpr hblank)
      (Bool.eq_false_iff.mpr hdigit) hstart⟩
  split at h
  · cases h
    exact ⟨spellsNames_nil, trivial⟩
  split at h
  · cases h
    exact ⟨spellsNames_nil, trivial⟩
  split at h
  · cases h
    exact ⟨spellsNames_singleton nofun, trivial⟩
  · cases h

theorem spells_close (hs : st.Spells) (h : close st = .ok done) : SpellsNames done := by
  cases st with
  | ready =>
    cases h
    exact spellsNames_nil
  | number read =>
    change Except.map (fun t => [t]) (Token.ofNumber read.reverse) = .ok done at h
    cases hnumber : Token.ofNumber read.reverse with
    | error e =>
      rw [hnumber] at h
      cases h
    | ok t =>
      rw [hnumber] at h
      cases h
      exact spellsNames_singleton fun s hs => Token.ofNumber_ne_name (hs ▸ hnumber)
  | name read =>
    cases h
    rintro s hmem
    cases List.mem_singleton.mp hmem
    rw [String.toList_ofList]
    exact hs
  | text quote read => cases h
  | escape quote read => cases h
  | equals =>
    cases h
    exact spellsNames_singleton nofun

theorem spells_restart (hs : st.Spells) (h : restart st c = .ok (done, next)) :
    SpellsNames done ∧ next.Spells := by
  unfold restart at h
  cases hclose : close st with
  | error e =>
    rw [hclose] at h
    cases h
  | ok ended =>
    cases hstart : start c with
    | error e =>
      rw [hclose, hstart] at h
      cases h
    | ok r =>
      rw [hclose, hstart] at h
      cases h
      obtain ⟨hbegun, hnext⟩ := spells_start hstart
      exact ⟨(spells_close hs hclose).append hbegun, hnext⟩

/-- Reading a character yields no name but such, and goes on with such. -/
theorem spells_step (hs : st.Spells) (h : step st c = .ok (done, next)) :
    SpellsNames done ∧ next.Spells := by
  unfold step at h
  split at h
  · exact spells_start h
  · split at h
    · cases h
      exact ⟨spellsNames_nil, trivial⟩
    · exact spells_restart hs h
  · split at h
    · next hc =>
      cases h
      refine ⟨spellsNames_nil, ?_⟩
      rw [State.Spells, List.reverse_cons]
      exact spellsName_concat hs hc
    · exact spells_restart hs h
  · split at h
    · cases h
      exact ⟨spellsNames_singleton nofun, trivial⟩
    · split at h <;> cases h <;> exact ⟨spellsNames_nil, trivial⟩
  · cases h
    exact ⟨spellsNames_nil, trivial⟩
  · split at h
    · cases h
      exact ⟨spellsNames_singleton nofun, trivial⟩
    · exact spells_restart hs h

/-- Every name among the tokens of a text is spelled by what a name may be made of. -/
theorem spells_tokens {text : List Char} {ts : List Token} (hs : st.Spells)
    (h : tokens st text = .ok ts) : SpellsNames ts := by
  induction text generalizing st ts with
  | nil => exact spells_close hs h
  | cons c rest ih =>
    rw [tokens] at h
    cases hstep : step st c with
    | error e =>
      rw [hstep] at h
      cases h
    | ok r =>
      obtain ⟨done, next⟩ := r
      obtain ⟨hdone, hnext⟩ := spells_step hs hstep
      rw [hstep] at h
      change (do return done ++ (← tokens next rest) : Except SyntaxFault _) = .ok ts at h
      cases hrest : tokens next rest with
      | error e =>
        rw [hrest] at h
        cases h
      | ok more =>
        rw [hrest] at h
        cases h
        exact hdone.append (ih hnext hrest)

theorem spellsName_of_scan {s : String} (h : Token.scan s.toList = .ok [.name s]) :
    spellsName s.toList = true := by
  have hready : State.ready.Spells := trivial
  exact spells_tokens hready h s List.mem_cons_self

theorem exists_head_of_spellsName {text : List Char} (h : spellsName text = true) :
    ∃ c rest, text = c :: rest ∧ Category.isBlank c = false ∧ isNameStart c = true ∧
      ∀ d ∈ rest, isNamePart d = true := by
  cases text with
  | nil => cases h
  | cons c rest =>
    simp only [spellsName, Bool.and_eq_true, Bool.not_eq_true'] at h
    exact ⟨c, rest, rfl, h.1.1.1, h.1.2, List.all_eq_true.mp h.2⟩

/-- A character that no name may have is not in one. -/
theorem not_mem_of_spellsName {text : List Char} (h : spellsName text = true) {d : Char}
    (hstart : isNameStart d = false) (hpart : isNamePart d = false) : d ∉ text := by
  obtain ⟨c, rest, rfl, -, hc, hrest⟩ := exists_head_of_spellsName h
  intro hmem
  rcases List.mem_cons.mp hmem with rfl | hmem
  · exact Bool.noConfusion (hstart.symm.trans hc)
  · exact Bool.noConfusion (hpart.symm.trans (hrest d hmem))

end Scan

/-! ### Messages -/

namespace Statement

variable {p : Char → Bool} {c : Char}

theorem dropEndWhile_concat_of_pos (h : p c = true) (text : List Char) :
    dropEndWhile p (text ++ [c]) = dropEndWhile p text := by
  simp [dropEndWhile, h]

theorem dropEndWhile_concat_of_neg (h : p c = false) (text : List Char) :
    dropEndWhile p (text ++ [c]) = text ++ [c] := by
  simp [dropEndWhile, h]

/-- A text without the characters of a kind loses none. -/
theorem dropEndWhile_of_forall {text : List Char} (h : ∀ c ∈ text, p c = false) :
    dropEndWhile p text = text := by
  rcases List.eq_nil_or_concat text with rfl | ⟨front, c, rfl⟩
  · rfl
  · rw [List.concat_eq_append] at h ⊢
    exact dropEndWhile_concat_of_neg (h c (by simp)) front

/-- A text without its margins, the parentheses around it and the single quotes around what is
left. -/
def unwrapped (text : List Char) : List Char :=
  dropEndWhile (· == '\'')
    ((dropEndWhile (· == ')') ((Margin.trim text).dropWhile (· == '('))).dropWhile (· == '\''))

theorem raiseMessage_eq (line : List Char) (kind : String) :
    raiseMessage line kind = unwrapped ((Split.afterText? kind.toList line).getD []) := rfl

/-- A message in quotes and parentheses. -/
def quoted (message : List Char) : List Char :=
  '(' :: '\'' :: (message ++ ['\'', ')'])

variable {message : List Char}

theorem dropWhile_eq_self {text : List Char} (h : text.head?.any p = false) :
    text.dropWhile p = text := by
  cases text with
  | nil => rfl
  | cons c text => exact List.dropWhile_cons_of_neg (Bool.eq_false_iff.mp h)

theorem not_quote (h : '\'' ∉ message) : ∀ c ∈ message, (c == '\'') = false :=
  fun _ hc => beq_eq_false_iff_ne.mpr fun heq => h (heq ▸ hc)

/-- What stands in quotes and parentheses is taken out of them as it is. -/
theorem unwrapped_quoted (h : '\'' ∉ message) : unwrapped (quoted message) = message := by
  have htrim : Margin.trim (quoted message) = '(' :: ('\'' :: message ++ ['\''] ++ [')']) := by
    have hedges := Margin.trim_enclosed (c := '(') (d := ')') (by decide) (by decide)
      ('\'' :: message ++ ['\''])
    simpa [quoted] using hedges
  have hround : dropEndWhile (· == ')') ('\'' :: message ++ ['\''] ++ [')']) =
      '\'' :: message ++ ['\''] := by
    rw [dropEndWhile_concat_of_pos (by decide), dropEndWhile_concat_of_neg (by decide)]
  rw [unwrapped, htrim]
  change dropEndWhile _ ((dropEndWhile _ ('\'' :: message ++ ['\''] ++ [')'])).dropWhile _) = _
  rw [hround]
  change dropEndWhile _ ((message ++ ['\'']).dropWhile _) = _
  cases message with
  | nil => rfl
  | cons c rest =>
    have hhead : (c :: rest ++ ['\'']).dropWhile (· == '\'') = c :: rest ++ ['\''] :=
      dropWhile_eq_self (not_quote h c List.mem_cons_self)
    rw [hhead, dropEndWhile_concat_of_pos (by decide), dropEndWhile_of_forall (not_quote h)]

/-- With something before them the quotes and the parentheses are left open, and what stood before
them stays. -/
theorem unwrapped_append_quoted (h : '\'' ∉ message) {c : Char} {before : List Char}
    (hblank : Category.isBlank c = false) (hround : c ≠ '(') (hquote : c ≠ '\'') :
    unwrapped (c :: before ++ quoted message) =
      c :: before ++ '(' :: if message = [] then [] else '\'' :: message := by
  have htrim : Margin.trim (c :: before ++ quoted message) =
      c :: before ++ '(' :: '\'' :: message ++ ['\''] ++ [')'] := by
    have hedges := Margin.trim_enclosed hblank (d := ')') (by decide)
      (before ++ '(' :: '\'' :: message ++ ['\''])
    simpa [quoted] using hedges
  have hhead {d : Char} (hd : c ≠ d) (rest : List Char) :
      (c :: rest).dropWhile (· == d) = c :: rest :=
    dropWhile_eq_self (beq_eq_false_iff_ne.mpr hd)
  have hinner : (dropEndWhile (· == ')') ((Margin.trim (c :: before ++ quoted message)).dropWhile
      (· == '('))).dropWhile (· == '\'') = c :: before ++ '(' :: '\'' :: message ++ ['\''] := by
    have hopen : (c :: before ++ '(' :: '\'' :: message ++ ['\''] ++ [')']).dropWhile (· == '(') =
        c :: before ++ '(' :: '\'' :: message ++ ['\''] ++ [')'] := hhead hround _
    rw [htrim, hopen, dropEndWhile_concat_of_pos (by decide),
      dropEndWhile_concat_of_neg (by decide)]
    exact hhead hquote _
  rw [unwrapped, hinner, dropEndWhile_concat_of_pos (by decide)]
  rcases List.eq_nil_or_concat message with rfl | ⟨front, d, rfl⟩
  · have hopen : c :: before ++ ['(', '\''] = c :: before ++ ['('] ++ ['\''] := by simp
    rw [if_pos rfl, hopen, dropEndWhile_concat_of_pos (by decide),
      dropEndWhile_concat_of_neg (by decide)]
  · rw [List.concat_eq_append] at h ⊢
    have hlast : c :: before ++ '(' :: '\'' :: (front ++ [d]) =
        c :: before ++ '(' :: '\'' :: front ++ [d] := by simp
    rw [if_neg (by simp), hlast,
      dropEndWhile_concat_of_neg (p := (· == '\'')) (not_quote h d (by simp))]

/-- So the text is longer than the message. -/
theorem unwrapped_append_quoted_ne (h : '\'' ∉ message) {c : Char} {before : List Char}
    (hblank : Category.isBlank c = false) (hround : c ≠ '(') (hquote : c ≠ '\'') :
    unwrapped (c :: before ++ quoted message) ≠ message := by
  intro heq
  rw [unwrapped_append_quoted h hblank hround hquote] at heq
  have hlength := congrArg List.length heq
  split at hlength
  · next hnil => simp [hnil] at hlength
  · simp only [List.cons_append, List.length_cons, List.length_append] at hlength
    omega

theorem unwrapped_cons_of_blank {c : Char} (hc : Category.isBlank c = true) (text : List Char) :
    unwrapped (c :: text) = unwrapped text := by
  have htrim : Margin.trim (c :: text) = Margin.trim text :=
    congrArg Margin.trimEnd (List.dropWhile_cons_of_pos hc)
  rw [unwrapped, htrim, unwrapped]

end Statement

/-! ### Raising an error -/

/-- The source that raises an error of a kind with a message. -/
def raising (kind message : String) : String :=
  "raise " ++ kind ++ "('" ++ message ++ "')"

variable {kind message : String}

theorem toList_raising (kind message : String) :
    (raising kind message).toList =
      "raise".toList ++ ' ' :: (kind.toList ++ Statement.quoted message.toList) := by
  simp [raising, Statement.quoted]

/-- The kind occurs in the keyword, or it is found where it stands. -/
theorem raiseMessage_raising_iff (hkind : Scan.spellsName kind.toList = true)
    (hmessage : '\'' ∉ message.toList) :
    String.ofList (Statement.raiseMessage (raising kind message).toList kind) = message ↔
      ¬kind.toList <:+: "raise".toList := by
  obtain ⟨c, rest, hhead, hblank, hstart, -⟩ := Scan.exists_head_of_spellsName hkind
  have hne : kind.toList ≠ [] := by simp [hhead]
  have hspace : ' ' ∉ kind.toList := Scan.not_mem_of_spellsName hkind (by decide) (by decide)
  rw [Statement.raiseMessage_eq, toList_raising]
  by_cases hinfix : kind.toList <:+: "raise".toList
  · obtain ⟨post, hpost, hafter⟩ := Split.afterText?_of_infix hne hspace hinfix
    refine iff_of_false (fun heq => ?_) (not_not.mpr hinfix)
    rw [hafter, Option.getD_some] at heq
    have heq := (congrArg String.toList heq).symm.trans String.toList_ofList
    cases post with
    | nil =>
      -- The kind is the end of the keyword, so it stands before the message once more.
      rw [List.nil_append, Statement.unwrapped_cons_of_blank (by decide), hhead] at heq
      refine Statement.unwrapped_append_quoted_ne hmessage hblank ?_ ?_ heq.symm <;>
        rintro rfl <;> exact absurd hstart (by decide)
    | cons d post =>
      have hword : "raise".toList.all (fun d => !Category.isBlank d && d != '(' && d != '\'') =
          true := by decide
      have hd : Category.isBlank d = false ∧ d ≠ '(' ∧ d ≠ '\'' := by
        simpa [and_assoc] using List.all_eq_true.mp hword d (hpost.mem List.mem_cons_self)
      have hbefore : d :: post ++ ' ' :: (kind.toList ++ Statement.quoted message.toList) =
          d :: (post ++ ' ' :: kind.toList) ++ Statement.quoted message.toList := by simp
      rw [hbefore] at heq
      exact Statement.unwrapped_append_quoted_ne hmessage hd.1 hd.2.1 hd.2.2 heq.symm
  · rw [Split.afterText?_of_not_infix hne hspace hinfix, Split.afterText?_append hne,
      Option.getD_some, Statement.unwrapped_quoted hmessage, String.ofList_toList]
    exact iff_of_true rfl hinfix

theorem scan_raising (hkind : Scan.spellsName kind.toList = true)
    (hmessage : ∀ c ∈ message.toList, c ≠ '\'' ∧ c ≠ '\\') :
    Token.scan (raising kind message).toList = .ok [.name "raise", .name kind,
      .symbol .openRound, .text message, .symbol .closeRound] := by
  have hliteral : (Heap.literal message).toList = '\'' :: (message.toList ++ ['\'']) := by
    have hescape : message.toList.flatMap escape = message.toList := by
      have hself : ∀ c ∈ message.toList, escape c = [c] := fun c hc => by
        rw [escape, if_neg (hmessage c hc).2, if_neg (hmessage c hc).1]
      rw [List.flatMap_congr hself, List.flatMap_singleton']
    rw [toList_literal, hescape]
  have hquoted : Statement.quoted message.toList =
      '(' :: ((Heap.literal message).toList ++ [')']) := by
    rw [hliteral]
    simp [Statement.quoted]
  rw [Token.scan, toList_raising, hquoted, Scan.tokens_of_spellsName (by decide) (by decide),
    Scan.tokens_blank (by decide), Scan.tokens_of_spellsName hkind (by decide),
    Scan.tokens_symbol (t := .openRound) rfl, Scan.tokens_literal,
    Scan.tokens_symbol (t := .closeRound) rfl]
  rfl

theorem exists_middle_raising (kind message : String) :
    ∃ middle, (raising kind message).toList = 'r' :: (middle ++ [')']) :=
  ⟨"aise ".toList ++ kind.toList ++ '(' :: '\'' :: (message.toList ++ ['\'']), by simp [raising]⟩

theorem newline_not_mem_raising (hkind : Scan.spellsName kind.toList = true)
    (hmessage : '\n' ∉ message.toList) : '\n' ∉ (raising kind message).toList := by
  have hline := Scan.not_mem_of_spellsName hkind (d := '\n') (by decide) (by decide)
  simp [raising, hline, hmessage]

/-- Raising is not the source that captures output, which has more than one line. -/
theorem raising_ne_source (hkind : Scan.spellsName kind.toList = true)
    (hmessage : '\n' ∉ message.toList) : (raising kind message == Capture.source) = false := by
  refine beq_eq_false_iff_ne.mpr fun heq => newline_not_mem_raising hkind hmessage ?_
  rw [heq, Capture.source, String.intercalate_cons_of_ne_nil (List.cons_ne_nil _ _),
    String.toList_append, String.toList_append]
  exact List.mem_append_left _ (List.mem_append_right _ List.mem_cons_self)

/-- Raising is one line, whatever kind and message are. -/
theorem block_raising (hkind : Scan.spellsName kind.toList = true)
    (hmessage : ∀ c ∈ message.toList, c ≠ '\'' ∧ c ≠ '\\' ∧ c ≠ '\n') :
    Statement.block (raising kind message).toList = .ok [.raise kind
      (String.ofList (Statement.raiseMessage (raising kind message).toList kind))] := by
  have hline := newline_not_mem_raising hkind fun h => (hmessage _ h).2.2 rfl
  obtain ⟨middle, hmiddle⟩ := exists_middle_raising kind message
  have hne : (raising kind message).toList ≠ [] := by simp [hmiddle]
  have htrim : Margin.trim (raising kind message).toList = (raising kind message).toList := by
    rw [hmiddle]
    exact Margin.trim_enclosed (by decide) (by decide) middle
  have hlast : (raising kind message).toList.getLast? = some ')' := by
    rw [hmiddle, ← List.cons_append, List.getLast?_concat]
  have hsingle : Statement.ofSingle (raising kind message).toList =
      (Statement.ofLine (raising kind message).toList).map fun s => [s] := by
    rw [Statement.ofSingle, htrim, Statement.ofBlockLine, hlast]
    rw [hmiddle]
    rfl
  have hscan := scan_raising hkind fun c hc => ⟨(hmessage c hc).1, (hmessage c hc).2.1⟩
  rw [Statement.block, Lines.ofChars_of_not_mem hline hne, Statement.ofLines_cons, hsingle,
    Statement.ofLine, hscan]
  rfl

/-- **Raising leaves an error of the kind pending**, whatever name the kind is and whatever the
message is made of but quotes, backslashes and line feeds. The message is the one given exactly
when the kind does not occur in the keyword. -/
theorem runString_raise {call : Caller Bench} {k : Nat} {globals : Option Ref} {w : Session}
    (hk : k < w.outside.store.machines.size) (hkind : Token.scan kind.toList = .ok [.name kind])
    (hmessage : ∀ c ∈ message.toList, c ≠ '\'' ∧ c ≠ '\\' ∧ c ≠ '\n') :
    ∃ message' w',
      ((interface call k).runString (raising kind message) .file globals).run w = (.ok none, w') ∧
      Session.pending w' k = some ⟨kind, message'⟩ ∧
      (message' = message ↔ ¬kind.toList <:+: "raise".toList) := by
  have hspells := Scan.spellsName_of_scan hkind
  have hsource := raising_ne_source hspells fun h => (hmessage _ h).2.2 rfl
  have htext : (runText call k globals .file (raising kind message)).run.run
      (w.happening [.ran k (raising kind message)]) =
        (.ok (.error ⟨kind,
            String.ofList (Statement.raiseMessage (raising kind message).toList kind)⟩),
          w.happening [.ran k (raising kind message)]) := by
    unfold runText
    rw [block_raising hspells hmessage]
    rfl
  refine ⟨_, _, Session.run_runString_of_error hsource htext, Session.pending_raising ?_ _,
    raiseMessage_raising_iff hspells fun h => (hmessage _ h).1 rfl⟩
  exact Nat.lt_of_lt_of_eq hk (Array.size_modify ..).symm

/-- A session with one interpreter and nothing in it. -/
def solitary : Session :=
  { outside := { store := { heap := { objects := #[.dict ∅, .dict ∅] }
                            machines := #[{ main := 0, builtins := 1 }] }
                 rest := {} } }

/-- A missing key is reported with the message that it was raised with. -/
theorem runString_raise_key :
    ∃ w', ((interface (Recursion.level 0).call 0).runString "raise KeyError('no such key')" .file
        (some 0)).run solitary = (.ok none, w') ∧
      Session.pending w' 0 = some ⟨"KeyError", "no such key"⟩ := by
  have hall : "no such key".toList.all (fun c => c != '\'' && c != '\\' && c != '\n') = true := by
    decide
  have hletters : ∀ c ∈ "no such key".toList, c ≠ '\'' ∧ c ≠ '\\' ∧ c ≠ '\n' := fun c hc => by
    simpa [and_assoc] using List.all_eq_true.mp hall c hc
  obtain ⟨message', w', hrun, hpending, hsame⟩ :=
    @runString_raise "KeyError" "no such key" (Recursion.level 0).call 0 (some 0) solitary
      (by decide) rfl hletters
  have hmessage : message' = "no such key" := hsame.mpr (by decide)
  exact ⟨w', hrun, hmessage ▸ hpending⟩

/-- An error whose kind is a letter of the keyword is reported with more than its message. -/
theorem not_runString_raise_letter :
    ¬∃ w', ((interface (Recursion.level 0).call 0).runString "raise e('m')" .file
        (some 0)).run solitary = (.ok none, w') ∧ Session.pending w' 0 = some ⟨"e", "m"⟩ := by
  rintro ⟨w', hrun, hpending⟩
  obtain rfl : _ = w' := congrArg Prod.snd hrun
  revert hpending
  decide

end Script

end ClosureBridge
