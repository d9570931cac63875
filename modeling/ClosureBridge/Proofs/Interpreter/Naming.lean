import ClosureBridge.Proofs.Lambda.Resolution

/-!
# Identifiers as names of globals

An identifier is the name of a global of the interpreter as well, so the check of chosen
identifiers, the source of fresh ones and the interpreter's own reader have to agree on what a name
is. They do on the characters: a text that passes the check is one token, and what a source draws
passes the check when the stem does. They do not on the reserved words, which pass the check and are
no name of a value.

## Main definitions

* `Ident.Origin`: what an identifier was made from, a text that was chosen or a source.

## Main statements

* `Ident.isValid_append`: a number after a stem makes no difference to the check.
* `Script.Expr.ofText_of_isValid`: what a text that passes the check is read as.
* `Ident.names_global`: which identifiers give back the value of the global that they name.
-/

namespace ClosureBridge

open Script (Event Expr SyntaxFault)

/-! ### Characters -/

namespace Ident

variable {c : Char} {text : String} {id : Ident}

theorem isTail_of_isHead (h : isHead c = true) : isTail c = true := by
  rw [isHead, Bool.or_eq_true] at h
  rw [isTail, Char.isAlphanum, Bool.or_eq_true, Bool.or_eq_true]
  exact h.imp_left .inl

/-- An identifier is made of the first 128 characters. -/
theorem toNat_lt_of_isTail (h : isTail c = true) : c.toNat < 128 := by
  have hword : ∀ n : UInt32, c.val ≤ n → n.toNat < 128 → c.toNat < 128 := fun n hn hlt =>
    Nat.lt_of_le_of_lt (UInt32.le_iff_toNat_le.mp hn) hlt
  have hranges : (((decide (c.val ≥ 'A'.val ∧ c.val ≤ 'Z'.val) ||
      (decide (c.val ≥ 'a'.val) && decide (c.val ≤ 'z'.val))) ||
      (decide (c.val ≥ '0'.val) && decide (c.val ≤ '9'.val))) || c == '_') = true := h
  simp only [Bool.or_eq_true, Bool.and_eq_true, decide_eq_true_eq, beq_iff_eq] at hranges
  rcases hranges with (((⟨-, h⟩ | ⟨-, h⟩) | ⟨-, h⟩) | rfl)
  · exact hword _ h (by decide)
  · exact hword _ h (by decide)
  · exact hword _ h (by decide)
  · decide

/-- A property of the characters of identifiers is checked on the first 128. -/
theorem forall_of_ascii {p : Char → Prop} (h : ∀ n < 128, isTail (Char.ofNat n) = true →
    p (Char.ofNat n)) (hc : isTail c = true) : p c := by
  have hself : Char.ofNat c.toNat = c := Char.ofNat_toNat c
  have hp := h c.toNat (toNat_lt_of_isTail hc)
  rw [hself] at hp
  exact hp hc

/-- What an identifier goes on with is a part of a name, and no blank. -/
theorem isNamePart_of_isTail (h : isTail c = true) :
    Script.Scan.isNamePart c = true ∧ Category.isBlank c = false :=
  forall_of_ascii (p := fun c => Script.Scan.isNamePart c = true ∧ Category.isBlank c = false)
    (by decide +kernel) h

/-- What an identifier starts with starts a name. -/
theorem isNameStart_of_isHead (h : isHead c = true) :
    c.isDigit = false ∧ Script.Scan.isNameStart c = true :=
  forall_of_ascii
    (p := fun c => isHead c = true → c.isDigit = false ∧ Script.Scan.isNameStart c = true)
    (by decide +kernel) (isTail_of_isHead h) h

theorem isTail_of_isDigit (h : c.isDigit = true) : isTail c = true := by
  simp [isTail, Char.isAlphanum, h]

theorem not_isHead_of_isDigit (h : c.isDigit = true) : isHead c = false := by
  rw [← Bool.not_eq_true]
  intro hhead
  rw [(isNameStart_of_isHead hhead).1] at h
  cases h

/-! ### Texts that pass the check -/

theorem exists_head_of_isValid (h : isValid text.toList = true) :
    ∃ c rest, text.toList = c :: rest ∧ isHead c = true ∧ ∀ d ∈ text.toList, isTail d = true := by
  cases hl : text.toList with
  | nil =>
    rw [hl] at h
    cases h
  | cons c rest =>
    rw [hl, isValid, Bool.and_eq_true, List.all_eq_true] at h
    refine ⟨c, rest, rfl, h.1, fun d hd => ?_⟩
    rcases List.mem_cons.mp hd with rfl | hd
    · exact isTail_of_isHead h.1
    · exact h.2 d hd

/-- Every character of a text that passes the check is a part of an identifier. -/
theorem isTail_of_isValid (h : isValid text.toList = true) : ∀ d ∈ text.toList, isTail d = true :=
  let ⟨_, _, _, _, htail⟩ := exists_head_of_isValid h
  htail

/-- A text that passes the check and is no reserved word is read as a name. -/
theorem isName_of_isValid (h : isValid text.toList = true)
    (hreserved : Script.Parser.isReserved text = false) : Script.isName text = true := by
  obtain ⟨c, rest, hl, hhead, htail⟩ := exists_head_of_isValid h
  obtain ⟨hdigit, hstart⟩ := isNameStart_of_isHead hhead
  have hblank := (isNamePart_of_isTail (isTail_of_isHead hhead)).2
  have hrest : ∀ d ∈ rest, Script.Scan.isNamePart d = true := fun d hd =>
    (isNamePart_of_isTail (htail d (by rw [hl]; exact List.mem_cons_of_mem c hd))).1
  simpa [Script.isName, hl, hreserved, hblank, hdigit, hstart] using hrest

/-- A number after a stem makes no difference to the check. -/
theorem isValid_append (stem : String) (n : Nat) :
    isValid (stem ++ toString n).toList = isValid stem.toList := by
  have hdigit : ∀ d ∈ Nat.toDigits 10 n, d.isDigit = true := fun d hd =>
    Nat.isDigit_of_mem_toDigits (by decide) (by decide) hd
  have htail : (Nat.toDigits 10 n).all isTail = true :=
    List.all_eq_true.mpr fun d hd => isTail_of_isDigit (hdigit d hd)
  rw [String.toList_append, Nat.toString_eq_repr, Nat.toList_repr]
  cases stem.toList with
  | nil =>
    cases hd : Nat.toDigits 10 n with
    | nil => exact absurd hd Nat.toDigits_ne_nil
    | cons d rest =>
      have hhead := not_isHead_of_isDigit (hdigit d (by simp [hd]))
      simp [isValid, hhead]
  | cons c rest => rw [List.cons_append, isValid, isValid, List.all_append, htail, Bool.and_true]

/-- What is drawn ends with a digit, and so is no reserved word. -/
theorem isReserved_append (stem : String) (n : Nat) :
    Script.Parser.isReserved (stem ++ toString n) = false := by
  have hlast : ∃ d, (stem ++ toString n).toList.getLast? = some d ∧ d.isDigit = true := by
    rw [String.toList_append, Nat.toString_eq_repr, Nat.toList_repr, List.getLast?_append]
    cases hd : (Nat.toDigits 10 n).getLast? with
    | none => exact absurd (List.getLast?_eq_none_iff.mp hd) Nat.toDigits_ne_nil
    | some d =>
      exact ⟨d, rfl, Nat.isDigit_of_mem_toDigits (by decide) (by decide)
        (List.mem_of_getLast? hd)⟩
  obtain ⟨d, hd, hdigit⟩ := hlast
  have hne (word : String) (hword : word.toList.getLast?.any Char.isDigit = false) :
      (stem ++ toString n == word) = false := by
    refine beq_eq_false_iff_ne.mpr fun heq => ?_
    rw [← heq, hd, Option.any_some, hdigit] at hword
    cases hword
  rw [Script.Parser.isReserved, hne "lambda" (by decide), hne "raise" (by decide)]
  rfl

end Ident

/-! ### Reading a name that stands alone -/

namespace Script

variable {s : String} {read more : List Char}

/-- A name that has been begun ends with the text. -/
theorem Scan.tokens_name_alone (hmore : more.all isNamePart = true) :
    tokens (.name read) more = .ok [.name (String.ofList (read.reverse ++ more))] := by
  induction more generalizing read with
  | nil => rw [List.append_nil, tokens, close]
  | cons d more ih =>
    obtain ⟨hd, hmore⟩ := Bool.and_eq_true_iff.mp hmore
    rw [tokens, step, if_pos hd]
    change (do
      let ts ← tokens (.name (d :: read)) more
      return [] ++ ts : Except SyntaxFault _) = _
    rw [ih hmore, List.reverse_cons, List.append_assoc]
    rfl

/-- A name that stands alone is one token. -/
theorem scan_of_isName (h : isName s = true) : Token.scan s.toList = .ok [.name s] := by
  have hs := (Bool.and_eq_true_iff.mp h).2
  split at hs
  · cases hs
  · next d more hd =>
    simp only [Bool.and_eq_true, Bool.not_eq_true'] at hs
    obtain ⟨⟨⟨hblank, hdigit⟩, hstart⟩, hmore⟩ := hs
    have hbegin : Scan.start d = .ok ([], .name [d]) := by
      simp [Scan.start, hblank, hdigit, hstart]
    have hname : String.ofList ([d].reverse ++ more) = s := by
      change String.ofList (d :: more) = s
      rw [← hd, String.ofList_toList]
    rw [Token.scan, hd, Scan.tokens, Scan.step, hbegin]
    change (do
      let ts ← Scan.tokens (.name [d]) more
      return [] ++ ts : Except SyntaxFault _) = _
    rw [Scan.tokens_name_alone hmore, hname]
    rfl

/-- **What a text that passes the check is read as**: the name that it is, unless it is a reserved
word. -/
theorem Expr.ofText_of_isValid (h : Ident.isValid s.toList = true) :
    Expr.ofText s.toList = if Parser.isReserved s then .error .invalid else .ok (.name s) := by
  cases hreserved : Parser.isReserved s with
  | true =>
    rw [Parser.isReserved, Bool.or_eq_true, beq_iff_eq, beq_iff_eq] at hreserved
    rcases hreserved with rfl | rfl <;> rfl
  | false =>
    have hblank : ∀ d ∈ s.toList, Category.isBlank d = false := fun d hd =>
      (Ident.isNamePart_of_isTail (Ident.isTail_of_isValid h d hd)).2
    have htrim : Margin.trim s.toList = s.toList := Margin.trim_of_forall hblank
    have hname : Parser.expr (Parser.budget [.name s]) [.name s] = .ok (.name s, []) :=
      Parser.expr_name hreserved rfl
    rw [Expr.ofText, htrim, scan_of_isName (Ident.isName_of_isValid h hreserved)]
    change Expr.ofTokens [.name s] = _
    rw [Expr.ofTokens, hname]
    rfl

end Script

/-! ### Evaluating it -/

section

variable {call : Script.Caller Bench} {k : Nat} {c : Context} {w w' : Session} {v : Ref}

/-- Errors are reported without one. -/
theorem Context.exists_run_reportError (call : Script.Caller Bench) (k : Nat) (showErrors : Bool)
    (w : Session) : ∃ w', (Context.reportError (Script.interface call k) showErrors).run w =
      (.ok (), w') := by
  unfold Context.reportError
  rw [Exec.run_bind_of_ok (Quiet.run_run _ _)]
  split
  · cases showErrors with
    | false => exact ⟨_, Quiet.run_run _ _⟩
    | true => exact ⟨_, Quiet.run_run _ _⟩
  · exact ⟨_, rfl⟩

/-- Nothing is bound in what is no dictionary. -/
theorem Script.bind_of_not_dict {scope : Ref}
    (h : ∀ names, w.outside.store.heap.get (some scope) ≠ .dict names) (x : String)
    (value : Option Ref) :
    ReaderT.run (Script.Store.bind (some scope) x value) w.descriptors w.outside =
      (false, w.outside) := by
  have hget : (ReaderT.run (Script.Store.object (some scope)) w.descriptors w.outside).1 =
      w.outside.store.heap.get (some scope) := rfl
  unfold Script.Store.bind
  rw [Quiet.run_bind, hget]
  cases hnames : w.outside.store.heap.get (some scope) with
  | dict names => exact absurd hnames (h names)
  | _ => rfl

/-- When a global is set, the namespace is a dictionary that binds it. -/
theorem Context.of_run_setGlobal {name : String}
    (h : (c.setGlobal (Script.interface call k) name (some v)).run w = (.ok true, w')) :
    (∃ names, w'.outside.store.heap.get (some c.globals) = .dict names) ∧
      w'.outside.store.binding? c.globals name = some (some v) := by
  unfold Context.setGlobal at h
  split at h
  · by_cases hdict : ∃ names, w.outside.store.heap.get (some c.globals) = .dict names
    · obtain ⟨names, hnames⟩ := hdict
      rw [Exec.run_bind_of_ok (Capture.run_dictSet hnames name (some v))] at h
      cases h
      exact ⟨Capture.exists_names_after hnames _, Script.Store.binding?_bound hnames name (some v)⟩
    · obtain ⟨w₁, hset⟩ : ∃ w₁, ((Script.interface call k).dictSet (some c.globals) name
          (some v)).run.run w = (.ok false, w₁) := by
        change ∃ w₁, (Script.dictSet k (some c.globals) name (some v)).run.run w = _
        unfold Script.dictSet
        rw [Quiet.run_run, Quiet.run_bind, Script.bind_of_not_dict (not_exists.mp hdict)]
        exact ⟨_, rfl⟩
      rw [Exec.run_bind_of_ok hset] at h
      cases h
  · cases h

/-- A text that passes the check is not the source that captures output, which has line feeds. -/
theorem Ident.ne_source_of_isValid {text : String} (h : isValid text.toList = true) :
    (text == Capture.source) = false := by
  refine beq_eq_false_iff_ne.mpr fun heq => ?_
  have hblank : '\n' ∈ text.toList := by
    rw [heq, Capture.source, String.intercalate_cons_of_ne_nil (List.cons_ne_nil _ _),
      String.toList_append, String.toList_append]
    exact List.mem_append_left _ (List.mem_append_right _ List.mem_cons_self)
  exact absurd (isTail_of_isValid h _ hblank) (by decide)

/-- A text that passes the check crosses the boundary. -/
theorem Ident.crosses_of_isValid {text : String} (h : isValid text.toList = true) :
    Image.crosses text = true := by
  have hnul : '\x00' ∉ text.toList := fun hmem => absurd (isTail_of_isValid h _ hmem) (by decide)
  simpa [Image.crosses] using hnul

/-- The evaluation of a text that passes the check gives the value of the global, unless it is a
reserved word. -/
theorem Context.run_execute_of_isValid {text : String} (h : Ident.isValid text.toList = true)
    {names : Bindings (Option Ref)}
    (hnames : w.outside.store.heap.get (some c.globals) = .dict names)
    (hv : w.outside.store.binding? c.globals text = some (some v)) (showErrors : Bool) :
    ∃ w', (c.execute (Script.interface call k) text .eval showErrors).run w =
      (.ok (if Script.Parser.isReserved text then none else some v), w') := by
  have hne := Ident.ne_source_of_isValid h
  have hcrosses := Ident.crosses_of_isValid h
  have hread := Expr.ofText_of_isValid h
  have htended := SourceLambda.tended_upkeep (k := k) hnames text
  have hbound : (w.happening (Capture.upkeep c k w)).outside.store.binding? c.globals text =
      some (some v) := by
    rw [htended, if_neg, hv]
    rintro ⟨-, hnone⟩
    rw [hv] at hnone
    cases hnone
  cases hreserved : Script.Parser.isReserved text with
  | false =>
    rw [hreserved, if_neg Bool.false_ne_true] at hread
    have htext : (Script.runText call k c.globals .eval text).run.run
        ((w.happening (Capture.upkeep c k w)).happening [.ran k text]) =
          (.ok (.ok (some v)), (w.happening (Capture.upkeep c k w)).happening [.ran k text]) := by
      unfold Script.runText
      rw [hread]
      exact @Script.run_eval_name call k _ _ _ _ hbound
    exact ⟨_, Capture.run_execute hnames hcrosses .eval showErrors
      (Capture.run_runString hne htext)⟩
  | true =>
    rw [hreserved, if_pos rfl] at hread
    have htext : (Script.runText call k c.globals .eval text).run.run
        ((w.happening (Capture.upkeep c k w)).happening [.ran k text]) =
          (.ok (.error SyntaxFault.invalid.fault),
            (w.happening (Capture.upkeep c k w)).happening [.ran k text]) := by
      unfold Script.runText
      rw [hread]
      rfl
    have hnone := Session.run_runString_of_error hne htext
    obtain ⟨w', hreport⟩ := exists_run_reportError call k showErrors
      (((w.happening (Capture.upkeep c k w)).happening [.ran k text]).raising k
        SyntaxFault.invalid.fault)
    refine ⟨w', ?_⟩
    rw [Session.run_execute_of_none hcrosses showErrors (Capture.run_ensureBuiltins hnames) hnone,
      Exec.run_bind_of_ok hreport]
    rfl

end

/-! ### Where identifiers come from -/

namespace Ident

/-- What an identifier was made from. -/
inductive Origin where
  /-- A text that the host chose. -/
  | chosen (text : String)
  /-- A source, which puts a number after its stem. -/
  | drawn (source : IdentSource)

namespace Origin

/-- The identifier, unless the text that was chosen is refused. -/
def ident? : Origin → Option Ident
  | chosen text => ofText? text
  | drawn source => some source.next.1

/-- What the identifier starts with. -/
def stem : Origin → String
  | chosen text => text
  | drawn source => source.stem

variable {o : Origin} {id : Ident}

theorem isValid_of_chosen {text : String} (h : ident? (chosen text) = some id) :
    isValid id.text.toList = true := by
  obtain ⟨rfl, hvalid⟩ := ofText?_eq_some_iff.mp h
  exact hvalid

theorem isValid_drawn {source : IdentSource} (h : ident? (drawn source) = some id) :
    isValid id.text.toList = isValid source.stem.toList := by
  cases h
  exact isValid_append source.stem source.issued.toNat

/-- An identifier crosses the boundary as it is, unless a NUL in a stem ends it early. -/
theorem crossing_eq_iff (h : o.ident? = some id) :
    id.crossing = id.text ↔ '\x00' ∉ o.stem.toList := by
  cases o with
  | chosen text =>
    obtain ⟨rfl, hvalid⟩ := ofText?_eq_some_iff.mp h
    refine ⟨fun _ hmem => ?_, fun _ => crossing_of_ofText? h⟩
    exact absurd (isTail_of_isValid hvalid _ hmem) (by decide)
  | drawn source =>
    cases h
    have hdigits : '\x00' ∉ Nat.toDigits 10 source.issued.toNat := fun hmem =>
      absurd (Nat.isDigit_of_mem_toDigits (by decide) (by decide) hmem) (by decide)
    have hmem : '\x00' ∈ source.next.1.text.toList ↔ '\x00' ∈ source.stem.toList := by
      rw [IdentSource.next, String.toList_append, Nat.toString_eq_repr, Nat.toList_repr,
        List.mem_append, or_iff_left hdigits]
    refine ⟨fun hcrossing hnul => ?_, fun hnul => crossing_of_not_mem (mt hmem.mp hnul)⟩
    have hsome := hmem.mpr hnul
    rw [crossing, if_pos (by simpa using hsome)] at hcrossing
    rw [← hcrossing] at hsome
    cases hsome

/-- Only a text that was chosen is a reserved word. -/
theorem exists_chosen_of_isReserved (h : o.ident? = some id)
    (hreserved : Script.Parser.isReserved id.text = true) : ∃ text, o = chosen text := by
  cases o with
  | chosen text => exact ⟨text, rfl⟩
  | drawn source =>
    cases h
    rw [IdentSource.next, isReserved_append] at hreserved
    cases hreserved

end Origin

/-- **Which identifiers give back the value of the global that they name.** An identifier is made
from a chosen text or drawn from a source with any stem. It is a letter or underscore with letters,
digits and underscores after it when it was chosen, and else exactly when the stem is; it crosses
the boundary as it is unless a stem has a NUL. If it is of that form, over a scripted interpreter,
any namespace and any state, once the global with its name is set to an object, its text is
evaluated to that object, unless it is a reserved word; then the evaluation fails. Only a chosen
text is a reserved word. -/
theorem names_global {o : Origin} {id : Ident} (h : o.ident? = some id) :
    (∀ text, o = .chosen text → isValid id.text.toList = true) ∧
    (∀ source, o = .drawn source → isValid id.text.toList = isValid source.stem.toList) ∧
    (id.crossing = id.text ↔ '\x00' ∉ o.stem.toList) ∧
    (isValid id.text.toList = true → ∀ (call : Script.Caller Bench) (k : Nat) (c : Context)
      (w w' : Session) (v : Ref) (showErrors : Bool),
      (c.setGlobal (Script.interface call k) id.text (some v)).run w = (.ok true, w') →
      ∃ w'', (c.execute (Script.interface call k) id.text .eval showErrors).run w' =
        (.ok (if Script.Parser.isReserved id.text then none else some v), w'')) ∧
    (Script.Parser.isReserved id.text = true → ∃ text, o = .chosen text) := by
  refine ⟨?_, ?_, Origin.crossing_eq_iff h, fun hvalid => ?_,
    Origin.exists_chosen_of_isReserved h⟩
  · rintro text rfl
    exact Origin.isValid_of_chosen h
  · rintro source rfl
    exact Origin.isValid_drawn h
  · intro call k c w w' v showErrors hset
    obtain ⟨⟨names, hnames⟩, hv⟩ := Context.of_run_setGlobal hset
    exact Context.run_execute_of_isValid hvalid hnames hv showErrors

/-- A global with a name is set in a new namespace. -/
def setting (text : String) : Except Stop Bool × Session :=
  (SourceLambda.isolated.setGlobal (Script.interface (Recursion.level 0).call 0) text
    (some 0)).run (SourceLambda.kept "x: x")

/-- What the first source draws gives back the value of the global. -/
theorem names_global_drawn :
    ∃ w, (SourceLambda.isolated.execute (Script.interface (Recursion.level 0).call 0) "lmb0" .eval
      true).run (setting "lmb0").2 = (.ok (some 0), w) := by
  have hdrawn : (Origin.drawn ⟨lambdaStem, 0⟩).ident? = some ⟨"lmb0"⟩ := rfl
  obtain ⟨-, -, -, hvalue, -⟩ := names_global hdrawn
  exact hvalue (by decide) _ 0 SourceLambda.isolated (SourceLambda.kept "x: x") _ 0 true rfl

/-- A reserved word is accepted and does not give back the value of the global. -/
theorem not_names_global_always :
    ¬∀ (o : Origin) (id : Ident), o.ident? = some id →
      ∀ (call : Script.Caller Bench) (k : Nat) (c : Context) (w w' : Session) (v : Ref)
        (showErrors : Bool),
        (c.setGlobal (Script.interface call k) id.text (some v)).run w = (.ok true, w') →
        ∃ w'', (c.execute (Script.interface call k) id.text .eval showErrors).run w' =
          (.ok (some v), w'') := by
  intro h
  obtain ⟨w, hw⟩ := h (.chosen "lambda") ⟨"lambda"⟩ rfl (Recursion.level 0).call 0
    SourceLambda.isolated (SourceLambda.kept "x: x") (setting "lambda").2 0 true rfl
  have hnone : ((SourceLambda.isolated.execute (Script.interface (Recursion.level 0).call 0)
      "lambda" .eval true).run (setting "lambda").2).1 = .ok none := rfl
  rw [hw] at hnone
  cases hnone

end Ident

end ClosureBridge
