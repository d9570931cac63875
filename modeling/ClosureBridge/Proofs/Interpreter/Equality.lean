import ClosureBridge.Proofs.Interpreter.ReadBack
import ClosureBridge.Proofs.Interpreter.Tree
import Mathlib

/-!
# Equality of values

Scripts compare objects by the texts that show them. Such a text tells the value: its first
character tells whether it is a word, a text, a list or a tuple, and where it ends is seen from what
stands there, whatever follows. So a text that shows a value can be cut off from what follows it in
one way only, and values are equal just when they are the same.

## Main definitions

* `Script.Ends`: what may stand after a value.
* `Script.Bracket.more`: what stands after the first item.

## Main statements

* `Script.flatMap_escape_cancel`: an escaped text ends at the first quote that is not escaped.
* `Script.Leaf.cancel`, `Script.Tree.cancel`: a text that shows a value ends in one place.
* `Script.eval_equal_iff`: two objects are equal just when they are the same value.
-/

namespace ClosureBridge.Script

/-! ### Words -/

/-- A character of a number or of the name of a constant. -/
def isWordPart (c : Char) : Bool :=
  c.isAlphanum || c == '-'

/-- What may stand after a value: what separates items or closes what holds them, or nothing. -/
def Ends (rest : List Char) : Prop :=
  ∀ c ∈ rest.head?, isWordPart c = false

theorem ends_cons {c : Char} (h : isWordPart c = false) (rest : List Char) : Ends (c :: rest) := by
  simpa [Ends] using h

/-- A word ends where something else stands. -/
theorem word_cancel {word word' rest rest' : List Char} (hword : ∀ c ∈ word, isWordPart c = true)
    (hword' : ∀ c ∈ word', isWordPart c = true) (hrest : Ends rest) (hrest' : Ends rest')
    (h : word ++ rest = word' ++ rest') : word = word' ∧ rest = rest' := by
  have takeWhile_append {word rest : List Char} (hword : ∀ c ∈ word, isWordPart c = true)
      (hrest : Ends rest) : (word ++ rest).takeWhile isWordPart = word := by
    rw [List.takeWhile_append_of_pos hword]
    cases rest with
    | nil => simp
    | cons c rest => simp [hrest c rfl]
  have hwords : word = word' := by
    rw [← takeWhile_append hword hrest, h, takeWhile_append hword' hrest']
  subst hwords
  exact ⟨rfl, List.append_cancel_left h⟩

/-! ### Texts -/

/-- A character is escaped by a backslash or stands for itself. -/
theorem escape_eq_or (c : Char) :
    escape c = ['\\', c] ∨ escape c = [c] ∧ c ≠ '\\' ∧ c ≠ '\'' := by
  unfold escape
  split
  · next hc => simp [hc]
  · split
    · next hc => simp [hc]
    · next hb hq => simp [hb, hq]

/-- A quote inside a text is escaped. -/
theorem quote_ne_escape (c : Char) (x y : List Char) : '\'' :: x ≠ escape c ++ y := by
  rcases escape_eq_or c with hc | ⟨hc, -, hq⟩
  · simp [hc]
  · simp [hc, Ne.symm hq]

/-- An escaped character ends in one place. -/
theorem escape_cancel {c d : Char} {x y : List Char} (h : escape c ++ x = escape d ++ y) :
    c = d ∧ x = y := by
  rcases escape_eq_or c with hc | ⟨hc, hc', -⟩ <;> rcases escape_eq_or d with hd | ⟨hd, hd', -⟩
  · simpa [hc, hd] using h
  · simp [hc, hd, Ne.symm hd'] at h
  · simp [hc, hd, hc'] at h
  · simpa [hc, hd] using h

/-- An escaped text ends at the first quote that is not escaped. -/
theorem flatMap_escape_cancel {text text' rest rest' : List Char}
    (h : text.flatMap escape ++ '\'' :: rest = text'.flatMap escape ++ '\'' :: rest') :
    text = text' ∧ rest = rest' := by
  induction text generalizing text' with
  | nil =>
    cases text' with
    | nil => simpa using h
    | cons d text' =>
      rw [List.flatMap_cons, List.append_assoc] at h
      exact absurd h (quote_ne_escape d rest _)
  | cons c text ih =>
    cases text' with
    | nil =>
      rw [List.flatMap_cons, List.append_assoc] at h
      exact absurd h.symm (quote_ne_escape c rest' _)
    | cons d text' =>
      simp only [List.flatMap_cons, List.append_assoc] at h
      obtain ⟨rfl, hmore⟩ := escape_cancel h
      obtain ⟨rfl, hrest⟩ := ih hmore
      exact ⟨rfl, hrest⟩

/-! ### Values without items -/

/-- An integer is shown by digits and a minus sign. -/
theorem isDigit_or_minus {n : Int} {c : Char} (h : c ∈ (toString n).toList) :
    c.isDigit = true ∨ c = '-' := by
  have hdigit : c ∈ Nat.toDigits 10 n.natAbs → c.isDigit = true :=
    Nat.isDigit_of_mem_toDigits (by decide) (by decide)
  rw [Datum.toList_integer] at h
  split at h
  · rw [List.mem_cons] at h
    exact h.symm.imp_left hdigit
  · exact .inl (hdigit h)

/-- No integer is shown by a word with a letter in it. -/
theorem toString_ne_of_letter {word : String}
    (h : (word.toList.all fun c => c.isDigit || c == '-') = false) (n : Int) :
    toString n ≠ word := by
  rintro rfl
  obtain ⟨c, hc, hletter⟩ := List.all_eq_false.mp h
  exact hletter (by simpa using isDigit_or_minus hc)

namespace Leaf

/-- Whether a value is shown as a word. -/
def isWord : Leaf → Bool
  | text _ => false
  | _ => true

theorem isWordPart_shown {l : Leaf} (h : l.isWord = true) :
    ∀ c ∈ l.shown.toList, isWordPart c = true := by
  cases l with
  | none => exact List.all_eq_true.mp (by decide)
  | boolean b => exact List.all_eq_true.mp (by cases b <;> decide)
  | integer n =>
    intro c hc
    rcases isDigit_or_minus hc with hd | rfl
    · simp [isWordPart, Char.isAlphanum, hd]
    · decide
  | text s => cases h

/-- The first character tells whether a value is shown by a word or in quotes. -/
theorem exists_head (l : Leaf) : ∃ c tail, l.shown.toList = c :: tail ∧
    isWordPart c = l.isWord ∧ (isWordPart c = true ∨ c = '\'') := by
  cases l with
  | none => exact ⟨'N', _, rfl, rfl, .inl rfl⟩
  | boolean b =>
    cases b
    · exact ⟨'F', _, rfl, rfl, .inl rfl⟩
    · exact ⟨'T', _, rfl, rfl, .inl rfl⟩
  | integer n =>
    cases hshown : (toString n.toInt).toList with
    | nil =>
      rw [Datum.toList_integer] at hshown
      split at hshown
      · cases hshown
      · exact absurd hshown Nat.toDigits_ne_nil
    | cons c tail =>
      have hmem : c ∈ (integer n).shown.toList := by
        rw [shown, hshown]
        exact List.mem_cons_self
      have hc := isWordPart_shown (l := integer n) rfl c hmem
      exact ⟨c, tail, hshown, hc, .inl hc⟩
  | text s => exact ⟨'\'', _, toList_literal s, rfl, .inr rfl⟩

/-- A word tells its value. -/
theorem eq_of_shown {l l' : Leaf} (hl : l.isWord = true) (hl' : l'.isWord = true)
    (h : l.shown = l'.shown) : l = l' := by
  have letter (b : Bool) :
      ((boolean b).shown.toList.all fun c => c.isDigit || c == '-') = false := by
    cases b <;> decide
  cases l with
  | none =>
    cases l' with
    | none => rfl
    | boolean b => cases b <;> exact absurd h (by decide)
    | integer n => exact absurd h.symm (toString_ne_of_letter (by decide) _)
    | text s => cases hl'
  | boolean b =>
    cases l' with
    | none => cases b <;> exact absurd h (by decide)
    | boolean b' => cases b <;> cases b' <;> first | rfl | exact absurd h (by decide)
    | integer n => exact absurd h.symm (toString_ne_of_letter (letter b) _)
    | text s => cases hl'
  | integer n =>
    cases l' with
    | none => exact absurd h (toString_ne_of_letter (by decide) _)
    | boolean b => exact absurd h (toString_ne_of_letter (letter b) _)
    | integer n' => exact congrArg integer (Int64.toInt_inj.mp (Int.repr_inj.mp h))
    | text s => cases hl'
  | text s => cases hl

/-- The text of a value without items ends in one place, whatever follows it. -/
theorem cancel {l l' : Leaf} {rest rest' : List Char} (hrest : Ends rest) (hrest' : Ends rest')
    (h : l.shown.toList ++ rest = l'.shown.toList ++ rest') : l = l' ∧ rest = rest' := by
  have hsame : l'.isWord = l.isWord := by
    obtain ⟨c, tail, hshown, hc, -⟩ := l.exists_head
    obtain ⟨c', tail', hshown', hc', -⟩ := l'.exists_head
    rw [hshown, hshown'] at h
    rw [← hc, ← hc', (List.cons.inj h).1]
  cases hl : l.isWord with
  | true =>
    have hl' : l'.isWord = true := hsame.trans hl
    obtain ⟨hword, rfl⟩ :=
      word_cancel (isWordPart_shown hl) (isWordPart_shown hl') hrest hrest' h
    exact ⟨eq_of_shown hl hl' (String.toList_inj.mp hword), rfl⟩
  | false =>
    rw [hl] at hsame
    cases l with
    | text s =>
      cases l' with
      | text s' =>
        simp only [shown, toList_literal, List.cons_append, List.append_assoc, List.nil_append,
          List.cons.injEq, true_and] at h
        obtain ⟨htext, rfl⟩ := flatMap_escape_cancel h
        exact ⟨congrArg text (String.toList_inj.mp htext), rfl⟩
      | _ => cases hsame
    | _ => cases hl

end Leaf

/-! ### Values with items -/

namespace Bracket

/-- The character before the items. -/
def opening : Bracket → Char
  | list => '['
  | tuple => '('

/-- The character after the items. -/
def closing : Bracket → Char
  | list => ']'
  | tuple => ')'

/-- What stands after the first item, of the texts of the others. A tuple of one item has a comma
there. -/
def more : Bracket → List (List Char) → List Char
  | tuple, [] => [',', ')']
  | b, texts => texts.flatMap (',' :: ' ' :: ·) ++ [b.closing]

/-- What stands after the opening character, of the texts of the items. -/
def inner (b : Bracket) : List (List Char) → List Char
  | [] => [b.closing]
  | text :: texts => text ++ b.more texts

theorem intercalate_cons (text : List Char) (texts : List (List Char)) :
    [',', ' '].intercalate (text :: texts) = text ++ texts.flatMap (',' :: ' ' :: ·) := by
  induction texts generalizing text with
  | nil => simp
  | cons next texts ih => simp [List.intercalate_cons_cons, ih]

/-- The text of what holds items, in its parts. -/
theorem toList_shown (b : Bracket) (texts : List String) :
    (b.shown texts).toList = b.opening :: b.inner (texts.map String.toList) := by
  have hcomma : ", ".toList = [',', ' '] := rfl
  cases texts with
  | nil => cases b <;> rfl
  | cons text texts =>
    cases b with
    | list =>
      simp [shown, Heap.showList, hcomma, intercalate_cons, inner, more, opening, closing]
    | tuple =>
      cases texts with
      | nil => simp [shown, Heap.showTuple, inner, more, opening]
      | cons next texts =>
        simp [shown, Heap.showTuple, hcomma, intercalate_cons, inner, more, opening, closing]

/-- The items after the first one are separated and closed alike, whether what holds them is a tuple
or not, unless a tuple has no second item. -/
theorem flatMap_eq_of_more (b : Bracket) {texts texts' : List (List Char)} {rest rest' : List Char}
    (h : b.more texts ++ rest = b.more texts' ++ rest') :
    texts.flatMap (',' :: ' ' :: ·) ++ b.closing :: rest =
      texts'.flatMap (',' :: ' ' :: ·) ++ b.closing :: rest' := by
  cases b with
  | list => simpa [more] using h
  | tuple => cases texts <;> cases texts' <;> simp_all [more]

theorem ends_items (b : Bracket) (texts : List (List Char)) (rest : List Char) :
    Ends (texts.flatMap (',' :: ' ' :: ·) ++ b.closing :: rest) := by
  cases texts <;> exact ends_cons (by cases b <;> decide) _

theorem ends_more (b : Bracket) (texts : List (List Char)) (rest : List Char) :
    Ends (b.more texts ++ rest) := by
  cases b <;> cases texts <;> exact ends_cons (by decide) _

/-- No item goes on where the items are closed. -/
theorem closing_ne_comma (b : Bracket) : b.closing ≠ ',' := by
  cases b <;> decide

/-- Neither a word nor a quote is a bracket. -/
theorem ne_of_isWordPart {c : Char} (hc : isWordPart c = true ∨ c = '\'') (b : Bracket) :
    c ≠ b.opening ∧ c ≠ b.closing := by
  cases b <;> constructor <;> rintro rfl <;> exact absurd hc (by decide)

end Bracket

namespace Tree

/-- No text that shows a value starts with a closing bracket. -/
theorem closing_ne_shown (b : Bracket) (t : Tree) (x y : List Char) :
    b.closing :: x ≠ t.shown.toList ++ y := by
  intro h
  cases t with
  | leaf l =>
    obtain ⟨c, tail, hshown, -, hc⟩ := l.exists_head
    rw [shown, hshown] at h
    exact (b.ne_of_isWordPart hc).2 (List.cons.inj h).1.symm
  | node b' ts =>
    rw [shown, b'.toList_shown] at h
    exact absurd (List.cons.inj h).1 (by cases b <;> cases b' <;> decide)

/-- No text that shows a value without items starts with an opening bracket. -/
theorem opening_ne_shown (b : Bracket) (l : Leaf) (x y : List Char) :
    b.opening :: x ≠ l.shown.toList ++ y := by
  intro h
  obtain ⟨c, tail, hshown, -, hc⟩ := l.exists_head
  rw [hshown] at h
  exact (b.ne_of_isWordPart hc).1 (List.cons.inj h).1.symm

mutual

/-- The text of a value ends in one place, whatever follows it. -/
theorem cancel : (t : Tree) → ∀ {t' : Tree} {rest rest' : List Char}, Ends rest → Ends rest' →
    t.shown.toList ++ rest = t'.shown.toList ++ rest' → t = t' ∧ rest = rest'
  | leaf l, leaf l', _, _, hrest, hrest', h => by
    obtain ⟨rfl, hrest⟩ := Leaf.cancel hrest hrest' h
    exact ⟨rfl, hrest⟩
  | leaf l, node b ts, rest, rest', _, _, h => by
    simp only [shown, b.toList_shown] at h
    exact absurd h.symm (opening_ne_shown b l _ _)
  | node b ts, leaf l, rest, rest', _, _, h => by
    simp only [shown, b.toList_shown] at h
    exact absurd h (opening_ne_shown b l _ _)
  | node b ts, node b' ts', rest, rest', _, _, h => by
    simp only [shown, Bracket.toList_shown, List.cons_append, List.cons.injEq] at h
    obtain ⟨hb, h⟩ := h
    have hbracket : b = b' := by
      cases b <;> cases b' <;> first | rfl | exact absurd hb (by decide)
    subst hbracket
    obtain ⟨rfl, hrest⟩ := cancel_inner b ts h
    exact ⟨rfl, hrest⟩

/-- The same for the items of a value, which are closed. -/
theorem cancel_inner (b : Bracket) : (ts : List Tree) →
    ∀ {ts' : List Tree} {rest rest' : List Char},
      b.inner ((shownAll ts).map String.toList) ++ rest =
        b.inner ((shownAll ts').map String.toList) ++ rest' → ts = ts' ∧ rest = rest'
  | [], [], _, _, h => by simpa [shownAll, Bracket.inner] using h
  | [], t' :: ts', _, _, h => by
    simp only [shownAll, Bracket.inner, List.map_cons, List.map_nil, List.append_assoc] at h
    exact absurd h (closing_ne_shown b t' _ _)
  | t :: ts, [], _, _, h => by
    simp only [shownAll, Bracket.inner, List.map_cons, List.map_nil, List.append_assoc] at h
    exact absurd h.symm (closing_ne_shown b t _ _)
  | t :: ts, t' :: ts', rest, rest', h => by
    simp only [shownAll, Bracket.inner, List.map_cons, List.append_assoc] at h
    obtain ⟨rfl, hmore⟩ := cancel t (b.ends_more _ _) (b.ends_more _ _) h
    obtain ⟨rfl, hrest⟩ := cancel_items b ts (b.flatMap_eq_of_more hmore)
    exact ⟨rfl, hrest⟩

/-- The same for items with a comma before each of them. -/
theorem cancel_items (b : Bracket) : (ts : List Tree) →
    ∀ {ts' : List Tree} {rest rest' : List Char},
      ((shownAll ts).map String.toList).flatMap (',' :: ' ' :: ·) ++ b.closing :: rest =
        ((shownAll ts').map String.toList).flatMap (',' :: ' ' :: ·) ++ b.closing :: rest' →
          ts = ts' ∧ rest = rest'
  | [], [], _, _, h => by simpa [shownAll] using h
  | [], t' :: ts', _, _, h => by
    simp [shownAll, b.closing_ne_comma] at h
  | t :: ts, [], _, _, h => by
    simp [shownAll, Ne.symm b.closing_ne_comma] at h
  | t :: ts, t' :: ts', rest, rest', h => by
    simp only [shownAll, List.map_cons, List.flatMap_cons, List.cons_append, List.append_assoc,
      List.cons.injEq, true_and] at h
    obtain ⟨rfl, hitems⟩ := cancel t (b.ends_items _ _) (b.ends_items _ _) h
    obtain ⟨rfl, hrest⟩ := cancel_items b ts hitems
    exact ⟨rfl, hrest⟩

end

/-- **A text that shows a value tells the value.** -/
theorem shown_inj {t t' : Tree} : t.shown = t'.shown ↔ t = t' := by
  refine ⟨fun h => ?_, congrArg shown⟩
  have hends : Ends [] := nofun
  exact (cancel t hends hends (congrArg (·.toList ++ []) h)).1

/-- Objects that are values are shown alike just when they are the same value. -/
theorem repr_eq_repr_iff {h h' : Heap} {t t' : Tree} {r r' : Ref} (ht : t.At h r)
    (ht' : t'.At h' r') (descriptors descriptors' : DescriptorPool) :
    h.repr descriptors (some r) = h'.repr descriptors' (some r') ↔ t = t' := by
  rw [ht.repr_eq, ht'.repr_eq, shown_inj]

end Tree

/-! ### Comparison -/

variable {call : Caller Bench} {k : Nat} {scope : Scope} {a b : Expr} {w w₁ w₂ : Session}
  {r r' : Ref} {t t' : Tree}

/-- **Two objects are equal just when they are the same value.** A comparison evaluates its sides in
turn, whatever they are. When they have given objects that are values by then, it succeeds and makes
a truth value, and nothing else: that the values are built alike, of the same constants, integers
and texts in the same lists and tuples. The texts that show two values are equal in just that case,
in whatever heaps they are. -/
theorem eval_equal_iff (ha : (eval call k scope a).run.run w = (.ok (.ok (some r)), w₁))
    (hb : (eval call k scope b).run.run w₁ = (.ok (.ok (some r')), w₂))
    (ht : t.At w₂.outside.store.heap r) (ht' : t'.At w₂.outside.store.heap r') :
    (∃ v, (eval call k scope (.equal a b)).run.run w =
        (.ok (.ok (some w₂.outside.store.heap.objects.size)),
          w₂.happening [.made (.boolean v) rfl]) ∧ (v = true ↔ t = t')) ∧
      ∀ {h h' : Heap} {r r' : Ref} (descriptors descriptors' : DescriptorPool), t.At h r →
        t'.At h' r' →
          (h.repr descriptors (some r) = h'.repr descriptors' (some r') ↔ t = t') := by
  refine ⟨⟨w₂.outside.store.heap.repr w₂.descriptors (some r) ==
    w₂.outside.store.heap.repr w₂.descriptors (some r'), ?_, ?_⟩,
    fun descriptors descriptors' ht ht' => Tree.repr_eq_repr_iff ht ht' descriptors descriptors'⟩
  · unfold eval
    rw [Eval.run_bind_of_ok ha, Eval.run_bind_of_ok hb]
    rfl
  · rw [beq_iff_eq]
    exact Tree.repr_eq_repr_iff ht ht' _ _

/-- A tuple of two texts. -/
def Tree.pair : Tree :=
  .node .tuple [.leaf (.text "a\\"), .leaf (.text "b")]

/-- A tuple of one text, which has the quotes, the comma and a backslash that stand between the two
texts of the pair where it is shown. -/
def Tree.single : Tree :=
  .node .tuple [.leaf (.text "a\\', 'b")]

/-- A namespace with names for two tuples that are the pair, and for one that is not. -/
def Session.comparing : Session :=
  { Trial.fresh with outside.store.heap.objects :=
      #[.dict ⟨[("a", some 3), ("b", some 5), ("c", some 6)]⟩, .text "a\\", .text "b",
        .tuple [some 1, some 2], .text "a\\', 'b", .tuple [some 4], .tuple [some 1, some 2]] }

/-- A tuple equals another one of the same texts, and not the one whose text has both in it. -/
theorem eval_equal_iff_comparing :
    Tree.pair.At Session.comparing.outside.store.heap 3 ∧
      Tree.single.At Session.comparing.outside.store.heap 5 ∧
      Tree.pair.At Session.comparing.outside.store.heap 6 ∧
      (∃ w, (eval (Recursion.level 1).call 0 ⟨some 0, ∅⟩ (.equal (.name "a") (.name "c"))).run.run
          Session.comparing = (.ok (.ok (some 7)), w) ∧
        w.outside.store.heap.get (some 7) = .boolean true) ∧
      ∃ w, (eval (Recursion.level 1).call 0 ⟨some 0, ∅⟩ (.equal (.name "a") (.name "b"))).run.run
          Session.comparing = (.ok (.ok (some 7)), w) ∧
        w.outside.store.heap.get (some 7) = .boolean false := by
  have ha : Tree.pair.At Session.comparing.outside.store.heap 3 :=
    ⟨_, rfl, 1, _, rfl, by decide, rfl, 2, _, rfl, by decide, rfl, rfl⟩
  have hb : Tree.single.At Session.comparing.outside.store.heap 5 :=
    ⟨_, rfl, 4, _, rfl, by decide, rfl, rfl⟩
  have hc : Tree.pair.At Session.comparing.outside.store.heap 6 :=
    ⟨_, rfl, 1, _, rfl, by decide, rfl, 2, _, rfl, by decide, rfl, rfl⟩
  have hname (x : String) {r : Ref}
      (hx : Session.comparing.outside.store.binding? 0 x = some (some r)) :
      (eval (Recursion.level 1).call 0 ⟨some 0, ∅⟩ (.name x)).run.run Session.comparing =
        (.ok (.ok (some r)), Session.comparing) := by
    have hlookup : (lookup ⟨some 0, ∅⟩ x : Eval Bench _).run.run Session.comparing =
        (.ok (.ok (some (some r))), Session.comparing) := by
      change (Eval.quiet (Store.find (some 0) x) >>= _ : Eval Bench _).run.run _ = _
      rw [Eval.run_quiet_bind, Capture.find_eq, hx]
      rfl
    unfold eval
    exact Eval.run_bind_of_ok hlookup
  refine ⟨ha, hb, hc, ?_, ?_⟩
  · obtain ⟨⟨v, hrun, hv⟩, -⟩ := eval_equal_iff (hname "a" rfl) (hname "c" rfl) ha hc
    exact ⟨_, hrun, congrArg Object.boolean (hv.mpr rfl)⟩
  · obtain ⟨⟨v, hrun, hv⟩, -⟩ := eval_equal_iff (hname "a" rfl) (hname "b" rfl) ha hb
    have hne : Tree.pair ≠ Tree.single := by simp [Tree.pair, Tree.single]
    exact ⟨_, hrun, congrArg Object.boolean (Bool.eq_false_iff.mpr (hne ∘ hv.mp))⟩

end ClosureBridge.Script
