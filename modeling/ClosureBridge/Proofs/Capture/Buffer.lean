import ClosureBridge.Proofs.Interpreter.Events

/-!
# What reaches a buffer

Text reaches an output buffer when it is written to it by name, or printed by an interpreter whose
output goes there at that moment. What has reached it since its mark moved last is unread. Both are
told by the events in the store.

## Main definitions

* `Script.Store.output?`, `Script.Store.binding?`: the buffers and the bindings in a store.
* `Script.OutputBuffer.cut`: a buffer whose mark is between two texts.
* `Script.Event.textTo`, `Script.Event.marks`: what an event means for a buffer.
* `Script.Store.written`, `Script.Store.unread`: the text that events write to a buffer, and what of
  it is unread after them.
* `Script.Store.Marked`: the mark of every buffer is at a character.

## Main statements

* `Script.Store.output?_apply`: what an event does to a buffer.
* `Script.Store.recent?_after`: what a buffer gives out after events is what is unread.
* `Script.Store.output?_after_of_unmarked`: where the mark does not move, a buffer grows by what is
  written.
* `Script.Store.unread_of_unmarked`: where the mark does not move, all that is written is unread.
* `Script.Store.printout_sublist_written`: what an interpreter prints reaches the buffer that its
  output goes to.
* `Script.Store.marked_after`: events keep all marks at characters.
-/

namespace ClosureBridge.Script

/-! ### A buffer -/

namespace OutputBuffer

theorem dropOctets_zero (text : List Char) : dropOctets text 0 = some text := by
  cases text <;> rfl

/-- Text at the end stays behind what is left out. -/
theorem dropOctets_append {text rest : List Char} {n : Nat} (h : dropOctets text n = some rest)
    (more : List Char) : dropOctets (text ++ more) n = some (rest ++ more) := by
  induction text generalizing n with
  | nil =>
    rw [dropOctets] at h
    split at h
    · next hn =>
      cases h
      rw [hn]
      exact dropOctets_zero more
    · cases h
  | cons c text ih =>
    rw [dropOctets] at h
    rw [List.cons_append, dropOctets]
    split at h
    · next hn =>
      cases h
      rw [if_pos hn, List.cons_append]
    · next hn =>
      rw [if_neg hn]
      split at h
      · next hc => rw [if_pos hc, ih h]
      · cases h

theorem dropOctets_all (text : List Char) :
    dropOctets text (String.ofList text).utf8ByteSize = some [] := by
  induction text with
  | nil => rfl
  | cons c text ih =>
    have hpos : 0 < width c := c.utf8Size_pos
    have hsize : (String.ofList (c :: text)).utf8ByteSize =
        width c + (String.ofList text).utf8ByteSize := by
      rw [String.ofList_cons, String.utf8ByteSize_append, String.utf8ByteSize_singleton]
      rfl
    rw [hsize, dropOctets, if_neg (by omega), if_pos (Nat.le_add_right _ _),
      Nat.add_sub_cancel_left, ih]

theorem recent?_write {b : OutputBuffer} {old : String} (h : b.recent? = some old)
    (text : String) : (b.write text).recent? = some (old ++ text) := by
  obtain ⟨rest, hrest, rfl⟩ := Option.map_eq_some_iff.mp h
  rw [recent?, write, String.toList_append, dropOctets_append hrest]
  simp

theorem recent?_moveMark (b : OutputBuffer) : b.moveMark.recent? = some "" := by
  have hall := dropOctets_all b.text.toList
  rw [String.ofList_toList] at hall
  rw [recent?, moveMark, hall]
  rfl

theorem write_empty (b : OutputBuffer) : b.write "" = b := by
  rw [write, String.append_empty]

theorem write_write (b : OutputBuffer) (s t : String) :
    (b.write s).write t = b.write (s ++ t) := by
  rw [write, write, write, String.append_assoc]

/-- A buffer whose mark is between two texts. -/
def cut (given rest : String) : OutputBuffer where
  text := given ++ rest
  mark := given.utf8ByteSize

theorem recent?_cut (given rest : String) : (cut given rest).recent? = some rest := by
  have hall := dropOctets_append (dropOctets_all given.toList) rest.toList
  rw [String.ofList_toList] at hall
  rw [recent?, cut, String.toList_append, hall, List.nil_append, Option.map_some,
    String.ofList_toList]

theorem write_cut (given rest text : String) :
    (cut given rest).write text = cut given (rest ++ text) := by
  rw [write, cut, cut, String.append_assoc]

theorem moveMark_cut (given rest : String) :
    (cut given rest).moveMark = cut (given ++ rest) "" := by
  rw [moveMark, cut, cut, String.append_empty]

end OutputBuffer

namespace Object

/-- What an output buffer holds. -/
def buffer? : Object → Option OutputBuffer
  | output b => some b
  | _ => .none

/-- The names of a namespace. -/
def names? : Object → Option (Bindings (Option Ref))
  | dict names => some names
  | _ => .none

theorem buffer?_of_isBuffer {o : Object} (h : o.isBuffer = false) : o.buffer? = .none := by
  cases o <;> first | rfl | cases h

end Object

/-! ### Buffers, bindings and outputs in a store -/

namespace Store

/-- The output buffer at a reference. -/
def output? (s : Store) (r : Ref) : Option OutputBuffer :=
  (s.heap.get (some r)).buffer?

/-- What a namespace binds a name to. -/
def binding? (s : Store) (scope : Ref) (name : String) : Option (Option Ref) :=
  (s.heap.get (some scope)).names?.bind fun names => names.get? name

/-- The mark of every buffer is at a character. -/
def Marked (s : Store) : Prop :=
  ∀ r b, s.output? r = some b → b.recent?.isSome = true

theorem get_alloc (h : Heap) (o : Object) (r : Ref) :
    (h.alloc o).2.get (some r) = if r = h.objects.size then o else h.get (some r) := by
  rw [Heap.alloc, Heap.get, Array.getElem?_push]
  split <;> rfl

/-- An object that is changed, unless the change does not apply to it. -/
theorem get_changing (s : Store) (r : Ref) {f : Object → Option Object} (hf : f .none = none)
    (r' : Ref) :
    (s.changing r f).heap.get (some r') =
      if r' = r then (f (s.heap.get (some r))).getD (s.heap.get (some r))
      else s.heap.get (some r') := by
  unfold changing
  split
  · next o ho =>
    have hlt : r < s.heap.objects.size := by
      by_contra hge
      rw [Heap.get, Array.getElem?_eq_none (Nat.le_of_not_lt hge), Option.getD_none, hf] at ho
      cases ho
    rw [Heap.set]
    by_cases hr : r' = r
    · rw [if_pos hr, hr, Heap.get, Array.getElem?_setIfInBounds_self_of_lt hlt, ho]
      rfl
    · rw [if_neg hr, Heap.get, Array.getElem?_setIfInBounds_ne fun h => hr h.symm]
      rfl
  · next ho =>
    split
    · next hr => rw [hr, ho, Option.getD_none]
    · rfl

theorem output?_alloc (s : Store) (o : Object) (r : Ref) :
    output? { s with heap := (s.heap.alloc o).2 } r =
      if r = s.heap.objects.size then o.buffer? else s.output? r := by
  rw [output?, get_alloc]
  split <;> rfl

theorem output?_size (s : Store) : s.output? s.heap.objects.size = none := by
  rw [output?, Heap.get, Array.getElem?_eq_none (Nat.le_refl _)]
  rfl

theorem output?_alloc_of_isBuffer (s : Store) {o : Object} (h : o.isBuffer = false) (r : Ref) :
    output? { s with heap := (s.heap.alloc o).2 } r = s.output? r := by
  rw [output?_alloc]
  split
  · next hr => rw [hr, output?_size, Object.buffer?_of_isBuffer h]
  · rfl

/-- A change that leaves buffers alone. -/
theorem output?_changing (s : Store) (r : Ref) {f : Object → Option Object} (hf : f .none = none)
    (hb : ∀ o, ((f o).getD o).buffer? = o.buffer?) (r' : Ref) :
    (s.changing r f).output? r' = s.output? r' := by
  rw [output?, get_changing s r hf]
  split
  · next h => rw [hb, h, output?]
  · rfl

theorem output?_changing_onBuffer (s : Store) (r : Ref) (f : OutputBuffer → OutputBuffer)
    (r' : Ref) :
    (s.changing r (Object.onBuffer f)).output? r' =
      if r = r' then (s.output? r').map f else s.output? r' := by
  rw [output?, get_changing s r rfl]
  by_cases h : r' = r
  · rw [if_pos h, if_pos h.symm, h, output?]
    cases s.heap.get (some r) <;> rfl
  · rw [if_neg h, if_neg fun h' => h h'.symm, output?]

/-- A change that leaves namespaces alone. -/
theorem binding?_changing (s : Store) (r : Ref) {f : Object → Option Object} (hf : f .none = none)
    (hb : ∀ o, ((f o).getD o).names? = o.names?) (scope : Ref) (name : String) :
    (s.changing r f).binding? scope name = s.binding? scope name := by
  rw [binding?, get_changing s r hf]
  split
  · next h => rw [hb, h, binding?]
  · rfl

theorem binding?_alloc {s : Store} {scope : Ref} {name : String} {value : Option Ref}
    (h : s.binding? scope name = some value) (o : Object) :
    binding? { s with heap := (s.heap.alloc o).2 } scope name = some value := by
  rw [binding?, get_alloc, if_neg]
  · exact h
  · intro hsize
    rw [binding?, Heap.get, Array.getElem?_eq_none (Nat.le_of_eq hsize.symm)] at h
    cases h

end Store

/-! ### What an event means for a buffer -/

namespace Event

/-- What becomes of the buffer, if any, at a reference. -/
def onOutput (s : Store) (r : Ref) : Event → Option OutputBuffer → Option OutputBuffer
  | opened, b => if r = s.heap.objects.size then some {} else b
  | wrote r' text, b => if r' = r then b.map fun b => b.write text else b
  | marked r', b => if r' = r then b.map OutputBuffer.moveMark else b
  | printed m text, b => if s.sink? m = some r then b.map fun b => b.write text else b
  | _, b => b

/-- The text that an event writes to a buffer. -/
def textTo (s : Store) (r : Ref) : Event → String
  | wrote r' text => if r' = r then text else ""
  | printed m text => if s.sink? m = some r then text else ""
  | _ => ""

/-- The text that an interpreter prints in an event. -/
def printedBy (k : Nat) : Event → String
  | printed m text => if m = k then text else ""
  | _ => ""

/-- Whether an event moves the mark of a buffer. -/
def marks (r : Ref) : Event → Bool
  | marked r' => r' = r
  | _ => false

/-- Whether an event binds a name in a namespace. -/
def binds (scope : Ref) (name : String) : Event → Bool
  | bound scope' name' _ => scope' = scope && name' == name
  | _ => false

/-- Whether an event decides where the output of an interpreter goes. -/
def redirects (k : Nat) : Event → Bool
  | redirected m _ => m = k
  | _ => false

end Event

namespace Store

/-- What an event does to a buffer. -/
theorem output?_apply (s : Store) (e : Event) (r : Ref) :
    (e.apply s).output? r = e.onOutput s r (s.output? r) := by
  cases e with
  | made o h => exact s.output?_alloc_of_isBuffer h r
  | opened => rw [Event.apply, output?_alloc, Event.onOutput, Object.buffer?]
  | bound scope name value =>
    refine s.output?_changing scope rfl (fun o => ?_) r
    cases o <;> rfl
  | attributed target name value =>
    refine s.output?_changing target rfl (fun o => ?_) r
    cases o <;> rfl
  | wrote buffer text => exact s.output?_changing_onBuffer buffer _ r
  | marked buffer => exact s.output?_changing_onBuffer buffer _ r
  | printed m text =>
    rw [Event.apply, printing, Event.onOutput]
    cases s.sink? m with
    | none => exact (if_neg (Option.some_ne_none r).symm).symm
    | some r' =>
      dsimp only
      rw [output?_changing_onBuffer]
      simp only [Option.some.injEq]
  | added textConstructor =>
    have hmain := s.output?_alloc_of_isBuffer (o := .dict ∅) rfl r
    exact (output?_alloc_of_isBuffer { s with heap := (s.heap.alloc _).2 } rfl r).trans hmain
  | _ => rfl

/-- The mark of every buffer stays at a character. -/
theorem marked_apply {s : Store} (h : s.Marked) (e : Event) : (e.apply s).Marked := by
  intro r b' hb'
  rw [output?_apply] at hb'
  have written (text : String) (hwrite : (s.output? r).map (fun b => b.write text) = some b') :
      b'.recent?.isSome = true := by
    obtain ⟨b, hb, rfl⟩ := Option.map_eq_some_iff.mp hwrite
    obtain ⟨old, hold⟩ := Option.isSome_iff_exists.mp (h r b hb)
    rw [OutputBuffer.recent?_write hold]
    rfl
  cases e with
  | opened =>
    rw [Event.onOutput] at hb'
    split at hb'
    · cases hb'
      rfl
    · exact h r b' hb'
  | wrote buffer text =>
    rw [Event.onOutput] at hb'
    split at hb'
    · exact written text hb'
    · exact h r b' hb'
  | printed m text =>
    rw [Event.onOutput] at hb'
    split at hb'
    · exact written text hb'
    · exact h r b' hb'
  | marked buffer =>
    rw [Event.onOutput] at hb'
    split at hb'
    · obtain ⟨b, -, rfl⟩ := Option.map_eq_some_iff.mp hb'
      rw [OutputBuffer.recent?_moveMark]
      rfl
    · exact h r b' hb'
  | _ => exact h r b' hb'

theorem marked_after {s : Store} (h : s.Marked) (es : List Event) : (s.after es).Marked := by
  induction es generalizing s with
  | nil => exact h
  | cons e es ih => exact ih (marked_apply h e)

/-! ### What is written and what is unread -/

/-- The text that events write to a buffer. -/
def written (s : Store) (r : Ref) : List Event → String
  | [] => ""
  | e :: es => e.textTo s r ++ (e.apply s).written r es

/-- The text of a buffer that is unread after events, when some was unread before them. -/
def unread (s : Store) (r : Ref) (old : String) : List Event → String
  | [] => old
  | e :: es => (e.apply s).unread r (if e.marks r then "" else old ++ e.textTo s r) es

theorem unread_append (s : Store) (r : Ref) (old : String) (es fs : List Event) :
    s.unread r old (es ++ fs) = (s.after es).unread r (s.unread r old es) fs := by
  induction es generalizing s old with
  | nil => rfl
  | cons e es ih => exact ih (e.apply s) _

/-- Where the mark does not move, all that is written is unread. -/
theorem unread_of_unmarked (s : Store) {r : Ref} (old : String) {es : List Event}
    (h : ∀ e ∈ es, e.marks r = false) : s.unread r old es = old ++ s.written r es := by
  induction es generalizing s old with
  | nil => exact String.append_empty.symm
  | cons e es ih =>
    have hrest := ih (e.apply s) (old ++ e.textTo s r) fun e' he' => h e' (.tail e he')
    rw [unread, h e List.mem_cons_self, if_neg Bool.false_ne_true, hrest, written,
      String.append_assoc]

/-- What a buffer gives out after an event. -/
theorem recent?_apply {s : Store} {r : Ref} {b : OutputBuffer} {old : String}
    (hb : s.output? r = some b) (hold : b.recent? = some old) (e : Event) :
    ∃ b', (e.apply s).output? r = some b' ∧
      b'.recent? = some (if e.marks r then "" else old ++ e.textTo s r) := by
  have kept (htext : e.textTo s r = "") (hmark : e.marks r = false) :
      b.recent? = some (if e.marks r then "" else old ++ e.textTo s r) := by
    rw [hmark, htext, if_neg Bool.false_ne_true, String.append_empty, hold]
  rw [output?_apply, hb]
  cases e with
  | opened =>
    have hr : r ≠ s.heap.objects.size := by
      rintro rfl
      rw [output?_size] at hb
      cases hb
    exact ⟨b, if_neg hr, kept rfl rfl⟩
  | wrote buffer text =>
    by_cases h : buffer = r
    · refine ⟨b.write text, if_pos h, ?_⟩
      rw [OutputBuffer.recent?_write hold, Event.textTo, if_pos h]
      rfl
    · exact ⟨b, if_neg h, kept (if_neg h) rfl⟩
  | printed m text =>
    by_cases h : s.sink? m = some r
    · refine ⟨b.write text, if_pos h, ?_⟩
      rw [OutputBuffer.recent?_write hold, Event.textTo, if_pos h]
      rfl
    · exact ⟨b, if_neg h, kept (if_neg h) rfl⟩
  | marked buffer =>
    by_cases h : buffer = r
    · refine ⟨b.moveMark, if_pos h, ?_⟩
      rw [OutputBuffer.recent?_moveMark, Event.marks, decide_eq_true h]
      rfl
    · exact ⟨b, if_neg h, kept rfl (decide_eq_false h)⟩
  | _ => exact ⟨b, rfl, kept rfl rfl⟩

/-- What a buffer gives out after events is what is unread. -/
theorem recent?_after {s : Store} {r : Ref} {b : OutputBuffer} {old : String}
    (hb : s.output? r = some b) (hold : b.recent? = some old) (es : List Event) :
    ∃ b', (s.after es).output? r = some b' ∧ b'.recent? = some (s.unread r old es) := by
  induction es generalizing s b old with
  | nil => exact ⟨b, hb, hold⟩
  | cons e es ih =>
    obtain ⟨b', hb', hold'⟩ := recent?_apply hb hold e
    exact ih hb' hold'

/-- What an event writes is added at the end of a buffer whose mark it does not move. -/
theorem output?_apply_of_unmarked {s : Store} {r : Ref} {b : OutputBuffer}
    (hb : s.output? r = some b) {e : Event} (h : e.marks r = false) :
    (e.apply s).output? r = some (b.write (e.textTo s r)) := by
  have kept (htext : e.textTo s r = "") : some b = some (b.write (e.textTo s r)) := by
    rw [htext, OutputBuffer.write_empty]
  rw [output?_apply, hb]
  cases e with
  | opened =>
    have hr : r ≠ s.heap.objects.size := by
      rintro rfl
      rw [output?_size] at hb
      cases hb
    exact (if_neg hr).trans (kept rfl)
  | wrote buffer text =>
    by_cases hr : buffer = r
    · rw [Event.onOutput, Event.textTo, if_pos hr, if_pos hr, Option.map_some]
    · exact (if_neg hr).trans (kept (if_neg hr))
  | printed m text =>
    by_cases hr : s.sink? m = some r
    · rw [Event.onOutput, Event.textTo, if_pos hr, if_pos hr, Option.map_some]
    · exact (if_neg hr).trans (kept (if_neg hr))
  | marked buffer => exact (if_neg (of_decide_eq_false h)).trans (kept rfl)
  | _ => exact kept rfl

/-- Where the mark does not move, all that is written is added at the end of a buffer. -/
theorem output?_after_of_unmarked {s : Store} {r : Ref} {b : OutputBuffer}
    (hb : s.output? r = some b) {es : List Event} (h : ∀ e ∈ es, e.marks r = false) :
    (s.after es).output? r = some (b.write (s.written r es)) := by
  induction es generalizing s b with
  | nil => rw [written, OutputBuffer.write_empty, after_nil, hb]
  | cons e es ih =>
    have he := output?_apply_of_unmarked hb (h e List.mem_cons_self)
    rw [after_cons, ih he fun e' he' => h e' (.tail e he'), written, OutputBuffer.write_write]

/-- Text reaches one buffer at most. -/
theorem textTo_eq_empty {s : Store} {r r' : Ref} (hr : r' ≠ r) {e : Event}
    (h : e.textTo s r ≠ "") : e.textTo s r' = "" := by
  cases e with
  | wrote buffer text =>
    rw [Event.textTo] at h ⊢
    split at h
    · next hb => exact if_neg fun hb' => hr (hb'.symm.trans hb)
    · exact absurd rfl h
  | printed m text =>
    rw [Event.textTo] at h ⊢
    split at h
    · next hb => exact if_neg fun hb' => hr (Option.some.inj (hb'.symm.trans hb))
    · exact absurd rfl h
  | _ => rfl

/-- Where no text reaches a buffer, nothing gets unread. -/
theorem unread_of_silent (s : Store) {r : Ref} {es : List Event}
    (h : ∀ before e, before ++ [e] <+: es → e.textTo (s.after before) r = "") :
    s.unread r "" es = "" := by
  induction es generalizing s with
  | nil => rfl
  | cons e es ih =>
    have he : e.textTo s r = "" := h [] e ⟨es, rfl⟩
    have hold : (if e.marks r then "" else "" ++ e.textTo s r) = "" := by
      rw [he, String.empty_append, ite_self]
    rw [unread, hold]
    exact ih (e.apply s) fun before e' hbefore =>
      h (e :: before) e' (List.prefix_cons_inj e |>.mpr hbefore)

/-! ### Bindings and outputs that stay -/

/-- A name that is bound in a namespace. -/
theorem binding?_bound {s : Store} {scope : Ref} {names : Bindings (Option Ref)}
    (h : s.heap.get (some scope) = .dict names) (name : String) (value : Option Ref) :
    ((Event.bound scope name value).apply s).binding? scope name = some value := by
  rw [binding?, Event.apply, get_changing s scope rfl, if_pos rfl, h]
  exact Bindings.get?_insert_self _ _ _

/-- What a name is bound to stays until the name is bound again. -/
theorem binding?_apply {s : Store} {scope : Ref} {name : String} {value : Option Ref}
    (h : s.binding? scope name = some value) {e : Event} (he : e.binds scope name = false) :
    (e.apply s).binding? scope name = some value := by
  have buffer (r : Ref) (f : OutputBuffer → OutputBuffer) :
      (s.changing r (Object.onBuffer f)).binding? scope name = some value := by
    refine (s.binding?_changing r rfl (fun o => ?_) scope name).trans h
    cases o <;> rfl
  cases e with
  | made o _ => exact binding?_alloc h o
  | opened => exact binding?_alloc h _
  | bound scope' name' value' =>
    rw [binding?, Event.apply, get_changing s scope' rfl]
    split
    · next hscope =>
      have hname : name' ≠ name := by
        rintro rfl
        rw [Event.binds, decide_eq_true hscope.symm, Bool.true_and, beq_self_eq_true] at he
        cases he
      rw [binding?, hscope] at h
      cases ho : s.heap.get (some scope') with
      | dict names =>
        rw [ho] at h
        exact (Bindings.get?_insert_of_ne _ hname.symm _).trans h
      | _ =>
        rw [ho] at h
        cases h
    · exact h
  | attributed target name' value' =>
    refine (s.binding?_changing target rfl (fun o => ?_) scope name).trans h
    cases o <;> rfl
  | wrote r text => exact buffer r _
  | marked r => exact buffer r _
  | printed m text =>
    rw [Event.apply, printing]
    split
    · exact h
    · exact buffer _ _
  | added textConstructor => exact binding?_alloc (binding?_alloc h _) _
  | _ => exact h

theorem binding?_after {s : Store} {scope : Ref} {name : String} {value : Option Ref}
    (h : s.binding? scope name = some value) {es : List Event}
    (he : ∀ e ∈ es, e.binds scope name = false) :
    (s.after es).binding? scope name = some value := by
  induction es generalizing s with
  | nil => exact h
  | cons e es ih =>
    exact ih (binding?_apply h (he e List.mem_cons_self)) fun e' he' => he e' (.tail e he')

theorem sink?_modifying (s : Store) (m : Nat) {f : Machine → Machine}
    (hf : ∀ x, (f x).sink = x.sink) (k : Nat) : (s.modifying m f).sink? k = s.sink? k := by
  rw [sink?, modifying, Array.getElem?_modify, sink?]
  split
  · cases s.machines[k]? with
    | none => rfl
    | some x => exact hf x
  · rfl

theorem sink?_changing (s : Store) (r : Ref) (f : Object → Option Object) (k : Nat) :
    (s.changing r f).sink? k = s.sink? k := by
  unfold changing
  split <;> rfl

theorem sink?_redirected {s : Store} {k : Nat} (hk : k < s.machines.size) (sink : Option Ref) :
    ((Event.redirected k sink).apply s).sink? k = sink := by
  rw [sink?, Event.apply, modifying, Array.getElem?_modify, if_pos rfl,
    Array.getElem?_eq_getElem hk]
  rfl

theorem sink?_apply (s : Store) {k : Nat} {e : Event} (he : e.redirects k = false) :
    (e.apply s).sink? k = s.sink? k := by
  cases e with
  | bound scope name value => exact s.sink?_changing scope _ k
  | attributed target name value => exact s.sink?_changing target _ k
  | wrote r text => exact s.sink?_changing r _ k
  | marked r => exact s.sink?_changing r _ k
  | printed m text =>
    rw [Event.apply, printing]
    split
    · exact s.sink?_modifying m (by exact fun _ => rfl) k
    · exact s.sink?_changing _ _ k
  | pended m fault => exact s.sink?_modifying m (by exact fun _ => rfl) k
  | ran m source => exact s.sink?_modifying m (by exact fun _ => rfl) k
  | redirected m sink =>
    have hm : m ≠ k := of_decide_eq_false he
    rw [sink?, Event.apply, modifying, Array.getElem?_modify, if_neg hm, sink?]
  | added textConstructor =>
    rw [sink?, Event.apply, adding, Array.getElem?_push, sink?]
    split
    · next hk => rw [hk, Array.getElem?_eq_none (Nat.le_refl _)]; rfl
    · rfl
  | _ => rfl

theorem sink?_after (s : Store) {k : Nat} {es : List Event}
    (he : ∀ e ∈ es, e.redirects k = false) : (s.after es).sink? k = s.sink? k := by
  induction es generalizing s with
  | nil => rfl
  | cons e es ih =>
    exact (ih (e.apply s) fun e' he' => he e' (.tail e he')).trans
      (s.sink?_apply (he e List.mem_cons_self))

/-! ### What an interpreter prints -/

/-- The text that an interpreter prints in events. -/
def printout (k : Nat) (es : List Event) : String :=
  String.join (es.map fun e => e.printedBy k)

/-- All that an interpreter prints is written to the buffer that its output goes to. -/
theorem printout_sublist_written {s : Store} {k : Nat} {r : Ref} (hsink : s.sink? k = some r)
    {es : List Event} (he : ∀ e ∈ es, e.redirects k = false) :
    (printout k es).toList.Sublist (s.written r es).toList := by
  induction es generalizing s with
  | nil => exact .refl _
  | cons e es ih =>
    have hrest := ih ((s.sink?_apply (he e List.mem_cons_self)).trans hsink)
      fun e' he' => he e' (.tail e he')
    have hone : (e.printedBy k).toList.Sublist (e.textTo s r).toList := by
      cases e with
      | printed m text =>
        rw [Event.printedBy]
        split
        · next hm =>
          have htext : (Event.printed m text).textTo s r = text := by
            rw [Event.textTo, hm, if_pos hsink]
          exact htext.symm ▸ .refl _
        · exact List.nil_sublist _
      | _ => exact List.nil_sublist _
    rw [printout, List.map_cons, String.join_cons, written, String.toList_append,
      String.toList_append]
    exact hone.append hrest

/-- None of it is written to another buffer. -/
theorem textTo_of_printed {s : Store} {k : Nat} {r : Ref} (hsink : s.sink? k ≠ some r)
    {es : List Event} (he : ∀ e ∈ es, e.redirects k = false) {before : List Event} {text : String}
    (hbefore : before ++ [.printed k text] <+: es) :
    (Event.printed k text).textTo (s.after before) r = "" := by
  have hstays : ∀ e ∈ before, e.redirects k = false := fun e he' =>
    he e (hbefore.mem (List.mem_append_left _ he'))
  rw [Event.textTo, s.sink?_after hstays, if_neg hsink]

end Store

end ClosureBridge.Script
