import ClosureBridge.Script.Show
import Mathlib.Tactic.Common

/-!
# What the object that stands for none is shown by

## Main statements

* `FloatText.write_ne_none`: no float is shown as the object that stands for none is.
* `Script.Heap.repr_eq_none_iff`: no other object is.
-/

namespace ClosureBridge

namespace FloatText

/-- A character of a number. -/
def isNumeral (c : Char) : Bool :=
  c.isDigit || c == '.' || c == 'e' || c == '-'

theorem isNumeral_decimal {n : Nat} : ∀ c ∈ decimal n, isNumeral c = true := by
  intro c hc
  have hdigit : c.isDigit = true := Nat.isDigit_of_mem_toDigits (by omega) (by omega) hc
  rw [isNumeral, hdigit]
  rfl

theorem isNumeral_dropTrailingZeros {ds : List Char} (h : ∀ c ∈ ds, isNumeral c = true) :
    ∀ c ∈ dropTrailingZeros ds, isNumeral c = true := by
  intro c hc
  have hmem := (List.dropWhile_sublist (· == '0')).mem (List.mem_reverse.mp hc)
  exact h c (List.mem_reverse.mp hmem)

theorem isNumeral_replicate (n : Nat) : ∀ c ∈ List.replicate n '0', isNumeral c = true := by
  intro c hc
  rw [List.eq_of_mem_replicate hc]
  rfl

theorem isNumeral_append {ds es : List Char} (hd : ∀ c ∈ ds, isNumeral c = true)
    (he : ∀ c ∈ es, isNumeral c = true) : ∀ c ∈ ds ++ es, isNumeral c = true := by
  intro c hc
  exact (List.mem_append.mp hc).elim (hd c) (he c)

theorem isNumeral_cons {d : Char} {ds : List Char} (hd : isNumeral d = true)
    (h : ∀ c ∈ ds, isNumeral c = true) : ∀ c ∈ d :: ds, isNumeral c = true :=
  List.forall_mem_cons.mpr ⟨hd, h⟩

theorem isNumeral_placePoint {ds : List Char} (h : ∀ c ∈ ds, isNumeral c = true) (point : Int) :
    ∀ c ∈ placePoint ds point, isNumeral c = true := by
  unfold placePoint
  split
  · exact isNumeral_cons rfl (isNumeral_cons rfl (isNumeral_append (isNumeral_replicate _) h))
  · have hwhole : ∀ c ∈ ds.take point.toNat, isNumeral c = true := fun c hc =>
      h c (List.mem_of_mem_take hc)
    refine isNumeral_append (isNumeral_append hwhole (isNumeral_replicate _)) ?_
    refine isNumeral_cons rfl ?_
    split
    · exact isNumeral_cons rfl nofun
    · exact fun c hc => h c (List.mem_of_mem_drop hc)

theorem isNumeral_withExponent {ds : List Char} (h : ∀ c ∈ ds, isNumeral c = true) (point : Int) :
    ∀ c ∈ withExponent ds point, isNumeral c = true := by
  have hpower : ∀ c ∈ (if point - 1 < 0 then ['e', '-'] else ['e']) ++
      decimal (point - 1).natAbs, isNumeral c = true := by
    refine isNumeral_append ?_ isNumeral_decimal
    split
    · exact isNumeral_cons rfl (isNumeral_cons rfl nofun)
    · exact isNumeral_cons rfl nofun
  unfold withExponent
  dsimp only
  split
  · exact hpower
  · exact isNumeral_cons (h _ List.mem_cons_self) hpower
  · next d rest _ =>
    obtain ⟨hd, hrest⟩ := List.forall_mem_cons.mp h
    exact isNumeral_cons hd (isNumeral_append (isNumeral_cons rfl hrest) hpower)

theorem isNumeral_magnitude (m : Nat) (q : Int) :
    ∀ c ∈ magnitude m q, isNumeral c = true := by
  unfold magnitude
  have hdigits := isNumeral_dropTrailingZeros
    (@isNumeral_decimal (Shortest.digits m q).1)
  dsimp only
  split
  · exact isNumeral_placePoint hdigits _
  · exact isNumeral_withExponent hdigits _

/-- No float is written as the object that stands for none is. -/
theorem write_ne_none (v : Float) : write v ≠ "None" := by
  unfold write
  split
  · decide
  · split <;> decide
  · next negative m q _ =>
    have hbody : ∀ c ∈ (if m = 0 then ['0', '.', '0'] else magnitude m q),
        isNumeral c = true := by
      split
      · exact isNumeral_cons rfl (isNumeral_cons rfl (isNumeral_cons rfl nofun))
      · exact isNumeral_magnitude m q
    have hall : ∀ c ∈ (if negative then '-' :: (if m = 0 then ['0', '.', '0'] else magnitude m q)
        else if m = 0 then ['0', '.', '0'] else magnitude m q), isNumeral c = true := by
      split
      · exact isNumeral_cons rfl hbody
      · exact hbody
    intro h
    have htext := congrArg String.toList h
    rw [String.toList_ofList] at htext
    have hn := hall 'N' (htext ▸ by decide)
    exact absurd hn (by decide)

end FloatText

namespace Script.Heap

theorem ne_none_of_head {s : String} {c : Char} (h : s.toList.head? = some c) (hc : c ≠ 'N') :
    s ≠ "None" := by
  rintro rfl
  exact hc (Option.some.inj h).symm

theorem toString_ne_none (n : Int) : toString n ≠ "None" := by
  cases n with
  | ofNat m =>
    intro h
    have hdigits : (Nat.repr m).toList = "None".toList := congrArg String.toList h
    rw [Nat.toList_repr] at hdigits
    have hmem : 'N' ∈ Nat.toDigits 10 m := by
      rw [hdigits]
      decide
    have hdigit : 'N'.isDigit = true := Nat.isDigit_of_mem_toDigits (by omega) (by omega) hmem
    exact absurd hdigit (by decide)
  | negSucc m =>
    have hhead : ("-" ++ Nat.repr (m + 1)).toList.head? = some '-' := by
      rw [String.toList_append]
      rfl
    exact ne_none_of_head hhead (by decide)

theorem showLeaf_boolean_ne_none (descriptors : DescriptorPool) (b : Bool) :
    showLeaf descriptors (.boolean b) ≠ "None" := by
  cases b with
  | false => exact (by decide : "False" ≠ "None")
  | true => exact (by decide : "True" ≠ "None")

/-- No other object without items is shown as the one that stands for none is. -/
theorem showLeaf_eq_none_iff (descriptors : DescriptorPool) (o : Object) :
    showLeaf descriptors o = "None" ↔ o = .none := by
  refine ⟨fun h => ?_, fun h => by rw [h]; rfl⟩
  cases o with
  | none => rfl
  | boolean b => exact absurd h (showLeaf_boolean_ne_none descriptors b)
  | integer n => exact absurd h (toString_ne_none _)
  | float v => exact absurd h (FloatText.write_ne_none v)
  | text s =>
    have hhead : (literal s).toList.head? = some '\'' := by
      rw [literal, String.append_assoc, String.toList_append]
      rfl
    exact absurd h (ne_none_of_head hhead (by decide))
  | dict names =>
    have hhead : ("\x7b" ++ toString names.size ++ " items\x7d").toList.head? = some '\x7b' := by
      rw [String.append_assoc, String.toList_append]
      rfl
    exact absurd h (ne_none_of_head hhead (by decide))
  | callable d self =>
    have hhead : ("<built-in function " ++ descriptors.name d ++ ">").toList.head? = some '<' := by
      rw [String.append_assoc, String.toList_append]
      rfl
    exact absurd h (ne_none_of_head hhead (by decide))
  | list items => exact absurd h (by decide : "[...]" ≠ "None")
  | tuple items => exact absurd h (by decide : "(...)" ≠ "None")
  | record names => exact absurd h (by decide : "namespace()" ≠ "None")
  | function params body => exact absurd h (by decide : "<function <lambda>>" ≠ "None")
  | output buffer => exact absurd h (by decide : "<_PyLambdaOutput object>" ≠ "None")
  | code => exact absurd h (by decide : "<code object <module>>" ≠ "None")

/-- A text between brackets. -/
theorem bracketed_ne_none {opening closing : String} {c : Char}
    (h : opening.toList.head? = some c) (hc : c ≠ 'N') (text : String) :
    opening ++ text ++ closing ≠ "None" := by
  refine ne_none_of_head ?_ hc
  rw [String.append_assoc, String.toList_append, List.head?_append, h]
  rfl

theorem showList_ne_none (items : List String) : showList items ≠ "None" :=
  bracketed_ne_none (show "[".toList.head? = some '[' from rfl) (by decide) _

theorem showTuple_ne_none (items : List String) : showTuple items ≠ "None" := by
  unfold showTuple
  split <;> exact bracketed_ne_none (show "(".toList.head? = some '(' from rfl) (by decide) _

theorem getD_map_ne_none {f : List String → String} (hf : ∀ items, f items ≠ "None")
    (items : Option (List String)) : (items.map f).getD "" ≠ "None" := by
  cases items with
  | none => exact (by decide : "" ≠ "None")
  | some items => exact hf items

/-- No other object is shown as the one that stands for none is. -/
theorem repr_eq_none_iff (h : Heap) (descriptors : DescriptorPool) (r : Ref) :
    h.repr descriptors (some r) = "None" ↔ h.get (some r) = .none := by
  have hleaf := showLeaf_eq_none_iff descriptors (h.get (some r))
  rw [repr, depth, show?]
  cases ho : h.get (some r) with
  | list items =>
    exact iff_of_false (getD_map_ne_none (fun _ => showList_ne_none _) _) nofun
  | tuple items =>
    exact iff_of_false (getD_map_ne_none (fun _ => showTuple_ne_none _) _) nofun
  | _ =>
    rw [ho] at hleaf
    exact hleaf

end Script.Heap

end ClosureBridge
