import ClosureBridge.Proofs.Session.Keeps

/-!
# The bench and its answers

Naming things, making the objects that terms stand for and telling what came of a step keep every
lasting property.

## Main statements

* `Session.Lasting.object`: so does making the object that a term stands for.
* `Session.Lasting.ofExcept`: an answer keeps what the answer to a success keeps.
-/

namespace ClosureBridge

namespace Session.Lasting

open Exec (Keeps)

variable {direct : Prop} {P : Session → Prop} {α : Type}

/-! ### The bench -/

theorem resolveImage (hP : Lasting direct P) (image : Image) : Keeps P (Bench.resolve image) := by
  refine Keeps.modifyGet fun w hw => ?_
  split
  · exact hw
  · exact hP.change (.outside (.refl _)) (.of_eq rfl rfl) rfl (.of_eq rfl rfl rfl) hw

theorem getDesk : Keeps P Bench.getDesk :=
  .bind .get fun _ => .pure _

/-- A computation that goes on from what is on the desk. -/
theorem getDesk_bind {f : Desk → Exec Session α}
    (hf : ∀ w, P w → P ((f w.outside.rest.desk).run w).2) : Keeps P (Bench.getDesk >>= f) :=
  fun w hw => hf w hw

/-- What is put on the desk or taken off it is no lambda. -/
theorem modifyDesk (hP : Lasting direct P) {f : Desk → Desk}
    (hf : ∀ d, (f d).lambdas = d.lambdas) : Keeps P (Bench.modifyDesk f) :=
  .modify fun _ hw =>
    hP.change (.outside (.refl _)) (.of_eq rfl rfl) rfl ⟨fun h => h, hf _, fun h _ => h⟩ hw

theorem keepMachine (hP : Lasting direct P) (name : String) (m : MachineId) :
    Keeps P (Bench.keepMachine name m) :=
  hP.modifyDesk fun _ => rfl

theorem keepContext (hP : Lasting direct P) (name : String) (c : Context) :
    Keeps P (Bench.keepContext name c) :=
  hP.modifyDesk fun _ => rfl

theorem keepSource (hP : Lasting direct P) (name : String) (n : Nat) :
    Keeps P (Bench.keepSource name n) :=
  hP.modifyDesk fun _ => rfl

theorem keepObject (hP : Lasting direct P) (name : String) (r : Option Ref) :
    Keeps P (Bench.keepObject name r) :=
  hP.modifyDesk fun _ => rfl

theorem dropLambda (hP : Lasting direct P) (name : String) : Keeps P (Bench.dropLambda name) :=
  .modify fun _ hw => hP.dropping name hw

theorem named (things : Bindings α) (name : String) : Keeps P (Bench.named things name) := by
  unfold Bench.named
  split
  · exact .pure _
  · exact .panic _

theorem machineNamed (name : String) : Keeps P (Bench.machineNamed name) :=
  .bind getDesk fun _ => named _ _

theorem contextNamed (name : String) : Keeps P (Bench.contextNamed name) :=
  .bind getDesk fun _ => named _ _

theorem scriptedNamed (name : String) : Keeps P (Bench.scriptedNamed name) := by
  unfold Bench.scriptedNamed
  refine Keeps.bind (machineNamed _) fun m => ?_
  split
  · exact .pure _
  · exact .panic _

theorem save (hP : Lasting direct P) (name : String) (r : Option Ref) :
    Keeps P (Bench.save name r) := by
  unfold Bench.save
  split
  · exact hP.keepObject _ _
  · exact .pure _

theorem present (r : Option Ref) : Keeps P (Bench.present r) := by
  cases r with
  | some r => exact .pure _
  | none => exact .panic _

theorem callableNamed (name : String) : Keeps P (Bench.callableNamed name) :=
  .bind getDesk fun _ => .bind .get fun _ => .pure _

theorem make (hP : Lasting direct P) {o : Script.Object} (h : o.isBuffer = false) :
    Keeps P (Bench.make o) :=
  hP.quiet (.alloc o h)

mutual

theorem object (hP : Lasting direct P) : ∀ t, Keeps P (Bench.object t)
  | .null => hP.make rfl
  | .boolean _ => hP.make rfl
  | .integer _ => hP.make rfl
  | .float _ => hP.make rfl
  | .text _ => hP.make rfl
  | .list items => .bind (objects hP items) fun _ => hP.make rfl
  | .tuple items => .bind (objects hP items) fun _ => hP.make rfl
  | .record => hP.make rfl
  | .dict => hP.make rfl
  | .saved _ => .bind getDesk fun _ => .pure _
  | .lambda name => callableNamed name
  | .globals name => .bind (contextNamed name) fun _ => .pure _
  | .raw r => .pure r

theorem objects (hP : Lasting direct P) : ∀ ts, Keeps P (Bench.objects ts)
  | [] => .pure _
  | t :: rest => .bind (object hP t) fun _ => .bind (objects hP rest) fun _ => .pure _

end

theorem value (hP : Lasting direct P) (t : ValueTerm) : Keeps P (Bench.value t) := by
  cases t with
  | object t => exact .bind (hP.object t) fun _ => .bind (present _) fun _ => .pure _
  | _ => exact .pure _

theorem arguments (hP : Lasting direct P) (t : ArgumentsTerm) : Keeps P (Bench.arguments t) := by
  cases t with
  | object a => exact .bind (hP.object a) fun _ => .bind (present _) fun _ => .pure _
  | pair a b =>
    exact .bind (hP.object a) fun _ => .bind (present _) fun _ =>
      .bind (hP.object b) fun _ => .bind (present _) fun _ => .pure _
  | triple a b c =>
    exact .bind (hP.object a) fun _ => .bind (present _) fun _ =>
      .bind (hP.object b) fun _ => .bind (present _) fun _ =>
        .bind (hP.object c) fun _ => .bind (present _) fun _ => .pure _
  | _ => exact .pure _

theorem built (hP : Lasting direct P) (t : BuildTerm) : Keeps P (Bench.built t) := by
  cases t with
  | object t => exact .bind (hP.object t) fun _ => .bind (present _) fun _ => .pure _
  | _ => exact .pure _

/-! ### Answers -/

theorem objectJson (hP : Lasting direct P) (r : Option Ref) : Keeps P (Answer.objectJson r) := by
  unfold Answer.objectJson
  refine Keeps.bind getDesk fun desk => ?_
  split
  · exact .pure _
  · exact .pure _
  · exact hP.quiet (.bind (.object _) fun _ => .bind (.shown _) fun _ => .pure _)

theorem ofObject (hP : Lasting direct P) (r : Option Ref) : Keeps P (Answer.ofObject r) :=
  .bind (hP.objectJson r) fun _ => .pure _

theorem objectsJson (hP : Lasting direct P) (rs : List (Option Ref)) :
    Keeps P (Answer.objectsJson rs) :=
  .bind (Keeps.mapM hP.objectJson rs) fun _ => .pure _

theorem argumentsJson (hP : Lasting direct P) (args : Arguments) :
    Keeps P (Answer.argumentsJson args) := by
  cases args with
  | object a => exact .bind (hP.objectJson _) fun _ => .pure _
  | pair a b => exact .bind (hP.objectJson _) fun _ => .bind (hP.objectJson _) fun _ => .pure _
  | triple a b c =>
    exact .bind (hP.objectJson _) fun _ => .bind (hP.objectJson _) fun _ =>
      .bind (hP.objectJson _) fun _ => .pure _
  | _ => exact .pure _

theorem valueJson (hP : Lasting direct P) (v : HostValue) : Keeps P (Answer.valueJson v) := by
  cases v with
  | object r => exact .bind (hP.objectJson _) fun _ => .pure _
  | _ => exact .pure _

theorem unpackedJson (hP : Lasting direct P) (parts : Option Unpacked) :
    Keeps P (Answer.unpackedJson parts) := by
  unfold Answer.unpackedJson
  split
  · exact .pure _
  · exact .pure _
  · exact .pure _
  · exact .pure _
  · exact .bind (hP.objectsJson _) fun _ => .pure _

theorem lambdaJson (hP : Lasting direct P) (n : Nat) : Keeps P (Answer.lambdaJson n) := by
  unfold Answer.lambdaJson
  refine Keeps.bind .get fun w => ?_
  split
  · exact .pure _
  · exact .bind (hP.objectJson _) fun _ => .pure _

theorem ofExcept {ε : Type} {report : ε → Report} {f : α → Exec Session Answer}
    (hf : ∀ a, Keeps P (f a)) (r : Except ε α) : Keeps P (Answer.ofExcept report f r) := by
  cases r with
  | ok a => exact hf a
  | error e => exact .pure _

end Session.Lasting

end ClosureBridge
