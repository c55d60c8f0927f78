import Failover.Manager
import Failover.Proofs.Traffic.Step
import Mathlib.Tactic.Common

/-!
# Strides

What happens while the owner of a manager waits for an activity is a list of strides, each made by
the owner, by the background prober or by the clock (`Manager.strides`). `Manager.drive` goes
through them and keeps only what is left at the end, so what holds of every stride and is kept by it
holds of all that an activity does (`Manager.strides_induction`).
-/

namespace Failover

/-- Who moves. -/
inductive Actor where
  | owner
  | prober
  | clock
deriving DecidableEq

variable {σ : Type}

/-- A step of a manager: who made it, the manager before and after it, and what it left in the
journal. -/
structure Stride (σ : Type) where
  actor : Actor
  before : Manager σ
  after : Manager σ
  notes : Journal

namespace Manager

/-- The next stride of an activity and of what goes on behind it, unless the activity is over or
nothing is due any more, and what is left of the activity after it. -/
def stride? (m : Manager σ) (f : Foreground) : Option (Stride σ × Foreground) :=
  if f.isOver m.world.now m.prober then none
  else
    match f.step? m.setup m.world with
    | some (world, f, notes) => some (⟨.owner, m, { m with world := world }, notes⟩, f)
    | none =>
      match m.stepProber? with
      | some (m', notes) => some (⟨.prober, m, m', notes⟩, f)
      | none => (m.moveOn? f).map fun m' => (⟨.clock, m, m', []⟩, f)

/-- The strides of an activity, at most `fuel` of them. -/
def strides (fuel : Nat) (m : Manager σ) (f : Foreground) : List (Stride σ) :=
  match fuel with
  | 0 => []
  | fuel + 1 =>
    match m.stride? f with
    | none => []
    | some (x, f) => x :: strides fuel x.after f

variable {m m' : Manager σ} {f f' : Foreground} {x : Stride σ} {fuel : Nat}

/-- A step of a manager is a stride of which it is not told who made it. -/
lemma step?_eq_stride? (m : Manager σ) (f : Foreground) :
    m.step? f = (m.stride? f).map fun (x, f) => (x.after, f, x.notes) := by
  unfold step? stepNow? stride?
  cases f.isOver m.world.now m.prober with
  | true => rfl
  | false =>
    cases f.step? m.setup m.world with
    | some out => rfl
    | none =>
      cases m.stepProber? with
      | some out => rfl
      | none => cases m.moveOn? f <;> rfl

/-- The strides that are possible, by who makes them. -/
inductive Makes (m : Manager σ) (f : Foreground) : Stride σ → Foreground → Prop
  | owner {world : World σ} {f' : Foreground} {notes : Journal} :
    f.step? m.setup m.world = some (world, f', notes) →
    Makes m f ⟨.owner, m, { m with world := world }, notes⟩ f'
  | prober {p p' : Prober} {world : World σ} {notes : Journal} : m.prober = some p →
    p.step? m.setup m.world = some (world, p', notes) →
    Makes m f ⟨.prober, m, { m with world := world, prober := some p' }, notes⟩ f
  | clock {t : Nat} : m.stepProber? = none → m.nextMoment? f = some t → m.world.now < t →
    Makes m f ⟨.clock, m, m.setNow t, []⟩ f

/-- Every stride is one of those that `Makes` lists. -/
theorem makes_of_stride? (h : m.stride? f = some (x, f')) : m.Makes f x f' := by
  unfold stride? at h
  split at h
  case isTrue => cases h
  case isFalse =>
    split at h
    case h_1 hforeground =>
      cases h
      exact .owner hforeground
    case h_2 =>
      split at h
      case h_1 m' notes hprober =>
        cases h
        unfold stepProber? at hprober
        split at hprober
        case h_1 => cases hprober
        case h_2 p hp =>
          obtain ⟨⟨world, p', notes⟩, hstep, heq⟩ := Option.map_eq_some_iff.mp hprober
          cases heq
          exact .prober hp hstep
      case h_2 hrests =>
        obtain ⟨m', hmove, heq⟩ := Option.map_eq_some_iff.mp h
        cases heq
        unfold moveOn? at hmove
        split at hmove
        case h_2 => cases hmove
        case h_1 t hmoment =>
          split at hmove
          case isFalse => cases hmove
          case isTrue hlt =>
            cases hmove
            exact .clock hrests hmoment hlt

/-- What every stride keeps holds all along an activity and at its end. -/
lemma strides_induction {P : Manager σ → Foreground → Prop} {Q : Stride σ → Prop}
    (hstep : ∀ m f x f', P m f → m.Makes f x f' → P x.after f' ∧ Q x) (h : P m f) (fuel : Nat)
    (past : List Note) :
    (∀ x ∈ m.strides fuel f, Q x) ∧
      P (m.drive fuel f past).1 (m.drive fuel f past).2.1 := by
  induction fuel generalizing m f past with
  | zero =>
    refine ⟨?_, h⟩
    intro x hx
    cases hx
  | succ fuel ih =>
    unfold strides drive
    rw [step?_eq_stride?]
    cases hstride : m.stride? f with
    | none =>
      refine ⟨?_, h⟩
      intro x hx
      cases hx
    | some out =>
      obtain ⟨x, f'⟩ := out
      obtain ⟨hafter, hx⟩ := hstep m f x f' h (makes_of_stride? hstride)
      obtain ⟨hrest, hend⟩ := ih hafter (x.notes.reverse ++ past)
      refine ⟨?_, hend⟩
      intro y hy
      rcases List.mem_cons.mp hy with rfl | hy
      · exact hx
      · exact hrest y hy

/-- Every stride of an activity is one that was possible. -/
lemma makes_of_mem_strides (h : x ∈ m.strides fuel f) : ∃ g g', x.before.Makes g x g' := by
  have hall : ∀ x ∈ m.strides fuel f, ∃ g g', x.before.Makes g x g' := by
    refine (strides_induction (P := fun _ _ => True) ?_ trivial fuel []).1
    intro n g x g' _ hmakes
    have hbefore : x.before = n := by cases hmakes <;> rfl
    rw [hbefore]
    exact ⟨trivial, g, g', hmakes⟩
  exact hall x h

/-- The manager after an activity is the one after its last stride. -/
lemma drive_fst (m : Manager σ) (f : Foreground) (past : List Note) :
    (m.drive fuel f past).1 = ((m.strides fuel f).getLast?.map Stride.after).getD m := by
  induction fuel generalizing m f past with
  | zero => rfl
  | succ fuel ih =>
    unfold strides drive
    rw [step?_eq_stride?]
    cases hstride : m.stride? f with
    | none => rfl
    | some out =>
      obtain ⟨x, f'⟩ := out
      dsimp only [Option.map_some]
      rw [ih, List.getLast?_cons]
      cases (x.after.strides fuel f').getLast? <;> rfl

end Manager

end Failover
