import TokenTemplate.Proofs.Run.Kept
import TokenTemplate.Proofs.Watch.Run

/-!
# Comprehensions during a run

A comprehension that is an iterator evaluates its expressions when it is asked for an item, in frames that were there
when it was made. No run ever leaves one whose frames are missing: a store that is closed,
`TokenTemplate.Store.Closed`, stays closed, whatever is evaluated and however the run ends. So what is said of a case
that is tried in a closed store is said of every case that a run tries, if there are no comprehensions before the run:
`TokenTemplate.Moment.Does.closed_of_reached`.

The proof watches no frame at all (`TokenTemplate.Watch.nothing`): what is left of watching is then that comprehensions
may go on.
-/

namespace TokenTemplate

namespace Watch

variable {α : Type} {w : Watch} {ev' ev : Evaluator} {x' x : Action α} {s : Store}

/-- **What an instruction does itself** is watched. -/
theorem follows_deed (hev : w.Leads ev' ev) (target : Nat) (env : Environment) (filename : String) (deed : Deed) :
    w.Follows (deed.run ev' target env filename) (deed.run ev target env filename) := by
  cases deed with
  | text a => exact .writeText target a
  | space a => exact .writeSpace target a
  | value v => exact follows_write hev target v
  | evaluate e => exact (follows_evaluate hev e _ filename).discard
  | textOf v => exact (Follows.ofStore _).discard
  | items source v => exact (follows_loopItems source filename v).discard
  | next it => exact (hev.next it).discard
  | captures c v => exact (follows_captures hev c v _ filename).discard
  | mismatch c v => exact (Follows.ofStore _).bind fun _ => .fail _
  | unknown | giveUp | unsupported => exact .fail _

/-- An action leaves a closed store if it can be watched without any frame. -/
theorem Follows.closed (h : nothing.Follows x' x) (hs : s.Closed) : (x s).store.Closed := by
  obtain ⟨_, hmoves, -⟩ := h s (covers_nothing_iff.2 hs)
  exact hmoves.covers.closed

end Watch

/-- A store without comprehensions is closed. -/
theorem Store.closed_of_generation? {s : Store} (h : ∀ o ∈ s.objects, o.generation? = none) : s.Closed :=
  fun _ o g ho hg => absurd (hg.symm.trans (h o (Array.mem_of_getElem? ho))) (Option.some_ne_none g)

/-- Stores that are closed stay closed. -/
def Discipline.closed : Discipline where
  Allows s t := s.Closed → t.Closed
  refl _ := id
  trans h h' := h' ∘ h
  Tolerates := fun _ => True

theorem Discipline.governs_closed (depth calls target : Nat) : closed.Governs (.ofDepth depth calls) target := by
  intro deed env filename s
  refine ⟨fun hgives hs => ?_, fun _ => trivial⟩
  have hfollows := Watch.follows_deed (Watch.leads_stoppingAt .nothing depth calls) target env filename deed
  exact hgives.store_eq ▸ hfollows.closed hs

section Run

variable {depth calls target : Nat} {s : Store}

/-- **Every instruction is reached in a closed store**, if the run has begun in one. -/
theorem Moment.Reached.closed {start : Stretch} {layers : List Layer} {m : Moment}
    (h : Reached (.ofDepth depth calls) target start layers m) (hs : start.store.Closed) : m.store.Closed :=
  (Discipline.governs_closed depth calls target).reached h hs

/-- What an instruction does it does in a closed store, if it has begun in one. -/
theorem Moment.Does.closed {m : Moment} {deed : Deed} {t : Store}
    (h : m.Does (.ofDepth depth calls) target deed t) (hs : m.store.Closed) : t.Closed :=
  (Discipline.governs_closed depth calls target).does h hs

/-- **Whatever is done in a run, is done in a closed store**, if there are no comprehensions before the run: expressions
are evaluated in one, items are asked for, cases are tried and values are written. -/
theorem Moment.Does.closed_of_reached {start : Stretch} {layers : List Layer} {m : Moment} {deed : Deed} {t : Store}
    (h : m.Does (.ofDepth depth calls) target deed t) (hm : Reached (.ofDepth depth calls) target start layers m)
    (hstart : ∀ o ∈ start.store.objects, o.generation? = none) : t.Closed :=
  h.closed (hm.closed (Store.closed_of_generation? hstart))

/-- **A template leaves a closed store**, however it ends. -/
theorem Template.closed_run (t : Template) (target : Nat) (b : Bindings) (hs : s.Closed) :
    (t.run (.ofDepth depth calls) target b s).store.Closed :=
  (Watch.follows_template (Watch.leads_stoppingAt .nothing depth calls) t target b).closed hs

end Run

end TokenTemplate
