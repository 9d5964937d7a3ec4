import TokenTemplate.Proofs.Run.Reached

/-!
# What a run keeps

If everything that instructions can do obeys a `TokenTemplate.Discipline`, in whichever store it is
done (`TokenTemplate.Discipline.Governs`), the discipline relates the store in which a run begins to
the store of every moment that is reached, and to every store in which an instruction does something.
This is more than that the run obeys it: nothing is asked about how the run goes on from there.
-/

namespace TokenTemplate

/-- **A discipline governs an evaluator**: all that an instruction can do obeys it. -/
def Discipline.Governs (d : Discipline) (ev : Evaluator) (target : Nat) : Prop :=
  ∀ (deed : Deed) env filename s, (deed.run ev target env filename).Obeys d s

variable {d : Discipline} {ev : Evaluator} {target : Nat} {env : Environment} {filename : String}
  {s t : Store}

namespace Discipline.Governs

/-! ### Single steps -/

theorem evaluate {x : Expression} {v : Value} (h : d.Governs ev target)
    (hv : (x.evaluate ev env.flatten filename).Gives s v t) : d.Allows s t :=
  (Action.obeys_of_discard (h (.evaluate x) env filename s)).allows hv

theorem captures {c : Case} {v : Value} {found : Option Bindings} (h : d.Governs ev target)
    (hfound : (c.captures ev v env.flatten filename).Gives s found t) : d.Allows s t :=
  (Action.obeys_of_discard (h (.captures c v) env filename s)).allows hfound

theorem next {it : Nat} {item : Option Value} (h : d.Governs ev target)
    (hnext : (ev.next it).Gives s item t) : d.Allows s t :=
  (Action.obeys_of_discard (h (.next it) [] "" s)).allows hnext

theorem loopItems {source : Expression} {v : Value} {it : Nat} (h : d.Governs ev target)
    (hitems : (Evaluator.loopItems source filename v).Gives s it t) : d.Allows s t :=
  (Action.obeys_of_discard (h (.items source v) [] filename s)).allows hitems

theorem segments {segments : List Segment} {texts : List String} (h : d.Governs ev target)
    (htexts : (segments.mapM (Segment.text ev env filename)).Gives s texts t) : d.Allows s t := by
  refine (Action.obeys_mapM fun before segment after texts t _ _ => ?_).allows htexts
  exact Segment.obeys_text (fun x _ => Action.obeys_of_discard (h (.evaluate x) env filename t))
    fun _ v u _ _ _ => Action.obeys_of_discard (h (.textOf v) env filename u)

/-! ### Bodies -/

/-- A run obeys what governs the evaluator. -/
theorem obeys (h : d.Governs ev target) (st : Stretch) : (st.run ev target).Obeys d st.store :=
  Stretch.obeys_of_reached fun _ m _ deed t _ => h deed m.env m.filename t

theorem execute {r : Routine} (h : d.Governs ev target)
    (hrun : (r.execute ev target env).Gives s () t) : d.Allows s t := by
  rw [← Routine.run_stretch r env s] at hrun
  exact (h.obeys (r.stretch env s)).allows hrun

theorem between {l : Loop} {previous : Option (Bindings × Environment)} (h : d.Governs ev target)
    (hjoin : (l.between ev target previous).Gives s () t) : d.Allows s t := by
  cases previous with
  | none => exact (Action.obeys_pure d () s).allows hjoin
  | some p =>
    rw [Loop.between] at hjoin
    cases hl : l.join with
    | none =>
      rw [hl] at hjoin
      exact (Action.obeys_pure d () s).allows hjoin
    | some join =>
      rw [hl, executeOptional] at hjoin
      exact h.execute hjoin

theorem turns {l : Loop} {it fuel : Nat} {previous : Option (Bindings × Environment)}
    (h : d.Governs ev target) (hturns : l.Turns ev target s it fuel previous t) : d.Allows s t := by
  induction hturns with
  | start hsource hitems => exact d.trans (h.evaluate hsource) (h.loopItems hitems)
  | turn _ hnext hcaptures hjoin hbody ih =>
    have hmatched := d.trans (d.trans ih (h.next hnext)) (h.captures hcaptures)
    exact d.trans (d.trans hmatched (h.between hjoin)) (h.execute hbody)

theorem skips {v : Value} {arms : List (Case × Routine)} (h : d.Governs ev target)
    (hskips : Skips ev env filename v arms s t) : d.Allows s t := by
  induction hskips with
  | nil => exact d.refl _
  | cons hcaptures _ ih => exact d.trans (h.captures hcaptures) ih

/-! ### Moments -/

/-- **What an instruction does** comes after the instruction has begun. -/
theorem does {m : Moment} {deed : Deed} (h : d.Governs ev target)
    (hdoes : m.Does ev target deed t) : d.Allows m.store t := by
  cases hdoes with
  | append | layout | name | unknown | splice | condition | source | subject | unsupported =>
    exact d.refl _
  | spliced hv | items hv => exact h.evaluate hv
  | site htexts | interpolated htexts => exact h.segments htexts
  | sited htexts hv => exact d.trans (h.segments htexts) (h.evaluate hv)
  | next hturns | giveUp hturns => exact h.turns hturns
  | item hturns hnext => exact d.trans (h.turns hturns) (h.next hnext)
  | mismatch hturns hnext hcaptures =>
    exact d.trans (d.trans (h.turns hturns) (h.next hnext)) (h.captures hcaptures)
  | arm hv hskips => exact d.trans (h.evaluate hv) (h.skips hskips)

/-- **A body is entered** after the instruction has begun. -/
theorem enters {m : Moment} {layer : Option Layer} {st : Stretch} (h : d.Governs ev target)
    (henters : m.Enters ev target layer st) : d.Allows m.store st.store := by
  cases henters with
  | yes hv | no hv => exact h.evaluate hv
  | join _ hturns hnext hcaptures =>
    exact d.trans (d.trans (h.turns hturns) (h.next hnext)) (h.captures hcaptures)
  | body hturns hnext hcaptures hjoin =>
    have hmatched := d.trans (d.trans (h.turns hturns) (h.next hnext)) (h.captures hcaptures)
    exact d.trans hmatched (h.between hjoin)
  | arm hv hskips hcaptures =>
    exact d.trans (d.trans (h.evaluate hv) (h.skips hskips)) (h.captures hcaptures)
  | scope => exact d.refl _

theorem meets {st : Stretch} {m : Moment} (h : d.Governs ev target) (hmeets : st.Meets ev target m) :
    d.Allows st.store m.store := by
  obtain @⟨before, _, _, env, filename, s, _, hbefore⟩ := hmeets
  exact (h.obeys ⟨before, env, filename, s⟩).allows hbefore

/-- **An instruction is reached** in a store that the discipline allows. -/
theorem reached {start : Stretch} {layers : List Layer} {m : Moment} (h : d.Governs ev target)
    (hm : Moment.Reached ev target start layers m) : d.Allows start.store m.store := by
  induction hm with
  | first hmeets => exact h.meets hmeets
  | next _ henters hmeets ih => exact d.trans (d.trans ih (h.enters henters)) (h.meets hmeets)

end Discipline.Governs

end TokenTemplate
