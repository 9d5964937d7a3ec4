import TokenTemplate.Proofs.Watch.Call

/-!
# Methods that are watched

The methods of lists, dictionaries, receivers, templates and texts, and with them everything that can be called,
`TokenTemplate.Watch.follows_callValue`.
-/

namespace TokenTemplate.Watch

variable {w : Watch} {ev' ev : Evaluator} {s : Store} {args : List Value} {named : Bindings}

/-! ### Writing -/

theorem follows_writeTextOf (id : Nat) (v : Value) :
    w.Follows (Evaluator.writeTextOf id v) (Evaluator.writeTextOf id v) :=
  (Follows.ofStore _).bind fun _ => .writeText _ _

theorem follows_writeItem (id : Nat) (item : Item) :
    w.Follows (Evaluator.writeItem id item) (Evaluator.writeItem id item) := by
  cases item with
  | space a => exact .writeSpace id a
  | text a => exact .writeText id a

/-- **A value is written.** -/
theorem follows_write (hev : w.Leads ev' ev) (id : Nat) (v : Value) : w.Follows (ev'.write id v) (ev.write id v) := by
  unfold Evaluator.write
  refine (Follows.look _).bind fun o => ?_
  split
  -- lists and tuples are written alike
  case h_5 | h_6 =>
    refine (Follows.look _).bind fun row => ?_
    split
    · exact Follows.forM fun source _ => .copy id source
    · exact follows_writeTextOf id v
  · exact .pure _
  · exact .copy id _
  · exact Follows.forM fun item _ => follows_writeItem id item
  · split
    · exact (hev.call _ _ _).discard
    · exact follows_writeTextOf id v
  · exact follows_writeTextOf id v

theorem follows_writeAll (hev : w.Leads ev' ev) (id : Nat) (v : Value) :
    w.Follows (ev'.writeAll id v) (ev.writeAll id v) := by
  refine (follows_iterate v).bind fun it => follows_loop hev (fun _ item => ?_) it _ _
  split
  · exact .pure _
  · exact (Follows.writeSpace _ _).bind fun _ => .pure _
  · exact (follows_write hev id _).bind fun _ => .pure _

theorem follows_writeNested (hev : w.Leads ev' ev) (id : Nat) (v : Value) :
    w.Follows (ev'.writeNested id v) (ev.writeNested id v) :=
  (Follows.writeSpace _ _).bind fun _ => (Follows.writeSpace _ _).bind fun _ => (follows_write hev id v).bind fun _ =>
    (Follows.writeSpace _ _).bind fun _ => .writeSpace _ _

/-! ### Methods -/

theorem follows_callListMethod (self : Value) (m : ListMethod) (args : List Value) :
    w.Follows (Evaluator.callListMethod self m args) (Evaluator.callListMethod self m args) := by
  refine (Follows.look _).bind fun items => .look_bind fun s hs => ?_
  split
  · next h =>
    exact ((Follows.setObject_of_none (hs.apart_of_object? h rfl) rfl).bind fun _ => .pure _) s hs
  · exact ((Follows.ofStore _).bind fun _ => .int _) s hs
  · exact Follows.failWith _ s hs
  · refine ((Follows.ofExcept _).bind fun bounds => (Follows.ofStore _).bind fun before => ?_) s hs
    split
    · exact .int _
    · exact .failWith _
  · exact Follows.failWith _ s hs

theorem follows_callDictMethod (self : Value) (m : DictMethod) (args : List Value) :
    w.Follows (Evaluator.callDictMethod self m args) (Evaluator.callDictMethod self m args) := by
  unfold Evaluator.callDictMethod
  split
  · split
    · exact .failWith _
    · exact (Follows.ofStore _).bind fun _ => .pure _
  · exact .failWith _
  · exact .new rfl
  · exact .failWith _

theorem follows_callReceiverMethod (hev : w.Leads ev' ev) (id : Nat) (m : ReceiverMethod) (args : List Value) :
    w.Follows (ev'.callReceiverMethod id m args) (ev.callReceiverMethod id m args) := by
  unfold Evaluator.callReceiverMethod
  split
  · exact (follows_write hev id _).bind fun _ => .pure _
  · exact (follows_writeAll hev id _).bind fun _ => .pure _
  · exact (Follows.writeSpace _ _).bind fun _ => .pure _
  · exact (follows_writeNested hev id _).bind fun _ => .pure _
  · exact (Follows.look _).bind fun _ => .pure _
  · exact (Follows.look _).bind fun _ => .text _
  · exact .failWith _
  · exact (Follows.look _).bind fun _ => .text _
  · refine (Follows.look _).bind fun isEmpty => ?_
    split
    · exact .text _
    · exact .failWith _
  · exact .failWith _

theorem follows_callReceiver (hev : w.Leads ev' ev) (id : Nat) (m : ReceiverMethod) (args : List Value)
    (named : Bindings) : w.Follows (ev'.callReceiver id m args named) (ev.callReceiver id m args named) := by
  unfold Evaluator.callReceiver
  split
  · exact follows_callReceiverMethod hev id m _
  · split
    · exact follows_callReceiverMethod hev id m _
    · exact .failWith _
  · exact .failWith _

theorem follows_populateValue (hev : w.Leads ev' ev) (t : Template) (receiver : Value) (b : Bindings) :
    w.Follows (ev'.populateValue t receiver b) (ev.populateValue t receiver b) := by
  unfold Evaluator.populateValue
  split
  · exact (hev.populate t _ b).bind fun _ => .pure _
  · exact .failWith _

theorem follows_callTemplateMethod (hev : w.Leads ev' ev) (t : Template) (m : TemplateMethod) (args : List Value)
    (named : Bindings) : w.Follows (ev'.callTemplateMethod t m args named) (ev.callTemplateMethod t m args named) := by
  unfold Evaluator.callTemplateMethod
  split
  · exact Follows.newReceiver.bind fun id => (hev.populate t id named).bind fun _ => .pure _
  · refine Follows.newReceiver.bind fun id => (hev.populate t id named).bind fun _ => ?_
    exact (Follows.look _).bind fun _ => .text _
  · exact follows_populateValue hev t _ _
  · split
    · exact follows_populateValue hev t _ _
    · exact .failWith _
  · exact .failWith _

theorem follows_callTextMethod (hev : w.Leads ev' ev) (self : Value) (m : TextMethod) (args : List Value)
    (named : Bindings) : w.Follows (ev'.callTextMethod self m args named) (ev.callTextMethod self m args named) := by
  unfold Evaluator.callTextMethod
  split
  · refine (follows_noNames named).bind fun _ => ?_
    split
    · refine (follows_itemsOf hev _).bind fun items => (Follows.ofExcept _).bind fun texts => ?_
      split
      · exact .pure _
      · exact (Follows.ofExcept _).bind fun _ => .text _
    · exact .failWith _
  · refine (follows_onlyNames _ named).bind fun _ => (follows_optionalArgument _ _ _ _).bind fun sep => ?_
    refine (follows_optionalArgument _ _ _ _).bind fun limit => ?_
    dsimp only
    split
    · exact .failWith _
    · exact follows_make fun s => inert_textMethod _ _ _
  · exact (follows_noNames named).bind fun _ => follows_make fun s => inert_textMethod _ _ _

theorem follows_callMethodOf (hev : w.Leads ev' ev) (self : Value) (m : Method) (args : List Value)
    (named : Bindings) : w.Follows (ev'.callMethodOf self m args named) (ev.callMethodOf self m args named) := by
  unfold Evaluator.callMethodOf
  split
  · exact follows_callTextMethod hev _ _ _ _
  · exact (follows_noNames named).bind fun _ => follows_callListMethod _ _ _
  · exact (follows_noNames named).bind fun _ => follows_callDictMethod _ _ _
  · exact follows_callReceiver hev _ _ _ _
  · refine (Follows.look _).bind fun o => ?_
    split
    · exact follows_callTemplateMethod hev _ _ _ _
    · exact .failWith _
  · exact .failWith _

theorem follows_callMethod (hev : w.Leads ev' ev) (self : Value) (m : Method) (args : List Value)
    (named : Bindings) : w.Follows (ev'.callMethod self m args named) (ev.callMethod self m args named) := by
  unfold Evaluator.callMethod
  split
  · refine (Follows.look _).bind fun k => ?_
    split
    · exact follows_callMethodOf hev _ _ _ _
    · exact .failWith _
  · exact .failWith _
  · exact follows_callMethodOf hev _ _ _ _

/-! ### Calling a value -/

/-- **A value is called.** -/
theorem follows_callValue (hev : w.Leads ev' ev) (f : Value) (args : List Value) (named : Bindings) :
    w.Follows (ev'.callValue f args named) (ev.callValue f args named) := by
  unfold Evaluator.callValue
  refine (Follows.look _).bind fun o => ?_
  split
  · exact follows_callFunction hev _ _ _
  · exact follows_makeKind hev _ _ _
  · exact follows_callClosure hev _ _ _ _ _ _
  · exact follows_callMethod hev _ _ _ _
  · exact (follows_noNames named).bind fun _ => (Follows.keepCall _).bind fun _ => .pure _
  · exact .failWith _

end TokenTemplate.Watch
