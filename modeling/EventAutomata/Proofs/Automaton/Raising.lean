import EventAutomata.Proofs.Automaton.Dispatching
import EventAutomata.Proofs.Automaton.Tracking
import EventAutomata.Proofs.Graph.Callbacks

/-!
# Signals that callbacks raise

A callback raises signals that it holds and no others. So whatever a call makes an automaton do,
the requests that are queued meanwhile come from signals in the callbacks of its graph
(`call_raised`), and no call but a setting brings in callbacks (`allCallbacks_call`).
-/

namespace EventAutomata

variable {σ α : Type} {P : FireSignal → Prop}

def Effect.signal? : Effect α → Option FireSignal
  | .raise signal _ _ | .raiseRest signal _ => some signal
  | .log .. | .panic .. => none

def Event.signal? : Event α → Option FireSignal
  | .raised channel fired => some ⟨fired.transition, channel⟩
  | _ => none

def Script.signals (script : Script α) : List FireSignal := script.filterMap Effect.signal?

/-- The signals that were raised and not refused. -/
def raisedIn (events : List (Event α)) : List FireSignal := events.filterMap Event.signal?

/-- Every signal in the script satisfies `P`. -/
def Script.Holds (P : FireSignal → Prop) (script : Script α) : Prop :=
  ∀ signal ∈ script.signals, P signal

@[simp] theorem raisedIn_append (xs ys : List (Event α)) :
    raisedIn (xs ++ ys) = raisedIn xs ++ raisedIn ys := List.filterMap_append

theorem mem_queuedIn {c : ChannelId} {fired : Fired α} {events : List (Event α)} :
    fired ∈ queuedIn c events ↔ .raised c fired ∈ events := by
  rw [queuedIn, List.mem_filterMap]
  constructor
  · rintro ⟨event, hevent, hqueued⟩
    cases event with
    | raised d f =>
      simp only [Event.queued?] at hqueued
      split at hqueued
      next heq => cases hqueued; exact heq ▸ hevent
      next => cases hqueued
    | _ => cases hqueued
  · exact fun hevent => ⟨_, hevent, if_pos rfl⟩

theorem mem_raisedIn {c : ChannelId} {fired : Fired α} {events : List (Event α)}
    (h : .raised c fired ∈ events) : ⟨fired.transition, c⟩ ∈ raisedIn events :=
  List.mem_filterMap.2 ⟨_, h, rfl⟩

theorem Script.Wrote.raisedIn_sublist {site : Site α} {script : Script α} {events : List (Event α)}
    (hw : Script.Wrote site script events) : (raisedIn events).Sublist script.signals := by
  obtain ⟨effects, hsub, hall⟩ := hw
  refine List.Sublist.trans ?_ (hsub.filterMap Effect.signal?)
  clear hsub
  induction hall with
  | nil => exact List.Sublist.slnil
  | cons he _ ih =>
    cases he with
    | noted => exact ih
    | raised | restRaised => exact ih.cons_cons _
    | refused | restRefused => exact ih.cons _

theorem InTurn.holds {cbs : List (Callback α)} {h h' : Hub α} {pages : List (List (Event α))}
    {stop : Option (Stage × Fault)} (hr : InTurn cbs h pages stop h')
    (hcbs : ∀ cb ∈ cbs, cb.script.Holds P) : ∀ signal ∈ raisedIn pages.flatten, P signal := by
  induction hr with
  | done => exact nofun
  | next _ hpage _ ih =>
    intro signal hsignal
    rw [List.flatten_cons, raisedIn_append, List.mem_append] at hsignal
    rcases hsignal with hfirst | hrest
    · exact hcbs _ List.mem_cons_self _ (hpage.wrote.raisedIn_sublist.subset hfirst)
    · exact ih (fun cb hcb => hcbs cb (List.mem_cons_of_mem _ hcb)) signal hrest
  | fault _ hpage =>
    intro signal hsignal
    rw [List.flatten_singleton] at hsignal
    exact hcbs _ List.mem_cons_self _ (hpage.wrote.raisedIn_sublist.subset hsignal)

/-- Work on the hub, with signals that satisfy `P`. -/
def Hub.Raised (P : FireSignal → Prop) (h h' : Hub α) : Prop :=
  ∃ events, h.Traffic h' events ∧ ∀ signal ∈ raisedIn events, P signal

namespace Hub.Raised

variable {h h₁ h₂ : Hub α}

theorem refl : h.Raised P h := ⟨[], .refl, nofun⟩

theorem trans (h₁₂ : h.Raised P h₁) (h₂₃ : h₁.Raised P h₂) : h.Raised P h₂ := by
  obtain ⟨events, htraffic, hevents⟩ := h₁₂
  obtain ⟨later, htraffic', hlater⟩ := h₂₃
  refine ⟨events ++ later, htraffic.trans htraffic', fun signal hsignal => ?_⟩
  rw [raisedIn_append, List.mem_append] at hsignal
  exact hsignal.elim (hevents signal) (hlater signal)

theorem of_take? {c : ChannelId} {fired : Fired α} (ht : h.take? c = some (fired, h₁)) :
    h.Raised P h₁ := ⟨_, Hub.traffic_take? ht, nofun⟩

theorem of_raise {signal : FireSignal} (hsignal : P signal) (h : Hub α) (args : List α) :
    h.Raised P (h.raise signal args).2 := by
  rcases h.raise_cases signal args with ⟨-, -, htraffic⟩ | ⟨-, heq⟩
  · refine ⟨_, htraffic, fun other hother => ?_⟩
    cases List.mem_singleton.1 hother
    exact hsignal
  · rw [heq]
    exact .refl

theorem journal (hr : h.Raised P h₁) (hh : ∀ signal ∈ raisedIn h.journal.toList, P signal) :
    ∀ signal ∈ raisedIn h₁.journal.toList, P signal := by
  obtain ⟨events, htraffic, hevents⟩ := hr
  intro signal hsignal
  rw [htraffic.journal, raisedIn_append, List.mem_append] at hsignal
  exact hsignal.elim (hh signal) (hevents signal)

end Hub.Raised

namespace Automaton

variable [Payload σ] {a : Automaton σ α}

theorem hasCallback_of_mem {edge : TransitionNode α} {t : TransitionId} {args : List α}
    {cb : Callback α} (hx : a.graph.transition? t = some edge) (hcb : cb ∈ a.callbacks edge t args) :
    a.graph.HasCallback cb.script := by
  simp only [callbacks, List.append_nil, List.mem_append, Option.mem_toList, exitCallback?,
    transitCallback?, entryCallback?, Option.bind_eq_bind, Option.bind_eq_some_iff,
    Option.some.injEq] at hcb
  rcases hcb with ⟨s, -, n, hn, script, hscript, rfl⟩ | ⟨script, hscript, rfl⟩ |
    ⟨n, hn, script, hscript, rfl⟩
  · exact .inl ⟨s, n, hn, .inr hscript⟩
  · exact .inr ⟨t, edge, hx, hscript⟩
  · exact .inl ⟨edge.target, n, hn, .inl hscript⟩

-- ---------------------------------------------------------------------------
-- What is raised
-- ---------------------------------------------------------------------------

theorem transit_raised (ha : a.graph.AllCallbacks (Script.Holds P)) (t : TransitionId)
    (args : List α) (h : Hub α) : h.Raised P (a.transit t args h).2.2 := by
  rcases a.transit_inTurn t args h with heq | ⟨edge, pages, stop, h', hx, hturn, heq⟩
  · rw [heq]
    exact .refl
  · rw [heq]
    exact ⟨pages.flatten, hturn.traffic,
      hturn.holds fun cb hcb => ha cb.script (hasCallback_of_mem hx hcb)⟩

theorem transitTimes_raised (ha : a.graph.AllCallbacks (Script.Holds P)) (t : TransitionId)
    (args : List α) (h : Hub α) (times taken : Nat) :
    h.Raised P (a.transitTimes t args h times taken).2.2 := by
  refine (transitTimes_keeps
    (P := fun x => x.1.graph.AllCallbacks (Script.Holds P) ∧ h.Raised P x.2)
    (fun b k hb => ⟨?_, hb.2.trans (transit_raised hb.1 t args k)⟩) a h times taken ⟨ha, .refl⟩).2
  rw [(b.transit_frame t args k).1]
  exact hb.1

theorem deliver_raised (ha : a.graph.AllCallbacks (Script.Holds P)) (fired : Fired α) (h : Hub α) :
    h.Raised P (a.deliver fired h).2.2 := by
  rcases a.deliver_cases fired h with heq | ⟨-, heq⟩
  · rw [heq]
    exact .refl
  · rw [heq]
    exact transit_raised ha fired.transition fired.args h

theorem Deliveries.raised {x y : Automaton σ α × Hub α} {ds : List (Delivery α)}
    (hd : Deliveries x ds y) (hx : x.1.graph.AllCallbacks (Script.Holds P)) :
    x.2.Raised P y.2 := by
  induction hd with
  | none => exact .refl
  | @next x y z fired h took ds ht hdel _ ih =>
    have hframe := x.1.deliver_frame fired h
    have hfirst := deliver_raised hx fired h
    rw [hdel] at hframe hfirst
    exact (Hub.Raised.of_take? ht).trans (hfirst.trans (ih (hframe.1 ▸ hx)))
  | @fault x y fired h fault ht hdel =>
    have hfirst := deliver_raised hx fired h
    rw [hdel] at hfirst
    exact (Hub.Raised.of_take? ht).trans hfirst

theorem call_raised (ha : a.graph.AllCallbacks (Script.Holds P)) (h : Hub α) (c : Call σ α) :
    h.Raised P (a.call h c).2.2 := by
  cases c with
  | setStart s =>
    simp only [call]
    split <;> exact .refl
  | transit t args => exact transit_raised ha t args h
  | transitTimes t args times => exact transitTimes_raised ha t args h times 0
  | deliver fired => exact deliver_raised ha fired h
  | dispatchPending =>
    obtain ⟨ds, hds⟩ := a.drained_dispatchPending h
    exact hds.deliveries.raised ha
  | dispatchNext =>
    rw [call_dispatchNext]
    rcases a.deliveries_dispatchNext h with ⟨heq, -⟩ | ⟨fired, result, -, hd⟩
    · rw [heq]
      exact .refl
    · exact hd.raised ha
  | _ => exact .refl

-- ---------------------------------------------------------------------------
-- What is kept
-- ---------------------------------------------------------------------------

variable {Q : Script α → Prop}

def Call.callback? : Call σ α → Option (Script α)
  | .configure setting => setting.callback?
  | _ => none

theorem allCallbacks_edit (ha : a.graph.AllCallbacks Q) (e : Graph.Edit σ) :
    (a.edit e).2.graph.AllCallbacks Q := by
  have hattach : ∀ s t b, a.attach? s t = some b → b.graph.AllCallbacks Q := by
    intro s t b hb
    obtain ⟨-, g, hg, rfl⟩ := attach?_eq_some hb
    exact ha.attach? hg
  have hremove : ∀ s t b, a.remove? s t = some b → b.graph.AllCallbacks Q := by
    intro s t b hb
    obtain ⟨-, g, hg, rfl⟩ := remove?_eq_some hb
    rw [dropStrandedCursor_eq]
    exact ha.remove? hg
  cases e with
  | addState data => exact ha.addState data
  | addTransition kind target =>
    simp only [edit, addTransition]
    cases h : a.graph.addTransition kind target with
    | error problem => exact ha
    | ok made => exact ha.addTransition h
  | attach s t => exact Graph.accepted_keeps (P := Graph.AllCallbacks Q ∘ graph) ha (hattach s t)
  | remove s t => exact Graph.accepted_keeps (P := Graph.AllCallbacks Q ∘ graph) ha (hremove s t)
  | attachEpsilon s t => exact Graph.acceptedUnless_keeps (P := Graph.AllCallbacks Q ∘ graph) ha (hattach s t)
  | removeEpsilon s t => exact Graph.acceptedUnless_keeps (P := Graph.AllCallbacks Q ∘ graph) ha (hremove s t)

omit [Payload σ] in
theorem graph_setStart {b : Automaton σ α} {s : Option StateId} (hb : a.setStart s = .ok b) :
    b.graph = a.graph := by
  have hmove : (setStart.moveStart a s).graph = a.graph := by
    unfold setStart.moveStart
    split <;> rfl
  cases s with
  | none => cases hb; exact hmove
  | some s =>
    simp only [setStart] at hb
    split at hb
    next => cases hb; exact hmove
    next => cases hb

theorem Deliveries.graph {x y : Automaton σ α × Hub α} {ds : List (Delivery α)}
    (hd : Deliveries x ds y) : y.1.graph = x.1.graph := by
  obtain ⟨current, history, heq⟩ := hd.keeps
  rw [heq]

theorem allCallbacks_call (ha : a.graph.AllCallbacks Q) (h : Hub α) {c : Call σ α}
    (hc : ∀ script, c.callback? = some script → Q script) :
    (a.call h c).2.1.graph.AllCallbacks Q := by
  cases c with
  | edit e => exact allCallbacks_edit ha e
  | configure setting => exact ha.configure hc
  | setStart s =>
    simp only [call]
    split
    next b hb => exact (graph_setStart hb).symm ▸ ha
    next => exact ha
  | transit t args => exact (a.transit_frame t args h).1.symm ▸ ha
  | transitTimes t args times =>
    exact transitTimes_keeps (P := fun x => x.1.graph.AllCallbacks Q)
      (fun b k hb => (b.transit_frame t args k).1.symm ▸ hb) a h times 0 ha
  | deliver fired => exact (a.deliver_frame fired h).1.symm ▸ ha
  | dispatchPending =>
    obtain ⟨ds, hds⟩ := a.drained_dispatchPending h
    exact hds.deliveries.graph.symm ▸ ha
  | dispatchNext =>
    rw [call_dispatchNext]
    rcases a.deliveries_dispatchNext h with ⟨heq, -⟩ | ⟨fired, result, -, hd⟩
    · rw [heq]
      exact ha
    · exact hd.graph.symm ▸ ha
  | _ => exact ha

end Automaton

end EventAutomata
