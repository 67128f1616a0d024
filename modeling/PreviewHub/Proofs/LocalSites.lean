import PreviewHub.Proofs.FanOut
import PreviewHub.Scenario.Play

/-! A hub among local previews. Whoever has the handle of a local preview may use it at any time,
and so may whoever has its receiver. When the hub calls it, the preview answers at once, as it
stands then. It is closed from the first closing on, it accepts what is posted before, and its
receiver gets what it accepted, in this order. -/

namespace PreviewHub

inductive LocalAct where
  | post (posted : Posted)
  | probe
  | close
  | markClosed
  | receive
  | receiveAll
  | dropReceiver
  deriving DecidableEq, Repr

namespace LocalAct

def closes : LocalAct → Bool
  | .close => true
  | .markClosed => true
  | .dropReceiver => true
  | _ => false

def posted? : LocalAct → Option Posted
  | .post posted => some posted
  | _ => none

end LocalAct

def Call.use? : Call → Option (Handle × LocalAct)
  | .post _ handle data origin => some (handle, .post ⟨data, origin.text⟩)
  | .probe _ handle => some (handle, .probe)
  | .close _ handle => some (handle, .close)
  | _ => none

namespace LocalPreview

def act (p : LocalPreview) : LocalAct → LocalPreview × Reply
  | .post posted =>
    match p.post posted.data posted.origin with
    | .ok q => (q, .done)
    | .error e => (p, .failed e)
  | .probe => (p, if p.isClosed then .closed else .done)
  | .close =>
    match p.close with
    | .ok q => (q, .done)
    | .error e => (p, .failed e)
  | .markClosed => (p.markClosed, .done)
  | .receive => (p.receive.2, .done)
  | .receiveAll => (p.receiveAll.2, .done)
  | .dropReceiver => (p.dropReceiver, .done)

def accepts? (p : LocalPreview) (a : LocalAct) : Option Posted :=
  if (p.act a).2 = .done then a.posted? else none

def takes (p : LocalPreview) : LocalAct → List Posted
  | .receive => p.receive.1.toList
  | .receiveAll => p.receiveAll.1
  | _ => []

def acts (p : LocalPreview) : List LocalAct → LocalPreview
  | [] => p
  | a :: as => (p.act a).1.acts as

def accepted (p : LocalPreview) : List LocalAct → List Posted
  | [] => []
  | a :: as => (p.accepts? a).toList ++ (p.act a).1.accepted as

def received (p : LocalPreview) : List LocalAct → List Posted
  | [] => []
  | a :: as => p.takes a ++ (p.act a).1.received as

section
variable (p : LocalPreview)

private theorem act_post_closed (hp : p.isClosed) (posted : Posted) :
    ∃ e, p.act (.post posted) = (p, .failed e) := by
  cases h : p.post posted.data posted.origin with
  | ok q =>
    rw [(post_eq_ok_iff.mp h).1] at hp
    cases hp
  | error e => exact ⟨e, by simp only [act, h]⟩

private theorem act_post_open (hp : p.isClosed = false) (posted : Posted) :
    p.act (.post posted) = ({ p with inbox := p.inbox ++ [posted] }, .done) := by
  simp only [act, post_eq_ok_iff.mpr ⟨hp, rfl⟩]

/-- A post fails exactly if the preview is closed. -/
theorem post_failed_iff (posted : Posted) :
    (∃ e, (p.act (.post posted)).2 = .failed e) ↔ p.isClosed := by
  cases hp : p.isClosed with
  | true =>
    obtain ⟨e, he⟩ := p.act_post_closed hp posted
    exact ⟨fun _ => rfl, fun _ => ⟨e, by rw [he]⟩⟩
  | false =>
    rw [p.act_post_open hp]
    simp

theorem probe_closed_iff : (p.act .probe).2 = .closed ↔ p.isClosed := by
  cases hp : p.isClosed <;> simp [act, hp]

private theorem act_ne_panicked (a : LocalAct) : (p.act a).2 ≠ .panicked := by
  cases a with
  | post posted =>
    simp only [act]
    split <;> simp
  | probe =>
    simp only [act]
    split <;> simp
  | close =>
    simp only [act]
    split <;> simp
  | _ => simp [act]

/-- A preview is closed by the first closing and stays so. -/
private theorem isClosed_act (a : LocalAct) : (p.act a).1.isClosed = (p.isClosed || a.closes) := by
  cases a with
  | post posted =>
    cases hp : p.isClosed with
    | true =>
      obtain ⟨e, he⟩ := p.act_post_closed hp posted
      rw [he]
      exact hp
    | false =>
      rw [p.act_post_open hp]
      exact hp
  | close =>
    simp only [act, close]
    split
    · rename_i hok
      split at hok
      · cases hok
      · cases hok
        simp [isClosed, markClosed, LocalAct.closes]
    · rename_i hfailed
      split at hfailed
      · rename_i hm
        simp [isClosed, hm]
      · cases hfailed
  | receive =>
    simp only [act, receive]
    split <;> simp [isClosed, LocalAct.closes]
  | _ => simp [act, isClosed, markClosed, receiveAll, dropReceiver, LocalAct.closes]

private theorem accepts?_eq (a : LocalAct) :
    p.accepts? a = if p.isClosed then none else a.posted? := by
  cases a with
  | post posted =>
    cases hp : p.isClosed with
    | true =>
      obtain ⟨e, he⟩ := p.act_post_closed hp posted
      simp [accepts?, he]
    | false => simp [accepts?, p.act_post_open hp]
  | _ => simp [accepts?, LocalAct.posted?]

/-- Nothing gets lost on the way to the receiver, and nothing overtakes. -/
private theorem takes_inbox {a : LocalAct} (ha : a ≠ .dropReceiver) :
    p.takes a ++ (p.act a).1.inbox = p.inbox ++ (p.accepts? a).toList := by
  rw [p.accepts?_eq]
  cases a with
  | post posted =>
    cases hp : p.isClosed with
    | true =>
      obtain ⟨e, he⟩ := p.act_post_closed hp posted
      simp [takes, he]
    | false => simp [takes, p.act_post_open hp, LocalAct.posted?]
  | close =>
    have hinbox : (p.act .close).1.inbox = p.inbox := by
      cases hm : p.marked <;> simp [act, close, hm, markClosed]
    simp [takes, hinbox, LocalAct.posted?]
  | receive =>
    cases hi : p.inbox <;> simp [takes, act, receive, hi, LocalAct.posted?]
  | dropReceiver => exact absurd rfl ha
  | _ => simp [takes, act, markClosed, receiveAll, LocalAct.posted?]

end

private theorem acts_append (p : LocalPreview) (first second : List LocalAct) :
    p.acts (first ++ second) = (p.acts first).acts second := by
  induction first generalizing p with
  | nil => rfl
  | cons a as ih => exact ih (p.act a).1

theorem isClosed_acts (p : LocalPreview) (as : List LocalAct) :
    (p.acts as).isClosed = (p.isClosed || as.any LocalAct.closes) := by
  induction as generalizing p with
  | nil => simp [acts]
  | cons a as ih => rw [acts, ih, isClosed_act, List.any_cons, Bool.or_assoc]

/-- What is posted before the first closing is accepted, and nothing else. -/
theorem accepted_eq (p : LocalPreview) (as : List LocalAct) :
    p.accepted as =
      if p.isClosed then [] else (as.takeWhile (!·.closes)).filterMap LocalAct.posted? := by
  induction as generalizing p with
  | nil => simp [accepted]
  | cons a as ih =>
    rw [accepted, ih, isClosed_act, accepts?_eq]
    cases p.isClosed with
    | true => rfl
    | false =>
      cases hc : a.closes with
      | true => cases a <;> first | rfl | cases hc
      | false => cases h : a.posted? <;> simp [hc, h]

/-- What was received and what is still to be received are the posts that were accepted, in their
order, unless the receiver was dropped. -/
private theorem received_inbox {p : LocalPreview} {as : List LocalAct} (h : .dropReceiver ∉ as) :
    p.received as ++ (p.acts as).inbox = p.inbox ++ p.accepted as := by
  induction as generalizing p with
  | nil => simp [received, acts, accepted]
  | cons a as ih =>
    obtain ⟨ha, has⟩ := not_or.mp (mt List.mem_cons.mpr h)
    rw [received, acts, accepted, List.append_assoc, ih has, ← List.append_assoc,
      p.takes_inbox (Ne.symm ha), List.append_assoc]

/-- When the receiver is dropped, it has got a beginning of what was accepted. -/
theorem received_prefix_accepted (p : LocalPreview) (as : List LocalAct) :
    p.received as ++ (p.acts as).inbox <+: p.inbox ++ p.accepted as := by
  induction as generalizing p with
  | nil => simp [received, acts, accepted]
  | cons a as ih =>
    rw [received, acts, accepted, List.append_assoc]
    by_cases ha : a = .dropReceiver
    · subst ha
      have hclosed : (p.act .dropReceiver).1.isClosed := by
        rw [isClosed_act]
        exact Bool.or_true _
      have hnothing := ih (p.act .dropReceiver).1
      rw [accepted_eq, if_pos hclosed] at hnothing
      exact (List.prefix_nil.mp hnothing) ▸ List.nil_prefix
    · rw [← List.append_assoc p.inbox, ← p.takes_inbox ha, List.append_assoc]
      exact (List.prefix_append_right_inj _).mpr (ih _)

/-- How a preview fares that is `p` before the acts and `q` after them. It is closed from the first
closing on; what is posted before is accepted, and nothing else; and what is accepted comes to the
receiver in this order, all of it unless the receiver is dropped. -/
structure Fares (p : LocalPreview) (acts : List LocalAct) (q : LocalPreview) : Prop where
  closed : q.isClosed = (p.isClosed || acts.any LocalAct.closes)
  accepted : p.accepted acts =
    if p.isClosed then [] else (acts.takeWhile (!·.closes)).filterMap LocalAct.posted?
  received : .dropReceiver ∉ acts → p.received acts ++ q.inbox = p.inbox ++ p.accepted acts
  inOrder : p.received acts ++ q.inbox <+: p.inbox ++ p.accepted acts

private theorem fares (p : LocalPreview) (as : List LocalAct) : p.Fares as (p.acts as) :=
  ⟨p.isClosed_acts as, p.accepted_eq as, received_inbox, p.received_prefix_accepted as⟩

end LocalPreview

/-- A hub at work and the local previews, each by its handle. A handle without one belongs to a
preview that is not local. -/
structure Site where
  machine : Machine
  previews : Handle → Option LocalPreview

/-- What can happen next: something that concerns the hub alone, an answer of the local preview that
it has called, or something that is done with a local preview. -/
inductive Happening where
  | turn (turn : Turn)
  | answer
  | act (handle : Handle) (act : LocalAct)
  deriving DecidableEq, Repr

namespace Site

def called? (s : Site) : Option (Handle × LocalAct) :=
  (s.machine.call?.bind Call.use?).filter fun use => (s.previews use.1).isSome

def reply (s : Site) (use : Handle × LocalAct) : Reply :=
  ((s.previews use.1).map fun p => (p.act use.2).2).getD .done

def turn? (s : Site) : Happening → Option Turn
  | .turn turn => if s.called?.isSome then none else some turn
  | .answer => s.called?.map fun use => .move (.reply (s.reply use))
  | .act _ _ => none

def use? (s : Site) : Happening → Option (Handle × LocalAct)
  | .turn _ => none
  | .answer => s.called?
  | .act handle a => some (handle, a)

def useOf (s : Site) (handle : Handle) (x : Happening) : Option LocalAct :=
  (s.use? x).bind fun use => if use.1 = handle then some use.2 else none

def next (s : Site) (x : Happening) : Site where
  machine := (s.turn? x).elim s.machine fun turn => (s.machine.turn turn).1
  previews handle := (s.previews handle).map fun p => p.acts (s.useOf handle x).toList

theorem previews_next (s : Site) (x : Happening) (handle : Handle) :
    (s.next x).previews handle =
      (s.previews handle).map fun p => p.acts (s.useOf handle x).toList := rfl

def sees (s : Site) (x : Happening) : List Output :=
  (s.turn? x).elim [] fun turn => (s.machine.turn turn).2

def after (s : Site) : List Happening → Site
  | [] => s
  | x :: xs => (s.next x).after xs

def turns (s : Site) : List Happening → List Turn
  | [] => []
  | x :: xs => (s.turn? x).toList ++ (s.next x).turns xs

def uses (s : Site) (handle : Handle) : List Happening → List LocalAct
  | [] => []
  | x :: xs => (s.useOf handle x).toList ++ (s.next x).uses handle xs

def shown (s : Site) : List Happening → List Output
  | [] => []
  | x :: xs => s.sees x ++ (s.next x).shown xs

theorem after_append (s : Site) (first second : List Happening) :
    s.after (first ++ second) = (s.after first).after second := by
  induction first generalizing s with
  | nil => rfl
  | cons x xs ih => exact ih (s.next x)

theorem turns_append (s : Site) (first second : List Happening) :
    s.turns (first ++ second) = s.turns first ++ (s.after first).turns second := by
  induction first generalizing s with
  | nil => rfl
  | cons x xs ih => simp only [List.cons_append, turns, after, ih, List.append_assoc]

private theorem shown_append (s : Site) (first second : List Happening) :
    s.shown (first ++ second) = s.shown first ++ (s.after first).shown second := by
  induction first generalizing s with
  | nil => rfl
  | cons x xs ih => simp only [List.cons_append, shown, after, ih, List.append_assoc]

theorem after_concat (s : Site) (xs : List Happening) (x : Happening) :
    s.after (xs ++ [x]) = (s.after xs).next x :=
  s.after_append xs [x]

theorem shown_concat (s : Site) (xs : List Happening) (x : Happening) :
    s.shown (xs ++ [x]) = s.shown xs ++ (s.after xs).sees x := by
  rw [shown_append]
  exact congrArg _ (List.append_nil _)

/-- The hub takes a turn, or nothing happens to it. -/
theorem next_cases (s : Site) (x : Happening) :
    (s.turn? x = none ∧ (s.next x).machine = s.machine ∧ s.sees x = []) ∨
      ∃ turn, s.turn? x = some turn ∧ (s.next x).machine = (s.machine.turn turn).1 ∧
        s.sees x = (s.machine.turn turn).2 := by
  unfold next sees
  cases s.turn? x with
  | none => exact Or.inl ⟨rfl, rfl, rfl⟩
  | some turn => exact Or.inr ⟨turn, rfl, rfl, rfl⟩

theorem machine_after (s : Site) (xs : List Happening) :
    (s.after xs).machine = s.machine.after (s.turns xs) := by
  induction xs generalizing s with
  | nil => rfl
  | cons x xs ih =>
    rw [after, ih, turns]
    rcases s.next_cases x with ⟨hx, hm, -⟩ | ⟨turn, hx, hm, -⟩
    · rw [hx, hm]
      rfl
    · rw [hx, hm]
      rfl

/-- A preview comes along by what is done with it. -/
theorem previews_after (s : Site) (handle : Handle) (xs : List Happening) :
    (s.after xs).previews handle =
      (s.previews handle).map fun p => p.acts (s.uses handle xs) := by
  induction xs generalizing s with
  | nil => simp [after, uses, LocalPreview.acts]
  | cons x xs ih =>
    rw [after, ih, previews_next, Option.map_map]
    simp only [uses, LocalPreview.acts_append]
    rfl

theorem fares_after {s : Site} {handle : Handle} {p : LocalPreview}
    (hp : s.previews handle = some p) (xs : List Happening) :
    ∃ q, (s.after xs).previews handle = some q ∧ p.Fares (s.uses handle xs) q :=
  ⟨_, by rw [previews_after, hp, Option.map_some], p.fares _⟩

theorem called?_eq {s : Site} {call : Call} {use : Handle × LocalAct} {p : LocalPreview}
    (hcall : s.machine.call? = some call) (huse : call.use? = some use)
    (hp : s.previews use.1 = some p) : s.called? = some use := by
  rw [called?, hcall, Option.bind_some, huse, Option.filter_some, hp]
  rfl

/-- When a local preview is called, it answers as it stands. -/
theorem turn?_answer {s : Site} {call : Call} {use : Handle × LocalAct} {p : LocalPreview}
    (hcall : s.machine.call? = some call) (huse : call.use? = some use)
    (hp : s.previews use.1 = some p) :
    s.turn? .answer = some (.move (.reply (p.act use.2).2)) := by
  rw [turn?, called?_eq hcall huse hp, Option.map_some, reply, hp]
  rfl

/-- When a local preview is called, nothing concerns the hub but the answer. -/
theorem answer_of_turn? {s : Site} {x : Happening} {turn : Turn} (hx : s.turn? x = some turn)
    (hc : s.called?.isSome) : x = .answer := by
  cases x with
  | turn turn =>
    rw [turn?, if_pos hc] at hx
    cases hx
  | answer => rfl
  | act handle a => cases hx

/-- Each turn of the hub comes of a happening. -/
theorem exists_of_mem_course {s : Site} {xs : List Happening} {step : Machine × Turn}
    (h : step ∈ s.machine.course (s.turns xs)) :
    ∃ first x later, xs = first ++ x :: later ∧ (s.after first).machine = step.1 ∧
      (s.after first).turn? x = some step.2 := by
  induction xs generalizing s with
  | nil => cases h
  | cons x xs ih =>
    have later (h : step ∈ (s.next x).machine.course ((s.next x).turns xs)) :
        ∃ first y later, x :: xs = first ++ y :: later ∧ (s.after first).machine = step.1 ∧
          (s.after first).turn? y = some step.2 := by
      obtain ⟨first, y, later, rfl, hm, hy⟩ := ih h
      exact ⟨x :: first, y, later, rfl, hm, hy⟩
    rw [turns] at h
    rcases s.next_cases x with ⟨hx, hm, -⟩ | ⟨turn, hx, hm, -⟩
    · rw [hx, Option.toList_none, List.nil_append, ← hm] at h
      exact later h
    · rw [hx, Option.toList_some, List.singleton_append] at h
      rcases List.mem_cons.mp h with rfl | h
      · exact ⟨[], x, xs, rfl, rfl, hx⟩
      · rw [← hm] at h
        exact later h

end Site

namespace Scenario

def Stage.site (s : Stage) : Site where
  machine := s.machine
  previews handle :=
    match s.device handle with
    | .localPreview p => some p
    | _ => none

private theorem Stage.device_eq_iff {s : Stage} {handle : Handle} {p : LocalPreview} :
    s.site.previews handle = some p ↔ s.device handle = .localPreview p := by
  unfold site
  dsimp only
  split <;> simp_all

/-- What is put behind a handle is found there, and the others stay. -/
private theorem Stage.device_setDevice (s : Stage) (handle other : Handle) (device : Device) :
    (s.setDevice handle device).device other =
      if other = handle then device else s.device other := by
  let put (entry : Handle × Device) := if entry.1 = handle then (handle, device) else entry
  have elsewhere (hne : other ≠ handle) (entries : List (Handle × Device)) :
      (entries.map put).find? (fun entry => entry.1 = other) =
        entries.find? fun entry => entry.1 = other := by
    induction entries with
    | nil => rfl
    | cons entry entries ih =>
      rw [List.map_cons, List.find?_cons, List.find?_cons, ih]
      by_cases he : entry.1 = handle <;> simp [put, he, hne.symm]
  have there (entries : List (Handle × Device)) (hany : entries.any fun entry => entry.1 = handle) :
      (entries.map put).find? (fun entry => entry.1 = handle) = some (handle, device) := by
    induction entries with
    | nil => cases hany
    | cons entry entries ih =>
      by_cases he : entry.1 = handle
      · simp [put, he]
      · simpa [put, he] using ih (by simpa [he] using hany)
  unfold setDevice Stage.device
  by_cases ho : other = handle
  · subst ho
    rw [if_pos rfl]
    split
    · rename_i hany
      rw [there _ hany]
      rfl
    · rename_i hnone
      have hfind : s.devices.find? (fun entry => entry.1 = other) = none :=
        List.find?_eq_none.mpr fun entry hm he => hnone (List.any_eq_true.mpr ⟨entry, hm, he⟩)
      simp [List.find?_append, hfind]
  · rw [if_neg ho]
    split
    · rw [elsewhere ho]
    · simp [List.find?_append, Ne.symm ho]

private theorem Stage.finish_site (s : Stage) (id : RequestId) (outcome : Outcome) :
    (s.finish id outcome).site = s.site := by
  unfold finish
  split <;> rfl

private theorem site_progress (go : Machine → Machine × List Output) (s : Stage) :
    ((progress go).run s).1 = (go s.machine).2 ∧
      ((progress go).run s).2.site = ⟨(go s.machine).1, s.site.previews⟩ := by
  have keeps {f : Stage → Output → Stage} (hf : ∀ s output, (f s output).site = s.site)
      (outputs : List Output) (s : Stage) : (outputs.foldl f s).site = s.site := by
    induction outputs generalizing s with
    | nil => rfl
    | cons output outputs ih => rw [List.foldl_cons, ih, hf]
  refine ⟨rfl, keeps (fun s output => ?_) _ _⟩
  cases output with
  | finished id outcome => exact s.finish_site id outcome
  | _ => rfl

/-- A local preview answers without using the hub. -/
private theorem answerCall_local {s : Stage} {call : Call} {use : Handle × LocalAct}
    {p : LocalPreview}
    (huse : call.use? = some use) (hp : s.device use.1 = .localPreview p) (fuel : Nat) :
    ((answerCall (fuel + 2) call).run s).1 = (p.act use.2).2 ∧
      ((answerCall (fuel + 2) call).run s).2.machine = s.machine ∧
      ∀ other, ((answerCall (fuel + 2) call).run s).2.device other =
        if other = use.1 then .localPreview (p.act use.2).1 else s.device other := by
  have same (other : Handle) :
      s.device other = if other = use.1 then .localPreview p else s.device other := by
    split
    · rename_i ho
      rw [ho, hp]
    · rfl
  cases call with
  | post id handle data origin =>
    cases huse
    cases hpost : p.post data origin.text with
    | ok q =>
      simp only [answerCall, LocalPreview.act, hpost, StateT.run_bind, StateT.run_get, hp,
        postLocally, pure_bind, bind_pure_comp]
      exact ⟨rfl, rfl, fun other => s.device_setDevice handle other _⟩
    | error e =>
      simp only [answerCall, LocalPreview.act, hpost, StateT.run_bind, StateT.run_get, hp,
        postLocally, pure_bind]
      exact ⟨rfl, rfl, same⟩
  | probe id handle =>
    cases huse
    simp only [answerCall, LocalPreview.act, StateT.run_bind, StateT.run_get, hp, pure_bind]
    exact ⟨rfl, rfl, same⟩
  | close id handle =>
    cases huse
    cases hclose : p.close with
    | ok q =>
      simp only [answerCall, closeDevice, LocalPreview.act, StateT.run_bind, StateT.run_get, hp,
        hclose, pure_bind]
      exact ⟨rfl, rfl, fun other => s.device_setDevice handle other _⟩
    | error e =>
      simp only [answerCall, closeDevice, LocalPreview.act, StateT.run_bind, StateT.run_get, hp,
        hclose, pure_bind]
      exact ⟨rfl, rfl, same⟩
  | _ => cases huse

private theorem returnCall_eq (call : Call) {reply : Reply} (hr : reply ≠ .panicked) :
    returnCall call reply = move (.reply reply) := by
  cases reply with
  | panicked => exact absurd rfl hr
  | _ => cases call <;> rfl

/-- Where one device changes as its preview does, the others stay. -/
private theorem Stage.previews_used {s s' : Stage} {use : Handle × LocalAct} {p : LocalPreview}
    (hp : s.device use.1 = .localPreview p)
    (hdevice : ∀ other, s'.device other =
      if other = use.1 then .localPreview (p.act use.2).1 else s.device other) (other : Handle) :
    s'.site.previews other = (s.site.previews other).map fun p =>
      p.acts (if use.1 = other then some use.2 else none).toList := by
  by_cases ho : other = use.1
  · subst ho
    rw [if_pos rfl, Stage.device_eq_iff.mpr hp]
    exact Stage.device_eq_iff.mpr ((hdevice use.1).trans (if_pos rfl))
  · have hsame : s'.site.previews other = s.site.previews other := by
      simp only [Stage.site, (hdevice other).trans (if_neg ho)]
    rw [if_neg (Ne.symm ho), hsame]
    exact Option.map_id'.symm

/-- In a scenario the local previews answer the calls of the hub. -/
theorem site_answer {s : Stage} {call : Call} {use : Handle × LocalAct} {p : LocalPreview}
    (hcall : s.machine.call? = some call) (huse : call.use? = some use)
    (hp : s.site.previews use.1 = some p) (fuel : Nat) :
    let answered := (answerCall (fuel + 2) call >>= returnCall call).run s
    answered.1 = s.site.sees .answer ∧ answered.2.site = s.site.next .answer := by
  intro answered
  have hdevice := Stage.device_eq_iff.mp hp
  obtain ⟨hreply, hmachine, hdevices⟩ := answerCall_local huse hdevice fuel
  let s' := ((answerCall (fuel + 2) call).run s).2
  have hanswered : answered = (move (.reply (p.act use.2).2)).run s' := by
    rw [← returnCall_eq call (p.act_ne_panicked use.2), ← hreply]
    rfl
  obtain ⟨houtputs, hsite⟩ := site_progress (·.step (.reply (p.act use.2).2)) s'
  have hturn := Site.turn?_answer (s := s.site) hcall huse hp
  have hmachine : s'.machine = s.machine := hmachine
  have hpreviews : s'.site.previews = (s.site.next .answer).previews := by
    funext other
    rw [Site.previews_next, Site.useOf, Site.use?, Site.called?_eq (s := s.site) hcall huse hp]
    exact Stage.previews_used hdevice hdevices other
  rw [hanswered, move, houtputs, hsite, hmachine, hpreviews, Site.next, Site.sees, hturn]
  exact ⟨rfl, rfl⟩

/-- In a scenario a local preview is closed, or its receiver dropped, without the hub. -/
theorem site_onLocal {a : LocalAct} {change : LocalPreview → LocalPreview}
    (hchange : ∀ p, change p = (p.act a).1) {s : Stage} {handle : Handle} {p : LocalPreview}
    (hp : s.site.previews handle = some p) :
    ((onLocal handle change).run s).2.site = s.site.next (.act handle a) := by
  have hdevice := Stage.device_eq_iff.mp hp
  have hdone : ((onLocal handle change).run s).2 =
      s.setDevice handle (.localPreview (p.act a).1) := by
    rw [← hchange]
    show (match s.device handle with
      | .localPreview p => s.setDevice handle (.localPreview (change p))
      | _ => s) = _
    rw [hdevice]
  have hpreviews : (s.setDevice handle (.localPreview (p.act a).1)).site.previews =
      (s.site.next (.act handle a)).previews :=
    funext (@Stage.previews_used s _ (handle, a) p hdevice
      fun other => s.device_setDevice handle other _)
  rw [hdone]
  exact congrArg (Site.mk s.machine) hpreviews

end Scenario

end PreviewHub
