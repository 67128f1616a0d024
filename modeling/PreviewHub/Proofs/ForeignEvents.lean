import PreviewHub.Proofs.Occasions

/-! Foreign events are invisible. Some dispatches of a run are marked, and a second run leaves them
out: the call, its answer, and the step in which the listener takes the event. If each marked event
is foreign when it is taken, the second run goes through the same states, but for the marked events
in the queue. -/

namespace PreviewHub

def Output.isHeard : Output → Bool
  | .remark _ => false
  | .handled _ => false
  | .answered (.queued _) => false
  | _ => true

def unmarked (marks : List Bool) (inbox : List Inbound) : List Inbound :=
  (marks.zip inbox).filterMap fun entry => if entry.1 then none else some entry.2

@[simp]
theorem unmarked_nil (inbox : List Inbound) : unmarked [] inbox = [] := rfl

@[simp]
theorem unmarked_cons_true (marks : List Bool) (event : Inbound) (inbox : List Inbound) :
    unmarked (true :: marks) (event :: inbox) = unmarked marks inbox := rfl

@[simp]
theorem unmarked_cons_false (marks : List Bool) (event : Inbound) (inbox : List Inbound) :
    unmarked (false :: marks) (event :: inbox) = event :: unmarked marks inbox := rfl

private theorem unmarked_append {marks : List Bool} {inbox : List Inbound}
    (hl : marks.length = inbox.length) (marks' : List Bool) (inbox' : List Inbound) :
    unmarked (marks ++ marks') (inbox ++ inbox') =
      unmarked marks inbox ++ unmarked marks' inbox' := by
  rw [unmarked, List.zip_append hl, List.filterMap_append]
  rfl

/-- A machine with a mark for each event in its queue. -/
structure Marked where
  machine : Machine
  marks : List Bool := []
  /-- The next task is to answer a marked dispatch. -/
  answering : Bool := false

namespace Marked

/-- Whether a step is made for a marked event: its dispatch, the answer, or the taking of it. -/
def isDropped (w : Marked) (s : Move × Bool) : Bool :=
  w.answering ||
    match s.1 with
    | .call (.dispatch _) => s.2 && w.machine.isOpen
    | .listen => w.marks.headD false && w.machine.isIdle
    | _ => false

def taken? (w : Marked) (s : Move × Bool) : Option Inbound :=
  if s.1 = .listen ∧ w.marks.headD false ∧ w.machine.isIdle then w.machine.hub.inbox.head? else none

def step (w : Marked) (s : Move × Bool) : Marked :=
  let machine := (w.machine.step s.1).1
  match s.1 with
  | .call (.dispatch _) =>
    if w.machine.isOpen then
      ⟨machine, w.marks ++ (if w.machine.hub.started then [s.2] else []), s.2⟩
    else { w with machine }
  | .listen =>
    if w.machine.isIdle then { w with machine, marks := w.marks.tail } else { w with machine }
  | .proceed => { w with machine, answering := false }
  | _ => { w with machine }

def run (w : Marked) (moves : List (Move × Bool)) : Marked := moves.foldl step w

def trace (w : Marked) : List (Move × Bool) → List (Marked × (Move × Bool))
  | [] => []
  | s :: moves => (w, s) :: (w.step s).trace moves

def kept (w : Marked) (moves : List (Move × Bool)) : List (Marked × (Move × Bool)) :=
  (w.trace moves).filter fun s => !s.1.isDropped s.2

def erase (w : Marked) : Machine :=
  ⟨w.machine.hub.withInbox (unmarked w.marks w.machine.hub.inbox),
    if w.answering then w.machine.agenda.tail else w.machine.agenda⟩

structure Fits (w : Marked) : Prop where
  coherent : w.machine.Coherent
  length : w.marks.length = w.machine.hub.inbox.length
  answer : w.answering → ∃ accepted rest, w.machine.agenda = .answer (.queued accepted) :: rest

structure Skips (w : Marked) (s : Move × Bool) : Prop where
  fits : (w.step s).Fits
  erase : (w.step s).erase = w.erase
  unheard : (w.machine.step s.1).2.all fun o => !o.isHeard

structure Follows (w : Marked) (s : Move × Bool) : Prop where
  fits : (w.step s).Fits
  step : w.erase.step s.1 = ((w.step s).erase, (w.machine.step s.1).2)

section
variable {w : Marked}

/-- While a marked dispatch is being answered nothing else can happen. -/
private theorem Fits.skips_answering (hw : w.Fits) (ha : w.answering) (s : Move × Bool) :
    w.Skips s := by
  obtain ⟨accepted, rest, hagenda⟩ := hw.answer ha
  have hclosed : w.machine.isOpen = false := by
    simp [Machine.isOpen, Machine.isIdle, Machine.call?, hagenda]
  have hbusy : w.machine.isIdle = false := by simp [Machine.isIdle, hagenda]
  obtain ⟨move, mark⟩ := s
  by_cases hp : move = .proceed
  · subst hp
    have hstep : w.machine.step .proceed =
        (⟨w.machine.hub, rest⟩, [.answered (.queued accepted)]) :=
      (Machine.Works.proceed _ _ hagenda).step_eq
    have hw' : w.step (.proceed, mark) = ⟨⟨w.machine.hub, rest⟩, w.marks, false⟩ := by
      simp only [step, hstep]
    have hc := hw.coherent.step .proceed
    rw [hstep] at hc
    refine ⟨?_, ?_, by rw [hstep]; rfl⟩
    · rw [hw']
      exact ⟨hc, hw.length, nofun⟩
    · simp [hw', erase, ha, hagenda]
  · have hstep : w.machine.step move = (w.machine, []) := by
      refine (w.machine.step_cases move).resolve_right ?_
      rintro ⟨e, used, tasks, works⟩
      cases works with
      | call op hopen =>
        rw [hclosed] at hopen
        cases hopen
      | proceed task tasks h => exact hp rfl
      | reply call reply tasks h => cases hagenda.symm.trans h
      | listen h => cases hagenda.symm.trans h
      | tick h => cases hagenda.symm.trans h
      | wake id h => cases hagenda.symm.trans h
      | elapse ms h => cases hagenda.symm.trans h
    have hw' : w.step (move, mark) = w := by
      unfold step
      split
      · simp [hclosed, hstep]
      · simp [hbusy, hstep]
      · rename_i heq
        exact absurd heq hp
      · simp [hstep]
    refine ⟨by rwa [hw'], by rw [hw'], by rw [hstep]; rfl⟩

private theorem erase_eq (ha : w.answering = false) :
    w.erase = w.machine.withInbox (unmarked w.marks w.machine.hub.inbox) := by
  simp [erase, Machine.withInbox, ha]

section
variable (hw : w.Fits) (ha : w.answering = false)
include hw ha

private theorem Fits.step_dispatch (hopen : w.machine.isOpen) (event : Inbound) (mark : Bool) :
    (w.step (.call (.dispatch event), mark)).Fits ∧
      (w.step (.call (.dispatch event), mark)).erase =
        if mark then w.erase else (w.erase.step (.call (.dispatch event))).1 := by
  have hc := hw.coherent.step (.call (.dispatch event))
  have hstep := w.machine.step_dispatch hopen event
  have herase := (w.machine.withInbox (unmarked w.marks w.machine.hub.inbox)).step_dispatch
    hopen event
  have hw' : w.step (.call (.dispatch event), mark) =
      ⟨(w.machine.step (.call (.dispatch event))).1,
        w.marks ++ (if w.machine.hub.started then [mark] else []), mark⟩ := if_pos hopen
  rw [hw', erase_eq ha, herase]
  rw [hstep] at hc ⊢
  refine ⟨⟨hc, ?_, fun hmark => ⟨_, _, rfl⟩⟩, ?_⟩
  · rw [List.length_append, hw.length]
    by_cases hs : w.machine.hub.started <;> simp [hs]
  · have happend := unmarked_append hw.length
    by_cases hs : w.machine.hub.started <;> cases mark <;>
      simp [erase, Machine.withInbox, happend, hs]

private theorem Fits.skips_dispatch (hopen : w.machine.isOpen) (event : Inbound) :
    w.Skips (.call (.dispatch event), true) := by
  obtain ⟨hfits, herase⟩ := hw.step_dispatch ha hopen event true
  refine ⟨hfits, herase, ?_⟩
  rw [w.machine.step_dispatch hopen event]
  by_cases hs : w.machine.hub.started <;> simp [hs, Output.isHeard]

private theorem Fits.follows_dispatch (hopen : w.machine.isOpen) (event : Inbound) :
    w.Follows (.call (.dispatch event), false) := by
  obtain ⟨hfits, herase⟩ := hw.step_dispatch ha hopen event false
  refine ⟨hfits, Prod.ext herase.symm ?_⟩
  have hkept := (w.machine.withInbox (unmarked w.marks w.machine.hub.inbox)).step_dispatch
    hopen event
  rw [erase_eq ha, w.machine.step_dispatch hopen event, hkept]
  rfl

end

end

private theorem step_listen (hub : Hub) (marks : List Bool) (mark : Bool) :
    step ⟨⟨hub, []⟩, marks, false⟩ (.listen, mark) =
      ⟨⟨hub.listen.hub, hub.listen.tasks ++ []⟩, marks.tail, false⟩ := rfl

/-- The listener takes a foreign event as if there was none. -/
private theorem Fits.skips_listen {hub : Hub} {marks : List Bool}
    (hw : Fits ⟨⟨hub, []⟩, true :: marks, false⟩)
    (hf : ∀ event ∈ hub.inbox.head?, hub.IsForeign event) (mark : Bool) :
    Skips ⟨⟨hub, []⟩, true :: marks, false⟩ (.listen, mark) := by
  have hlength : marks.length + 1 = hub.inbox.length := hw.length
  have hc : Machine.Coherent ⟨hub.listen.hub, hub.listen.tasks ++ []⟩ := hw.coherent.step .listen
  rcases hw.coherent.gated.listen_eq with ⟨hi, he⟩ | ⟨event, inbox, rs, hi, hs, he⟩
  · rw [show hub.inbox = [] from hi] at hlength
    cases hlength
  · dsimp only at hi he
    have hforeign : hub.IsForeign event := hf event (by rw [hi]; rfl)
    rw [Hub.settledBy, hforeign.replyTo?_eq, hforeign.tellings_eq] at he
    rw [he] at hc
    constructor
    · rw [step_listen, he]
      rw [hi] at hlength
      exact ⟨hc, Nat.succ.inj hlength, nofun⟩
    · rw [step_listen, he]
      simp [erase, hi, Hub.withInbox]
    · change hub.listen.outputs.all _
      rw [he]
      simp [Hub.remarks, Output.isHeard]

/-- The listener takes an event that is not marked as if there were no others. -/
private theorem Fits.follows_listen {hub : Hub} {marks : List Bool}
    (hw : Fits ⟨⟨hub, []⟩, marks, false⟩)
    (hm : marks.headD false = false) (mark : Bool) :
    Follows ⟨⟨hub, []⟩, marks, false⟩ (.listen, mark) := by
  have hlength : marks.length = hub.inbox.length := hw.length
  have hc : Machine.Coherent ⟨hub.listen.hub, hub.listen.tasks ++ []⟩ := hw.coherent.step .listen
  rcases hw.coherent.gated.listen_eq with ⟨hi, he⟩ | ⟨event, inbox, rs, hi, hs, he⟩
  · dsimp only at hi he
    rw [hi] at hlength
    obtain rfl := List.eq_nil_of_length_eq_zero hlength
    constructor
    · rw [step_listen, he]
      exact ⟨hw.coherent, hw.length, nofun⟩
    · rw [step_listen]
      change _ = (_, hub.listen.outputs)
      rw [he]
      rfl
  · dsimp only at hi hs he
    rw [hi] at hlength
    cases marks with
    | nil => cases hlength
    | cons first marks =>
      obtain rfl : first = false := hm
      have hinbox : hub.listen.hub.inbox = inbox := by rw [he]
      constructor
      · rw [step_listen]
        exact ⟨hc, by rw [hinbox]; exact Nat.succ.inj hlength, nofun⟩
      · have hlisten := hub.listen_withInbox_cons (unmarked marks inbox) hs event inbox
        rw [← hi, show hub.withInbox hub.inbox = hub from rfl] at hlisten
        rw [step_listen]
        change Machine.take (hub.withInbox (unmarked (false :: marks) hub.inbox)).listen [] = _
        rw [hi, unmarked_cons_false, hlisten, erase]
        dsimp only [List.tail_cons]
        rw [hinbox]
        rfl

section
variable {w : Marked}

private theorem Fits.follows_plain (hw : w.Fits) (ha : w.answering = false) {move : Move}
    (hm : move.isMail = false) (mark : Bool) : w.Follows (move, mark) := by
  have hw' : w.step (move, mark) = { w with machine := (w.machine.step move).1 } := by
    unfold step
    split
    · rename_i heq
      cases heq
      cases hm
    · rename_i heq
      cases heq
      cases hm
    · rw [ha]
    · rfl
  have hinbox := w.machine.inbox_step hm
  constructor
  · rw [hw']
    refine ⟨hw.coherent.step move, hw.length.trans (congrArg _ hinbox.symm), ?_⟩
    rw [ha]
    exact nofun
  · rw [hw', erase_eq ha, erase_eq (w := { w with machine := (w.machine.step move).1 }) ha, hinbox]
    exact w.machine.step_withInbox hm _

/-- A move that is not possible is not possible either without the marked events. -/
private theorem Fits.follows_nothing (hw : w.Fits) {move : Move} {mark : Bool}
    (hstep : w.machine.step move = (w.machine, [])) (herase : w.erase.step move = (w.erase, []))
    (hw' : w.step (move, mark) = { w with machine := (w.machine.step move).1 }) :
    w.Follows (move, mark) := by
  rw [hstep] at hw'
  constructor
  · rw [hw']
    exact hw
  · rw [hw', hstep]
    exact herase

private theorem Fits.simulates_listen (hw : w.Fits) (ha : w.answering = false)
    (hidle : w.machine.agenda = []) (mark : Bool)
    (hf : ∀ event ∈ w.taken? (.listen, mark), w.machine.hub.IsForeign event) :
    if w.isDropped (.listen, mark) then w.Skips (.listen, mark) else w.Follows (.listen, mark) := by
  obtain ⟨⟨hub, agenda⟩, marks, answering⟩ := w
  obtain rfl : agenda = [] := hidle
  obtain rfl : answering = false := ha
  have hdropped : isDropped ⟨⟨hub, []⟩, marks, false⟩ (.listen, mark) = marks.headD false :=
    Bool.and_true _
  rw [hdropped]
  cases marks with
  | nil => exact hw.follows_listen rfl mark
  | cons first marks =>
    cases first with
    | true => exact hw.skips_listen hf mark
    | false => exact hw.follows_listen rfl mark

/-- Each step for a marked event is skipped, and the others are followed. -/
private theorem Fits.simulates (hw : w.Fits) (s : Move × Bool)
    (hf : ∀ event ∈ w.taken? s, w.machine.hub.IsForeign event) :
    if w.isDropped s then w.Skips s else w.Follows s := by
  by_cases ha : w.answering
  · rw [isDropped, ha]
    exact hw.skips_answering ha s
  · have ha := Bool.eq_false_iff.mpr ha
    obtain ⟨move, mark⟩ := s
    by_cases hm : move.isMail
    · cases move with
      | call op =>
        cases op with
        | dispatch event =>
          by_cases hopen : w.machine.isOpen
          · cases mark with
            | true =>
              rw [if_pos (by simp [isDropped, hopen])]
              exact hw.skips_dispatch ha hopen event
            | false =>
              rw [if_neg (by simp [isDropped, ha])]
              exact hw.follows_dispatch ha hopen event
          · rw [if_neg (by simp [isDropped, ha, hopen])]
            refine hw.follows_nothing (if_neg hopen) ?_ (if_neg hopen)
            rw [erase_eq ha]
            exact if_neg hopen
        | _ => cases hm
      | listen =>
        by_cases hidle : w.machine.isIdle
        · exact hw.simulates_listen ha (Machine.isIdle_iff.mp hidle) mark hf
        · rw [if_neg (by simp [isDropped, ha, hidle])]
          refine hw.follows_nothing (if_neg hidle) ?_ (if_neg hidle)
          rw [erase_eq ha]
          exact if_neg hidle
      | _ => cases hm
    · have hm := Bool.eq_false_iff.mpr hm
      have hkept : w.isDropped (move, mark) = false := by
        unfold isDropped
        rw [ha, Bool.false_or]
        split
        · rename_i heq
          cases heq
          cases hm
        · rename_i heq
          cases heq
          cases hm
        · rfl
      rw [hkept]
      exact hw.follows_plain ha hm mark

private theorem machine_step (w : Marked) (s : Move × Bool) :
    (w.step s).machine = (w.machine.step s.1).1 := by
  unfold step
  split
  · split <;> rfl
  · split <;> rfl
  · rfl
  · rfl

private theorem machine_run (w : Marked) (moves : List (Move × Bool)) :
    (w.run moves).machine = (w.machine.run (moves.map (·.1))).1 := by
  induction moves generalizing w with
  | nil => rfl
  | cons s moves ih =>
    rw [List.map_cons, Machine.run_cons, ← machine_step]
    exact ih (w.step s)

/-- Without the marked events a run comes to the same, and what is heard of it is the same. -/
theorem Fits.run (hw : w.Fits) (moves : List (Move × Bool))
    (hf : ∀ s ∈ w.trace moves, ∀ event ∈ s.1.taken? s.2, s.1.machine.hub.IsForeign event) :
    w.erase.run ((w.kept moves).map (·.2.1)) =
        ((w.run moves).erase, (w.kept moves).flatMap fun s => (s.1.machine.step s.2.1).2) ∧
      ((w.kept moves).flatMap fun s => (s.1.machine.step s.2.1).2).filter Output.isHeard =
        (w.machine.run (moves.map (·.1))).2.filter Output.isHeard := by
  induction moves generalizing w with
  | nil => exact ⟨rfl, rfl⟩
  | cons s moves ih =>
    have hsim := hw.simulates s (hf (w, s) List.mem_cons_self)
    have hlater : ∀ t ∈ (w.step s).trace moves, ∀ event ∈ t.1.taken? t.2,
        t.1.machine.hub.IsForeign event := fun t ht => hf t (List.mem_cons_of_mem _ ht)
    have hheard : (w.machine.run ((s :: moves).map (·.1))).2.filter Output.isHeard =
        (w.machine.step s.1).2.filter Output.isHeard ++
          ((w.step s).machine.run (moves.map (·.1))).2.filter Output.isHeard := by
      rw [List.map_cons, Machine.run_cons, List.filter_append, machine_step]
    rw [hheard]
    cases hd : w.isDropped s with
    | true =>
      have hkept : w.kept (s :: moves) = (w.step s).kept moves := by simp [kept, trace, hd]
      rw [hd, if_pos rfl] at hsim
      obtain ⟨hrun, hsame⟩ := ih hsim.fits hlater
      have hunheard : (w.machine.step s.1).2.filter Output.isHeard = [] := by
        simpa using hsim.unheard
      rw [hkept, ← hsim.erase, hunheard]
      exact ⟨hrun, hsame⟩
    | false =>
      have hkept : w.kept (s :: moves) = (w, s) :: (w.step s).kept moves := by
        simp [kept, trace, hd]
      rw [hd, if_neg nofun] at hsim
      obtain ⟨hrun, hsame⟩ := ih hsim.fits hlater
      rw [hkept, List.map_cons, Machine.run_cons, hsim.step, hrun, List.flatMap_cons,
        List.filter_append, hsame]
      exact ⟨rfl, rfl⟩

end

end Marked

/-- Dispatches of foreign events may be left out of a run: the hub is the same at the end, but for
those that are still queued, the same tasks are left to do, and what is seen of the run is what is
seen of the steps that are kept. -/
theorem foreign_events_are_invisible (options : Options) (own : Bool) (h : Hub)
    (hb : Hub.build options own = .ok h) (moves : List (Move × Bool))
    (hf : ∀ s ∈ Marked.trace { machine := ⟨h, []⟩ } moves, ∀ event ∈ s.1.taken? s.2,
      s.1.machine.hub.IsForeign event) :
    let last := Marked.run { machine := ⟨h, []⟩ } moves
    let kept := Marked.kept { machine := ⟨h, []⟩ } moves
    let first := Machine.run ⟨h, []⟩ (moves.map (·.1))
    let second := Machine.run ⟨h, []⟩ (kept.map (·.2.1))
    second.1.hub = { first.1.hub with inbox := unmarked last.marks first.1.hub.inbox } ∧
    second.1.agenda = (if last.answering then first.1.agenda.tail else first.1.agenda) ∧
    second.2 = kept.flatMap (fun s => (s.1.machine.step s.2.1).2) ∧
    second.2.filter Output.isHeard = first.2.filter Output.isHeard := by
  intro last kept first second
  have hempty : h.inbox = [] := by rw [(Hub.build_ok hb).1]; rfl
  have hw : Marked.Fits { machine := ⟨h, []⟩ } :=
    ⟨Machine.coherent_new hb, by rw [hempty]; rfl, nofun⟩
  obtain ⟨hrun, hheard⟩ := hw.run moves hf
  have herase : Marked.erase { machine := ⟨h, []⟩ } = ⟨h, []⟩ := by
    simp [Marked.erase, ← hempty, Hub.withInbox]
  have hlast : last.machine = first.1 := Marked.machine_run _ moves
  rw [herase] at hrun
  have hsecond : second = (last.erase, kept.flatMap fun s => (s.1.machine.step s.2.1).2) := hrun
  rw [hsecond]
  refine ⟨?_, ?_, rfl, hheard⟩
  · rw [← hlast]
    rfl
  · rw [← hlast]
    rfl

/-- Two events that would reply to a request, one from elsewhere and one from no preview, and the
reply behind them. -/
theorem foreign_events_are_invisible_to_request :
    let data : String := "\x7b\"messageId\":1\x7d"
    let elsewhere : Move := .call (.dispatch ⟨"https://b", some ⟨"game"⟩, data⟩)
    let stray : Move := .call (.dispatch ⟨"https://a", none, data⟩)
    let reply : Move := .call (.dispatch ⟨"https://a", some ⟨"game"⟩, data⟩)
    let setUp : List Move :=
      [.call (.start "https://a" true), .proceed, .proceed, .call (.registerFrame ⟨"game"⟩),
        .proceed, .proceed, .call (.request {} none true), .proceed, .reply .done, .proceed,
        .proceed]
    let moves : List (Move × Bool) := setUp.map (·, false) ++
      [(elsewhere, true), (.proceed, false), (stray, true), (.proceed, false), (reply, false),
        (.proceed, false), (.listen, false), (.listen, false), (.listen, false), (.proceed, false),
        (.wake 1, false)]
    let start : Machine := ⟨Hub.new {} (.external false), []⟩
    let outcome : Outcome := .reply (.obj [("messageId", .num (.int 1))])
    let later := (Marked.kept { machine := start } moves).map (·.2.1)
    later = setUp ++ [reply, .proceed, .listen, .proceed, .wake 1] ∧
      .finished 1 outcome ∈ (start.run (moves.map (·.1))).2 ∧
      .finished 1 outcome ∈ (start.run later).2 := by
  intro data elsewhere stray reply setUp moves start outcome later
  have hf : ∀ s ∈ Marked.trace { machine := start } moves, ∀ event ∈ s.1.taken? s.2,
      s.1.machine.hub.IsForeign event := by
    decide +kernel
  have hlater : later = setUp ++ [reply, .proceed, .listen, .proceed, .wake 1] := by decide +kernel
  have hfinished : .finished 1 outcome ∈ (start.run (moves.map (·.1))).2 := by decide +kernel
  refine ⟨hlater, hfinished, ?_⟩
  have hheard : .finished 1 outcome ∈ (start.run (moves.map (·.1))).2.filter Output.isHeard :=
    List.mem_filter.mpr ⟨hfinished, rfl⟩
  clear_value outcome moves
  have hsame := foreign_events_are_invisible {} true (Hub.new {} (.external false)) rfl moves hf
  rw [← hsame.2.2.2] at hheard
  exact (List.mem_filter.mp hheard).1

end PreviewHub
