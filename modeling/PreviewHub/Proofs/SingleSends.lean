import PreviewHub.Proofs.FanOut
import PreviewHub.Proofs.RegistryLookup
import PreviewHub.Proofs.Teardown

/-! A broadcast and single sends. Those outside have a state of their own, which each call may
change; if they do not call back, what they answer decides what happens. Then a broadcast cannot be
told, but for its answer, from sending the message to one preview after the other, in the order of
their list. -/

namespace PreviewHub

/-- Those outside, if they do not call back: how they let a call return, by the state they are in,
and the state they are in then. -/
abbrev Surroundings (σ : Type) := σ → Call → Reply × σ

def Output.isAnswer : Output → Bool
  | .answered _ => true
  | _ => false

def dealings (outputs : List Output) : List Output :=
  (seen outputs).filter fun output => !output.isAnswer

def answers (outputs : List Output) : List Output := (seen outputs).filter Output.isAnswer

def Output.post? : Output → Option Call
  | .called (.post id handle data origin) => some (.post id handle data origin)
  | _ => none

def postsMade (outputs : List Output) : List Call := (seen outputs).filterMap Output.post?

private theorem dealings_append (first second : List Output) :
    dealings (first ++ second) = dealings first ++ dealings second := by
  rw [dealings, seen_append, List.filter_append]
  rfl

private theorem answers_append (first second : List Output) :
    answers (first ++ second) = answers first ++ answers second := by
  rw [answers, seen_append, List.filter_append]
  rfl

namespace Machine

section
variable {σ : Type} {env : Surroundings σ}

def next (env : Surroundings σ) (m : Machine) (s : σ) : (Machine × List Output) × σ :=
  match m.call? with
  | some call => (m.step (.reply (env s call).1), (env s call).2)
  | none => (m.step .proceed, s)

inductive CarriesOut (env : Surroundings σ) (rest : List Task) :
    Machine → σ → List Output → Machine → σ → Prop where
  | done {m : Machine} {s : σ} (h : m.agenda.length ≤ rest.length) :
      CarriesOut env rest m s [] m s
  | goes {m last : Machine} {s s' : σ} {shown : List Output} (h : rest.length < m.agenda.length)
      (later : CarriesOut env rest (next env m s).1.1 (next env m s).2 shown last s') :
      CarriesOut env rest m s ((next env m s).1.2 ++ shown) last s'

inductive Performs (env : Surroundings σ) :
    Machine → σ → List Op → List Output → Machine → σ → Prop where
  | nil {m : Machine} {s : σ} : Performs env m s [] [] m s
  | cons {m m' last : Machine} {s s' s'' : σ} {op : Op} {ops : List Op}
      {shown later : List Output} (hopen : m.isOpen)
      (first : CarriesOut env m.agenda (m.step (.call op)).1 s shown m' s')
      (rest : Performs env m' s' ops later last s'') :
      Performs env m s (op :: ops) ((m.step (.call op)).2 ++ shown ++ later) last s''

private theorem CarriesOut.unique {rest : List Task} {m last last' : Machine} {s t t' : σ}
    {shown shown' : List Output} (h : CarriesOut env rest m s shown last t)
    (h' : CarriesOut env rest m s shown' last' t') : shown = shown' ∧ last = last' ∧ t = t' := by
  induction h generalizing shown' with
  | done hl =>
    cases h' with
    | done hl' => exact ⟨rfl, rfl, rfl⟩
    | goes hl' later => exact absurd hl (Nat.not_le.mpr hl')
  | goes hl later ih =>
    cases h' with
    | done hl' => exact absurd hl' (Nat.not_le.mpr hl)
    | goes hl' later' =>
      obtain ⟨hshown, hlast, ht⟩ := ih later'
      exact ⟨congrArg _ hshown, hlast, ht⟩

private theorem Performs.unique {m last last' : Machine} {s t t' : σ} {ops : List Op}
    {shown shown' : List Output} (h : Performs env m s ops shown last t)
    (h' : Performs env m s ops shown' last' t') : shown = shown' ∧ last = last' ∧ t = t' := by
  induction h generalizing shown' with
  | nil =>
    cases h' with
    | nil => exact ⟨rfl, rfl, rfl⟩
  | cons hopen first rest ih =>
    cases h' with
    | cons hopen' first' rest' =>
      obtain ⟨rfl, rfl, rfl⟩ := first.unique first'
      obtain ⟨hlater, hlast, ht⟩ := ih rest'
      exact ⟨congrArg _ hlater, hlast, ht⟩

def Results (env : Surroundings σ) (m : Machine) (s : σ) (ops : List Op) (shown : List Output)
    (last : Machine) (s' : σ) : Prop :=
  ∀ shown' last' t, Performs env m s ops shown' last' t ↔ shown' = shown ∧ last' = last ∧ t = s'

private theorem Performs.results {m last : Machine} {s s' : σ} {ops : List Op} {shown : List Output}
    (h : Performs env m s ops shown last s') : Results env m s ops shown last s' := by
  intro shown' last' t
  constructor
  · exact fun h' => h'.unique h
  · rintro ⟨rfl, rfl, rfl⟩
    exact h

private theorem CarriesOut.goes_of {rest : List Task} {m m' last : Machine} {s s' t : σ}
    {outs shown : List Output} (hl : rest.length < m.agenda.length)
    (hn : next env m s = ((m', outs), s')) (later : CarriesOut env rest m' s' shown last t) :
    CarriesOut env rest m s (outs ++ shown) last t := by
  have h : CarriesOut env rest m s ((next env m s).1.2 ++ shown) last t := by
    apply CarriesOut.goes hl
    rwa [hn]
  rwa [hn] at h

private theorem next_task {m : Machine} {s : σ} {t : Task} {rest : List Task}
    (hm : m.agenda = t :: rest)
    (hw : t.isWaiting = false) : next env m s = (take (m.hub.perform t) rest, s) := by
  cases t with
  | waiting call => cases hw
  | _ => simp only [next, call?, hm, (Works.proceed _ rest hm).step_eq]

private theorem next_waiting {m : Machine} {s : σ} {call : Call} {rest : List Task}
    (hm : m.agenda = .waiting call :: rest) :
    next env m s = (take (m.hub.resume call (env s call).1) rest, (env s call).2) := by
  simp only [next, call?, hm, (Works.reply call _ rest hm).step_eq]

end

end Machine

namespace Hub

section
variable {σ : Type} {env : Surroundings σ} {h : Hub} {s s' s'' : σ}

/-- A hub that is to do the tasks shows `outputs` meanwhile and stays as it is, while those outside
come from one state to the other, whatever is to be done after the tasks. -/
def Serves (env : Surroundings σ) (h : Hub) (s : σ) (tasks : List Task) (outputs : List Output)
    (s' : σ) : Prop :=
  ∀ (rest below : List Task) (later : List Output) (last : Machine) (t : σ),
    below.length ≤ rest.length → Machine.CarriesOut env below ⟨h, rest⟩ s' later last t →
      ∃ shown, seen shown = outputs ∧
        Machine.CarriesOut env below ⟨h, tasks ++ rest⟩ s (shown ++ later) last t

private theorem serves_nil : Serves env h s [] [] s := fun _ _ _ _ _ _ hc => ⟨[], rfl, hc⟩

private theorem Serves.append {first second : List Task} {outputs later : List Output}
    (hf : Serves env h s first outputs s') (hs : Serves env h s' second later s'') :
    Serves env h s (first ++ second) (outputs ++ later) s'' := by
  intro rest below more last t hl hc
  obtain ⟨shown', hseen', hc'⟩ := hs rest below more last t hl hc
  have hl' : below.length ≤ (second ++ rest).length := by
    rw [List.length_append]
    exact Nat.le_add_left_of_le hl
  obtain ⟨shown, hseen, hc⟩ := hf _ below _ last t hl' hc'
  refine ⟨shown ++ shown', by rw [seen_append, hseen, hseen'], ?_⟩
  rwa [List.append_assoc, List.append_assoc]

/-- A task does what the tasks do that it leads to. -/
private theorem Serves.perform {task : Task} {tasks : List Task} {outs later outputs : List Output}
    (he : h.perform task = ⟨h, tasks, outs⟩) (hw : task.isWaiting = false)
    (hd : Serves env h s tasks later s') (ho : seen outs ++ later = outputs) :
    Serves env h s [task] outputs s' := by
  intro rest below more last t hl hc
  obtain ⟨shown, hseen, hc⟩ := hd rest below more last t hl hc
  have hn : Machine.next env ⟨h, [task] ++ rest⟩ s = ((⟨h, tasks ++ rest⟩, outs), s) := by
    rw [Machine.next_task rfl hw, he]
    rfl
  refine ⟨outs ++ shown, by rw [seen_append, hseen, ho], ?_⟩
  rw [List.append_assoc]
  exact .goes_of (Nat.lt_succ_of_le hl) hn hc

/-- A call that returns does what the tasks do that it leads to. -/
private theorem Serves.resume {call : Call} {tasks : List Task} {outs later outputs : List Output}
    (he : h.resume call (env s call).1 = ⟨h, tasks, outs⟩)
    (hd : Serves env h (env s call).2 tasks later s') (ho : seen outs ++ later = outputs) :
    Serves env h s [.waiting call] outputs s' := by
  intro rest below more last t hl hc
  obtain ⟨shown, hseen, hc⟩ := hd rest below more last t hl hc
  have hn : Machine.next env ⟨h, [.waiting call] ++ rest⟩ s =
      ((⟨h, tasks ++ rest⟩, outs), (env s call).2) := by
    rw [Machine.next_waiting rfl, he]
    rfl
  refine ⟨outs ++ shown, by rw [seen_append, hseen, ho], ?_⟩
  rw [List.append_assoc]
  exact .goes_of (Nat.lt_succ_of_le hl) hn hc

private theorem serves_answer (answer : Answer) :
    Serves env h s [.answer answer] [.answered answer] s :=
  Serves.perform rfl rfl serves_nil rfl

end

end Hub

/-! What those outside hear and answer, one call after the other. -/

section
variable {σ : Type} (env : Surroundings σ)

def hear (b : Bus) (s : σ) (notice : Notice) : σ :=
  b.subscriptions.foldl (fun s subscription => (env s (.notify subscription notice)).2) s

def exchange (b : Bus) (data : String) (origin : Origin) (s : σ) (endpoint : Endpoint) :
    List Output × σ :=
  let call : Call := .post endpoint.1 endpoint.2 data origin
  let s' := (env s call).2
  match (env s call).1 with
  | .failed error =>
    let notice : Notice := .errored endpoint.1 error.message
    (.called call :: b.announcement notice, hear env b s' notice)
  | _ => ([.called call], s')

def exchanges (b : Bus) (data : String) (origin : Origin) : σ → List Endpoint → List Output × σ
  | s, [] => ([], s)
  | s, endpoint :: endpoints =>
    let first := exchange env b data origin s endpoint
    let later := exchanges b data origin first.2 endpoints
    (first.1 ++ later.1, later.2)

/-- A post fails and that is told, or it does not fail and that is all. -/
private theorem exchange_cases (b : Bus) (data : String) (origin : Origin) (s : σ)
    (endpoint : Endpoint) :
    let call : Call := .post endpoint.1 endpoint.2 data origin
    (∃ error, (env s call).1 = .failed error ∧
      exchange env b data origin s endpoint =
        (.called call :: b.announcement (.errored endpoint.1 error.message),
          hear env b (env s call).2 (.errored endpoint.1 error.message))) ∨
      (∀ error, (env s call).1 ≠ .failed error) ∧
        exchange env b data origin s endpoint = ([.called call], (env s call).2) := by
  intro call
  unfold exchange
  cases hr : (env s call).1 with
  | failed error =>
    left
    refine ⟨error, rfl, ?_⟩
    simp only [call] at hr
    simp only [hr, call]
  | _ =>
    right
    refine ⟨by rintro _ ⟨⟩, ?_⟩
    simp only [call] at hr
    simp only [hr, call]

end

namespace Hub

section
variable {σ : Type} {env : Surroundings σ} {h : Hub} {s : σ} {data : String} {origin : Origin}

private theorem serves_deliver (subscription : Subscription) (notice : Notice) :
    Serves env h s [.deliver subscription notice] [.called (.notify subscription notice)]
      (env s (.notify subscription notice)).2 := by
  obtain ⟨rs, he⟩ := h.resume_indifferent (.notify subscription notice) rfl
    (env s (.notify subscription notice)).1
  exact Serves.perform rfl rfl (Serves.resume he serves_nil (by rw [seen_remarks]; rfl)) rfl

private theorem serves_emit (notice : Notice) :
    Serves env h s [.emit notice] (h.bus.announcement notice) (hear env h.bus s notice) := by
  have hdeliveries (subscriptions : List Subscription) (s : σ) :
      Serves env h s (subscriptions.map fun x => .deliver x notice)
        (subscriptions.map fun x => .called (.notify x notice))
        (subscriptions.foldl (fun s x => (env s (.notify x notice)).2) s) := by
    induction subscriptions generalizing s with
    | nil => exact serves_nil
    | cons x subscriptions ih => exact (serves_deliver x notice).append (ih _)
  exact Serves.perform rfl rfl (hdeliveries h.bus.subscriptions s) rfl

/-- A post that is made does what an exchange says. -/
private theorem serves_post (ho : h.channel.origin = some origin) (endpoint : Endpoint) :
    Serves env h s [.post endpoint.1 endpoint.2 data]
      (exchange env h.bus data origin s endpoint).1
      (exchange env h.bus data origin s endpoint).2 := by
  let call : Call := .post endpoint.1 endpoint.2 data origin
  have hperform : h.perform (.post endpoint.1 endpoint.2 data) =
      ⟨h, [.waiting call], [.called call]⟩ := by
    simp only [Hub.perform, Channel.target, ho]
    rfl
  rcases exchange_cases env h.bus data origin s endpoint with ⟨error, hr, hx⟩ | ⟨hr, hx⟩
  · have he : h.resume call (env s call).1 =
        ⟨h, [.emit (.errored endpoint.1 error.message)],
          [.remark (.postFailed endpoint.1 error.message)]⟩ := by
      rw [hr]
      rfl
    rw [hx]
    exact Serves.perform hperform rfl (Serves.resume he (serves_emit _) rfl) rfl
  · have he : h.resume call (env s call).1 =
        ⟨h, [], [.remark (.posted origin.text data.utf8ByteSize)]⟩ := by
      generalize (env s call).1 = reply at hr
      cases reply with
      | failed error => exact absurd rfl (hr error)
      | _ => rfl
    rw [hx]
    exact Serves.perform hperform rfl (Serves.resume he serves_nil rfl) rfl

private theorem serves_posts (ho : h.channel.origin = some origin) (endpoints : List Endpoint) :
    Serves env h s (posts data endpoints) (exchanges env h.bus data origin s endpoints).1
      (exchanges env h.bus data origin s endpoints).2 := by
  induction endpoints generalizing s with
  | nil => exact serves_nil
  | cons endpoint endpoints ih => exact (serves_post ho endpoint).append ih

end

end Hub

section
variable {σ : Type} (env : Surroundings σ) (b : Bus) (data : String) (origin : Origin)

/-- To post is not to answer. -/
private theorem exchange_unanswered (s : σ) (endpoint : Endpoint) :
    ∀ o ∈ (exchange env b data origin s endpoint).1, o.isAnswer = false := by
  rcases exchange_cases env b data origin s endpoint with ⟨error, -, hx⟩ | ⟨-, hx⟩
  · rw [hx]
    simp [Bus.announcement, Output.isAnswer]
  · rw [hx]
    exact List.forall_mem_singleton.mpr rfl

private theorem exchanges_unanswered (s : σ) (endpoints : List Endpoint) :
    ∀ o ∈ (exchanges env b data origin s endpoints).1, o.isAnswer = false := by
  induction endpoints generalizing s with
  | nil => exact List.forall_mem_nil _
  | cons endpoint endpoints ih =>
    exact List.forall_mem_append.mpr ⟨exchange_unanswered env b data origin s endpoint, ih _⟩

/-- A preview is posted to once. -/
theorem exchange_posts (s : σ) (endpoint : Endpoint) :
    (exchange env b data origin s endpoint).1.filterMap Output.post? =
      [.post endpoint.1 endpoint.2 data origin] := by
  rcases exchange_cases env b data origin s endpoint with ⟨error, -, hx⟩ | ⟨-, hx⟩
  · have hannounced (notice : Notice) : (b.announcement notice).filterMap Output.post? = [] := by
      simp [Bus.announcement, Output.post?]
    rw [hx, List.filterMap_cons, Output.post?, hannounced]
  · rw [hx]
    rfl

end

/-- Where all is told but an answer, the answer is the last. -/
theorem dealings_answered {shown outputs : List Output} {answer : Answer}
    (h : seen shown = outputs ++ [.answered answer]) (hu : ∀ o ∈ outputs, o.isAnswer = false) :
    dealings shown = outputs ∧ answers shown = [.answered answer] := by
  rw [dealings, answers, h, List.filter_append, List.filter_append]
  constructor
  · rw [List.filter_eq_self.mpr fun o ho => by rw [hu o ho]; rfl]
    exact List.append_nil _
  · rw [List.filter_eq_nil_iff.mpr fun o ho => Bool.eq_false_iff.mp (hu o ho)]
    rfl

namespace Machine

section
variable {σ : Type} {env : Surroundings σ} {m : Machine} {s s' : σ}

private theorem Performs.append {m' last : Machine} {s'' : σ} {first second : List Op}
    {shown later : List Output} (hf : Performs env m s first shown m' s')
    (hs : Performs env m' s' second later last s'') :
    Performs env m s (first ++ second) (shown ++ later) last s'' := by
  induction hf with
  | nil => exact hs
  | cons hopen first rest ih =>
    rw [List.append_assoc _ _ later]
    exact .cons hopen first (ih hs)

/-- An operation that leaves the hub as it is ends where it began. -/
private theorem performs_op (hopen : m.isOpen) {op : Op} {tasks : List Task}
    {outs outputs : List Output}
    (hbegin : m.hub.begin op = ⟨m.hub, tasks, outs⟩)
    (hs : Hub.Serves env m.hub s tasks outputs s') :
    ∃ shown, seen shown = outputs ∧ Performs env m s [op] shown m s' := by
  have hstep : m.step (.call op) = (⟨m.hub, tasks ++ m.agenda⟩, outs) := by
    rw [(Works.call op hopen).step_eq, hbegin, take]
  have hsilent : seen (m.step (.call op)).2 = [] := by
    have hseen := (m.hub.begin_begins op).silent
    rw [hbegin] at hseen
    rw [hstep, hseen]
  obtain ⟨shown, hseen, hc⟩ := hs m.agenda m.agenda [] m s' (Nat.le_refl _) (.done (Nat.le_refl _))
  have hfirst : CarriesOut env m.agenda (m.step (.call op)).1 s (shown ++ []) m s' := by
    rw [hstep]
    exact hc
  refine ⟨(m.step (.call op)).2 ++ (shown ++ []) ++ [], ?_, .cons hopen hfirst .nil⟩
  rw [List.append_nil, List.append_nil, seen_append, hsilent, hseen, List.nil_append]

end

section
variable {σ : Type} (env : Surroundings σ) {m : Machine} (s : σ) {origin : Origin}

private theorem performs_broadcast (hm : Directed origin m) (hopen : m.isOpen) (message : Message) :
    let endpoints := m.hub.registry.endpoints
    ∃ shown, Performs env m s [.broadcast message] shown m
        (exchanges env m.hub.bus message.encode origin s endpoints).2 ∧
      seen shown = (exchanges env m.hub.bus message.encode origin s endpoints).1 ++
        [.answered (.count endpoints.length)] := by
  intro endpoints
  have hbegin : m.hub.begin (.broadcast message) =
      ⟨m.hub, posts message.encode endpoints ++ [.answer (.count endpoints.length)], []⟩ :=
    if_pos hm.started
  obtain ⟨shown, hseen, hperforms⟩ := performs_op hopen hbegin
    ((Hub.serves_posts hm.origin endpoints).append (Hub.serves_answer _))
  exact ⟨shown, hperforms, hseen⟩

private theorem performs_send (hm : Directed origin m) (hr : m.hub.registry.Sound)
    (hopen : m.isOpen)
    (message : Message) {endpoint : Endpoint} (he : endpoint ∈ m.hub.registry.endpoints) :
    ∃ shown, Performs env m s [.send endpoint.1 message] shown m
        (exchange env m.hub.bus message.encode origin s endpoint).2 ∧
      seen shown = (exchange env m.hub.bus message.encode origin s endpoint).1 ++
        [.answered .done] := by
  have hhandle : m.hub.registry.handle? endpoint.1 = some endpoint.2 :=
    hr.handle?_eq_some_iff.mpr he
  have hbegin : m.hub.begin (.send endpoint.1 message) =
      ⟨m.hub, [.post endpoint.1 endpoint.2 message.encode] ++ [.answer .done], []⟩ := by
    simp only [Hub.begin, Hub.send, if_pos hm.started, hhandle]
    rfl
  obtain ⟨shown, hseen, hperforms⟩ := performs_op hopen hbegin
    ((Hub.serves_post hm.origin endpoint).append (Hub.serves_answer _))
  exact ⟨shown, hperforms, hseen⟩

/-- The sends follow one another, and each finds the hub as the first one found it. -/
theorem performs_sends (hm : Directed origin m) (hr : m.hub.registry.Sound) (hopen : m.isOpen)
    (message : Message) {endpoints : List Endpoint}
    (he : ∀ endpoint ∈ endpoints, endpoint ∈ m.hub.registry.endpoints) :
    ∃ shown, Performs env m s (endpoints.map fun endpoint => .send endpoint.1 message) shown m
        (exchanges env m.hub.bus message.encode origin s endpoints).2 ∧
      dealings shown = (exchanges env m.hub.bus message.encode origin s endpoints).1 ∧
      answers shown = endpoints.map fun _ => .answered .done := by
  induction endpoints generalizing s with
  | nil => exact ⟨[], .nil, rfl, rfl⟩
  | cons endpoint endpoints ih =>
    obtain ⟨hfirst, hrest⟩ := List.forall_mem_cons.mp he
    obtain ⟨shown, hperforms, hseen⟩ := performs_send env s hm hr hopen message hfirst
    obtain ⟨hdealings, hanswers⟩ :=
      dealings_answered hseen (exchange_unanswered env m.hub.bus message.encode origin s endpoint)
    obtain ⟨later, hperforms', hdealings', hanswers'⟩ := ih _ hrest
    refine ⟨shown ++ later, hperforms.append hperforms', ?_, ?_⟩
    · rw [dealings_append, hdealings, hdealings']
      rfl
    · rw [answers_append, hanswers, hanswers']
      rfl

/-- To send to a preview that is not connected is to do nothing. -/
theorem performs_send_unknown (hm : Directed origin m) (hr : m.hub.registry.Sound)
    (hopen : m.isOpen) (message : Message) {id : PreviewId} (hid : id ∉ m.hub.registry.list) :
    ∃ shown, Performs env m s [.send id message] shown m s ∧ seen shown = [.answered .done] := by
  have hhandle : m.hub.registry.handle? id = none := by
    have hcontains := mt hr.contains_iff.mp hid
    rwa [Registry.contains, Bool.not_eq_true, Option.isSome_eq_false_iff,
      Option.isNone_iff_eq_none] at hcontains
  have hbegin : m.hub.begin (.send id message) =
      ⟨m.hub, [.answer .done], [.remark (.unknownPreview id)]⟩ := by
    simp only [Hub.begin, Hub.send, if_pos hm.started, hhandle]
  obtain ⟨shown, hseen, hperforms⟩ := performs_op hopen hbegin (Hub.serves_answer .done)
  exact ⟨shown, hperforms, hseen⟩

end

/-- In every state in which an operation can begin and the hub is started, and for all surroundings
that do not call back, whatever state they keep: a broadcast has one course, and so has the sequence
of sends to the previews of the list, in its order. Both show the same posts and emissions, in the
same order, and leave the hub as it was and the surroundings in the same state; they differ in the
answers only. Each of the sends posts once, to the preview it names. A send to any other id shows
nothing but that it is done. -/
theorem broadcast_agrees_with_sends (options : Options) (own : Bool) (h : Hub)
    (hb : Hub.build options own = .ok h) (turns : List Turn) {σ : Type} (env : Surroundings σ)
    (message : Message) :
    let m := Machine.after ⟨h, []⟩ turns
    let list := m.hub.registry.list
    m.isOpen → m.hub.started →
      (∀ s, ∃ shown sent s',
        Results env m s [.broadcast message] shown m s' ∧
        Results env m s (list.map fun id => .send id message) sent m s' ∧
        dealings shown = dealings sent ∧
        answers shown = [.answered (.count list.length)] ∧
        answers sent = list.map fun _ => .answered .done) ∧
      (∃ origin, m.hub.channel.origin = some origin ∧ ∀ s, ∀ id ∈ list, ∃ handle shown s',
        m.hub.registry.handle? id = some handle ∧
        Results env m s [.send id message] shown m s' ∧
        postsMade shown = [.post id handle message.encode origin]) ∧
      ∀ s, ∀ id ∉ list, ∃ shown, Results env m s [.send id message] shown m s ∧
        seen shown = [.answered .done] := by
  intro m list hopen hs
  obtain ⟨origin, hm⟩ := exists_directed hb turns hs
  have hr : m.hub.registry.Sound := (numbered_after (numbered_new hb) turns).1.registry
  have hlist : list = m.hub.registry.endpoints.map (·.1) := m.hub.registry.list_eq_map_endpoints
  refine ⟨fun s => ?_, ⟨origin, hm.origin, fun s id hid => ?_⟩, fun s id hid => ?_⟩
  · obtain ⟨shown, hbroadcast, hseen⟩ := performs_broadcast env s hm hopen message
    obtain ⟨sent, hsends, hdealings, hanswers⟩ :=
      performs_sends env s hm hr hopen message fun _ he => he
    obtain ⟨hsame, hcount⟩ := dealings_answered hseen (exchanges_unanswered env _ _ _ s _)
    refine ⟨shown, sent, _, hbroadcast.results, ?_, hsame.trans hdealings.symm, ?_, ?_⟩
    · rw [hlist, List.map_map]
      exact hsends.results
    · rw [hcount, hlist, List.length_map]
    · rw [hanswers, hlist, List.map_map]
      rfl
  · rw [hlist] at hid
    obtain ⟨endpoint, he, rfl⟩ := List.mem_map.mp hid
    obtain ⟨shown, hperforms, hseen⟩ := performs_send env s hm hr hopen message he
    refine ⟨endpoint.2, shown, _, hr.handle?_eq_some_iff.mpr he, hperforms.results, ?_⟩
    rw [postsMade, hseen, List.filterMap_append, exchange_posts]
    rfl
  · obtain ⟨shown, hperforms, hseen⟩ := performs_send_unknown env s hm hr hopen message hid
    exact ⟨shown, hperforms.results, hseen⟩

/-- A frame and two windows are connected, and the handles count together how often they are called.
Every other post fails, the first one included, and a subscriber hears of it. -/
theorem broadcast_agrees_with_sends_failing :
    let opening (handle : Handle) : List Move :=
      [.call (.registerWindow handle true), .proceed, .proceed, .reply .done, .proceed,
        .reply .done, .proceed]
    let before : List (List Move) :=
      [[.call (.start "https://a" true), .proceed, .proceed, .call (.subscribe 7), .proceed,
          .call (.registerFrame ⟨"game"⟩), .proceed, .proceed, .reply .done, .proceed],
        opening ⟨"menu"⟩, opening ⟨"shop"⟩]
    let m := Machine.after ⟨Hub.new {} (.external false), []⟩ (before.flatten.map .move)
    let env : Surroundings Nat := fun n call =>
      if call.isIndifferent then (.done, n)
      else (if n % 2 = 0 then .failed .notStarted else .done, n + 1)
    (∃ shown sent n, Results env m 0 [.broadcast {}] shown m n ∧
      Results env m 0 [.send .frame {}, .send (.window 0) {}, .send (.window 1) {}] sent m n ∧
      dealings shown = dealings sent ∧ answers shown = [.answered (.count 3)]) ∧
    (∃ shown n, Results env m 1 [.send (.window 1) {}] shown m n ∧
      postsMade shown = [.post (.window 1) ⟨"shop"⟩ "{}" ⟨"https://a"⟩]) ∧
    ∃ shown, Results env m 2 [.send (.window 2) {}] shown m 2 ∧ seen shown = [.answered .done] := by
  intro opening before m env
  have hm : m.isOpen ∧ m.hub.started ∧ m.hub.channel.origin = some ⟨"https://a"⟩ ∧
      m.hub.registry.handle? (.window 1) = some ⟨"shop"⟩ := by decide +kernel
  have hlist : m.hub.registry.list = [.frame, .window 0, .window 1] := by decide +kernel
  have hids : .window 1 ∈ m.hub.registry.list ∧ .window 2 ∉ m.hub.registry.list := by
    decide +kernel
  have hencode : Message.encode {} = "{}" := by decide +kernel
  clear_value before env
  obtain ⟨hall, ⟨origin, horigin, hone⟩, hnone⟩ := broadcast_agrees_with_sends {} true
    (Hub.new {} (.external false)) rfl (before.flatten.map .move) env {} hm.1 hm.2.1
  refine ⟨?_, ?_, hnone 2 _ hids.2⟩
  · obtain ⟨shown, sent, n, hshown, hsent, hsame, hcount, -⟩ := hall 0
    rw [hlist] at hsent hcount
    exact ⟨shown, sent, n, hshown, hsent, hsame, hcount⟩
  · obtain ⟨handle, shown, n, hhandle, hshown, hposts⟩ := hone 1 _ hids.1
    obtain rfl : handle = ⟨"shop"⟩ := Option.some.inj (hhandle.symm.trans hm.2.2.2)
    obtain rfl : origin = ⟨"https://a"⟩ := Option.some.inj (horigin.symm.trans hm.2.2.1)
    rw [hencode] at hposts
    exact ⟨shown, n, hshown, hposts⟩

end Machine

end PreviewHub
