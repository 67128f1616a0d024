import PreviewHub.Proofs.Hearing
import PreviewHub.Proofs.Nesting
import PreviewHub.Proofs.Outstanding

/-! Posting to all previews. A broadcast, or a request, takes note of the previews that are
connected when it begins. Those who are called meanwhile may connect others, close them or post
themselves: the operation itself posts once to each preview it has noted, in this order, and tells
of each post that fails before it makes the next one. -/

namespace PreviewHub

/-- What an operation does to post to a preview that replies: it calls the handle, and if the post
fails it tells so. -/
def posting (data : String) (origin : Origin) (exchange : Endpoint × Reply) : List Deed :=
  let call : Call := .post exchange.1.1 exchange.1.2 data origin
  [.shown (.called call), .returned call exchange.2] ++
    match exchange.2 with
    | .failed error => [.shown (.emitted (.errored exchange.1.1 error.message))]
    | _ => []

def posts (data : String) (endpoints : List Endpoint) : List Task :=
  endpoints.map fun endpoint => .post endpoint.1 endpoint.2 data

/-- How far an operation has come that posts to the endpoints, by what is left of it and by what it
has done: no post is under way and subscribers may hear of a failure, a post is under way, or a
failure is to be told. -/
inductive Fanning (endpoints : List Endpoint) (data : String) (origin : Origin) (body : List Task)
    (record : List Deed) : Prop where
  | telling (made : List (Endpoint × Reply)) (front : List Task) (left : List Endpoint)
      (cut : endpoints = made.map (·.1) ++ left) (personal : ∀ t ∈ front, t.isGeneral = false)
      (tasks : body = front ++ posts data left)
      (deeds : record = made.flatMap (posting data origin))
  | posted (made : List (Endpoint × Reply)) (endpoint : Endpoint) (left : List Endpoint)
      (cut : endpoints = made.map (·.1) ++ endpoint :: left)
      (tasks : body = .waiting (.post endpoint.1 endpoint.2 data origin) :: posts data left)
      (deeds : record = made.flatMap (posting data origin) ++
        [.shown (.called (.post endpoint.1 endpoint.2 data origin))])
  | failed (made : List (Endpoint × Reply)) (endpoint : Endpoint) (left : List Endpoint)
      (error : Error) (cut : endpoints = made.map (·.1) ++ endpoint :: left)
      (tasks : body = .emit (.errored endpoint.1 error.message) :: posts data left)
      (deeds : record = made.flatMap (posting data origin) ++
        [.shown (.called (.post endpoint.1 endpoint.2 data origin)),
          .returned (.post endpoint.1 endpoint.2 data origin) (.failed error)])

section
variable {endpoints : List Endpoint} {data : String} {origin : Origin} {t : Task}
  {later : List Task} {record : List Deed} {h : Hub}

/-- One more exchange is made. -/
private theorem Fanning.next {made : List (Endpoint × Reply)} {endpoint : Endpoint}
    {left : List Endpoint}
    (cut : endpoints = made.map (·.1) ++ endpoint :: left) (reply : Reply) {front : List Task}
    (personal : ∀ t ∈ front, t.isGeneral = false)
    (deeds : record = made.flatMap (posting data origin) ++ posting data origin (endpoint, reply)) :
    Fanning endpoints data origin (front ++ posts data left) record := by
  refine .telling (made ++ [(endpoint, reply)]) front left ?_ personal rfl ?_
  · rw [cut, List.map_append, List.append_assoc]
    rfl
  · rw [deeds, List.flatMap_append, List.flatMap_singleton]

/-- The operation makes the next post, tells of a failure, or calls the next subscriber. It changes
nothing in the hub. -/
private theorem Fanning.proceed (hf : Fanning endpoints data origin (t :: later) record)
    (ho : h.channel.origin = some origin) (hw : t.isWaiting = false) :
    (h.perform t).hub = h ∧
      Fanning endpoints data origin ((h.perform t).tasks ++ later)
        (record ++ ((h.perform t).outputs.map Deed.shown).filter Deed.matters) := by
  cases hf with
  | telling made front left cut personal tasks deeds =>
    cases front with
    | cons first front =>
      obtain ⟨rfl, rfl⟩ := List.cons.inj tasks
      obtain ⟨hfirst, hfront⟩ := List.forall_mem_cons.mp personal
      cases t with
      | deliver s notice =>
        refine ⟨rfl, .telling made (.waiting (.notify s notice) :: front) left cut ?_ rfl ?_⟩
        · exact List.forall_mem_cons.mpr ⟨rfl, hfront⟩
        · rw [deeds]
          exact List.append_nil _
      | waiting call => cases hw
      | _ => cases hfirst
    | nil =>
      cases left with
      | nil => cases tasks
      | cons endpoint left =>
        obtain ⟨rfl, rfl⟩ := List.cons.inj tasks
        have hperform : h.perform (.post endpoint.1 endpoint.2 data) =
            h.callOut (.post endpoint.1 endpoint.2 data origin) [] := by
          simp only [Hub.perform, Channel.target, ho]
        rw [hperform]
        exact ⟨rfl, .posted made endpoint left cut rfl (by rw [deeds]; rfl)⟩
  | posted made endpoint left cut tasks deeds =>
    cases (List.cons.inj tasks).1
    cases hw
  | failed made endpoint left error cut tasks deeds =>
    obtain ⟨rfl, rfl⟩ := List.cons.inj tasks
    refine ⟨rfl, .next cut (.failed error) (List.forall_mem_map.mpr fun _ _ => rfl) ?_⟩
    rw [deeds, List.append_assoc]
    rfl

/-- A subscriber returns, or a post does; if it failed, that is to be told. The hub stays as it is.
-/
private theorem Fanning.reply {call : Call}
    (hf : Fanning endpoints data origin (.waiting call :: later) record) (reply : Reply) :
    (h.resume call reply).hub = h ∧
      Fanning endpoints data origin ((h.resume call reply).tasks ++ later)
        (record ++ [.returned call reply].filter Deed.matters) := by
  cases hf with
  | telling made front left cut personal tasks deeds =>
    cases front with
    | cons first front =>
      obtain ⟨rfl, rfl⟩ := List.cons.inj tasks
      obtain ⟨hfirst, hfront⟩ := List.forall_mem_cons.mp personal
      cases call with
      | notify s notice =>
        obtain ⟨rs, he⟩ := h.resume_indifferent (.notify s notice) rfl reply
        rw [he]
        refine ⟨rfl, .telling made front left cut hfront rfl ?_⟩
        rw [deeds]
        exact List.append_nil _
      | _ => cases hfirst
    | nil =>
      cases left with
      | nil => cases tasks
      | cons endpoint left => cases (List.cons.inj tasks).1
  | posted made endpoint left cut tasks deeds =>
    obtain ⟨hcall, rfl⟩ := List.cons.inj tasks
    cases hcall
    have returned (hr : ∀ error, reply ≠ .failed error) :
        posting data origin (endpoint, reply) =
          [.shown (.called (.post endpoint.1 endpoint.2 data origin)),
            .returned (.post endpoint.1 endpoint.2 data origin) reply] := by
      cases reply with
      | failed error => exact absurd rfl (hr error)
      | _ => rfl
    have done (hr : ∀ error, reply ≠ .failed error) :
        Fanning endpoints data origin ([] ++ posts data left)
          (record ++ [.returned (.post endpoint.1 endpoint.2 data origin) reply]) := by
      refine .next cut reply (List.forall_mem_nil _) ?_
      rw [deeds, returned hr, List.append_assoc]
      rfl
    cases reply with
    | failed error =>
      refine ⟨rfl, .failed made endpoint left error cut rfl ?_⟩
      rw [deeds, List.append_assoc]
      rfl
    | _ => exact ⟨rfl, done (by rintro _ ⟨⟩)⟩
  | failed made endpoint left error cut tasks deeds => cases (List.cons.inj tasks).1

/-- When nothing is left, all exchanges are made. -/
private theorem Fanning.made (hf : Fanning endpoints data origin [] record) :
    ∃ exchanges : List (Endpoint × Reply), exchanges.map (·.1) = endpoints ∧
      record = exchanges.flatMap (posting data origin) := by
  cases hf with
  | telling made front left cut personal tasks deeds =>
    obtain ⟨-, hleft⟩ := List.append_eq_nil_iff.mp tasks.symm
    rw [List.map_eq_nil_iff.mp hleft, List.append_nil] at cut
    exact ⟨made, cut.symm, deeds⟩
  | posted made endpoint left cut tasks deeds => cases tasks
  | failed made endpoint left error cut tasks deeds => cases tasks

end

namespace Machine

section
variable {m : Machine} {origin : Origin}

structure Directed (origin : Origin) (m : Machine) : Prop where
  started : m.hub.started
  origin : m.hub.channel.origin = some origin

theorem directed_turn (hm : Directed origin m) (turn : Turn) : Directed origin (m.turn turn).1 := by
  cases turn with
  | move move =>
    rw [Machine.turn]
    rcases m.step_cases move with hn | ⟨e, used, rest, w⟩
    · rwa [hn]
    · have hgated : Gated m := fun hs => by
        rw [hm.started] at hs
        cases hs
      obtain ⟨hstarted, hchannel, -⟩ := w.steady hgated (Or.inl hm.started)
      rw [w.step_eq]
      exact ⟨hstarted.trans hm.started, by rw [take, hchannel, hm.origin]⟩
  | breakOff =>
    rw [Machine.turn]
    have hhub := m.breakOff_breaks.hub
    exact ⟨by rw [hhub]; exact hm.started, by rw [hhub]; exact hm.origin⟩

private theorem linked_turn (hg : Gated m) (hl : m.hub.Linked) (turn : Turn) :
    (m.turn turn).1.hub.Linked := by
  cases turn with
  | move move =>
    rw [Machine.turn]
    rcases m.step_cases move with hn | ⟨e, used, rest, w⟩
    · rwa [hn]
    · rw [w.step_eq]
      exact w.linked hg hl
  | breakOff =>
    rw [Machine.turn, m.breakOff_breaks.hub]
    exact ⟨hl.origin, hl.started⟩

theorem linked_after {options : Options} {own : Bool} {h : Hub}
    (hb : Hub.build options own = .ok h) (turns : List Turn) :
    Steady options.maxPending (Machine.after ⟨h, []⟩ turns) ∧
      (Machine.after ⟨h, []⟩ turns).hub.Linked := by
  induction turns using List.reverseRecOn with
  | nil =>
    refine ⟨steady_new hb, ?_⟩
    exact linked_run hb []
  | append_singleton turns turn ih =>
    obtain ⟨hsteady, hl⟩ := ih
    rw [after_concat]
    exact ⟨steady_turn hsteady turn, linked_turn hsteady.gated hl turn⟩

/-- Whoever finds a hub started finds it with an origin. -/
theorem exists_directed {options : Options} {own : Bool} {h : Hub}
    (hb : Hub.build options own = .ok h) (turns : List Turn)
    (hs : (Machine.after ⟨h, []⟩ turns).hub.started) :
    ∃ origin, Directed origin (Machine.after ⟨h, []⟩ turns) := by
  have hlinked := linked_after hb turns
  have horigin := hlinked.2.origin.trans (hlinked.2.started hs)
  obtain ⟨origin, ho⟩ := Option.isSome_iff_exists.mp horigin
  exact ⟨origin, hs, ho⟩

end

structure Fans (endpoints : List Endpoint) (data : String) (origin : Origin) (depth : Nat)
    (body : List Task) (m : Machine) (steps : List (Machine × Turn)) : Prop where
  directed : Directed origin m
  fanning : Fanning endpoints data origin body (record depth steps)
  harmless : ∀ step ∈ steps, isOwn depth step → (step.1.turn step.2).1.hub = step.1.hub

private theorem kept_fans (endpoints : List Endpoint) (data : String) (origin : Origin)
    (base : List Task) :
    Kept base (Fans endpoints data origin (layers base)) where
  idle := by
    intro body m steps turn hf hd hsame
    refine ⟨hf.directed, ?_, List.forall_mem_append.mpr ⟨hf.harmless, ?_⟩⟩
    · rw [record_concat_idle hd]
      exact hf.fanning
    · exact List.forall_mem_singleton.mpr fun _ => by rw [hsame]
  aside := by
    intro call later m steps turn hf ho
    refine ⟨directed_turn hf.directed turn, ?_, List.forall_mem_append.mpr ⟨hf.harmless, ?_⟩⟩
    · rw [record_concat_other ho]
      exact hf.fanning
    · exact List.forall_mem_singleton.mpr fun hown => absurd hown (Bool.eq_false_iff.mp ho)
  proceed := by
    intro t later m steps hf agenda ho hw
    obtain ⟨hhub, hnext⟩ := hf.fanning.proceed hf.directed.origin hw
    refine ⟨directed_turn hf.directed (.move .proceed), ?_,
      List.forall_mem_append.mpr ⟨hf.harmless, ?_⟩⟩
    · rw [record_concat_own ho, deeds_proceed agenda]
      exact hnext
    · refine List.forall_mem_singleton.mpr fun _ => ?_
      rw [Machine.turn, (Works.proceed t _ agenda).step_eq]
      exact hhub
  reply := by
    intro call later m steps reply hf agenda ho
    obtain ⟨hhub, hnext⟩ := hf.fanning.reply (h := m.hub) reply
    refine ⟨directed_turn hf.directed (.move (.reply reply)), ?_,
      List.forall_mem_append.mpr ⟨hf.harmless, ?_⟩⟩
    · rw [record_concat_own ho, deeds_reply agenda]
      exact hnext
    · refine List.forall_mem_singleton.mpr fun _ => ?_
      rw [Machine.turn, (Works.reply call reply _ agenda).step_eq]
      exact hhub

/-- An operation that begins now posts the text to the previews that are connected now. What others
do within its calls is theirs: `record` holds what the operation does itself. -/
structure FansOut (m : Machine) (op : Op) (data : String) (origin : Origin) (last : Task) :
    Prop where
  /-- It posts once to each of them and tells of each failure, and then only `last` is left. -/
  complete : ∀ during, (m.step (.call op)).1.Completes m.agenda during →
    ((m.step (.call op)).1.after during).agenda = last :: m.agenda ∧
    ∃ exchanges : List (Endpoint × Reply), exchanges.map (·.1) = m.hub.registry.endpoints ∧
      record (layers m.agenda + 1) ((m.step (.call op)).1.course during) =
        exchanges.flatMap (posting data origin)
  /-- When a post has failed, the next thing to do is to tell it. -/
  prompt : ∀ during, (m.step (.call op)).1.Lasts m.agenda during →
    ∀ step ∈ (m.step (.call op)).1.course during, ∀ id handle error,
      step.1.call? = some (.post id handle data origin) → step.2 = .move (.reply (.failed error)) →
      (step.1.turn step.2).1.agenda.head? = some (.emit (.errored id error.message))
  /-- None of its own steps changes anything in the hub. -/
  harmless : ∀ during, (m.step (.call op)).1.Lasts m.agenda during →
    ∀ step ∈ (m.step (.call op)).1.course during, isOwn (layers m.agenda + 1) step →
      (step.1.turn step.2).1.hub = step.1.hub
  /-- It comes to its last task if the calls return. -/
  returns : ∀ during, (m.step (.call op)).1.Lasts m.agenda during →
    ∃ moves : List Move, moves.all Move.goesOn ∧
      (m.step (.call op)).1.Completes m.agenda (during ++ moves.map .move)

private theorem hub_call {m : Machine} (hopen : m.isOpen) (op : Op) :
    (m.step (.call op)).1.hub = (m.hub.begin op).hub := by
  rw [(Works.call op hopen).step_eq, take]

theorem agenda_of_failed (m : Machine) {id : PreviewId} {handle : Handle} {data : String}
    {origin : Origin} {error : Error} {turn : Turn}
    (hc : m.call? = some (.post id handle data origin))
    (ht : turn = .move (.reply (.failed error))) :
    (m.turn turn).1.agenda.head? = some (.emit (.errored id error.message)) := by
  obtain ⟨rest, hm⟩ : ∃ rest, m.agenda = .waiting (.post id handle data origin) :: rest := by
    unfold call? at hc
    split at hc
    · rename_i call rest hm
      exact ⟨rest, by rw [hm, Option.some.inj hc]⟩
    · cases hc
  rw [ht, Machine.turn, (Works.reply _ (.failed error) rest hm).step_eq]
  rfl

private theorem fansOut_of_begin {m : Machine} {op : Op} {data : String} {origin : Origin}
    {last : Task}
    {h : Hub} {shown : List Output} (hm : Directed origin m) (hopen : m.isOpen)
    (hf : last.isFinal)
    (hbegin : m.hub.begin op = ⟨h, m.hub.postTasks data ++ [last], shown⟩) :
    FansOut m op data origin last := by
  have hbegan : m.step (.call op) =
      (⟨h, posts data m.hub.registry.endpoints ++ last :: m.agenda⟩, shown) := by
    rw [(Works.call op hopen).step_eq, hbegin, take, List.append_assoc]
    rfl
  have hpursues : Pursues (last :: m.agenda) (posts data m.hub.registry.endpoints)
      (m.step (.call op)).1 := by
    rw [hbegan]
    exact .level (List.forall_mem_map.mpr fun _ _ => rfl) rfl
  have hlayers : layers (last :: m.agenda) = layers m.agenda + 1 := List.countP_cons_of_pos hf
  have hfans : Fans m.hub.registry.endpoints data origin (layers (last :: m.agenda))
      (posts data m.hub.registry.endpoints) (m.step (.call op)).1 [] :=
    ⟨directed_turn hm (.move (.call op)),
      .telling [] [] m.hub.registry.endpoints rfl (List.forall_mem_nil _) rfl rfl,
      List.forall_mem_nil _⟩
  have hkept := kept_fans m.hub.registry.endpoints data origin (last :: m.agenda)
  rw [hlayers] at hkept hfans
  refine ⟨fun during hc => ?_, fun _ _ step _ id handle error => step.1.agenda_of_failed,
    fun during hl => ?_, fun during hl => hl.exists_completion⟩
  · obtain ⟨hagenda, hend⟩ := hkept.complete hpursues hfans hc
    exact ⟨hagenda, hend.fanning.made⟩
  · obtain ⟨body, -, hnow⟩ := hkept.run hpursues hfans hl
    exact hnow.harmless

/-- In every state in which an operation can begin and the hub is started, a broadcast, and likewise
a request that finds room, posts the encoded message once to each preview that is connected when it
begins, the frame first and then the windows in the order of their registration, whatever those who
are called do meanwhile. All posts are meant for the origin of the hub. Right after a post that
failed, and only then, the error of this preview is told. A broadcast returns the number of these
previews, failures included. Neither changes anything else in the hub by itself. -/
theorem broadcast_posts_to_snapshot (options : Options) (own : Bool) (h : Hub)
    (hb : Hub.build options own = .ok h) (before : List Turn) :
    let m := Machine.after ⟨h, []⟩ before
    let endpoints := m.hub.registry.endpoints
    m.isOpen → m.hub.started →
      endpoints = (m.hub.registry.frame.map fun handle => (.frame, handle)).toList ++
        m.hub.registry.windows ∧
      ∃ origin, m.hub.channel.origin = some origin ∧
        (∀ message,
          let began := (m.step (.call (.broadcast message))).1
          let last := .answer (.count endpoints.length)
          began.hub = m.hub ∧ FansOut m (.broadcast message) message.encode origin last ∧
          ∀ during, began.Completes m.agenda during →
            (began.after during).step .proceed =
              (⟨(began.after during).hub, m.agenda⟩, [.answered (.count endpoints.length)])) ∧
        ∀ message timeout runtime id pending, m.hub.pending.register = .ok (id, pending) →
          let began := (m.step (.call (.request message timeout runtime))).1
          let wait := timeout.getD m.hub.options.responseTimeout
          let last := .awaitReply id wait endpoints.length runtime
          began.hub = { m.hub with pending } ∧
          FansOut m (.request message timeout runtime) (message.withRequestId id).encode origin
            last := by
  intro m endpoints hopen hs
  obtain ⟨origin, hm⟩ := exists_directed hb before hs
  refine ⟨?_, origin, hm.origin, fun message => ?_, fun message timeout runtime id pending hr => ?_⟩
  · unfold endpoints Registry.endpoints
    cases m.hub.registry.frame <;> rfl
  · intro began last
    have hbegin : m.hub.begin (.broadcast message) =
        ⟨m.hub, m.hub.postTasks message.encode ++ [last], []⟩ := if_pos hs
    have hfans := fansOut_of_begin hm hopen rfl hbegin
    refine ⟨?_, hfans, fun during hc => ?_⟩
    · exact (hub_call hopen _).trans (congrArg Effect.hub hbegin)
    · exact (Works.proceed last _ (hfans.complete during hc).1).step_eq
  · intro began wait last
    have hbegin : m.hub.begin (.request message timeout runtime) =
        ⟨{ m.hub with pending }, m.hub.postTasks (message.withRequestId id).encode ++ [last],
          [.remark m.hub.pending.registerRemark]⟩ := by
      simp only [Hub.begin, Hub.request, if_pos hs, hr]
      rfl
    refine ⟨?_, fansOut_of_begin hm hopen rfl hbegin⟩
    exact (hub_call hopen _).trans (congrArg Effect.hub hbegin)

/-- The post to the frame fails. The subscriber who hears of it releases the frame and registers
another window. The next handle broadcasts itself within its post, and one of these posts panics. -/
theorem broadcast_posts_to_snapshot_nested :
    let opening (handle : Handle) : List Move :=
      [.call (.registerWindow handle true), .proceed, .proceed, .reply .done, .proceed,
        .reply .done, .proceed]
    let before : List (List Move) :=
      [[.call (.start "https://a" true), .proceed, .proceed, .call (.subscribe 7), .proceed,
          .call (.registerFrame ⟨"game"⟩), .proceed, .proceed, .reply .done, .proceed],
        opening ⟨"menu"⟩, opening ⟨"shop"⟩]
    let panicking : List (List Move) :=
      [[.proceed, .reply (.failed .notStarted), .proceed, .proceed],
        [.call (.unregisterFrame ⟨"game"⟩), .proceed, .proceed, .reply .panicked, .proceed],
        opening ⟨"late"⟩, [.reply .done, .proceed],
        [.call (.broadcast {}), .proceed, .reply .done, .proceed]]
    let ending : List Move := [.reply .done, .proceed, .reply .done]
    let turns := before.flatten.map Turn.move
    let m := Machine.after ⟨Hub.new {} (.external false), []⟩ turns
    let began := (m.step (.call (.broadcast {}))).1
    let during := panicking.flatten.map Turn.move ++ .breakOff :: ending.map Turn.move
    let last := began.after during
    last.hub.registry.list = [.window 0, .window 1, .window 2] ∧
      last.step .proceed = (⟨last.hub, []⟩, [.answered (.count 3)]) ∧
      ∃ exchanges : List (Endpoint × Reply),
        exchanges.map (·.1) = [(.frame, ⟨"game"⟩), (.window 0, ⟨"menu"⟩), (.window 1, ⟨"shop"⟩)] ∧
        record 1 (began.course during) = exchanges.flatMap (posting "{}" ⟨"https://a"⟩) := by
  intro opening before panicking ending turns m began during last
  have hopen : m.isOpen ∧ m.hub.started ∧ m.agenda = [] ∧
      m.hub.channel.origin = some ⟨"https://a"⟩ := by decide +kernel
  have hendpoints : m.hub.registry.endpoints =
      [(.frame, ⟨"game"⟩), (.window 0, ⟨"menu"⟩), (.window 1, ⟨"shop"⟩)] := by decide +kernel
  have hlist : last.hub.registry.list = [.window 0, .window 1, .window 2] := by decide +kernel
  have hencode : Message.encode {} = "{}" := by decide +kernel
  have hcompletes : began.Completes m.agenda during := ⟨by decide +kernel, by decide +kernel⟩
  clear_value turns during
  obtain ⟨-, origin, horigin, hbroadcast, -⟩ := broadcast_posts_to_snapshot {} true
    (Hub.new {} (.external false)) rfl turns hopen.1 hopen.2.1
  obtain ⟨-, hfans, hreturns⟩ := hbroadcast {}
  obtain rfl : origin = ⟨"https://a"⟩ := Option.some.inj (horigin.symm.trans hopen.2.2.2)
  have hstep := hreturns during hcompletes
  have hcomplete := (hfans.complete during hcompletes).2
  rw [hendpoints, hopen.2.2.1] at hstep
  rw [hendpoints, hopen.2.2.1, hencode] at hcomplete
  exact ⟨hlist, hstep, hcomplete⟩

end Machine

end PreviewHub
