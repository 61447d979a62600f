import Lifeline.Proofs.Connection.Custody
import Mathlib.Data.List.Chain

/-!
# What the link shows

A connection publishes every change of its link and nothing else, so whoever
watches it knows the link.  Which link may be published after which is a small
graph (`Link.successors`).  The link also tells of the transport, on one
assumption: a transport is silent after it has reported its end.  Then a running
connection holds a transport exactly while its link is connecting or open, and
open means that the transport has said so.
-/

namespace Lifeline

/-- The links that may be published next after a link. -/
def Link.successors : Link → List Link
  | .disconnected => [.connecting, .suspectedDead, .closed]
  | .connecting => [.opened, .disconnected, .suspectedDead, .closed]
  | .opened => [.connecting, .disconnected, .suspectedDead, .closed]
  | .suspectedDead => [.connecting]
  | .closed => []

/-- What is published when a link moves; a link that stays is not published again. -/
def Link.change (link next : Link) : List Link := if link = next then [] else [next]

namespace Connection

variable {H : Type}

def Effect.published? : Effect H → Option Link
  | .publish link => some link
  | _ => none

def published (effects : List (Effect H)) : List Link := effects.filterMap Effect.published?

theorem published_append (earlier later : List (Effect H)) :
    published (earlier ++ later) = published earlier ++ published later :=
  List.filterMap_append

theorem published_setLink (link : Link) (state : State) :
    published (setLink (H := H) link state).2 = state.link.change link := by
  rw [setLink_snd, Link.change]
  split <;> rfl

/-! ## Paths of links -/

/-- Publications that lead from one link to another along the graph. -/
inductive Shows : Link → List Link → Link → Prop
  | nil (link : Link) : Shows link [] link
  | cons {link next last : Link} {links : List Link} (hedge : next ∈ link.successors)
      (hrest : Shows next links last) : Shows link (next :: links) last

theorem Shows.append {first middle last : Link} {earlier later : List Link}
    (hearlier : Shows first earlier middle) (hlater : Shows middle later last) :
    Shows first (earlier ++ later) last := by
  induction hearlier with
  | nil => exact hlater
  | cons hedge _ ih => exact .cons hedge (ih hlater)

theorem Shows.isChain {first last : Link} {links : List Link} (hshows : Shows first links last) :
    List.IsChain (fun earlier later => later ∈ earlier.successors) (first :: links) := by
  induction hshows with
  | nil link => exact .singleton link
  | cons hedge _ ih => exact .cons_cons hedge ih

theorem Shows.change {link next : Link} (hedge : link = next ∨ next ∈ link.successors) :
    Shows link (link.change next) next := by
  unfold Link.change
  split
  · next hsame =>
      rw [hsame]
      exact .nil next
  · next hother => exact .cons (hedge.resolve_left hother) (.nil next)

/-- No link is its own successor. -/
theorem Link.ne_of_mem_successors {link next : Link} (hedge : next ∈ link.successors) :
    link ≠ next := by
  rintro rfl
  revert hedge
  cases link <;> decide

/-! ## What a move does to link and transport -/

/-- The course of a step: what becomes of the link and the transport, and what is published. -/
inductive Course (state next : State) (input : Input) : List Link → Prop
  | still (htransport : next.transport = state.transport) (hlink : next.link = state.link)
      (hgeneration : next.generation = state.generation)
      (hinput : input ≠ .report ⟨state.generation, .opened⟩) : Course state next input []
  | opened (hinput : input = .report ⟨state.generation, .opened⟩)
      (htransport : next.transport = state.transport)
      (hgeneration : next.generation = state.generation) (hlink : next.link = .opened) :
      Course state next input (state.link.change .opened)
  | ended (reason : Option String)
      (hinput : input = .report ⟨state.generation, .closed reason⟩)
      (htransport : next.transport = none) (hgeneration : next.generation = state.generation)
      (hlink : next.link = .disconnected) :
      Course state next input (state.link.change .disconnected)
  | redialed (htransport : next.transport = some (state.generation + 1))
      (hgeneration : next.generation = state.generation + 1)
      (hlink : next.link = .connecting) :
      Course state next input (state.link.change .connecting)
  /-- The link is suspected dead only on the way to a fresh attempt. -/
  | lost (htransport : next.transport = some (state.generation + 1))
      (hgeneration : next.generation = state.generation + 1)
      (hlink : next.link = .connecting) :
      Course state next input (state.link.change .suspectedDead ++ [.connecting])
  | shut (hinput : input = .close ∨ input = .abandon) (hstop : next.stopped = true)
      (hlink : next.link = .closed) : Course state next input (state.link.change .closed)

section Attempt

variable {setup : Setup H} {now : Nat} {state found : State} {input : Input}

theorem course_connect (hgeneration : found.generation = state.generation)
    (hlink : found.link = state.link) :
    Course state (connect setup now found).1 input (published (connect setup now found).2) := by
  have hlinks : published (connect setup now found).2 = state.link.change .connecting := by
    rw [connect_eq, published_append, published, filterMap_hangUp fun _ => rfl,
      List.nil_append, ← hlink]
    exact published_setLink .connecting found
  rw [hlinks, connect_eq]
  exact .redialed (congrArg (fun generation => some (generation + 1)) hgeneration)
    (congrArg (· + 1) hgeneration) rfl

theorem course_giveUp (hgeneration : found.generation = state.generation)
    (hlink : found.link = state.link) :
    Course state (giveUp setup now found).1 input (published (giveUp setup now found).2) := by
  have hrest : published ((found.transport.map (Effect.hangUp (H := H))).toList ++
      [.dial (found.generation + 1), .publish .connecting]) = [.connecting] := by
    rw [published_append, published, filterMap_hangUp fun _ => rfl]
    rfl
  have hlinks : published (giveUp setup now found).2 =
      state.link.change .suspectedDead ++ [.connecting] := by
    rw [giveUp_eq, published_append, published_setLink, ← hlink]
    exact congrArg _ hrest
  rw [hlinks, giveUp_eq]
  exact .lost (congrArg (fun generation => some (generation + 1)) hgeneration)
    (congrArg (· + 1) hgeneration) rfl

end Attempt

theorem Move.course {setup : Setup H} {now : Nat} {accepting : Bool} {state : State}
    {input : Input} {outcome : State × List (Effect H)}
    (hmove : Move setup now accepting state input outcome) :
    Course state outcome.1 input (published outcome.2) := by
  cases hmove with
  | foreign report hother =>
      refine .still rfl rfl rfl ?_
      intro hinput
      exact hother (congrArg Report.generation (Input.report.inj hinput))
  | opened =>
      rw [published_setLink]
      exact .opened rfl rfl rfl rfl
  | delivered text =>
      have hlinks : published (deliver setup now text) = [] :=
        filterMap_deliver (fun _ => rfl) (fun _ _ => rfl) setup now text
      rw [hlinks]
      exact .still rfl rfl rfl (by simp)
  | ended reason =>
      rw [published_append, published, filterMap_release fun _ => rfl, List.nil_append,
        published_setLink]
      exact .ended reason rfl rfl rfl rfl
  | retried | reconnected => exact course_connect rfl rfl
  | timedOut | unpinged => exact course_giveUp rfl rfl
  | shut _ hinput =>
      rw [published_append, published, filterMap_hangUp fun _ => rfl, List.nil_append,
        published_setLink]
      exact .shut hinput rfl rfl
  | _ => exact .still rfl rfl rfl (by simp)

/-! ## Whoever watches knows the link -/

/-- The link that a watcher sees after the effects. -/
def shown (effects : List (Effect H)) : Link := (published effects).getLast?.getD .initial

theorem shown_append (earlier later : List (Effect H)) :
    shown (earlier ++ later) = (published later).getLast?.getD (shown earlier) := by
  rw [shown, shown, published_append, List.getLast?_append, Option.getD_or]

theorem Link.eq_of_mem_change {link next other : Link} (hmem : other ∈ link.change next) :
    other = next := by
  unfold Link.change at hmem
  split at hmem
  · simp at hmem
  · exact List.mem_singleton.mp hmem

theorem Link.last_change (link next : Link) : (link.change next).getLast?.getD link = next := by
  unfold Link.change
  split
  · next hsame => exact hsame
  · rfl

theorem Course.last_eq {state next : State} {input : Input} {links : List Link}
    (hcourse : Course state next input links) : links.getLast?.getD state.link = next.link := by
  cases hcourse with
  | still _ hlink => exact hlink.symm
  | opened _ _ _ hlink | ended _ _ _ _ hlink | redialed _ _ hlink | shut _ _ hlink =>
      rw [hlink, Link.last_change]
  | lost _ _ hlink =>
      rw [hlink, List.getLast?_append]
      rfl

theorem shown_eq_link (setup : Setup H) (began : Nat) (stimuli : List Stimulus) :
    shown (effectsAfter setup began stimuli) = (stateAfter setup began stimuli).link := by
  rw [effectsAfter_eq]
  refine life_induction (motive := fun past state =>
    shown ((start setup began).2 ++ past.flatMap (·.outcome.2)) = state.link) ?_ ?_ ?_ stimuli
  · rw [start_eq]
    split <;> rfl
  · intro past state now accepting input outcome _ _ hshown hmove
    rw [List.flatMap_append, ← List.append_assoc, shown_append, hshown]
    simpa using hmove.course.last_eq
  · intro past state stimulus _ hshown
    simpa using hshown

/-! ## Link and transport -/

/-- The transport of an attempt reported that it is open, while the attempt was current. -/
def HeardOpened (past : List (Moment H)) (generation : Nat) : Prop :=
  ∃ moment ∈ past, moment.before.generation = generation ∧
    moment.stimulus.input = .report ⟨generation, .opened⟩

/-- The transport of an attempt reported its end. -/
def HeardEnd (past : List (Moment H)) (generation : Nat) : Prop :=
  ∃ moment ∈ past, ∃ reason, moment.stimulus.input = .report ⟨generation, .closed reason⟩

/-- No transport reports anything after its end. -/
def EndsAreFinal (stimuli : List Stimulus) : Prop :=
  stimuli.Pairwise fun earlier later => ∀ generation reason event,
    earlier.input = .report ⟨generation, .closed reason⟩ →
      later.input ≠ .report ⟨generation, event⟩

theorem heardOpened_concat (past : List (Moment H)) (moment : Moment H) (generation : Nat) :
    HeardOpened (past ++ [moment]) generation ↔
      HeardOpened past generation ∨ moment.before.generation = generation ∧
        moment.stimulus.input = .report ⟨generation, .opened⟩ := by
  simp [HeardOpened, or_and_right, exists_or]

theorem heardEnd_concat (past : List (Moment H)) (moment : Moment H) (generation : Nat) :
    HeardEnd (past ++ [moment]) generation ↔
      HeardEnd past generation ∨
        ∃ reason, moment.stimulus.input = .report ⟨generation, .closed reason⟩ := by
  simp [HeardEnd, or_and_right, exists_or]

/-- A link is open only after the transport of the attempt has said so. -/
theorem heardOpened_of_opened {setup : Setup H} {began : Nat} {stimuli : List Stimulus}
    (hlink : (stateAfter setup began stimuli).link = .opened) :
    HeardOpened (moments setup began stimuli) (stateAfter setup began stimuli).generation := by
  revert hlink
  refine life_induction (motive := fun past state => state.link = .opened →
    HeardOpened past state.generation) ?_ ?_ ?_ stimuli
  · intro hlink
    rw [start_eq] at hlink
    dsimp only at hlink
    split at hlink <;> simp [State.redialed, State.collapsed] at hlink
  · intro past state now accepting input outcome _ _ hpast hmove hlink
    rw [heardOpened_concat]
    have hcourse := hmove.course
    generalize published outcome.2 = links at hcourse
    cases hcourse with
    | still _ hsame hgeneration =>
        rw [hgeneration]
        exact .inl (hpast (hsame.symm.trans hlink))
    | opened hinput _ hgeneration =>
        rw [hgeneration]
        exact .inr ⟨rfl, hinput⟩
    | ended _ _ _ _ hother | redialed _ _ hother | lost _ _ hother | shut _ _ hother =>
        exact absurd (hother.symm.trans hlink) (by decide)
  · intro past state stimulus _ hpast hlink
    rw [heardOpened_concat]
    exact .inl (hpast hlink)

/-- How the link and the transport of a running connection go together. -/
inductive Coupled (past : List (Moment H)) (state : State) : Prop
  | connecting (htransport : state.transport = some state.generation)
      (hlink : state.link = .connecting) (hheard : ¬ HeardOpened past state.generation)
  | opened (htransport : state.transport = some state.generation) (hlink : state.link = .opened)
  | disconnected (htransport : state.transport = none) (hlink : state.link = .disconnected)
      (hheard : HeardEnd past state.generation)

section Steps

variable {past : List (Moment H)} {state : State} {stimulus : Stimulus}
  {outcome : State × List (Effect H)} {links : List Link}

theorem Coupled.link_eq (hcoupled : Coupled past state) :
    state.link = .connecting ∨ state.link = .opened ∨ state.link = .disconnected := by
  cases hcoupled with
  | connecting _ hlink => exact .inl hlink
  | opened _ hlink => exact .inr (.inl hlink)
  | disconnected _ hlink => exact .inr (.inr hlink)

/-- What the assumption on transports says at one step. -/
def Silenced (past : List (Moment H)) (state : State) (input : Input) : Prop :=
  HeardEnd past state.generation → ∀ event, input ≠ .report ⟨state.generation, event⟩

theorem Coupled.of_course (hcoupled : Coupled past state)
    (hbefore : ∀ moment ∈ past, moment.before.generation ≤ state.generation)
    (hsilenced : Silenced past state stimulus.input)
    (hcourse : Course state outcome.1 stimulus.input links) (hgoes : outcome.1.stopped = false) :
    Coupled (past ++ [⟨state, stimulus, outcome⟩]) outcome.1 := by
  cases hcourse with
  | still htransport hlink hgeneration hinput =>
      cases hcoupled with
      | connecting hheld hwas hheard =>
          refine .connecting (by rw [htransport, hgeneration, hheld]) (hlink.trans hwas) ?_
          rw [hgeneration, heardOpened_concat]
          simp [hheard, hinput]
      | opened hheld hwas =>
          exact .opened (by rw [htransport, hgeneration, hheld]) (hlink.trans hwas)
      | disconnected hheld hwas hheard =>
          refine .disconnected (htransport.trans hheld) (hlink.trans hwas) ?_
          rw [hgeneration, heardEnd_concat]
          exact .inl hheard
  | opened hinput htransport hgeneration hlink =>
      cases hcoupled with
      | connecting hheld | opened hheld =>
          exact .opened (by rw [htransport, hgeneration, hheld]) hlink
      | disconnected _ _ hended => exact absurd hinput (hsilenced hended .opened)
  | ended reason hinput htransport hgeneration hlink =>
      refine .disconnected htransport hlink ?_
      rw [hgeneration, heardEnd_concat]
      exact .inr ⟨reason, hinput⟩
  | redialed htransport hgeneration hlink | lost htransport hgeneration hlink =>
      refine .connecting (by rw [htransport, hgeneration]) hlink ?_
      -- Nothing was heard of an attempt that has only just begun.
      rw [hgeneration, heardOpened_concat]
      rintro (⟨moment, hmem, hcurrent, -⟩ | ⟨hcurrent, -⟩)
      · have hle := hbefore moment hmem
        omega
      · exact absurd hcurrent (Nat.ne_of_lt (Nat.lt_succ_self _))
  | shut _ hstop => simp [hstop] at hgoes

theorem Coupled.shows (hcoupled : Coupled past state)
    (hsilenced : Silenced past state stimulus.input)
    (hcourse : Course state outcome.1 stimulus.input links) :
    Shows state.link links outcome.1.link := by
  have hlinks := hcoupled.link_eq
  cases hcourse with
  | still _ hlink =>
      rw [hlink]
      exact .nil _
  | opened hinput _ _ hlink =>
      have hopening : state.link = .connecting ∨ state.link = .opened := by
        cases hcoupled with
        | connecting _ hwas => exact .inl hwas
        | opened _ hwas => exact .inr hwas
        | disconnected _ _ hended => exact absurd hinput (hsilenced hended .opened)
      rw [hlink]
      apply Shows.change
      rcases hopening with hwas | hwas <;> rw [hwas] <;> decide
  | ended _ _ _ _ hlink | redialed _ _ hlink | shut _ _ hlink =>
      rw [hlink]
      apply Shows.change
      rcases hlinks with hwas | hwas | hwas <;> rw [hwas] <;> decide
  | lost _ _ hlink =>
      have hsuspected : Shows state.link (state.link.change .suspectedDead) .suspectedDead := by
        apply Shows.change
        rcases hlinks with hwas | hwas | hwas <;> rw [hwas] <;> decide
      rw [hlink]
      exact hsuspected.append (.cons (by decide) (.nil _))

end Steps

/-- What a life keeps of its link, as long as ends are final. -/
structure Truthful (setup : Setup H) (began : Nat) (past : List (Moment H)) (state : State) :
    Prop where
  coupled : state.stopped = false → Coupled past state
  before_le : ∀ moment ∈ past, moment.before.generation ≤ state.generation
  shows : Shows .initial (published ((start setup began).2 ++ past.flatMap (·.outcome.2)))
    state.link

/-- Where ends are final, a transport that has reported its end is silent at the next moment. -/
theorem EndsAreFinal.concat {past : List (Moment H)} {moment : Moment H}
    (hfinal : EndsAreFinal ((past ++ [moment]).map (·.stimulus))) :
    EndsAreFinal (past.map (·.stimulus)) ∧
      Silenced past moment.before moment.stimulus.input := by
  rw [List.map_append, EndsAreFinal, List.pairwise_append] at hfinal
  obtain ⟨hpast, -, hlast⟩ := hfinal
  refine ⟨hpast, ?_⟩
  rintro ⟨ending, hmem, reason, hinput⟩ event
  exact hlast ending.stimulus (List.mem_map_of_mem hmem) moment.stimulus (by simp)
    moment.before.generation reason event hinput

theorem truthful (setup : Setup H) (began : Nat) (stimuli : List Stimulus)
    (hfinal : EndsAreFinal stimuli) :
    Truthful setup began (moments setup began stimuli) (stateAfter setup began stimuli) := by
  rw [← moments_stimuli setup began stimuli] at hfinal
  revert hfinal
  refine life_induction (motive := fun past state => EndsAreFinal (past.map (·.stimulus)) →
    Truthful setup began past state) ?_ ?_ ?_ stimuli
  · intro _
    have hunheard : ¬ HeardOpened ([] : List (Moment H)) 1 := by
      simp [HeardOpened]
    have hshows : Shows .initial [.connecting] .connecting := .cons (by decide) (.nil _)
    refine ⟨?_, by simp, ?_⟩ <;> rw [start_eq] <;> dsimp only <;> split
    · simp [State.collapsed]
    · intro _
      exact .connecting rfl rfl hunheard
    · exact hshows
    · exact hshows
  · intro past state now accepting input outcome hrunning _ hpast hmove hfinal
    obtain ⟨hbefore, hsilenced⟩ := hfinal.concat
    have htruthful := hpast hbefore
    have hcoupled := htruthful.coupled hrunning
    refine ⟨hcoupled.of_course htruthful.before_le hsilenced hmove.course, ?_, ?_⟩
    · intro moment hmem
      rcases List.mem_append.mp hmem with hold | hnew
      · exact Nat.le_trans (htruthful.before_le moment hold) hmove.generation_le
      · rw [List.mem_singleton.mp hnew]
        exact hmove.generation_le
    · rw [List.flatMap_append, ← List.append_assoc, published_append]
      simpa using htruthful.shows.append (hcoupled.shows hsilenced hmove.course)
  · intro past state stimulus hstop hpast hfinal
    have htruthful := hpast hfinal.concat.1
    refine ⟨by simp [hstop], ?_, by simpa using htruthful.shows⟩
    simpa [or_imp, forall_and] using htruthful.before_le

/-- The link tells the truth about the transport: a running connection holds one exactly while
the link is connecting or open, the link is open exactly if the transport that is held has
reported so, and it is never seen suspected dead.  What is published never repeats itself, stays
on the graph of links, and ends with the link as it is. -/
theorem link_tells_of_transport (setup : Setup H) (began : Nat) (stimuli : List Stimulus)
    (hfinal : EndsAreFinal stimuli) :
    let past := moments setup began stimuli
    let state := stateAfter setup began stimuli
    let effects := effectsAfter setup began stimuli
    (state.stopped = false →
      (state.transport.isSome = true ↔ state.link = .connecting ∨ state.link = .opened) ∧
        (state.link = .opened ↔
          ∃ generation, state.transport = some generation ∧ HeardOpened past generation) ∧
        state.link ≠ .suspectedDead) ∧
      List.IsChain (fun earlier later => earlier ≠ later) (.initial :: published effects) ∧
      List.IsChain (fun earlier later => later ∈ earlier.successors)
        (.initial :: published effects) ∧
      shown effects = state.link := by
  intro past state effects
  have htruthful := truthful setup began stimuli hfinal
  have hshows : Shows .initial (published effects) state.link := by
    have hsame := effectsAfter_eq setup began stimuli
    rw [show effects = _ from hsame]
    exact htruthful.shows
  refine ⟨?_, ?_, hshows.isChain, shown_eq_link setup began stimuli⟩
  · intro hrunning
    cases htruthful.coupled hrunning with
    | connecting htransport hlink hheard => simp [state, past, htransport, hlink, hheard]
    | opened htransport hlink =>
        have hheard : HeardOpened past state.generation := heardOpened_of_opened hlink
        simp [state, htransport, hlink, hheard]
    | disconnected htransport hlink => simp [state, htransport, hlink]
  · exact hshows.isChain.imp fun _ _ hedge => Link.ne_of_mem_successors hedge

/-- The first attempt opens and ends, a ping finds nothing to be sent on, and the next attempt
opens. -/
theorem link_follows_two_attempts :
    let setup := Setup.bare ⟨25000, 5000, 2000⟩
    let stimuli : List Stimulus :=
      [⟨10, true, .report ⟨1, .opened⟩⟩, ⟨20, true, .report ⟨1, .closed none⟩⟩,
        ⟨25000, true, .tick⟩, ⟨25010, true, .report ⟨2, .opened⟩⟩]
    let past := moments setup 0 stimuli
    let effects := effectsAfter setup 0 stimuli
    EndsAreFinal stimuli ∧
      published effects =
        [.connecting, .opened, .disconnected, .suspectedDead, .connecting, .opened] ∧
      shown effects = .opened ∧
      ∃ generation, (stateAfter setup 0 stimuli).transport = some generation ∧
        HeardOpened past generation := by
  intro setup stimuli past effects
  have hfinal : EndsAreFinal stimuli := by
    unfold EndsAreFinal
    grind
  have hopened : (stateAfter setup 0 stimuli).link = .opened := by decide
  obtain ⟨hcoupled, -, -, hshown⟩ := link_tells_of_transport setup 0 stimuli hfinal
  obtain ⟨-, hheard, -⟩ := hcoupled (by decide)
  have hlinks : published effects =
      [.connecting, .opened, .disconnected, .suspectedDead, .connecting, .opened] := by decide
  exact ⟨hfinal, hlinks, hshown.trans hopened, hheard.mp hopened⟩

end Connection

end Lifeline
