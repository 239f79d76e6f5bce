import Rflow.Foundation.Channel
import Rflow.Foundation.Flow

/-!
# Values with notifications

Publishers fold events into a shared value, and then pass each event on through a bounded channel:
some wait for room, others give up when there is none.  The reader of the channel looks at the value
after it has taken an event.
-/

namespace Foundation

/-- An event that is folded in, and whether its publisher waits for room to pass it on. -/
structure Notification (ε : Type*) where
  event : ε
  waits : Bool
  deriving DecidableEq

structure Bulletin (σ ε π : Type*) (capacity : Nat) where
  value : σ
  queue : Channel ε capacity
  /-- What a publisher has folded in and not passed on. -/
  passing : π → Option (Notification ε)
  /-- What the reader saw when it last looked. -/
  copy : σ
  /-- The reader has looked since it last took an event. -/
  looked : Bool

inductive BulletinInput (ε π : Type*) where
  | publish (publisher : π) (notification : Notification ε)
  | pass (publisher : π)
  | giveUp (publisher : π)
  | take
  | look

inductive BulletinOutput (ε : Type*) where
  | took (event : ε)
  | lost (event : ε)
  deriving DecidableEq

def BulletinInput.published {ε π : Type*} : BulletinInput ε π → Option ε
  | .publish _ notification => some notification.event
  | _ => none

def BulletinOutput.taken {ε : Type*} : BulletinOutput ε → Option ε
  | .took event => some event
  | .lost _ => none

namespace Bulletin

variable {σ ε π : Type*} {capacity : Nat}

/-- Nothing is published. -/
def start (value : σ) : Bulletin σ ε π capacity :=
  { value, queue := .empty, passing := fun _ => none, copy := value, looked := true }

variable [Fintype π] [DecidableEq π] {fold : σ → ε → σ}

/-- The publishers that wait for room. -/
def waiting (bulletin : Bulletin σ ε π capacity) : Finset π :=
  {publisher | (bulletin.passing publisher).any Notification.waits = true}

/-- There is no room that the publishers that wait have no claim to. -/
def Crowded (bulletin : Bulletin σ ε π capacity) : Prop :=
  capacity ≤ bulletin.queue.messages.length + bulletin.waiting.card

instance (bulletin : Bulletin σ ε π capacity) : Decidable bulletin.Crowded :=
  inferInstanceAs (Decidable (_ ≤ _))

def step (fold : σ → ε → σ) :
    Machine.Step (Bulletin σ ε π capacity) (BulletinInput ε π) (BulletinOutput ε) Unit
  | bulletin, .publish publisher notification =>
      if (bulletin.passing publisher).isSome then
        .err ()
      else
        .ok ([], { bulletin with
          value := fold bulletin.value notification.event
          passing := Function.update bulletin.passing publisher (some notification) })
  | bulletin, .pass publisher =>
      match bulletin.passing publisher with
      | none => .err ()
      | some notification =>
          match bulletin.queue.send notification.event with
          | none => .err ()
          | some queue =>
              .ok ([], { bulletin with
                queue, passing := Function.update bulletin.passing publisher none })
  | bulletin, .giveUp publisher =>
      match bulletin.passing publisher with
      | some { event, waits := false } =>
          if bulletin.Crowded then
            .ok ([.lost event], { bulletin with
              passing := Function.update bulletin.passing publisher none })
          else
            .err ()
      | _ => .err ()
  | bulletin, .take =>
      match bulletin.queue.receive with
      | none => .err ()
      | some (event, queue) => .ok ([.took event], { bulletin with queue, looked := false })
  | bulletin, .look => .ok ([], { bulletin with copy := bulletin.value, looked := true })

/-- Nothing is under way, and the reader has looked. -/
structure Quiet (bulletin : Bulletin σ ε π capacity) : Prop where
  taken : bulletin.queue.messages = []
  passed : ∀ publisher, bulletin.passing publisher = none
  looked : bulletin.looked = true

variable {bulletin next : Bulletin σ ε π capacity} {input : BulletinInput ε π}
  {outputs : List (BulletinOutput ε)}

/-- What a step does. -/
inductive Steps (fold : σ → ε → σ) (bulletin : Bulletin σ ε π capacity) :
    BulletinInput ε π → List (BulletinOutput ε) → Bulletin σ ε π capacity → Prop
  | publishes {publisher : π} {notification : Notification ε}
      (free : bulletin.passing publisher = none) :
      Steps fold bulletin (.publish publisher notification) []
        { bulletin with
          value := fold bulletin.value notification.event
          passing := Function.update bulletin.passing publisher (some notification) }
  | passes {publisher : π} {notification : Notification ε} {queue : Channel ε capacity}
      (passing : bulletin.passing publisher = some notification)
      (sent : bulletin.queue.send notification.event = some queue) :
      Steps fold bulletin (.pass publisher) []
        { bulletin with queue, passing := Function.update bulletin.passing publisher none }
  | givesUp {publisher : π} {event : ε}
      (passing : bulletin.passing publisher = some ⟨event, false⟩) (crowded : bulletin.Crowded) :
      Steps fold bulletin (.giveUp publisher) [.lost event]
        { bulletin with passing := Function.update bulletin.passing publisher none }
  | takes {event : ε} {queue : Channel ε capacity}
      (received : bulletin.queue.receive = some (event, queue)) :
      Steps fold bulletin .take [.took event] { bulletin with queue, looked := false }
  | looks : Steps fold bulletin .look [] { bulletin with copy := bulletin.value, looked := true }

theorem step_steps (stepped : step fold bulletin input = .ok (outputs, next)) :
    Steps fold bulletin input outputs next := by
  cases input with
  | publish publisher notification =>
      simp only [step] at stepped
      split_ifs at stepped with busy
      obtain ⟨rfl, rfl⟩ := Prod.mk.inj (Outcome.ok.inj stepped)
      exact .publishes (by simpa using busy)
  | pass publisher =>
      simp only [step] at stepped
      split at stepped
      · cases stepped
      · split at stepped
        · cases stepped
        · obtain ⟨rfl, rfl⟩ := Prod.mk.inj (Outcome.ok.inj stepped)
          exact .passes ‹_› ‹_›
  | giveUp publisher =>
      simp only [step] at stepped
      split at stepped
      · split_ifs at stepped
        obtain ⟨rfl, rfl⟩ := Prod.mk.inj (Outcome.ok.inj stepped)
        exact .givesUp ‹_› ‹_›
      · cases stepped
  | take =>
      simp only [step] at stepped
      split at stepped
      · cases stepped
      · obtain ⟨rfl, rfl⟩ := Prod.mk.inj (Outcome.ok.inj stepped)
        exact .takes ‹_›
  | look =>
      obtain ⟨rfl, rfl⟩ := Prod.mk.inj (Outcome.ok.inj stepped)
      exact .looks

/-! ## What the reader has seen -/

/-- The reader has seen the value, or something will make it look. -/
def Followed (bulletin : Bulletin σ ε π capacity) : Prop :=
  bulletin.copy = bulletin.value ∨ bulletin.looked = false ∨ bulletin.queue.messages ≠ [] ∨
    ∃ publisher, bulletin.passing publisher ≠ none

/-- An event that is lost leaves others that make the reader look. -/
theorem Steps.followed (room : 0 < capacity)
    (steps : Steps fold bulletin input outputs next) : next.Followed := by
  cases steps with
  | @publishes publisher =>
      exact Or.inr (Or.inr (Or.inr ⟨publisher, by simp⟩))
  | passes _ sent =>
      refine Or.inr (Or.inr (Or.inl ?_))
      rw [Channel.messages_of_send sent]
      simp
  | @givesUp publisher event passing crowded =>
      by_cases queued : bulletin.queue.messages = []
      · rw [Crowded, queued, List.length_nil, Nat.zero_add] at crowded
        obtain ⟨other, member⟩ := Finset.card_pos.mp (room.trans_le crowded)
        have waits := (Finset.mem_filter.mp member).2
        have apart : other ≠ publisher := fun same => by simp [same, passing] at waits
        refine Or.inr (Or.inr (Or.inr ⟨other, fun none => ?_⟩))
        rw [(Function.update_of_ne apart ..).symm.trans none] at waits
        cases waits
      · exact Or.inr (Or.inr (Or.inl queued))
  | takes => exact Or.inr (Or.inl rfl)
  | looks => exact Or.inl rfl

omit [Fintype π] [DecidableEq π] in
theorem Followed.current (followed : bulletin.Followed) (quiet : bulletin.Quiet) :
    bulletin.copy = bulletin.value := by
  rcases followed with current | unseen | waiting | ⟨publisher, passing⟩
  · exact current
  · cases unseen.symm.trans quiet.looked
  · exact absurd quiet.taken waiting
  · exact absurd (quiet.passed publisher) passing

/-- When all is quiet the reader has the value, whatever was lost before. -/
theorem copy_of_quiet (room : 0 < capacity) {value : σ} {inputs : List (BulletinInput ε π)}
    (ran : Machine.run (step fold) (start value : Bulletin σ ε π capacity) inputs =
      .ok (outputs, next)) (quiet : next.Quiet) : next.copy = next.value := by
  have followed : next.Followed := Machine.run_preserves
    (fun _ stepped => (step_steps stepped).followed room) (Or.inl rfl) ran
  exact followed.current quiet

theorem Steps.value_eq (steps : Steps fold bulletin input outputs next) :
    next.value = input.published.toList.foldl fold bulletin.value := by
  cases steps <;> rfl

/-- The value is what the events have been folded into. -/
theorem value_of_run {inputs : List (BulletinInput ε π)}
    (ran : Machine.run (step fold) bulletin inputs = .ok (outputs, next)) :
    next.value = (inputs.filterMap BulletinInput.published).foldl fold bulletin.value := by
  induction inputs generalizing bulletin outputs with
  | nil =>
      obtain ⟨_, rfl⟩ : [] = outputs ∧ bulletin = next := by simpa using ran
      rfl
  | cons input inputs induction =>
      obtain ⟨first, middle, rest, stepped, remaining, _⟩ := Machine.run_cons_eq_ok.mp ran
      rw [induction remaining, (step_steps stepped).value_eq, List.filterMap_cons]
      cases input.published <;> rfl

/-! ## What is passed on -/

/-- Events of a kind come from one publisher alone, which waits for room. -/
def Patiently (kind : ε → Bool) (publisher other : π) (notification : Notification ε) : Prop :=
  kind notification.event = true → other = publisher ∧ notification.waits = true

/-- An input publishes nothing of a kind, or does so patiently. -/
def Patient (kind : ε → Bool) (publisher : π) : BulletinInput ε π → Prop
  | .publish other notification => Patiently kind publisher other notification
  | _ => True

/-- Whatever is to be passed on is published patiently, as far as it is of a kind. -/
def AwaitsRoom (kind : ε → Bool) (publisher : π) (bulletin : Bulletin σ ε π capacity) : Prop :=
  ∀ other, ∀ notification ∈ bulletin.passing other, Patiently kind publisher other notification

/-- What a publisher has folded in and nobody has taken yet. -/
def underway (bulletin : Bulletin σ ε π capacity) (publisher : π) : List ε :=
  bulletin.queue.messages ++ ((bulletin.passing publisher).map Notification.event).toList

variable {kind : ε → Bool} {publisher : π}

theorem Steps.awaitsRoom (awaits : bulletin.AwaitsRoom kind publisher)
    (patient : Patient kind publisher input) (steps : Steps fold bulletin input outputs next) :
    next.AwaitsRoom kind publisher := by
  have cleared (done : π) : AwaitsRoom kind publisher
      { bulletin with passing := Function.update bulletin.passing done none } := by
    intro other notification passing
    by_cases same : other = done
    · simp [same] at passing
    · exact awaits other notification ((Function.update_of_ne same ..).symm.trans passing)
  cases steps with
  | @publishes sender notification =>
      intro other current passing
      by_cases same : other = sender
      · obtain rfl := same
        obtain rfl : notification = current := by simpa using passing
        exact patient
      · exact awaits other current ((Function.update_of_ne same ..).symm.trans passing)
  | @passes sender => exact cleared sender
  | @givesUp sender => exact cleared sender
  | takes => exact awaits
  | looks => exact awaits

/-- Every step hands on the events of a kind. -/
theorem Steps.conveys (awaits : bulletin.AwaitsRoom kind publisher)
    (patient : Patient kind publisher input) (steps : Steps fold bulletin input outputs next) :
    (outputs.filterMap BulletinOutput.taken).filter kind ++ (next.underway publisher).filter kind =
      (bulletin.underway publisher).filter kind ++ input.published.toList.filter kind := by
  cases steps with
  | @publishes sender notification free =>
      by_cases same : sender = publisher
      · obtain rfl := same
        simp [underway, free, BulletinInput.published]
      · have none : kind notification.event = false :=
          Bool.eq_false_iff.mpr fun isKind => same (patient isKind).1
        simp [underway, Function.update_of_ne (Ne.symm same), BulletinInput.published, none]
  | @passes sender notification queue passing sent =>
      by_cases same : sender = publisher
      · obtain rfl := same
        simp [underway, passing, Channel.messages_of_send sent, BulletinInput.published]
      · have none : kind notification.event = false :=
          Bool.eq_false_iff.mpr fun isKind => same (awaits sender notification passing isKind).1
        simp [underway, Function.update_of_ne (Ne.symm same), Channel.messages_of_send sent,
          BulletinInput.published, none]
  | @givesUp sender event passing =>
      have none : kind event = false := Bool.eq_false_iff.mpr fun isKind =>
        nomatch (awaits sender ⟨event, false⟩ passing isKind).2
      by_cases same : sender = publisher
      · obtain rfl := same
        simp [underway, passing, BulletinInput.published, BulletinOutput.taken, none]
      · simp [underway, Function.update_of_ne (Ne.symm same), BulletinInput.published,
          BulletinOutput.taken]
  | takes received =>
      simp [underway, Channel.messages_of_receive received, BulletinInput.published,
        BulletinOutput.taken, List.filter_cons]
      split_ifs <;> rfl
  | looks => simp [underway, BulletinInput.published]

/-- Events that come from one publisher, which waits for room, reach the reader in their order, and
none of them is lost. -/
theorem taken_in_order {value : σ} {inputs : List (BulletinInput ε π)}
    (patient : ∀ input ∈ inputs, Patient kind publisher input)
    (ran : Machine.run (step fold) (start value : Bulletin σ ε π capacity) inputs =
      .ok (outputs, next)) :
    (outputs.filterMap BulletinOutput.taken).filter kind ++ (next.underway publisher).filter kind =
      (inputs.filterMap BulletinInput.published).filter kind := by
  have conveys {bulletin next : Bulletin σ ε π capacity} {input : BulletinInput ε π}
      {outputs : List (BulletinOutput ε)} (awaits : bulletin.AwaitsRoom kind publisher)
      (patient : Patient kind publisher input)
      (stepped : step fold bulletin input = .ok (outputs, next)) :
      next.AwaitsRoom kind publisher ∧
        outputs.flatMap (fun output => (output.taken.filter kind).toList) ++
            (next.underway publisher).filter kind =
          (bulletin.underway publisher).filter kind ++ (input.published.filter kind).toList := by
    have steps := step_steps stepped
    refine ⟨steps.awaitsRoom awaits patient, ?_⟩
    rw [← List.filterMap_eq_flatMap_toList, ← List.filter_filterMap, steps.conveys awaits patient]
    cases input.published with
    | none => rfl
    | some event => cases isKind : kind event <;> simp [Option.filter, isKind]
  have idle : (start value : Bulletin σ ε π capacity).AwaitsRoom kind publisher := nofun
  have conveyed := Machine.run_conveys conveys idle patient ran
  simpa [start, underway, Channel.empty, ← List.filterMap_eq_flatMap_toList,
    ← List.filter_filterMap] using conveyed

end Bulletin
end Foundation
