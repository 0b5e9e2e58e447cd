import AccessPolicy.Proofs.Controller.Linked
import AccessPolicy.Proofs.Watch.Step

/-!
# Runs with and without full logging

Whether policies are logged in full is a setting.  A run is transparent for it
if it yields the same value and leaves the same memory either way, and logs the
same but for the contents of policies; and if with full logging every fetch
shows in the log together with the policy that it brought.  What was fetched is
told by the exchanges of the run when it is watched.  Transparent runs are those
that are coupled to their watched run, so the rules for coupled runs apply.
-/

namespace AccessPolicy

variable {ρ α β : Type}

def Settings.telling (settings : Settings) (full : Bool) : Settings :=
  { settings with logPolicyContents := full }

/-- What there is of some events in a log: all of them, or, if policies are not
logged in full, all but their contents. -/
def heard (full : Bool) (events : List Event) : List Event :=
  if full then events else events.filter fun event => !event.isContents

theorem heard_append (full : Bool) (first second : List Event) :
    heard full (first ++ second) = heard full first ++ heard full second := by
  cases full with
  | true => rfl
  | false => exact List.filter_append first second

def TellsNoFetch (events : List Event) : Prop :=
  ∀ event ∈ events, event.reportsFetch = false

theorem TellsNoFetch.nil : TellsNoFetch [] :=
  List.forall_mem_nil _

theorem TellsNoFetch.singleton {event : Event}
    (hevent : event.reportsFetch = false) : TellsNoFetch [event] :=
  List.forall_mem_singleton.2 hevent

theorem TellsNoFetch.heard {events : List Event} (hevents : TellsNoFetch events)
    (full : Bool) : heard full events = events := by
  cases full with
  | true => rfl
  | false =>
      apply List.filter_eq_self.2
      intro event hevent
      have hreport := hevents event hevent
      cases event <;> first | rfl | cases hreport

/-- The policies that some exchanges fetched. -/
def fetched (calls : List (Exchange ρ)) : List Policy :=
  calls.filterMap fun
    | .fetch _ (.ok policy) _ => some policy
    | _ => none

/-- The log tells these fetches in their order, and no other: each one in brief
and, immediately behind it, once in full. -/
inductive Told : List Policy → List Event → Prop
  | nothing : Told [] []
  | other {event : Event} {policies : List Policy} {rest : List Event}
      (hevent : event.reportsFetch = false) (hrest : Told policies rest) :
      Told policies (event :: rest)
  | fetch (resource : String) (policy : Policy) {policies : List Policy}
      {rest : List Event} (hrest : Told policies rest) :
      Told (policy :: policies)
        (.retrieved resource policy.etag policy.bindings.length ::
          .contents resource policy :: rest)

namespace Told

theorem append {policies more : List Policy} {events later : List Event}
    (hfirst : Told policies events) (hsecond : Told more later) :
    Told (policies ++ more) (events ++ later) := by
  induction hfirst with
  | nothing => exact hsecond
  | other hevent _ ih => exact .other hevent ih
  | fetch resource policy _ ih => exact .fetch resource policy ih

theorem of_tellsNoFetch {events : List Event} (hevents : TellsNoFetch events) :
    Told [] events := by
  induction events with
  | nil => exact .nothing
  | cons event rest ih =>
      obtain ⟨hevent, hrest⟩ := List.forall_mem_cons.1 hevents
      exact .other hevent (ih hrest)

end Told

/-- From every memory a run yields a value, leaves a memory and has some events
to tell, whatever was logged before.  With full logging it logs all of them, and
without it all but the contents of policies.  Watched, it makes calls of which
the events tell the fetches. -/
def Transparent (watched : StateM (World (Watched ρ)) α)
    (run : Bool → StateM (World ρ) α) : Prop :=
  ∀ memory, ∃ value later events,
    (∀ full log, (run full).run ⟨memory, log⟩ =
      (value, ⟨later, log ++ heard full events⟩)) ∧
    ∀ taken log, ∃ calls, Told (fetched calls) events ∧
      watched.run ⟨⟨memory, taken⟩, log⟩ =
        (value, ⟨⟨later, taken ++ calls⟩, log ++ events⟩)

/-- Worlds reached by a watched run and by another one, from the same memory. -/
def Overhears (full : Bool) (start : World (Watched ρ)) (logged : List Event)
    (world : World (Watched ρ)) (other : World ρ) : Prop :=
  ∃ calls later events, Told (fetched calls) events ∧
    world = start.extend calls ⟨later, start.log ++ events⟩ ∧
    other = ⟨later, logged ++ heard full events⟩

variable {full : Bool} {start world : World (Watched ρ)} {logged : List Event}
    {other : World ρ}

theorem Overhears.memory (hworlds : Overhears full start logged world other) :
    other.remote = world.remote.memory := by
  obtain ⟨calls, later, events, -, rfl, rfl⟩ := hworlds
  rfl

namespace Transparent

variable {watched : StateM (World (Watched ρ)) α}
    {run : Bool → StateM (World ρ) α}

/-- What a transparent run adds to both worlds keeps them related. -/
theorem coupled (htransparent : Transparent watched run) (full : Bool)
    (start : World (Watched ρ)) (logged : List Event) :
    Coupled (Overhears full start logged) Eq watched (run full) := by
  rintro _ _ ⟨calls, memory, events, htold, rfl, rfl⟩
  obtain ⟨value, later, more, hrun, hwatched⟩ := htransparent memory
  obtain ⟨further, hmore, hended⟩ :=
    hwatched (start.remote.exchanges ++ calls) (start.log ++ events)
  rw [hrun full, World.extend, hended, List.append_assoc, List.append_assoc,
    List.append_assoc]
  refine ⟨rfl, calls ++ further, later, events ++ more, ?_, rfl, ?_⟩
  · rw [fetched, List.filterMap_append]
    exact htold.append hmore
  · rw [heard_append]

/-- The watched run says what there is to tell, and the run with full logging
says that this does not depend on what was taken down or logged before. -/
theorem of_coupled
    (hcoupled : ∀ full start logged,
      Coupled (Overhears full start logged) Eq watched (run full)) :
    Transparent watched run := by
  intro memory
  have hreached : ∀ full taken log logged, ∃ value calls later events,
      Told (fetched calls) events ∧
      watched.run ⟨⟨memory, taken⟩, log⟩ =
        (value, ⟨⟨later, taken ++ calls⟩, log ++ events⟩) ∧
      (run full).run ⟨memory, logged⟩ =
        (value, ⟨later, logged ++ heard full events⟩) := by
    intro full taken log logged
    have hstart :
        Overhears full ⟨⟨memory, taken⟩, log⟩ logged ⟨⟨memory, taken⟩, log⟩
          ⟨memory, logged⟩ :=
      ⟨[], memory, [], .nothing, by simp [World.extend], by cases full <;>
        simp [heard]⟩
    obtain ⟨hvalue, calls, later, events, htold, hworld, hother⟩ :=
      hcoupled full ⟨⟨memory, taken⟩, log⟩ logged _ _ hstart
    exact ⟨_, calls, later, events, htold, Prod.ext rfl hworld,
      Prod.ext hvalue.symm hother⟩
  obtain ⟨value, calls, later, events, -, hwatched, htelling⟩ :=
    hreached true [] [] []
  refine ⟨value, later, events, ?_, ?_⟩
  · intro full log
    obtain ⟨sameValue, _, sameLater, sameEvents, -, hsame, hrun⟩ :=
      hreached full [] [] log
    rw [hwatched] at hsame
    cases hsame
    exact hrun
  · intro taken log
    obtain ⟨sameValue, more, sameLater, sameEvents, htold, hrun, hsame⟩ :=
      hreached true taken log []
    rw [htelling] at hsame
    cases hsame
    exact ⟨more, htold, hrun⟩

end Transparent

end AccessPolicy
