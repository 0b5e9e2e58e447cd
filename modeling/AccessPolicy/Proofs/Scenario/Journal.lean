import AccessPolicy.Proofs.Scenario.Move
import AccessPolicy.Proofs.Watch.Observation

/-!
# The journal of a scenario

While a scenario is played, a journal is kept of everything that a statement
about it may refer to: all versions of the policy that were ever stored, whoever
stored them, and for each state whether its members were set by hand since it
was last observed.  One move adds the versions that its exchanges tell, and
changes each state in one of three ways.
-/

namespace AccessPolicy

theorem Policy.found_eq_some {policy : Policy} {role : String} {entry : Binding}
    {etag : Etag} :
    policy.found role = some (entry, etag) ↔
      policy.binding? role = some entry ∧ policy.etag = etag := by
  rw [Policy.found, Option.map_eq_some_iff]
  simp only [Prod.mk.injEq]
  constructor
  · rintro ⟨found, hfound, rfl, hetag⟩
    exact ⟨hfound, hetag⟩
  · rintro ⟨hfound, hetag⟩
    exact ⟨entry, hfound, rfl, hetag⟩

namespace Scenario

variable {own : String} {settings : Settings}

/-- The stage of a scenario and what has been taken down of it. -/
structure Journal where
  stage : Stage
  /-- What was stored when the journal was begun. -/
  first : Stored
  /-- The versions of the policy that were stored since then, the
  earliest first. -/
  written : List Stored := []
  /-- Whether the members of a state were set since it was last observed. -/
  edited : String → Bool := fun _ => false

namespace Move

/-- The exchanges with the authority that a move makes. -/
def calls (settings : Settings) (own : String) (stage : Stage) :
    Move → List (Exchange Arena)
  | .call (.run operation name) =>
    callsOf
      (operation.run (Arena.controller own settings).watched (stage.state name))
      ⟨stage.arena, []⟩
  | adopt id _ =>
    callsOf ((Arena.controller own settings).watched.adopt id).run
      ⟨stage.arena, []⟩
  | _ => []

/-- The versions of the policy that are stored in the course of a move. -/
def versions (settings : Settings) (own : String) (stage : Stage) :
    Move → List Stored
  | interfere changes => Interference.versions own stage.arena.authority changes
  | move => (move.calls settings own stage).flatMap (·.versions own)

/-- Whether the members of a state count as set by hand after a move.  A new
state has not been edited, and a run of an operation that found an entry for the
role observes the state. -/
def edits (settings : Settings) (own : String) (journal : Journal) (move : Move)
    (name : String) : Bool :=
  match move with
  | declare other _ _ => if name = other then false else journal.edited name
  | copy source other =>
    if name = other then journal.edited source else journal.edited name
  | adopt _ other =>
    let outcome := move.step.play settings own journal.stage
    if name = other && outcome.result.isOk then false else journal.edited name
  | .call (.setMembers other _) =>
    if name = other then true else journal.edited name
  | .call (.run _ other) =>
    let found := shown (journal.stage.state name).role
      (move.calls settings own journal.stage)
    if name = other then journal.edited name && found.isNone
    else journal.edited name
  | race _ | interfere _ => journal.edited name

end Move

namespace Journal

def begin (own : String) (arena : Arena) : Journal where
  stage.arena := arena
  first := arena.authority.stored own

def next (settings : Settings) (own : String) (journal : Journal)
    (move : Move) : Journal where
  stage := (move.step.play settings own journal.stage).stage
  first := journal.first
  written := journal.written ++ move.versions settings own journal.stage
  edited := move.edits settings own journal

def run (settings : Settings) (own : String) (journal : Journal)
    (moves : List Move) : Journal :=
  moves.foldl (next settings own) journal

/-- Keeping a journal changes nothing: its stage is that of the scenario. -/
theorem stage_run (settings : Settings) (own : String) (journal : Journal)
    (moves : List Move) :
    (journal.run settings own moves).stage =
      journal.stage.after settings own (moves.map (·.step)) := by
  induction moves generalizing journal with
  | nil => rfl
  | cons move rest ih => exact ih (journal.next settings own move)

def versions (journal : Journal) : List Stored :=
  journal.first :: journal.written

def current (own : String) (journal : Journal) : Stored :=
  journal.stage.arena.authority.stored own

end Journal

/-- A state, and whether its members were set since it was last observed. -/
structure Noted where
  state : Tracked
  edited : Bool

def Journal.noted (journal : Journal) (name : String) : Noted :=
  ⟨journal.stage.state name, journal.edited name⟩

/-- What may happen to a state while some versions of the policy are current. -/
inductive Fate (own : String) (versions : List Stored) (noted : Noted) :
    Noted → Prop
  | kept {id : Option BindingId} (hid : noted.state.Admits own id) :
      Fate own versions noted ⟨{ noted.state with id }, noted.edited⟩
  | edited (members : List String) :
      Fate own versions noted ⟨noted.state.setMembers members, true⟩
  | observed {id : Option BindingId} {version : Stored} {entry : Binding}
      (hid : noted.state.Admits own id) (hversion : version ∈ versions)
      (hentry : version.policy.binding? noted.state.role = some entry) :
      Fate own versions noted
        ⟨⟨id, noted.state.role, entry.memberSet, some version.etag⟩, false⟩

theorem Fate.refl (own : String) (versions : List Stored) (noted : Noted) :
    Fate own versions noted noted :=
  .kept (noted.state.admits_id own)

/-- What an operation leaves in a state, if its last fetch found one of
some versions. -/
theorem Fate.of_touched {versions : List Stored} {state later : Tracked}
    {found : Option (Binding × Etag)} (htouched : Touched own state found later)
    (hfound : ∀ pair, found = some pair →
      ∃ version ∈ versions, version.policy.found state.role = some pair)
    (edited : Bool) :
    Fate own versions ⟨state, edited⟩ ⟨later, edited && found.isNone⟩ := by
  cases htouched with
  | unseen hid =>
      rw [Option.isNone_none, Bool.and_true]
      exact .kept hid
  | @seen id entry etag hid =>
      obtain ⟨version, hversion, hpair⟩ := hfound _ rfl
      obtain ⟨hentry, rfl⟩ := Policy.found_eq_some.1 hpair
      rw [Option.isNone_some, Bool.and_false]
      exact .observed hid hversion hentry

variable {journal : Journal}

/-- The states from which a state may stem: one that there is already,
or a new one. -/
inductive Origin (own : String) (journal : Journal) : Noted → Prop
  | named (name : String) : Origin own journal (journal.noted name)
  | declared (role : String) (members : List String) :
      Origin own journal ⟨.declare role members, false⟩
  | adopted (role : String) : Origin own journal ⟨.ofId ⟨own, role⟩, false⟩

/-- No version that is stored in the course of a move is missing in the
journal. -/
theorem Journal.succession_next (settings : Settings) (own : String)
    (journal : Journal) (move : Move) :
    Succession (journal.current own) (move.versions settings own journal.stage)
      ((journal.next settings own move).current own) := by
  cases move with
  | declare | copy | race => exact .none
  | interfere changes => exact Interference.succession_applyAll own _ changes
  | call made =>
      cases made with
      | setMembers => exact .none
      | run operation name =>
          have htouched := operation.touched own settings
            (journal.stage.state name) ⟨journal.stage.arena, []⟩
          exact Arena.succession_chain htouched.1
  | adopt id name =>
      have htouched := adopt_touched own settings id ⟨journal.stage.arena, []⟩
      have hsuccession := Arena.succession_chain htouched.1
      simp only [current, next, Move.step, play_adopt]
      generalize ((Arena.controller own settings).adopt id).run
          ⟨journal.stage.arena, []⟩ = ended
        at hsuccession ⊢
      obtain ⟨error | state, world⟩ := ended
      · exact hsuccession
      · exact hsuccession

namespace Journal

/-- What a move may make of a name: the state is what it was, or a new one
if the move renews the name, and what happens to it happens amid the
versions of the move. -/
def Leads (settings : Settings) (own : String) (journal : Journal) (move : Move)
    (name : String) (later : Noted) : Prop :=
  ∃ origin, Origin own journal origin ∧
    (move.renews name = false → origin = journal.noted name) ∧
    Fate own (journal.current own :: move.versions settings own journal.stage)
      origin later

theorem leads_noted (settings : Settings) (own : String) (journal : Journal)
    (move : Move) (name : String) :
    journal.Leads settings own move name (journal.noted name) :=
  ⟨journal.noted name, .named name, fun _ => rfl, .refl _ _ _⟩

theorem leads_run (journal : Journal) (operation : Lifecycle)
    (name other : String) :
    journal.Leads settings own (.call (.run operation other)) name
      ((journal.next settings own (.call (.run operation other))).noted
        name) := by
  by_cases hname : name = other
  · subst hname
    obtain ⟨hchain, htouched⟩ := operation.touched own settings
      (journal.stage.state name) ⟨journal.stage.arena, []⟩
    refine ⟨journal.noted name, .named name, fun _ => rfl, ?_⟩
    simp only [noted, next, Move.step, Call.step, Step.play, Move.edits,
      Stage.state_define, if_true]
    exact .of_touched htouched (fun _ => Arena.shown_mem_versions hchain) _
  · have hsame :
        (journal.next settings own (.call (.run operation other))).noted name =
          journal.noted name := by
      simp only [noted, next, Move.step, Call.step, Step.play, Move.edits,
        Stage.state_define, hname, if_false]
      rfl
    rw [hsame]
    exact leads_noted _ _ _ _ _

theorem leads_adopt (journal : Journal) (id name other : String) :
    journal.Leads settings own (.adopt id other) name
      ((journal.next settings own (.adopt id other)).noted name) := by
  obtain ⟨hchain, htouched⟩ :=
    adopt_touched own settings id ⟨journal.stage.arena, []⟩
  have hkept := leads_noted settings own journal (.adopt id other) name
  simp only [noted, next, Move.edits, Move.step, play_adopt] at hkept ⊢
  generalize ((Arena.controller own settings).adopt id).run
      ⟨journal.stage.arena, []⟩ = ended
    at htouched ⊢
  obtain ⟨error | state, world⟩ := ended
  · simp only [Except.isOk, Except.toBool, Bool.and_false,
      Bool.false_eq_true, if_false]
    exact hkept
  · by_cases hname : name = other
    · obtain ⟨role, found, hshown, htouched⟩ := htouched state rfl
      refine ⟨_, .adopted role, ?_, ?_⟩
      · simp [Move.renews, hname]
      · simp only [Stage.state_define, hname, Except.isOk,
          Except.toBool, decide_true, Bool.and_true, if_true]
        apply Fate.of_touched htouched _ false
        intro pair hpair
        exact Arena.shown_mem_versions hchain (hshown.trans hpair)
    · simp only [Stage.state_define, hname, decide_false, Bool.false_and,
        Bool.false_eq_true, if_false]
      exact hkept

/-- Every move leads where it may. -/
theorem leads_next (settings : Settings) (own : String) (journal : Journal)
    (move : Move) (name : String) :
    journal.Leads settings own move name
      ((journal.next settings own move).noted name) := by
  cases move with
  | race | interfere => exact leads_noted _ _ _ _ _
  | declare other role members =>
      have hkept :=
        leads_noted settings own journal (.declare other role members) name
      simp only [noted, next, Move.step, Step.play, Move.edits,
        Stage.state_define] at hkept ⊢
      by_cases hname : name = other
      · simp only [hname, if_true]
        refine ⟨_, .declared role members, ?_, .refl _ _ _⟩
        simp [Move.renews]
      · simp only [hname, if_false]
        exact hkept
  | copy source other =>
      have hkept := leads_noted settings own journal (.copy source other) name
      simp only [noted, next, Move.step, Step.play, Move.edits,
        Stage.state_define] at hkept ⊢
      by_cases hname : name = other
      · simp only [hname, if_true]
        refine ⟨_, .named source, ?_, .refl _ _ _⟩
        simp [Move.renews]
      · simp only [hname, if_false]
        exact hkept
  | call made =>
      cases made with
      | run operation other => exact leads_run journal operation name other
      | setMembers other members =>
          have hkept := leads_noted settings own journal
            (.call (.setMembers other members)) name
          simp only [noted, next, Move.step, Call.step, Step.play, Move.edits,
            Stage.state_define]
            at hkept ⊢
          by_cases hname : name = other
          · simp only [hname, if_true]
            exact ⟨journal.noted other, .named other, fun _ =>
              rfl, .edited members⟩
          · simp only [hname, if_false]
            exact hkept
  | adopt id other => exact leads_adopt journal id name other

end Journal

end Scenario

end AccessPolicy
