import AccessPolicy.Arena
import AccessPolicy.Proofs.Authority.Request

/-!
# What other writers do

Around every fetch other actors may write to the authority and arm failures.
What this leaves stored depends only on what was stored before, so the doings of
the others can be laid end to end whatever requests lie between them.  A policy
that was shown before some of these doings is as many writes old as there were
writes to its resource among them.
-/

namespace AccessPolicy

namespace Interference

/-- Whether an interference writes to the resource from which is being
fetched. -/
def touches (own : String) : Interference → Bool
  | write resource _ => resource.getD own = own
  | _ => false

/-- The edits of one resource's bindings among what other writers do around
fetches from another one. -/
def edits (own target : String) (changes : List Interference) :
    List (List Binding → List Binding) :=
  changes.filterMap fun
    | write resource edit =>
      if resource.getD own = target then some edit else none
    | _ => none

def editAll (bindings : List Binding)
    (edits : List (List Binding → List Binding)) : List Binding :=
  edits.foldl (fun edited edit => edit edited) bindings

theorem applyAll_cons (own : String) (authority : Authority)
    (head : Interference) (tail : List Interference) :
    applyAll own authority (head :: tail) =
      applyAll own (apply own authority head) tail :=
  rfl

theorem applyAll_append (own : String) (authority : Authority)
    (first second : List Interference) :
    applyAll own authority (first ++ second) =
      applyAll own (applyAll own authority first) second :=
  List.foldl_append

theorem stored_apply_congr (own : String) {first second : Authority}
    (hstored : first.stored = second.stored) (interference : Interference) :
    (apply own first interference).stored =
      (apply own second interference).stored := by
  cases interference with
  | write resource edit => exact Authority.stored_change_congr hstored _ edit
  | failFetch | failCommit | failConnection => exact hstored

theorem stored_applyAll_congr (own : String) {first second : Authority}
    (hstored : first.stored = second.stored) (changes : List Interference) :
    (applyAll own first changes).stored =
      (applyAll own second changes).stored := by
  induction changes generalizing first second with
  | nil => exact hstored
  | cons head tail ih => exact ih (stored_apply_congr own hstored head)

theorem edits_append (own target : String) (first second : List Interference) :
    edits own target (first ++ second) =
      edits own target first ++ edits own target second :=
  List.filterMap_append

theorem length_edits (own : String) (changes : List Interference) :
    (edits own own changes).length = changes.countP (·.touches own) := by
  rw [edits, List.length_filterMap_eq_countP]
  apply List.countP_congr
  intro change _
  cases change with
  | write resource edit =>
      by_cases hown : resource.getD own = own <;> simp [touches, hown]
  | failFetch | failCommit | failConnection => simp [touches]

theorem editAll_append (bindings : List Binding)
    (first second : List (List Binding → List Binding)) :
    editAll bindings (first ++ second) =
      editAll (editAll bindings first) second :=
  List.foldl_append

/-- The bindings that other writers leave are those that were there,
edited by their edits. -/
theorem bindings_applyAll (own target : String) (authority : Authority)
    (changes : List Interference) :
    ((applyAll own authority changes).stored target).bindings =
      editAll (authority.stored target).bindings
        (edits own target changes) := by
  induction changes generalizing authority with
  | nil => rfl
  | cons head tail ih =>
      rw [applyAll_cons, ih]
      cases head with
      | write resource edit =>
          by_cases htarget : resource.getD own = target
          · simp [apply, Authority.change, edits, htarget, editAll,
              Stored.write]
          · simp [apply, Authority.change, edits, htarget,
              Authority.stored_write_of_ne _ _ (Ne.symm htarget)]
      | failFetch | failCommit | failConnection => rfl

/-- Other writers make no requests that the authority counts. -/
theorem requests_applyAll (own : String) (authority : Authority)
    (changes : List Interference) :
    (applyAll own authority changes).fetches = authority.fetches ∧
      (applyAll own authority changes).commits = authority.commits := by
  induction changes generalizing authority with
  | nil => exact ⟨rfl, rfl⟩
  | cons head tail ih =>
      rw [applyAll_cons, (ih _).1, (ih _).2]
      cases head with
      | write | failFetch | failCommit | failConnection => exact ⟨rfl, rfl⟩

theorem shown_apply {own : String} {authority : Authority} {policy : Policy}
    {writes : Nat} (hshown : (authority.stored own).Shown policy writes)
    (interference : Interference) :
    ((apply own authority interference).stored own).Shown policy
      (writes + if interference.touches own then 1 else 0) := by
  cases interference with
  | write resource edit =>
      by_cases hown : resource.getD own = own
      · simp only [touches, hown, decide_true, if_true, apply, Authority.change,
          Authority.stored_write_self]
        exact hshown.write _
      · simp only [touches, hown, decide_false, apply, Authority.change,
          Authority.stored_write_of_ne _ _ (Ne.symm hown)]
        exact hshown
  | failFetch | failCommit | failConnection => exact hshown

/-- A policy gets older by one with every write to its resource. -/
theorem shown_applyAll {own : String} {authority : Authority} {policy : Policy}
    {writes : Nat} (hshown : (authority.stored own).Shown policy writes)
    (changes : List Interference) :
    ((applyAll own authority changes).stored own).Shown policy
      (writes + changes.countP (·.touches own)) := by
  induction changes generalizing authority writes with
  | nil => exact hshown
  | cons head tail ih =>
      have hsum : writes + (head :: tail).countP (·.touches own) =
          (writes + if head.touches own then 1 else 0) +
            tail.countP (·.touches own) := by
        rw [List.countP_cons]
        omega
      rw [hsum]
      exact ih (shown_apply hshown head)

end Interference

namespace Arena

/-- What other writers will do around the coming fetches, so many of them. -/
def coming (arena : Arena) (fetches : Nat) : List Interference :=
  (arena.races.take fetches).flatMap fun race => race.before ++ race.after

/-- The authority that the coming fetch reaches. -/
def reached (resource : String) (arena : Arena) : Authority :=
  Interference.applyAll resource arena.authority (arena.races.headD {}).before

/-- What others leave when the coming fetch has been served. -/
def served (resource : String) (arena : Arena) : Arena where
  authority := Interference.applyAll resource (arena.reached resource).fetched
    (arena.races.headD {}).after
  races := arena.races.tail

theorem coming_one (arena : Arena) :
    arena.coming 1 =
      (arena.races.headD {}).before ++ (arena.races.headD {}).after := by
  cases hraces : arena.races with
  | nil => simp [coming, hraces]
  | cons head tail => simp [coming, hraces]

theorem requests_served (resource : String) (arena : Arena) :
    (arena.served resource).authority.fetches = arena.authority.fetches + 1 ∧
      (arena.served resource).authority.commits = arena.authority.commits := by
  have hafter := Interference.requests_applyAll resource
    (arena.reached resource).fetched (arena.races.headD {}).after
  have hbefore := Interference.requests_applyAll resource arena.authority
    (arena.races.headD {}).before
  exact ⟨hafter.1.trans (congrArg (· + 1) hbefore.1), hafter.2.trans hbefore.2⟩

/-- A fetch itself stores nothing. -/
theorem stored_served (resource : String) (arena : Arena) :
    (arena.served resource).authority.stored =
      (Interference.applyAll resource arena.authority
        (arena.coming 1)).stored := by
  have hfetched : (arena.reached resource).fetched.stored =
      (Interference.applyAll resource arena.authority
        (arena.races.headD {}).before).stored := rfl
  rw [coming_one, Interference.applyAll_append]
  exact Interference.stored_applyAll_congr resource hfetched _

/-- The two ways in which a fetch amid other writers ends. -/
theorem fetch_cases (resource : String) (arena : Arena) :
    (∃ failure, (arena.reached resource).fetchFailure = some failure ∧
      arena.fetch resource = (.error failure, arena.served resource)) ∨
    ((arena.reached resource).fetchFailure = none ∧
      arena.fetch resource =
        (.ok ((arena.reached resource).policy resource),
          arena.served resource)) := by
  simp only [fetch]
  obtain ⟨failure, harmed, hfetch⟩ | ⟨hunarmed, hfetch⟩ :=
    Authority.fetch_cases (arena.reached resource) resource
  · refine .inl ⟨failure, harmed, ?_⟩
    rw [reached] at hfetch
    rw [hfetch]
    rfl
  · refine .inr ⟨hunarmed, ?_⟩
    rw [reached] at hfetch
    rw [hfetch]
    rfl

def refused (world : World Arena) : World Arena :=
  { world with remote.authority := world.remote.authority.committed }

/-- The world after an accepted commit.  The authority logs the new etag. -/
def accepted (resource : String) (bindings : List Binding)
    (world : World Arena) : World Arena where
  remote.authority := world.remote.authority.committed.write resource bindings
  remote.races := world.remote.races
  log := world.log ++
    [.stored resource
      ((world.remote.authority.stored resource).write bindings).etag]

/-- With no failure armed, a commit under the current etag is accepted. -/
theorem commit_current {resource : String} {policy : Policy}
    {world : World Arena}
    (hfailure : world.remote.authority.commitFailure = none)
    (hetag : policy.etag = (world.remote.authority.stored resource).etag) :
    (connection resource).commit policy world =
      (.ok (), accepted resource policy.bindings world) := by
  simp only [connection, Authority.commit_current hfailure hetag]
  simp [accepted, Authority.policy, Stored.policy, Authority.committed]

/-- The two ways in which a commit ends. -/
theorem commit_cases (resource : String) (policy : Policy)
    (world : World Arena) :
    (∃ failure,
      (connection resource).commit policy world =
        (.error failure, refused world)) ∨
    (policy.etag = (world.remote.authority.stored resource).etag ∧
      (connection resource).commit policy world =
        (.ok (), accepted resource policy.bindings world)) := by
  obtain ⟨failure, hcommit⟩ | ⟨hfailure, hetag, _⟩ :=
    Authority.commit_cases world.remote.authority resource policy
  · refine .inl ⟨failure, ?_⟩
    simp [connection, hcommit, refused]
  · exact .inr ⟨hetag, commit_current hfailure hetag⟩

end Arena

end AccessPolicy
