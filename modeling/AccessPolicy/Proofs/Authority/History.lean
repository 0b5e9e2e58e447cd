import AccessPolicy.Proofs.Authority.Request
import Mathlib.Data.Set.Function

/-!
# Authorities and their histories

What an authority answers to a call follows from the calls before it and from
the answers that were given to them.  Here this is said of a history alone: what
was last written to a resource and how many writes to it were accepted, and
which failure was armed last and has not been used up.  An authority that
started empty keeps up with its history, so that its counters and its pending
failures need not be looked at.
-/

namespace AccessPolicy.Authority

inductive Call where
  | seed (resource : String) (bindings : List Binding)
  | external (resource : String) (edit : List Binding → List Binding)
  | policy (resource : String)
  | failFetch (failure : RemoteError)
  | failCommit (failure : RemoteError)
  | fetch (resource : String)
  | commit (resource : String) (policy : Policy)

inductive Reply where
  | done
  | shown (policy : Policy)
  | fetched (result : Except RemoteError Policy)
  | committed (result : Except RemoteError Unit)

/-- The calls so far, the earliest first, each with its reply. -/
abbrev History := List (Call × Reply)

def serve (authority : Authority) : Call → Reply × Authority
  | .seed resource bindings => (.done, authority.write resource bindings)
  | .external resource edit => (.done, authority.change resource edit)
  | .policy resource => (.shown (authority.policy resource), authority)
  | .failFetch failure =>
    (.done, { authority with fetchFailure := some failure })
  | .failCommit failure =>
    (.done, { authority with commitFailure := some failure })
  | .fetch resource =>
    let (result, later) := authority.fetch resource
    (.fetched result, later)
  | .commit resource policy =>
    let (result, later) := authority.commit resource policy
    (.committed result, later)

def serveAll (authority : Authority) : List Call → History × Authority
  | [] => ([], authority)
  | call :: rest =>
    let (reply, between) := authority.serve call
    let (history, final) := between.serveAll rest
    ((call, reply) :: history, final)

namespace Call

def isFetch : Call → Bool
  | fetch _ => true
  | _ => false

def isCommit : Call → Bool
  | commit .. => true
  | _ => false

def fetchFailure? : Call → Option RemoteError
  | failFetch failure => some failure
  | _ => none

def commitFailure? : Call → Option RemoteError
  | failCommit failure => some failure
  | _ => none

end Call

def Reply.isRefusal : Reply → Bool
  | fetched (.error _) | committed (.error _) => true
  | _ => false

namespace History

/-- What a call with its reply did to the bindings of a resource, if it wrote
there at all.  A commit wrote only if it was accepted. -/
def edit? (resource : String) :
    Call × Reply → Option (List Binding → List Binding)
  | (.seed target bindings, _) =>
    if target = resource then some fun _ => bindings else none
  | (.external target edit, _) => if target = resource then some edit else none
  | (.commit target policy, .committed (.ok ())) =>
    if target = resource then some fun _ => policy.bindings else none
  | _ => none

/-- The accepted writes to a resource, the earliest first. -/
def edits (resource : String) (history : History) :
    List (List Binding → List Binding) :=
  history.filterMap (edit? resource)

/-- What the last accepted write left, or nothing if there was none. -/
def bindings (resource : String) (history : History) : List Binding :=
  (edits resource history).foldl (fun stored edit => edit stored) []

/-- The etag that a resource has after so many accepted writes. -/
def etagAfter (writes : Nat) : Etag :=
  Stored.etagOf (UInt64.ofNat writes)

def shown (resource : String) (history : History) : Policy :=
  ⟨etagAfter (edits resource history).length, bindings resource history⟩

/-- The last failure that was armed since the last call that used such
failures up. -/
def pending (uses : Call → Bool) (arms : Call → Option RemoteError)
    (history : History) : Option RemoteError :=
  (history.reverse.takeWhile fun entry => !uses entry.1).findSome? fun entry =>
    arms entry.1

def pendingFetch (history : History) : Option RemoteError :=
  pending Call.isFetch Call.fetchFailure? history

def pendingCommit (history : History) : Option RemoteError :=
  pending Call.isCommit Call.commitFailure? history

/-- The reply that a history calls for.  A commit is refused with a pending
failure, and otherwise if its etag is not the current one. -/
def due (history : History) : Call → Reply
  | .seed .. | .external .. | .failFetch _ | .failCommit _ => .done
  | .policy resource => .shown (shown resource history)
  | .fetch resource =>
    match pendingFetch history with
    | some failure => .fetched (.error failure)
    | none => .fetched (.ok (shown resource history))
  | .commit resource policy =>
    match pendingCommit history with
    | some failure => .committed (.error failure)
    | none =>
      if policy.etag = (shown resource history).etag then .committed (.ok ())
      else .committed
        (.error (staleEtag policy.etag (shown resource history).etag))

theorem eq_shown_of_due {resource : String} {fetched : Policy}
    {history : History}
    (hdue : Reply.fetched (.ok fetched) = due history (.fetch resource)) :
    fetched = shown resource history := by
  rw [due] at hdue
  cases hpending : pendingFetch history with
  | some failure =>
      rw [hpending] at hdue
      cases Reply.fetched.inj hdue
  | none =>
      rw [hpending] at hdue
      exact Except.ok.inj (Reply.fetched.inj hdue)

theorem edits_append (resource : String) (past later : History) :
    edits resource (past ++ later) =
      edits resource past ++ edits resource later :=
  List.filterMap_append

theorem edits_append_singleton (resource : String) (past : History)
    (entry : Call × Reply) :
    edits resource (past ++ [entry]) =
      edits resource past ++ (edit? resource entry).toList := by
  rw [edits_append]
  cases hedit : edit? resource entry <;> simp [edits, hedit]

theorem pending_append (uses : Call → Bool) (arms : Call → Option RemoteError)
    (past : History) (entry : Call × Reply) :
    pending uses arms (past ++ [entry]) =
      if uses entry.1 then none
      else (arms entry.1).or (pending uses arms past) := by
  rw [pending, List.reverse_append]
  cases huses : uses entry.1 with
  | true => simp [huses]
  | false =>
      cases harms : arms entry.1 <;> simp [pending, huses, harms]

theorem etagAfter_injOn : Set.InjOn etagAfter {writes | writes < 2 ^ 64} := by
  intro first hfirst second hsecond hetag
  have hwords : UInt64.ofNat first = UInt64.ofNat second :=
    Stored.etagOf_injective hetag
  have hnumbers := congrArg UInt64.toNat hwords
  rwa [UInt64.toNat_ofNat_of_lt' hfirst,
    UInt64.toNat_ofNat_of_lt' hsecond] at hnumbers

def stored (resource : String) (history : History) : Stored :=
  ⟨UInt64.ofNat (edits resource history).length, bindings resource history⟩

theorem stored_append_of_none {resource : String} {entry : Call × Reply}
    (hnone : edit? resource entry = none) (past : History) :
    stored resource (past ++ [entry]) = stored resource past := by
  have hedits : edits resource (past ++ [entry]) = edits resource past := by
    rw [edits_append_singleton, hnone]
    exact List.append_nil _
  rw [stored, stored, bindings, bindings, hedits]

theorem stored_append_of_some {resource : String} {entry : Call × Reply}
    {edit : List Binding → List Binding}
    (hsome : edit? resource entry = some edit) (past : History) :
    stored resource (past ++ [entry]) =
      (stored resource past).write (edit (stored resource past).bindings) := by
  have hedits : edits resource (past ++ [entry]) =
      edits resource past ++ [edit] := by
    rw [edits_append_singleton, hsome]
    rfl
  rw [stored, bindings, hedits, List.foldl_append, List.length_append,
    UInt64.ofNat_add]
  rfl

end History

/-! ## Keeping up with a history -/

/-- An authority is as its history says. -/
structure Follows (authority : Authority) (history : History) : Prop where
  stored : ∀ resource,
    authority.stored resource = History.stored resource history
  fetchFailure : authority.fetchFailure = History.pendingFetch history
  commitFailure : authority.commitFailure = History.pendingCommit history
  fetches : authority.fetches = history.countP fun entry => entry.1.isFetch
  commits : authority.commits = history.countP fun entry => entry.1.isCommit

variable {authority : Authority} {past : History}

theorem Follows.policy (hfollows : Follows authority past) (resource : String) :
    authority.policy resource = History.shown resource past := by
  rw [Authority.policy, hfollows.stored, History.shown, History.etagAfter]
  rfl

theorem Follows.stored_write (hfollows : Follows authority past)
    {target : String} {entry : Call × Reply}
    (edit : List Binding → List Binding)
    (hentry : ∀ resource,
      History.edit? resource entry =
        if target = resource then some edit else none)
    (resource : String) :
    (authority.write target (edit (authority.stored target).bindings)).stored
        resource =
      History.stored resource (past ++ [entry]) := by
  by_cases htarget : target = resource
  · subst htarget
    have hsome : History.edit? target entry = some edit :=
      (hentry target).trans (if_pos rfl)
    rw [stored_write_self, History.stored_append_of_some hsome, hfollows.stored]
  · have hnone : History.edit? resource entry = none :=
      (hentry resource).trans (if_neg htarget)
    rw [stored_write_of_ne authority _ (Ne.symm htarget),
      History.stored_append_of_none hnone]
    exact hfollows.stored resource

theorem Follows.stored_idle (hfollows : Follows authority past)
    {entry : Call × Reply}
    (hentry : ∀ resource, History.edit? resource entry = none)
    (resource : String) :
    authority.stored resource = History.stored resource (past ++ [entry]) := by
  rw [History.stored_append_of_none (hentry resource)]
  exact hfollows.stored resource

/-- What is pending and how often was fetched and committed changes with a call
as its kind says. -/
theorem Follows.append (hfollows : Follows authority past) {later : Authority}
    {entry : Call × Reply}
    (hstored : ∀ resource,
      later.stored resource = History.stored resource (past ++ [entry]))
    (hfetchFailure : later.fetchFailure =
      if entry.1.isFetch then none
      else entry.1.fetchFailure?.or authority.fetchFailure)
    (hcommitFailure : later.commitFailure =
      if entry.1.isCommit then none
      else entry.1.commitFailure?.or authority.commitFailure)
    (hfetches : later.fetches =
      authority.fetches + if entry.1.isFetch then 1 else 0)
    (hcommits : later.commits =
      authority.commits + if entry.1.isCommit then 1 else 0) :
    Follows later (past ++ [entry]) where
  stored := hstored
  fetchFailure := by
    rw [hfetchFailure, hfollows.fetchFailure]
    exact (History.pending_append _ _ past entry).symm
  commitFailure := by
    rw [hcommitFailure, hfollows.commitFailure]
    exact (History.pending_append _ _ past entry).symm
  fetches := by
    rw [hfetches, hfollows.fetches, List.countP_append, List.countP_singleton]
  commits := by
    rw [hcommits, hfollows.commits, List.countP_append, List.countP_singleton]

/-- A call gets the reply that is due, and the authority goes on as the
longer history says. -/
theorem Follows.serve (hfollows : Follows authority past) (call : Call) :
    (authority.serve call).1 = History.due past call ∧
      Follows (authority.serve call).2
        (past ++ [(call, (authority.serve call).1)]) := by
  cases call with
  | seed target bindings =>
      refine ⟨rfl, hfollows.append ?_ rfl rfl rfl rfl⟩
      exact hfollows.stored_write (fun _ => bindings) fun _ => rfl
  | external target edit =>
      refine ⟨rfl, hfollows.append ?_ rfl rfl rfl rfl⟩
      exact hfollows.stored_write edit fun _ => rfl
  | policy target =>
      refine ⟨congrArg Reply.shown (hfollows.policy target), ?_⟩
      exact hfollows.append (hfollows.stored_idle fun _ => rfl) rfl rfl rfl rfl
  | failFetch failure =>
      exact ⟨rfl,
        hfollows.append (hfollows.stored_idle fun _ => rfl) rfl rfl rfl rfl⟩
  | failCommit failure =>
      exact ⟨rfl,
        hfollows.append (hfollows.stored_idle fun _ => rfl) rfl rfl rfl rfl⟩
  | fetch target =>
      have hpolicy := hfollows.policy target
      rw [History.due, ← hfollows.fetchFailure, ← hpolicy]
      obtain ⟨failure, hpending, hfetch⟩ | ⟨hnone, hfetch⟩ :=
        fetch_cases authority target
      · simp only [Authority.serve, hfetch, hpending]
        refine ⟨trivial,
          hfollows.append (hfollows.stored_idle fun _ => rfl) rfl rfl rfl rfl⟩
      · simp only [Authority.serve, hfetch, hnone]
        refine ⟨trivial,
          hfollows.append (hfollows.stored_idle fun _ => rfl) rfl rfl rfl rfl⟩
  | commit target policy =>
      have hpolicy := hfollows.policy target
      rw [History.due, ← hfollows.commitFailure, ← hpolicy, Authority.serve,
        Authority.commit]
      cases hfailure : authority.commitFailure with
      | some failure =>
          simp only
          exact ⟨trivial,
            hfollows.append (hfollows.stored_idle fun _ => rfl) rfl rfl rfl rfl⟩
      | none =>
          by_cases hetag : policy.etag = (authority.policy target).etag
          · simp only [if_pos hetag]
            refine ⟨trivial, hfollows.append ?_ rfl rfl rfl rfl⟩
            exact hfollows.stored_write (fun _ => policy.bindings) fun _ => rfl
          · simp only [if_neg hetag]
            exact ⟨trivial, hfollows.append
              (hfollows.stored_idle fun _ => rfl) rfl rfl rfl rfl⟩

theorem follows_nil : Follows {} [] where
  stored _ := rfl
  fetchFailure := rfl
  commitFailure := rfl
  fetches := rfl
  commits := rfl

theorem Follows.serveAll (hfollows : Follows authority past)
    (calls : List Call) :
    Follows (authority.serveAll calls).2
      (past ++ (authority.serveAll calls).1) := by
  induction calls generalizing authority past with
  | nil =>
      rw [Authority.serveAll, List.append_nil]
      exact hfollows
  | cons call rest ih =>
      have hrest := ih (hfollows.serve call).2
      rwa [List.append_assoc, List.singleton_append] at hrest

/-- Every reply of a run is the one that was due when its call came. -/
theorem Follows.reply_eq_due (hfollows : Follows authority past)
    {calls : List Call} {before after : History} {call : Call} {reply : Reply}
    (hhistory : (authority.serveAll calls).1 =
      before ++ (call, reply) :: after) :
    reply = History.due (past ++ before) call := by
  induction calls generalizing authority past before with
  | nil => simp [Authority.serveAll] at hhistory
  | cons head rest ih =>
      obtain ⟨hreply, hnext⟩ := hfollows.serve head
      simp only [Authority.serveAll] at hhistory
      cases before with
      | nil =>
          obtain ⟨hentry, -⟩ := List.cons.inj hhistory
          cases hentry
          rw [List.append_nil]
          exact hreply
      | cons first others =>
          obtain ⟨rfl, hothers⟩ := List.cons.inj hhistory
          rw [ih hnext hothers, List.append_assoc, List.singleton_append]

theorem length_serveAll (authority : Authority) (calls : List Call) :
    (authority.serveAll calls).1.length = calls.length := by
  induction calls generalizing authority with
  | nil => rfl
  | cons call rest ih => exact congrArg (· + 1) (ih (authority.serve call).2)

/-- A refusal leaves what is stored for every resource as it is. -/
theorem policy_of_isRefusal {authority : Authority} {call : Call}
    (hrefusal : (authority.serve call).1.isRefusal = true) (resource : String) :
    (authority.serve call).2.policy resource = authority.policy resource := by
  cases call with
  | seed | external | policy | failFetch | failCommit => cases hrefusal
  | fetch target =>
      obtain ⟨failure, -, hfetch⟩ | ⟨-, hfetch⟩ := fetch_cases authority target
      · simp only [serve, hfetch]
        rfl
      · simp only [serve, hfetch] at hrefusal
        cases hrefusal
  | commit target policy =>
      obtain ⟨failure, hcommit⟩ | ⟨-, -, hcommit⟩ :=
        commit_cases authority target policy
      · simp only [serve, hcommit]
        rfl
      · simp only [serve, hcommit] at hrefusal
        cases hrefusal

/-- With fewer writes than the version counter has values, a commit under the
etag of an earlier fetch is accepted exactly if nothing was written to the
resource in between. -/
theorem Follows.accepted_iff (hfollows : Follows authority past)
    {before middle : History} {resource : String} {fetched sent : Policy}
    (hhistory : past =
      before ++ (.fetch resource, .fetched (.ok fetched)) :: middle)
    (hfetched : fetched = History.shown resource before)
    (hfew : (History.edits resource past).length < 2 ^ 64)
    (hetag : sent.etag = fetched.etag)
    (hpending : History.pendingCommit past = none) :
    (authority.serve (.commit resource sent)).1 = .committed (.ok ()) ↔
      History.edits resource middle = [] := by
  have hedits : History.edits resource past =
      History.edits resource before ++ History.edits resource middle := by
    rw [hhistory, History.edits_append]
    rfl
  have hlength := congrArg List.length hedits
  rw [List.length_append] at hlength
  have hcurrent : sent.etag = (History.shown resource past).etag ↔
      (History.edits resource middle).length = 0 := by
    rw [hetag, hfetched]
    show History.etagAfter _ = History.etagAfter _ ↔ _
    rw [History.etagAfter_injOn.eq_iff (by simp; omega) hfew]
    omega
  rw [(hfollows.serve _).1, History.due, hpending,
    ← List.length_eq_zero_iff, ← hcurrent]
  by_cases hsame : sent.etag = (History.shown resource past).etag
  · simp [hsame]
  · simp [hsame]

/-- What a history says about the authority that it led to. -/
structure Explains (history : History) (authority : Authority) : Prop where
  shown : ∀ resource, authority.policy resource = History.shown resource history
  /-- Every reply followed from the history before it. -/
  replies : ∀ before call reply after,
    history = before ++ (call, reply) :: after →
    reply = History.due before call
  /-- A commit under the etag of an earlier fetch, if no failure is pending, is
  accepted exactly if nothing was written to the resource since. -/
  accepted : ∀ before resource fetched middle sent,
    history = before ++ (.fetch resource, .fetched (.ok fetched)) :: middle →
    sent.etag = fetched.etag → History.pendingCommit history = none →
    ((authority.serve (.commit resource sent)).1 = .committed (.ok ()) ↔
      History.edits resource middle = [])
  /-- A refused call changes no policy. -/
  refused : ∀ call, (authority.serve call).1.isRefusal = true →
    ∀ resource, (authority.serve call).2.policy resource =
      authority.policy resource
  fetches : authority.fetches = history.countP fun entry => entry.1.isFetch
  commits : authority.commits = history.countP fun entry => entry.1.isCommit

/-- An authority that started empty is explained by its history, as long as no
resource was written to more often than the version counter has values.  What it
shows of a resource is what the last accepted write left, under an etag that
tells the number of accepted writes. -/
theorem explained_by_history (calls : List Call)
    (hfew : ∀ resource,
      (History.edits resource (serveAll {} calls).1).length < 2 ^ 64) :
    Explains (serveAll {} calls).1 (serveAll {} calls).2 ∧
      Set.InjOn History.etagAfter {writes | writes < 2 ^ 64} := by
  have hfollows : Follows (serveAll {} calls).2 (serveAll {} calls).1 :=
    follows_nil.serveAll calls
  have hreplies : ∀ before call reply after,
      (serveAll {} calls).1 = before ++ (call, reply) :: after →
      reply = History.due before call := by
    intro before call reply after hhistory
    exact follows_nil.reply_eq_due hhistory
  refine ⟨?_, History.etagAfter_injOn⟩
  refine ⟨hfollows.policy, hreplies, ?_, ?_, hfollows.fetches, hfollows.commits⟩
  · intro before resource fetched middle sent hhistory hetag hpending
    have hfetched : fetched = History.shown resource before :=
      History.eq_shown_of_due (hreplies _ _ _ _ hhistory)
    exact hfollows.accepted_iff hhistory hfetched (hfew resource) hetag hpending
  · intro call hrefusal resource
    exact policy_of_isRefusal hrefusal resource

/-- A stale commit and an injected failure, each of which leaves the
policy alone. -/
def standoff : List Call :=
  [.seed "projects/demo" [⟨"roles/viewer", ["user:a"]⟩],
    .fetch "projects/demo",
    .external "projects/demo" (⟨"roles/owner", ["user:o"]⟩ :: ·),
    .commit "projects/demo" ⟨Stored.etagOf 1, []⟩,
    .failCommit (.transport "down"),
    .commit "projects/demo" ⟨Stored.etagOf 2, []⟩,
    .policy "projects/demo"]

theorem explained_by_history_standoff :
    (∀ resource,
      (History.edits resource (serveAll {} standoff).1).length < 2 ^ 64) ∧
      Explains (serveAll {} standoff).1 (serveAll {} standoff).2 := by
  have hfew : ∀ resource,
      (History.edits resource (serveAll {} standoff).1).length < 2 ^ 64 := by
    intro resource
    have hle : (History.edits resource (serveAll {} standoff).1).length ≤
        standoff.length := by
      rw [← length_serveAll {} standoff]
      exact List.length_filterMap_le _ _
    exact Nat.lt_of_le_of_lt hle (by decide)
  exact ⟨hfew, (explained_by_history standoff hfew).1⟩

end AccessPolicy.Authority
